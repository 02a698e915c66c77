import RowFilter.Json.Value

/-! # Records in JSON

A record is an object with known member names, or an array of its values in the order of those
names. Unknown members are ignored and a known name may stand only once. The readers of this
module give `none` for a value that does not fit. -/

namespace RowFilter.Json

/-- The members of a record with the given names, in any of its two forms. -/
def record? (names : List String) : Json → Option Row
  | object members =>
    let known := members.filter fun m => names.contains m.1
    if (known.map Prod.fst).Nodup then some known else none
  | array items => if items.length ≤ names.length then some (names.zip items) else none
  | _ => none

/-- A member that has to be there. -/
def required? (r : Row) (name : String) (read : Json → Option α) : Option α :=
  (member? r name).bind read

/-- A member that stands for `default` where it is missing. -/
def defaulted? (r : Row) (name : String) (default : α) (read : Json → Option α) : Option α :=
  match member? r name with
  | none => some default
  | some v => read v

/-- A member that may be missing or null. -/
def optional? (r : Row) (name : String) (read : Json → Option α) : Option (Option α) :=
  match member? r name with
  | none => some none
  | some null => some none
  | some v => (read v).map some

def asString? : Json → Option String
  | string s => some s
  | _ => none

def asBool? : Json → Option Bool
  | bool b => some b
  | _ => none

/-- An integer from `0` up to, not including, `limit`. -/
def asNat? (limit : Nat) : Json → Option Nat
  | number (.int i) => if 0 ≤ i ∧ i < limit then some i.toNat else none
  | _ => none

/-- Page numbers, page sizes and versions have 32 bits. -/
def asUInt32? (v : Json) : Option UInt32 := (asNat? (Nat.pow 2 32) v).map UInt32.ofNat

def ofUInt32 (n : UInt32) : Json := number (.int n.toNat)

/-- Counts and lengths have 64 bits. -/
def asNat64? : Json → Option Nat := asNat? (Nat.pow 2 64)

def asDouble? : Json → Option Double
  | number n => n.toExtended.finite?
  | _ => none

def asArray? (read : Json → Option α) : Json → Option (List α)
  | array items => items.mapM read
  | _ => none

/-- Any value whose numbers can be read; repeated names are settled. -/
def asValue? (v : Json) : Option Json := if v.isReadable then some v.collapse else none

def asRow? (v : Json) : Option Row :=
  match asValue? v with
  | some (object members) => some members
  | _ => none

/-- The tag of a case without content: a string, or an object whose one member has the value
null. -/
def asTag? : Json → Option String
  | string s => some s
  | object [(name, null)] => some name
  | _ => none

/-- The members that are present, in order. -/
def objectOf (members : List (String × Option Json)) : Json :=
  object (members.filterMap fun m => m.2.map fun v => (m.1, v))

def ofStrings (names : List String) : Json := array (names.map string)

def ofDouble (d : Double) : Json := number (.double d)

/-- Only finite numbers can be written. -/
def ofExtended : ExtendedDouble → Json
  | .finite d => ofDouble d
  | _ => null

end RowFilter.Json
