import RowFilter.Criteria.Basic
import RowFilter.Json.Printer
import RowFilter.Operator
import RowFilter.Unicode.CodePoints
import RowFilter.Unicode.Lowercase

/-! # Evaluation of criteria on rows

Values are compared with some leniency: a text of a number is equal to the number, a text of a
truth value to the truth value, and a record stands for its `id`. -/

namespace RowFilter

inductive StoreError where
  /-- Raw text has no meaning outside the store it was written for. -/
  | rawText (text : String)
  /-- A text that the engine does not take as a pattern, with its reason. -/
  | invalidPattern (pattern reason : String)
  | notAnObject (index : Nat) (v : Json)

def StoreError.message : StoreError → String
  | rawText text => "unsupported criteria: raw SQL cannot be evaluated in memory: " ++ text
  | invalidPattern pattern reason => s!"invalid criteria: regex '{pattern}': {reason}"
  | notAnObject index v => s!"backend error: row {index} is not an object: {v.compact}"

namespace Json

/-- The number that a value stands for, infinities included. -/
def numeral? : Json → Option ExtendedDouble
  | number n => some n.toExtended
  | string s => ExtendedDouble.ofText? (Unicode.trim s)
  | _ => none

/-- The place of a value in the order of numbers. -/
def numeralKey? (v : Json) : Option Int := v.numeral?.bind ExtendedDouble.key?

def numerallyEqual (a b : Json) : Bool :=
  match a.numeralKey?, b.numeralKey? with
  | some x, some y => x == y
  | _, _ => false

/-- Equality that reads a text beside a number as a number, and beside a truth value as one. -/
def agrees (a b : Json) : Bool :=
  match a, b with
  | number _, _ | _, number _ => numerallyEqual a b
  | bool x, string s | string s, bool x => if x then s == "true" else s == "false"
  | _, _ => a.same b

/-- Texts are ordered as texts and truth values as such; all else is ordered as numbers where
both sides are numbers. -/
def order? (a b : Json) : Option Ordering :=
  match a, b with
  | string x, string y => some (compare x y)
  | bool x, bool y => some (compare x y)
  | _, _ =>
    match a.numeralKey?, b.numeralKey? with
    | some x, some y => some (compare x y)
    | _, _ => none

/-- A record with an `id` stands for it. -/
def scalar (v : Json) : Json :=
  match v with
  | object members => (member? members "id").getD v
  | _ => v

/-- The text of a value, for those that have one. -/
def text? : Json → Option String
  | string s => some s
  | number n => some n.text
  | bool b => some (if b then "true" else "false")
  | _ => none

end Json

/-- Whether a text occurs within another. -/
def occursWithin (needle : List Char) : List Char → Bool
  | [] => needle.isEmpty
  | c :: rest => needle.isPrefixOf (c :: rest) || occursWithin needle rest

namespace Constraint

variable [PatternEngine]

def comparesAs (present : Option Json) (bound : Json) (test : Ordering → Bool) : Bool :=
  (present.bind fun v => v.order? bound).any test

def hasText (present : Option Json) (test : String → Bool) : Bool :=
  (present.bind Json.text?).any test

/-- Whether a value, or any item of a list, is equal to one of the values. -/
def isMember (actual : Json) (vs : List Json) : Bool :=
  match actual with
  | .array items => items.any fun item => vs.any fun v => item.scalar.agrees v
  | _ => vs.any fun v => actual.agrees v

/-- Whether two texts contain one another in lower case. -/
def containsLowered (needle text : String) : Bool :=
  occursWithin (Unicode.toLowercase needle).toList (Unicode.toLowercase text).toList

/-- Tests a value that is present, or the absence of one. -/
def holds (present : Option Json) : Constraint → Except StoreError Bool
  | isNull => .ok present.isNone
  | isNotNull => .ok present.isSome
  | eq expected =>
    .ok (match present with
      | some actual => actual.agrees expected
      | none => expected.isNull)
  | ne expected =>
    .ok (match present with
      | some actual => !actual.agrees expected
      | none => !expected.isNull)
  | gt bound => .ok (comparesAs present bound Ordering.isGT)
  | gte bound => .ok (comparesAs present bound Ordering.isGE)
  | lt bound => .ok (comparesAs present bound Ordering.isLT)
  | lte bound => .ok (comparesAs present bound Ordering.isLE)
  | range low high =>
    .ok (comparesAs present low Ordering.isGE && comparesAs present high Ordering.isLE)
  | contains needle => .ok (hasText present fun s => occursWithin needle.toList s.toList)
  | iContains needle | lowerContains needle => .ok (hasText present (containsLowered needle))
  | startsWith needle => .ok (hasText present fun s => needle.toList.isPrefixOf s.toList)
  | endsWith needle => .ok (hasText present fun s => needle.toList.isSuffixOf s.toList)
  | regexp pattern =>
    match PatternEngine.compile pattern with
    | .error reason => .error (.invalidPattern pattern reason)
    | .ok test => .ok (hasText present test)
  | isIn vs => .ok (present.any fun actual => isMember actual vs)
  | notIn vs => .ok (present.all fun actual => !isMember actual vs)

/-- Tests the value of a field: JSON null counts as absence. -/
def matchesValue (c : Constraint) (v : Option Json) : Except StoreError Bool :=
  c.holds ((v.map Json.scalar).filter fun v => !v.isNull)

/-- Whether some record of a list passes; what is no record is passed over. -/
def matchesSome (c : Constraint) (field : String) : List Json → Except StoreError Bool
  | [] => .ok false
  | .object members :: rest => do
    if ← c.matchesValue (Json.member? members field) then return true
    matchesSome c field rest
  | _ :: rest => matchesSome c field rest

/-- Tests a field of the record, or of some of the records, that a relation refers to. -/
def matchesRelated (c : Constraint) (related : Option Json) (field : String) :
    Except StoreError Bool :=
  match related with
  | some (.object members) => c.matchesValue (Json.member? members field)
  | some (.array records) => c.matchesSome field records
  | _ => c.matchesValue none

end Constraint

namespace Criteria

variable [PatternEngine]

mutual

/-- Whether a row satisfies criteria. Parts after a decisive one are not looked at. -/
def evaluate (row : Row) : Criteria → Except StoreError Bool
  | empty => .ok true
  | field f c => c.matchesValue (Json.member? row f)
  | allOf parts => evaluateAll row parts
  | anyOf parts => evaluateAny row parts
  | complement part => do return !(← evaluate row part)
  | raw text _ => .error (.rawText text)
  | relation r f c => c.matchesRelated (Json.member? row r) f
  | inMemory test => .ok (test.holds row)

def evaluateAll (row : Row) : List Criteria → Except StoreError Bool
  | [] => .ok true
  | c :: rest => do
    if ← evaluate row c then evaluateAll row rest else return false

def evaluateAny (row : Row) : List Criteria → Except StoreError Bool
  | [] => .ok false
  | c :: rest => do
    if ← evaluate row c then return true
    evaluateAny row rest

end

end Criteria

end RowFilter
