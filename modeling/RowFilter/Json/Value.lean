import RowFilter.Number.Numeral

/-! # JSON values

Objects keep the order of their members. A number is an integer or a double, and the two are
different values even where they are numerically equal. -/

namespace RowFilter

inductive JsonNumber where
  | int (i : Int)
  | double (d : Double)
  /-- A literal beyond all doubles. It stands for no value, so it is harmless only in a member that
  nobody reads. -/
  | huge (negative : Bool)
  deriving DecidableEq

inductive Json where
  | null
  | bool (b : Bool)
  | number (n : JsonNumber)
  | string (s : String)
  | array (items : List Json)
  | object (members : List (String × Json))

/-- An object's members, as the rows of a table are. -/
abbrev Row := List (String × Json)

namespace JsonNumber

def toExtended : JsonNumber → ExtendedDouble
  | int i => .ofRounded (i < 0) (Double.ofInt? i)
  | double d => .finite d
  | huge negative => .infinity negative

/-- Numerically equal doubles are the same number; integers and doubles never are. -/
def same : JsonNumber → JsonNumber → Bool
  | int a, int b => a == b
  | double a, double b => a.key == b.key
  | huge a, huge b => a == b
  | _, _ => false

end JsonNumber

namespace Json

instance : Inhabited Json := ⟨null⟩

def ofNat (n : Nat) : Json := number (.int n)

def ofInt (i : Int) : Json := number (.int i)

def isNull : Json → Bool
  | null => true
  | _ => false

/-- A member of an object in which each name stands once. -/
def member? (members : Row) (name : String) : Option Json :=
  (members.find? fun m => m.1 == name).map Prod.snd

def hasMember (members : Row) (name : String) : Bool :=
  members.any fun m => m.1 == name

mutual

/-- Equality of content: the order of an object's members does not count. -/
def same : Json → Json → Bool
  | null, null => true
  | bool a, bool b => a == b
  | number a, number b => a.same b
  | string a, string b => a == b
  | array as, array bs => sameItems as bs
  | object as, object bs => as.length == bs.length && sameMembers as bs
  | _, _ => false

def sameItems : List Json → List Json → Bool
  | [], [] => true
  | a :: as, b :: bs => same a b && sameItems as bs
  | _, _ => false

def sameMembers : List (String × Json) → List (String × Json) → Bool
  | [], _ => true
  | (name, a) :: as, bs =>
    (match member? bs name with
      | some b => same a b
      | none => false) && sameMembers as bs

end

mutual

/-- Whether all numbers in it stand for a value. -/
def isReadable : Json → Bool
  | number (.huge _) => false
  | array items => itemsReadable items
  | object members => membersReadable members
  | _ => true

def itemsReadable : List Json → Bool
  | [] => true
  | v :: rest => isReadable v && itemsReadable rest

def membersReadable : List (String × Json) → Bool
  | [] => true
  | (_, v) :: rest => isReadable v && membersReadable rest

end

/-- Puts a member where its name first stood, or at the end. -/
def insertMember (members : Row) (name : String) (v : Json) : Row :=
  if hasMember members name then members.map fun m => if m.1 == name then (name, v) else m
  else members ++ [(name, v)]

mutual

/-- Each name once in every object: at the place of its first occurrence, with the value of its
last. -/
def collapse : Json → Json
  | array items => array (collapseItems items)
  | object members => object (collapseMembers [] members)
  | v => v

def collapseItems : List Json → List Json
  | [] => []
  | v :: rest => collapse v :: collapseItems rest

def collapseMembers (done : Row) : List (String × Json) → Row
  | [] => done
  | (name, v) :: rest => collapseMembers (insertMember done name (collapse v)) rest

end

end Json

end RowFilter
