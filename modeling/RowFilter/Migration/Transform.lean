import RowFilter.Condition.Walk
import RowFilter.Unicode.CodePoints

/-! # Transforms between versions

Version 1 wrote the list of a membership test as one text with commas, and a range as an object
with `from` and `to`. -/

namespace RowFilter

inductive MigrationError where
  | transformFailed (fromVersion : UInt32) (reason : String)
  | invalidDocument (reason : String)
  deriving DecidableEq, Repr

def MigrationError.message : MigrationError → String
  | transformFailed version reason => s!"transform from version {version.toNat} failed: {reason}"
  | invalidDocument reason => "invalid filter document: " ++ reason

/-- Rewrites a forest from one version to the next. -/
abbrev Transform := List Condition → Except MigrationError (List Condition)

/-- The pieces of a text between commas. -/
def splitAtCommas : List Char → List (List Char)
  | [] => [[]]
  | c :: rest =>
    if c = ',' then [] :: splitAtCommas rest
    else
      match splitAtCommas rest with
      | [] => [[c]]
      | piece :: pieces => (c :: piece) :: pieces

/-- The items of a list written as a text: its pieces without blanks at their ends, empty ones
left out. -/
def listItems (text : String) : List Json :=
  (((splitAtCommas text.toList).map Unicode.trimSpace).filter fun piece => !piece.isEmpty).map
    fun piece => .string (String.ofList piece)

namespace Clause

/-- The operand in the form of version 2, where that can be told. -/
def upgradedValue (c : Clause) : Option Json :=
  match c.operator.bind Operator.ofTag?, c.value with
  | some .isIn, some (.string text) | some .notIn, some (.string text) =>
    some (.array (listItems text))
  | some .between, some (.object range) =>
    match Json.member? range "from", Json.member? range "to" with
    | some low, some high => some (.array [low, high])
    | _, _ => c.value
  | _, _ => c.value

def upgraded (c : Clause) : Clause := { c with value := c.upgradedValue }

/-- Whether a range of version 1 lacks one of its ends. -/
def hasIncompleteRange (c : Clause) : Bool :=
  match c.operator.bind Operator.ofTag?, c.value with
  | some .between, some (.object range) =>
    !(Json.hasMember range "from" && Json.hasMember range "to")
  | _, _ => false

end Clause

/-- The transform from version 1 to version 2; it fails at the first incomplete range. -/
def upgradeFromVersion1 : Transform := fun forest =>
  match (Condition.nodes forest).find? fun c => c.clause.hasIncompleteRange with
  | some c => .error (.transformFailed 1 s!"condition {c.id} has an incomplete between range")
  | none => .ok (Condition.mapForest Clause.upgraded forest)

end RowFilter
