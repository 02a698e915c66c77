import RowFilter.Json.Record

/-! # Operators, group logic and sort directions

Each vocabulary has one written tag per case, and reading a tag is finding the case that is
written so. The patterns of the operator `regex` are left to an engine of their own. -/

namespace RowFilter

/-- Comparison made by a predicate. -/
inductive Operator where
  | eq | neq | gt | gte | lt | lte
  /-- The text contains the operand. -/
  | like
  /-- The text contains the operand, letter case aside. -/
  | ilike
  | startsWith | endsWith
  | isIn | notIn
  /-- The value lies in an inclusive range. -/
  | between
  | isNull | isNotNull
  | regex
  /-- The comparison is left to a handler. -/
  | custom
  deriving DecidableEq, Repr

/-- Regular expressions are read and run elsewhere, by an engine of which nothing is assumed:
it sends a pattern to its test of a text, or to its words on a text that is no pattern. -/
class PatternEngine where
  compile : String → Except String (String → Bool)

/-- How a group combines its children. -/
inductive Logic where
  | and | or | not
  deriving DecidableEq, Repr

inductive SortDirection where
  | ascending | descending
  deriving DecidableEq, Repr

/-- A tag that belongs to none of the cases of its vocabulary. -/
inductive TagError where
  | unknownOperator (tag : String)
  | invalidLogic (tag : String)
  | invalidSortDirection (tag : String)
  deriving DecidableEq, Repr

def TagError.message : TagError → String
  | unknownOperator tag => "unknown operator: " ++ tag
  | invalidLogic tag => "invalid logic operator: " ++ tag
  | invalidSortDirection tag => "invalid sort direction: " ++ tag

namespace Operator

def all : List Operator :=
  [eq, neq, gt, gte, lt, lte, like, ilike, startsWith, endsWith, isIn, notIn, between, isNull,
   isNotNull, regex, custom]

def tag : Operator → String
  | eq => "eq"
  | neq => "neq"
  | gt => "gt"
  | gte => "gte"
  | lt => "lt"
  | lte => "lte"
  | like => "like"
  | ilike => "ilike"
  | startsWith => "startsWith"
  | endsWith => "endsWith"
  | isIn => "in"
  | notIn => "notIn"
  | between => "between"
  | isNull => "isNull"
  | isNotNull => "isNotNull"
  | regex => "regex"
  | custom => "custom"

def ofTag? (tag : String) : Option Operator := all.find? fun op => op.tag == tag

def parse (tag : String) : Except TagError Operator :=
  match ofTag? tag with
  | some op => .ok op
  | none => .error (.unknownOperator tag)

def isTag (tag : String) : Bool := (ofTag? tag).isSome

/-- Null tests take no operand; every other operator needs one. -/
def needsOperand (op : Operator) : Bool := op != isNull && op != isNotNull

def ofJson? (v : Json) : Option Operator := v.asTag?.bind ofTag?

end Operator

namespace Logic

def all : List Logic := [and, or, not]

def tag : Logic → String
  | and => "AND"
  | or => "OR"
  | not => "NOT"

def ofTag? (tag : String) : Option Logic := all.find? fun l => l.tag == tag

def parse (tag : String) : Except TagError Logic :=
  match ofTag? tag with
  | some l => .ok l
  | none => .error (.invalidLogic tag)

def ofJson? (v : Json) : Option Logic := v.asTag?.bind ofTag?

end Logic

namespace SortDirection

def tag : SortDirection → String
  | ascending => "ASC"
  | descending => "DESC"

def ofTag? (tag : String) : Option SortDirection :=
  [ascending, descending].find? fun d => d.tag == tag

/-- Reads a direction in any letter case. -/
def parse (text : String) : Except TagError SortDirection :=
  match ofTag? text.toUpper with
  | some d => .ok d
  | none => .error (.invalidSortDirection text)

/-- Stored directions are written in capitals only. -/
def ofJson? (v : Json) : Option SortDirection := v.asTag?.bind ofTag?

end SortDirection

end RowFilter
