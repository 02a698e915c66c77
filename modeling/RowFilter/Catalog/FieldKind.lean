import RowFilter.Operator

/-! # Kinds of fields

A field's kind decides which operators may test it and how its operands are checked. -/

namespace RowFilter

inductive FieldKind where
  /-- Short text. -/
  | string
  /-- Long text. -/
  | text
  | number
  /-- Whole number. -/
  | integer
  | float
  | boolean
  | date
  | datetime
  /-- One value out of a fixed set. -/
  | select
  /-- A structured document. -/
  | json
  /-- A reference to one record. -/
  | association
  /-- References to any number of records. -/
  | associationMany
  /-- A kind without a meaning here; it is treated as a string. -/
  | other
  deriving DecidableEq, Repr

namespace FieldKind

def tag : FieldKind → String
  | string => "string"
  | text => "text"
  | number => "number"
  | integer => "integer"
  | float => "float"
  | boolean => "boolean"
  | date => "date"
  | datetime => "datetime"
  | select => "select"
  | json => "json"
  | association => "association"
  | associationMany => "association-many"
  | other => "other"

def known : List FieldKind :=
  [string, text, number, integer, float, boolean, date, datetime, select, json, association,
   associationMany]

/-- Every tag names a kind: one that is unknown names `other`. -/
def ofTag (tag : String) : FieldKind := (known.find? fun k => k.tag == tag).getD other

def ofJson? (v : Json) : Option FieldKind := v.asTag?.map ofTag

/-- The operators that may test a field of this kind. -/
def operators : FieldKind → List Operator
  | string | other =>
    [.eq, .neq, .like, .ilike, .startsWith, .endsWith, .isIn, .notIn, .isNull, .isNotNull, .regex]
  | text => [.eq, .neq, .like, .ilike, .startsWith, .endsWith, .isNull, .isNotNull]
  | number | integer | float =>
    [.eq, .neq, .gt, .gte, .lt, .lte, .between, .isIn, .notIn, .isNull, .isNotNull]
  | boolean => [.eq, .neq, .isNull, .isNotNull]
  | date | datetime => [.eq, .neq, .gt, .gte, .lt, .lte, .between, .isNull, .isNotNull]
  | select | association => [.eq, .neq, .isIn, .notIn, .isNull, .isNotNull]
  | json => [.isNull, .isNotNull, .custom]
  | associationMany => [.isIn, .notIn, .isNull, .isNotNull]

def allows (k : FieldKind) (op : Operator) : Bool := k.operators.contains op

def isNumeric (k : FieldKind) : Bool := [number, integer, float].contains k

/-- Whether fields of this kind hold free text. -/
def isText (k : FieldKind) : Bool := [string, text, other].contains k

/-- Whether fields of this kind refer to other records. -/
def isReference (k : FieldKind) : Bool := [association, associationMany].contains k

end FieldKind

end RowFilter
