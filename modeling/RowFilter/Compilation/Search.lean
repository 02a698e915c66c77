import RowFilter.Catalog.Schema
import RowFilter.Compilation.Constraint
import RowFilter.Unicode.CodePoints

/-! # Global search

A search text is looked for in every text field and, where it is the text of a number, among
the values of every numeric field. -/

namespace RowFilter.GlobalSearch

/-- The id under which errors of a search are reported. -/
def conditionId : String := "globalSearch"

/-- The value that a number is compared as: an integer up to `2 ^ 53` where it is one, else a
double, which no integer field can hold. -/
def exactNumber? (d : Double) (kind : FieldKind) : Option Json :=
  match d.toInt? with
  | some i =>
    if i.natAbs < Nat.pow 2 53 then some (.ofInt i)
    else if kind = .integer then none else some (.ofDouble d)
  | none => if kind = .integer then none else some (.ofDouble d)

/-- The fields that are searched: those asked for that exist, or all. -/
def candidates (schema : Schema) (fields : Option (List String)) : List (String × FieldKind) :=
  match fields with
  | some names => names.filterMap fun name => (schema.fields.get? name).map fun c => (name, c.kind)
  | none => schema.fields.entries.map fun e => (e.1, e.2.kind)

def fragment? (text : String) (number : Option Double) (candidate : String × FieldKind) :
    Option Criteria :=
  let (name, kind) := candidate
  if kind.isText then some (.field name (.contains text))
  else if kind.isNumeric then
    (number.bind fun d => exactNumber? d kind).map fun v => .field name (.eq v)
  else none

/-- The criteria of a search, or nothing where no field can match. -/
def build (schema : Schema) (search : String) (fields : Option (List String)) (limits : Limits) :
    Except CompileError (Option Criteria) :=
  let text := Unicode.trim search
  if text.isEmpty then .ok none
  else if limits.maxStringLength < text.length then
    .error (.stringTooLong conditionId text.length limits.maxStringLength)
  else
    let number := (ExtendedDouble.ofText? text).bind ExtendedDouble.finite?
    let c := Criteria.or ((candidates schema fields).filterMap (fragment? text number))
    .ok (if c.isEmpty then none else some c)

end RowFilter.GlobalSearch
