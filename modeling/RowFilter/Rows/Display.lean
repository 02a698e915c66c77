import RowFilter.Compilation.Compiler

/-! # Rows for display

A row is shown as its primary key and the columns asked for. Associated records are shown by a
name, lists of them by their names, and documents by their text. -/

namespace RowFilter

namespace Display

/-- What stands for an associated record: its first member with a value among the display field
of the relation, `title`, `name` and `id`. -/
def recordValue (record : Row) (displayField : Option String) : Json :=
  ((displayField.toList ++ ["title", "name", "id"]).findSome? fun name =>
    (Json.member? record name).filter fun v => !v.isNull).getD .null

/-- A text as it is, nothing for null, and any other value as its JSON text. -/
def label : Json → String
  | .string s => s
  | .null => ""
  | v => v.compact

/-- The value of a field as it is shown. -/
def cell (config : Option FieldConfig) (raw : Json) : Json :=
  match config with
  | none => raw
  | some config =>
    match config.kind, raw with
    | .association, .object record => recordValue record config.displayField
    | .associationMany, .array [] => .null
    | .associationMany, .array records =>
      .string (", ".intercalate (records.map fun
        | .object record => label (recordValue record config.displayField)
        | v => label v))
    | .json, .null => .null
    | .json, .string s => .string s
    | .json, .object [] => .string ""
    | .json, v => .string v.compact
    | _, _ => raw

end Display

/-- The row for display: the primary key, which is never formatted, and then each column asked
for, or each field of the schema, once. -/
def displayRow (schema : Schema) (row : Row) (select : Option (List String))
    (formatter : Option CellFormatter) : Row :=
  let names := (select.getD schema.fields.names).eraseDups.filter fun n => n != schema.primaryKey
  (schema.primaryKey, (Json.member? row schema.primaryKey).getD .null) ::
    names.map fun name =>
      let raw := (Json.member? row name).getD .null
      (name, (formatter.bind fun f => f name raw row).getD
        (Display.cell (schema.fields.get? name) raw))

end RowFilter
