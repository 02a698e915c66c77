import RowFilter.Catalog.FieldKind
import RowFilter.NameMap

/-! # Field catalogues

What is known of the fields of a record type: their kinds, the bounds of their operands, and
which of them may order rows. -/

namespace RowFilter

/-- What is known of one field. -/
structure FieldConfig where
  kind : FieldKind := .string
  /-- The most characters that a string operand may have. -/
  maxLength : Option Nat := none
  /-- The bounds of a numeric operand. -/
  min : Option ExtendedDouble := none
  max : Option ExtendedDouble := none
  required : Bool := false
  /-- The member of an associated record that stands for it in output rows. -/
  displayField : Option String := none
  deriving DecidableEq

namespace FieldConfig

def ofJson? (v : Json) : Option FieldConfig := do
  let r ← v.record? ["type", "maxLength", "min", "max", "required", "displayField"]
  let kind ← Json.required? r "type" FieldKind.ofJson?
  let maxLength ← Json.optional? r "maxLength" Json.asNat64?
  let min ← Json.optional? r "min" Json.asDouble?
  let max ← Json.optional? r "max" Json.asDouble?
  let required ← Json.defaulted? r "required" false Json.asBool?
  let displayField ← Json.optional? r "displayField" Json.asString?
  some { kind, maxLength, min := min.map .finite, max := max.map .finite, required, displayField }

def toJson (c : FieldConfig) : Json :=
  Json.objectOf
    [("type", some (.string c.kind.tag)),
     ("maxLength", c.maxLength.map Json.ofNat),
     ("min", c.min.map Json.ofExtended),
     ("max", c.max.map Json.ofExtended),
     ("required", some (.bool c.required)),
     ("displayField", c.displayField.map .string)]

end FieldConfig

/-- The fields of a record type by name. -/
abbrev Fields := NameMap FieldConfig

namespace Fields

def ofJson? : Json → Option Fields
  | .object members => do
    let entries ← members.mapM fun m => (FieldConfig.ofJson? m.2).map fun c => (m.1, c)
    some (NameMap.ofList entries)
  | _ => none

def toJson (fields : Fields) : Json :=
  .object (fields.entries.map fun e => (e.1, e.2.toJson))

end Fields

/-- A record type as filters see it. -/
structure Schema where
  name : String
  primaryKey : String := "id"
  fields : Fields := .empty

namespace Schema

def ofJson? (v : Json) : Option Schema := do
  let r ← v.record? ["name", "primaryKey", "fields"]
  let name ← Json.required? r "name" Json.asString?
  let primaryKey ← Json.defaulted? r "primaryKey" "id" Json.asString?
  let fields ← Json.defaulted? r "fields" NameMap.empty Fields.ofJson?
  some { name, primaryKey, fields }

def toJson (s : Schema) : Json :=
  .object [("name", .string s.name), ("primaryKey", .string s.primaryKey),
    ("fields", s.fields.toJson)]

/-- Rows may be ordered by the primary key, the two time stamps that every record has, and any
field of the catalogue. -/
def canOrderBy (s : Schema) (field : String) : Bool :=
  field == s.primaryKey || field == "createdAt" || field == "updatedAt" ||
    s.fields.contains field

end Schema

end RowFilter
