import RowFilter.Dialect
import RowFilter.Security.Limits

/-! # Engine configuration and page windows -/

namespace RowFilter

structure Config where
  limits : Limits := {}
  dialect : Dialect := .generic
  /-- The fields and relations that may be tested; all known ones where this is absent. -/
  allowedFields : Option (List String) := none
  /-- The size of a page where none is asked for. -/
  defaultPageSize : UInt32 := 25
  maxPageSize : UInt32 := 1000
  /-- Whether a stored filter is refused for fields that the catalogue does not know. -/
  strictValidation : Bool := false
  /-- Whether version transforms are applied to stored filters. -/
  autoMigrate : Bool := true
  deriving DecidableEq

namespace Config

def ofJson? (v : Json) : Option Config := do
  let r ← v.record? ["limits", "dialect", "allowedFields", "defaultPageSize", "maxPageSize",
    "strictValidation", "autoMigrate"]
  let std : Config := {}
  let limits ← Json.defaulted? r "limits" std.limits Limits.ofJson?
  let dialect ← Json.defaulted? r "dialect" std.dialect Dialect.ofJson?
  let allowedFields ← Json.optional? r "allowedFields" (Json.asArray? Json.asString?)
  let defaultPageSize ← Json.defaulted? r "defaultPageSize" std.defaultPageSize Json.asUInt32?
  let maxPageSize ← Json.defaulted? r "maxPageSize" std.maxPageSize Json.asUInt32?
  let strictValidation ← Json.defaulted? r "strictValidation" std.strictValidation Json.asBool?
  let autoMigrate ← Json.defaulted? r "autoMigrate" std.autoMigrate Json.asBool?
  some { limits, dialect, allowedFields, defaultPageSize, maxPageSize, strictValidation,
         autoMigrate }

/-- An absent list of allowed fields is written as null. -/
def toJson (c : Config) : Json :=
  .object
    [("limits", c.limits.toJson), ("dialect", c.dialect.toJson),
     ("allowedFields", (c.allowedFields.map Json.ofStrings).getD .null),
     ("defaultPageSize", .ofUInt32 c.defaultPageSize), ("maxPageSize", .ofUInt32 c.maxPageSize),
     ("strictValidation", .bool c.strictValidation), ("autoMigrate", .bool c.autoMigrate)]

end Config

/-- A page as it is served: its number, its size and how many rows stand before it. -/
structure Window where
  page : UInt32
  limit : UInt32
  offset : Nat
  deriving DecidableEq

/-- The page for a request: numbered from one, of the standard size where none is asked for,
and of one row at least and the greatest size at most. The offset has 64 bits. -/
def Config.window (c : Config) (page limit : UInt32) : Window :=
  let page := max page 1
  let asked := if limit = 0 then c.defaultPageSize else limit
  let limit := min (max asked 1) (max c.maxPageSize 1)
  { page, limit, offset := min ((page.toNat - 1) * limit.toNat) (Nat.pow 2 64 - 1) }

end RowFilter
