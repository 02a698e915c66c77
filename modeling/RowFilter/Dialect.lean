import RowFilter.Json.Record

/-! # Dialects of stores -/

namespace RowFilter

/-- The name of a store's dialect. A stored name is taken as it is; `Dialect.named` ignores
letter case. -/
structure Dialect where
  tag : String
  deriving DecidableEq, Repr

namespace Dialect

def named (tag : String) : Dialect := ⟨tag.toLower⟩

def generic : Dialect := named "generic"

instance : Inhabited Dialect := ⟨generic⟩

/-- Whether the store itself can look for a text in any letter case. -/
def ignoresCaseNatively (d : Dialect) : Bool :=
  ["postgres", "postgresql", "cockroachdb"].contains d.tag

def speaksSql (d : Dialect) : Bool :=
  d.ignoresCaseNatively || ["mysql", "mariadb", "sqlite", "mssql"].contains d.tag

def ofJson? (v : Json) : Option Dialect := v.asString?.map mk

def toJson (d : Dialect) : Json := .string d.tag

end Dialect

end RowFilter
