import RowFilter.Condition.Record

/-! # Stored filters -/

namespace RowFilter

/-- A stored forest, stamped with the version of the rules it was written under. -/
structure Document where
  version : UInt32
  conditions : List Condition

namespace Document

def currentVersion : UInt32 := 2

/-- The version of documents from before versions were written. -/
def unversioned : UInt32 := 1

def isEarlier (d : Document) : Bool := d.version < currentVersion

def ofJson? (v : Json) : Option Document := do
  let r ← v.record? ["version", "conditions"]
  let version ← Json.defaulted? r "version" unversioned Json.asUInt32?
  let conditions ← Json.defaulted? r "conditions" [] Condition.listOfJson?
  some { version, conditions }

def toJson (d : Document) : Json :=
  .object [("version", .ofUInt32 d.version), ("conditions", Condition.listToJson d.conditions)]

/-- A stored filter is a document or, from before versions were written, a bare list of
conditions. Nothing in it may be unreadable. -/
def ofStored? (v : Json) : Option Document :=
  if !v.isReadable then none
  else
    match ofJson? v with
    | some d => some d
    | none => (Condition.listOfJson? v).map fun conditions => ⟨unversioned, conditions⟩

end Document

end RowFilter
