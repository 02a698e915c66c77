import RowFilter.Config
import RowFilter.Document
import RowFilter.Migration.Renaming
import RowFilter.Migration.Transform
import RowFilter.Validation

/-! # Migration of stored filters

A stored filter is brought to the current version: operators are renamed, the transforms from
its version on are applied, and the result is validated. What cannot be mended becomes a warning
and never stops the migration. -/

namespace RowFilter

inductive AmendmentKind where
  | operatorRenamed
  | structureChanged
  deriving DecidableEq, Repr

def AmendmentKind.tag : AmendmentKind → String
  | operatorRenamed => "operator_renamed"
  | structureChanged => "structure_changed"

def AmendmentKind.ofJson? (v : Json) : Option AmendmentKind :=
  v.asTag?.bind fun tag => [operatorRenamed, structureChanged].find? fun k => k.tag == tag

structure Amendment where
  kind : AmendmentKind
  conditionId : Option String := none
  description : String
  deriving DecidableEq, Repr

namespace Amendment

def ofJson? (v : Json) : Option Amendment := do
  let r ← v.record? ["type", "conditionId", "description"]
  let kind ← Json.required? r "type" AmendmentKind.ofJson?
  let conditionId ← Json.optional? r "conditionId" Json.asString?
  let description ← Json.required? r "description" Json.asString?
  some { kind, conditionId, description }

def toJson (c : Amendment) : Json :=
  Json.objectOf
    [("type", some (.string c.kind.tag)), ("conditionId", c.conditionId.map .string),
     ("description", some (.string c.description))]

end Amendment

namespace RenameNote

def change? : RenameNote → Option Amendment
  | renamed id tag op =>
    some { kind := .operatorRenamed, conditionId := some id,
           description := s!"Renamed operator '{tag}' to '{op.tag}'" }
  | unknown .. => none

def warning? : RenameNote → Option String
  | renamed .. => none
  | unknown id tag => some s!"Unknown operator '{tag}' on condition {id}"

end RenameNote

structure MigrationPolicy where
  /-- Whether transforms are applied. -/
  autoMigrate : Bool := true
  /-- Whether unknown fields stay errors. -/
  strictValidation : Bool := false
  allowedFields : Option (List String) := none
  limits : Limits := {}

def Config.migrationPolicy (c : Config) : MigrationPolicy :=
  { autoMigrate := c.autoMigrate, strictValidation := c.strictValidation,
    allowedFields := c.allowedFields, limits := c.limits }

structure MigrationOutcome where
  document : Document
  migrated : Bool
  fromVersion : UInt32
  toVersion : UInt32
  changes : List Amendment
  warnings : List String
  /-- Present where fields were given to validate against. -/
  validation : Option Validation

def MigrationOutcome.toJson (r : MigrationOutcome) : Json :=
  Json.objectOf
    [("document", some r.document.toJson), ("migrated", some (.bool r.migrated)),
     ("fromVersion", some (.ofUInt32 r.fromVersion)), ("toVersion", some (.ofUInt32 r.toVersion)),
     ("changes", some (.array (r.changes.map Amendment.toJson))),
     ("warnings", some (Json.ofStrings r.warnings)),
     ("validation", r.validation.map Validation.toJson)]

/-- What a run of transforms leaves. -/
structure TransformRun where
  conditions : List Condition
  changes : List Amendment := []
  warnings : List String := []

/-- Applies the transform of one version; where it fails the forest stays as it was. -/
def TransformRun.step (r : TransformRun) (version : UInt32) (transform : Option Transform) :
    TransformRun :=
  match transform with
  | none => r
  | some transform =>
    match transform r.conditions with
    | .ok conditions =>
      { r with
        conditions
        changes := r.changes ++ [{ kind := .structureChanged, description :=
          s!"Applied migration from version {version.toNat} to {version.toNat + 1}" }] }
    | .error e =>
      { r with
        warnings := r.warnings ++
          [s!"Migration from version {version.toNat} skipped: {e.message}"] }

structure Migrator where
  /-- The transforms by the version they start from. -/
  transforms : List (UInt32 × Transform) := [(1, upgradeFromVersion1)]
  registry : Option Registry := none
  logger : Logger := .discarding

namespace Migrator

variable [PatternEngine]

/-- A migrator without transforms. -/
def empty : Migrator := { transforms := [] }

def addTransform (m : Migrator) (version : UInt32) (transform : Transform) : Migrator :=
  { m with transforms := (version, transform) :: m.transforms.filter fun t => t.1 != version }

def hasTransform (m : Migrator) (version : UInt32) : Bool := (m.transforms.lookup version).isSome

/-- Whether a document is of an earlier version or uses former tags of operators. -/
def isDue (d : Document) : Bool :=
  d.isEarlier || (Condition.operatorTags d.conditions).any Operator.isFormerTag

/-- The versions from a given one up to, not including, the current one. -/
def pendingVersions (start : UInt32) : List UInt32 :=
  (List.range' start.toNat (Document.currentVersion.toNat - start.toNat)).map UInt32.ofNat

/-- Applies the transforms of all versions from a given one on. -/
def applyTransforms (m : Migrator) (start : UInt32) (conditions : List Condition) : TransformRun :=
  (pendingVersions start).foldl (fun r v => r.step v (m.transforms.lookup v)) { conditions }

/-- Brings renamed conditions from their version to the current one. -/
def bringForward (m : Migrator) (options : MigrationPolicy) (version : UInt32)
    (conditions : List Condition) : TransformRun :=
  if Document.currentVersion < version then
    { conditions, warnings :=
      [s!"Filter version {version.toNat} is newer than supported version " ++
        s!"{Document.currentVersion.toNat}"] }
  else if version < Document.currentVersion then
    if options.autoMigrate then m.applyTransforms version conditions
    else
      { conditions, warnings :=
        [s!"Automatic migration disabled; version {version.toNat} transforms skipped"] }
  else { conditions }

/-- The validator of the migration's last step. -/
def validator (m : Migrator) (fields : Fields) (options : MigrationPolicy) : Validator :=
  { fields, limits := options.limits, allowed := options.allowedFields, registry := m.registry,
    logger := m.logger }

/-- Splits a validation into one without errors about unknown fields and the messages of those. -/
def demoteUnknownFields (v : Validation) : Validation × List String :=
  let (demoted, kept) := v.errors.partition fun e => e.code == .unknownField
  (Validation.ofParts kept v.events, demoted.map ValidationError.message)

/-- Validates migrated conditions; unless validation is strict, unknown fields become warnings. -/
def validateMigrated (m : Migrator) (fields : Fields) (options : MigrationPolicy)
    (conditions : List Condition) : Logged (Validation × List String) := do
  let v ← (m.validator fields options).validate conditions
  return if options.strictValidation then (v, []) else demoteUnknownFields v

/-- Warnings of the fields that are tested but not known. -/
def missingFieldWarnings (fields : Fields) (conditions : List Condition) : List String :=
  ((Condition.testedFields conditions).filter fun f => !fields.contains f).map fun f =>
    s!"Field '{f}' no longer exists in the schema"

/-- Migrates a document and, if fields are given, validates it against them. -/
def bringUpToDate (m : Migrator) (d : Document) (fields : Option Fields)
    (options : MigrationPolicy) : Logged MigrationOutcome := do
  let notes := Condition.renameNotes d.conditions
  let run := m.bringForward options d.version (Condition.renameTags d.conditions)
  let changes := notes.filterMap RenameNote.change? ++ run.changes
  let warnings := notes.filterMap RenameNote.warning? ++ run.warnings
  let report : MigrationOutcome :=
    { document := ⟨Document.currentVersion, run.conditions⟩
      migrated := !changes.isEmpty || d.version != Document.currentVersion
      fromVersion := d.version
      toVersion := Document.currentVersion
      changes
      warnings
      validation := none }
  match fields with
  | none => return report
  | some fields =>
    let (validation, demoted) ← m.validateMigrated fields options run.conditions
    return { report with
      warnings := warnings ++ demoted ++ missingFieldWarnings fields run.conditions
      validation := some validation }

end Migrator

end RowFilter
