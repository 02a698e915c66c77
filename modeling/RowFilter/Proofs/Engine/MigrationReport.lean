import RowFilter.Proofs.Condition.Mentions
import RowFilter.Proofs.Engine.Preparation
import RowFilter.Proofs.Migration.History

/-! # What a migration reports

A migration judges the migrated conditions as the engine itself would. Where validation is not
strict, the faults of unknown names move from the errors to the warnings, and nothing else moves.
The warnings stand in the order of the steps that gave them.
-/

namespace RowFilter

/-- A tag that no operator has or ever had. -/
def Clause.unknownOperator? (c : Clause) : Option String :=
  c.operator.filter fun tag => !Operator.isTag tag && !Operator.isFormerTag tag

namespace Condition

/-- A warning for every node with an unknown operator, in document order. -/
def unknownOperatorWarnings (forest : List Condition) : List String :=
  (nodes forest).filterMap fun c => c.clause.unknownOperator?.map fun tag =>
    s!"Unknown operator '{tag}' on condition {c.id}"

theorem warnings_renameNotes (forest : List Condition) :
    (renameNotes forest).filterMap RenameNote.warning? = unknownOperatorWarnings forest := by
  rw [renameNotes, List.filterMap_filterMap, unknownOperatorWarnings]
  refine List.filterMap_congr fun c _ => ?_
  cases stands : c.clause.operator with
  | none => simp [Clause.renameNote?, Clause.unknownOperator?, stands]
  | some tag =>
      cases current : Operator.isTag tag with
      | true => simp [Clause.renameNote?, Clause.unknownOperator?, stands, current, Option.filter]
      | false =>
          cases former : Operator.ofFormerTag? tag <;>
            simp [Clause.renameNote?, Clause.unknownOperator?, stands, current, former,
              Option.filter, Operator.isFormerTag, RenameNote.warning?, Condition.id]

end Condition

namespace Validation

/-- The errors about fields and relations that the catalogue does not have. -/
def aboutUnknown (v : Validation) : List ValidationError :=
  v.errors.filter fun error => error.code == .unknownField

/-- All other errors. -/
def others (v : Validation) : List ValidationError :=
  v.errors.filter fun error => error.code != .unknownField

theorem demoteUnknownFields_eq (v : Validation) :
    Migrator.demoteUnknownFields v =
      (.ofParts v.others v.events, v.aboutUnknown.map ValidationError.message) := by
  rw [Migrator.demoteUnknownFields, List.partition_eq_filter_filter]
  rfl

end Validation

namespace Migrator

/-- The way of a renamed forest from a version to the current one, and the warnings that it leaves.
Nothing is done to a forest of the current version, of a newer one, or of an earlier one that is not
to be migrated; the last two give a warning each. Else every transform that is registered for a
version on the way is tried, in the order of the versions, and each that fails gives a warning. -/
inductive Passage (m : Migrator) (options : MigrationPolicy) (version : UInt32)
    (forest : List Condition) : List Condition → List String → Prop where
  | newer : Document.currentVersion < version →
      Passage m options version forest forest
        [s!"Filter version {version.toNat} is newer than supported version " ++
          s!"{Document.currentVersion.toNat}"]
  | current : version = Document.currentVersion → Passage m options version forest forest []
  | disabled : version < Document.currentVersion → options.autoMigrate = false →
      Passage m options version forest forest
        [s!"Automatic migration disabled; version {version.toNat} transforms skipped"]
  | migrated {final : List Condition} {attempts : List Attempt} :
      version < Document.currentVersion → options.autoMigrate = true →
      (attempts.map Attempt.version).Pairwise (· < ·) →
      (∀ v t, (∃ a ∈ attempts, a.version = v ∧ a.transform = t) ↔
        version ≤ v ∧ v < Document.currentVersion ∧ m.transforms.lookup v = some t) →
      History forest attempts final →
      Passage m options version forest final ((attempts.map Attempt.record).filterMap Sum.getRight?)

theorem passage_bringForward (m : Migrator) (options : MigrationPolicy) (version : UInt32)
    (forest : List Condition) :
    m.Passage options version forest (m.bringForward options version forest).conditions
      (m.bringForward options version forest).warnings := by
  unfold bringForward
  split
  · next newer => exact .newer newer
  · next supported =>
      split
      · next earlier =>
          split
          · next auto =>
              obtain ⟨attempts, ran⟩ :=
                m.exists_ran (pendingVersions version) { conditions := forest }
              change m.Ran _ _ (m.applyTransforms version forest) attempts at ran
              rw [ran.warnings, List.nil_append]
              exact .migrated earlier auto ran.pairwise_versions (fun _ _ => ran.exists_attempt_iff)
                ran.history
          · next manual => exact .disabled earlier (Bool.eq_false_iff.mpr manual)
      · next reached =>
          have same := UInt32.le_antisymm (UInt32.not_lt.mp supported) (UInt32.not_lt.mp reached)
          exact .current same

end Migrator

namespace Engine

/-- The warnings of a migration are those of its steps, one after the other. -/
theorem migrate_warnings [PatternEngine] (e : Engine) (d : Document) (log : List SecurityEvent) :
    (e.migrate d log).1.warnings =
      Condition.unknownOperatorWarnings d.conditions ++
      (e.migrator.bringForward e.config.migrationPolicy d.version
        (Condition.renameTags d.conditions)).warnings ++
      (if e.config.strictValidation then []
        else (e.validate (e.migrated d) log).1.aboutUnknown.map ValidationError.message) ++
      Migrator.missingFieldWarnings e.schema.fields (e.migrated d) := by
  have demoted : (e.migrator.validateMigrated e.schema.fields e.config.migrationPolicy
      (e.migrated d) log).1.2 =
      if e.config.strictValidation then []
        else (e.validate (e.migrated d) log).1.aboutUnknown.map ValidationError.message := by
    change (if e.config.strictValidation then _ else _ : Validation × List String).2 = _
    split
    · rfl
    · rw [Validation.demoteUnknownFields_eq]
      rfl
  rw [← Condition.warnings_renameNotes, ← demoted]
  rfl

/-- A migration judges as the engine does, takes out the errors about unknown names where
validation is not strict, and warns of unknown operators, of the way from its version, of what it
took out, and of each missing field once. -/
theorem migrate_judges_alike [PatternEngine] (e : Engine) (d : Document)
    (log log' : List SecurityEvent) : let report := (e.migrate d log).1
    let v := (e.validate report.document.conditions log').1
    ∃ w passage missing, report.validation = some w ∧
      (if e.config.strictValidation then w = v
        else w.errors = v.others ∧ (w.valid = true ↔ w.errors = []) ∧ w.events = v.events) ∧
      report.warnings =
        Condition.unknownOperatorWarnings d.conditions ++ passage ++
        (if e.config.strictValidation then []
          else v.aboutUnknown.map ValidationError.message) ++
        missing.map (fun f => s!"Field '{f}' no longer exists in the schema") ∧
      e.migrator.Passage e.config.migrationPolicy d.version (Condition.renameTags d.conditions)
        report.document.conditions passage ∧
      missing.Nodup ∧
      FirstOccurrences missing
        ((Condition.mentionedFields report.document.conditions).filter fun f =>
          !e.schema.fields.contains f) := by
  intro report v
  have conditions : report.document.conditions = e.migrated d := rfl
  have same : v = (e.validate (e.migrated d) log).1 := by
    rw [← conditions]
    exact validate_log _ _ _
  have first := (Condition.testedFields_first (e.migrated d)).filter fun f =>
    !e.schema.fields.contains f
  refine ⟨_, _, _, e.migrate_validation d log, ?_, ?_, Migrator.passage_bringForward _ _ _ _,
    first.nodup, first⟩
  · rw [← same, judged]
    split
    · rfl
    · rw [Validation.demoteUnknownFields_eq]
      exact ⟨rfl, List.isEmpty_iff, rfl⟩
  · rw [same]
    exact e.migrate_warnings d log

end Engine

end RowFilter
