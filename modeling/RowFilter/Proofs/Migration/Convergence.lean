import RowFilter.Migration.Migrator
import RowFilter.Pattern.Matching
import RowFilter.Proofs.Migration.FormerTags

/-! # Migration converges

Whatever the version, the tree and the policy, one migration leaves a document that is not due
for another, and a second migration finds nothing to do. The invariant is that no former tag is
left: renaming establishes it, every transform keeps it, and a forest that has it is renamed to
itself without a change on record.
-/

namespace RowFilter

namespace RenameNote

/-- Renaming leaves no change on record exactly if no node has a former tag. -/
theorem changes_eq_nil_iff {forest : List Condition} :
    (Condition.renameNotes forest).filterMap change? = [] ↔
      Condition.FreeOfFormerTags forest := by
  rw [List.filterMap_eq_nil_iff, Condition.freeOfFormerTags_iff]
  constructor
  · intro silent c inside
    rw [Bool.eq_false_iff]
    intro former
    obtain ⟨tag, op, noted⟩ := Clause.renameNote?_of_hasFormerTag former
    cases silent _ (List.mem_filterMap.mpr ⟨c, inside, noted⟩)
  · intro free note member
    obtain ⟨c, inside, noted⟩ := List.mem_filterMap.mp member
    obtain ⟨tag, rfl⟩ := (Clause.renameNote?_of_not_hasFormerTag (free c inside)).2 note noted
    rfl

end RenameNote

/-- A step applies its transform or leaves the forest, so it keeps what every transform keeps. -/
theorem TransformRun.step_keeps {p : List Condition → Prop} {r : TransformRun} {version : UInt32}
    {transform : Option Transform}
    (keeps : ∀ t ∈ transform, ∀ forest output, p forest → t forest = .ok output → p output)
    (holds : p r.conditions) : p (r.step version transform).conditions := by
  unfold TransformRun.step
  cases transform with
  | none => exact holds
  | some t =>
      cases applied : t r.conditions with
      | error e => simpa [applied] using holds
      | ok conditions => simpa [applied] using keeps t rfl _ _ holds applied

namespace Migrator

/-- Every transform of the migrator is the one from version 1, or brings in no former tag. -/
def KeepsTagsCurrent (m : Migrator) : Prop :=
  ∀ t ∈ m.transforms, t.2 = upgradeFromVersion1 ∨ t.2.KeepsTagsCurrent

theorem keepsTagsCurrent_default (registry : Option Registry) (logger : Logger) :
    KeepsTagsCurrent { registry, logger } := by
  intro t member
  exact .inl (by simp_all)

theorem KeepsTagsCurrent.addTransform {m : Migrator} (keeps : m.KeepsTagsCurrent)
    (version : UInt32) {transform : Transform} (h : transform.KeepsTagsCurrent) :
    (m.addTransform version transform).KeepsTagsCurrent := by
  intro t member
  rcases List.mem_cons.mp member with rfl | old
  · exact .inr h
  · exact keeps t (List.mem_filter.mp old).1

theorem KeepsTagsCurrent.keeps {m : Migrator} (current : m.KeepsTagsCurrent) :
    ∀ t ∈ m.transforms, t.2.KeepsTagsCurrent := by
  intro t member
  rcases current t member with same | kept
  · exact same ▸ upgradeFromVersion1_keepsTagsCurrent
  · exact kept

section Keeps

variable {m : Migrator} {p : List Condition → Prop}

theorem lookup_keeps (keeps : ∀ t ∈ m.transforms, ∀ forest output, p forest →
      t.2 forest = .ok output → p output) {version : UInt32} :
    ∀ t ∈ m.transforms.lookup version, ∀ forest output, p forest → t forest = .ok output →
      p output := by
  intro t found
  obtain ⟨before, after, split, _⟩ := List.lookup_eq_some_iff.mp found
  have member : (version, t) ∈ m.transforms := by simp [split]
  exact keeps _ member

theorem transforms_keep (keeps : ∀ t ∈ m.transforms, ∀ forest output, p forest →
      t.2 forest = .ok output → p output) (versions : List UInt32) {r : TransformRun}
    (holds : p r.conditions) :
    p (versions.foldl (fun r v => r.step v (m.transforms.lookup v)) r).conditions := by
  induction versions generalizing r with
  | nil => exact holds
  | cons version rest ih => exact ih (TransformRun.step_keeps (lookup_keeps keeps) holds)

/-- What every transform keeps, going forward from any version keeps. -/
theorem bringForward_keeps (keeps : ∀ t ∈ m.transforms, ∀ forest output, p forest →
      t.2 forest = .ok output → p output) (options : MigrationPolicy) (version : UInt32)
    {conditions : List Condition} (holds : p conditions) :
    p (m.bringForward options version conditions).conditions := by
  unfold bringForward
  split
  · exact holds
  · split
    · split
      · exact transforms_keep keeps (pendingVersions version) holds
      · exact holds
    · exact holds

end Keeps

theorem bringForward_free {m : Migrator} (keeps : m.KeepsTagsCurrent) (options : MigrationPolicy)
    (version : UInt32) {conditions : List Condition}
    (free : Condition.FreeOfFormerTags conditions) :
    Condition.FreeOfFormerTags (m.bringForward options version conditions).conditions :=
  bringForward_keeps keeps.keeps options version free

/-- From the current version there is no way to go. -/
theorem bringForward_current (m : Migrator) (options : MigrationPolicy)
    (conditions : List Condition) :
    m.bringForward options Document.currentVersion conditions = { conditions } := rfl

/-- The document and the changes of a migration do not depend on the fields that it is
validated against. -/
theorem bringUpToDate_report [PatternEngine] (m : Migrator) (d : Document) (fields : Option Fields)
    (options : MigrationPolicy) (log : List SecurityEvent) :
    let run := m.bringForward options d.version (Condition.renameTags d.conditions)
    let report := (m.bringUpToDate d fields options log).1
    report.document = ⟨Document.currentVersion, run.conditions⟩ ∧
      report.changes =
        (Condition.renameNotes d.conditions).filterMap RenameNote.change? ++ run.changes ∧
      report.migrated = (!report.changes.isEmpty || d.version != Document.currentVersion) := by
  cases fields <;> exact ⟨rfl, rfl, rfl⟩

/-- A document is not due if it is no earlier one and no node has a former tag. -/
theorem isDue_eq_false_iff {d : Document} :
    isDue d = false ↔ d.isEarlier = false ∧ Condition.FreeOfFormerTags d.conditions := by
  rw [isDue, Bool.or_eq_false_iff, List.any_eq_false]
  simp only [Bool.not_eq_true, Condition.FreeOfFormerTags]

theorem isDue_of_free {conditions : List Condition} (free : Condition.FreeOfFormerTags conditions) :
    isDue ⟨Document.currentVersion, conditions⟩ = false :=
  isDue_eq_false_iff.mpr ⟨rfl, free⟩

/-- A current document without former tags is migrated to itself. -/
theorem bringUpToDate_of_free [PatternEngine] (m : Migrator) {conditions : List Condition}
    (free : Condition.FreeOfFormerTags conditions) (fields : Option Fields)
    (options : MigrationPolicy) (log : List SecurityEvent) :
    let report := (m.bringUpToDate ⟨Document.currentVersion, conditions⟩ fields options log).1
    report.document = ⟨Document.currentVersion, conditions⟩ ∧ report.changes = [] ∧
      report.migrated = false := by
  obtain ⟨document, changes, migrated⟩ :=
    m.bringUpToDate_report ⟨Document.currentVersion, conditions⟩ fields options log
  rw [bringForward_current, Condition.renameTags_of_free free] at document
  rw [bringForward_current, RenameNote.changes_eq_nil_iff.mpr free, List.nil_append] at changes
  refine ⟨document, changes, ?_⟩
  rw [migrated, changes]
  rfl

/-- One migration leaves nothing for another, under whatever policy that one is made. -/
theorem bringUpToDate_converges [PatternEngine] (m : Migrator) (keeps : m.KeepsTagsCurrent)
    (d : Document) (fields : Option Fields) (options : MigrationPolicy) (log : List SecurityEvent) :
    let report := (m.bringUpToDate d fields options log).1
    isDue report.document = false ∧ report.document.version = Document.currentVersion ∧
      ∀ fields options log,
        let again := (m.bringUpToDate report.document fields options log).1
        again.document = report.document ∧ again.changes = [] ∧ again.migrated = false := by
  intro report
  have document := (m.bringUpToDate_report d fields options log).1
  have free := bringForward_free keeps options d.version
    (Condition.freeOfFormerTags_renameTags d.conditions)
  change report.document = _ at document
  rw [document]
  exact ⟨isDue_of_free free, rfl, m.bringUpToDate_of_free free⟩

theorem bringUpToDate_converges_version0 :
    let adding : Transform := fun forest =>
      .ok (forest ++ [Condition.withoutOperand "x" "x" .isNull])
    let m := ({} : Migrator).addTransform 0 adding
    let d : Document := ⟨0, [.group { id := "g", operator := some "equals" }
      [.leaf { id := "a", field := some "status", operator := some "nin",
               value := some (.string "x, y") }]]⟩
    let report := (m.bringUpToDate d none {} []).1
    m.KeepsTagsCurrent ∧ isDue d = true ∧ isDue report.document = false ∧
      report.document.version = Document.currentVersion ∧
      ∀ fields options log,
        let again := (m.bringUpToDate report.document fields options log).1
        again.document = report.document ∧ again.changes = [] ∧ again.migrated = false := by
  intro adding m d report
  have harmless : adding.KeepsTagsCurrent := by
    intro forest output free applied
    cases applied
    rw [Condition.freeOfFormerTags_iff] at free ⊢
    rw [Condition.nodes_append, List.forall_mem_append]
    refine ⟨free, ?_⟩
    simp [Condition.withoutOperand, Condition.nodes_cons, Condition.nodes_nil, Condition.children,
      Condition.clause, Clause.hasFormerTag, Operator.isFormerTag_tag]
  have keeps := (keepsTagsCurrent_default none .discarding).addTransform 0 harmless
  exact ⟨keeps, rfl, m.bringUpToDate_converges keeps d none {} []⟩

end Migrator

end RowFilter
