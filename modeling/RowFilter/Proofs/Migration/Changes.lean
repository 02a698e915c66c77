import RowFilter.Proofs.Migration.Convergence

/-! # What a migration changes

The report of a migration says of itself whether anything was migrated. That is so exactly if the
document that comes out is another one than went in, and it can be told beforehand.
-/

namespace RowFilter

namespace Condition

/-- Renaming leaves no forest as it is that has a former tag. -/
theorem renameTags_eq_self_iff {forest : List Condition} :
    renameTags forest = forest ↔ FreeOfFormerTags forest := by
  constructor
  · intro unchanged
    rw [← unchanged]
    exact freeOfFormerTags_renameTags forest
  · exact renameTags_of_free

end Condition

namespace Migrator

section

variable [PatternEngine]

/-- Nothing was migrated if nothing has changed and the version is the current one. -/
theorem migrated_eq_false (m : Migrator) (d : Document) (fields : Option Fields)
    (options : MigrationPolicy) (log : List SecurityEvent) :
    (m.bringUpToDate d fields options log).1.migrated = false ↔
      d.version = Document.currentVersion ∧
        (m.bringUpToDate d fields options log).1.changes = [] := by
  rw [(m.bringUpToDate_report d fields options log).2.2, Bool.or_eq_false_iff, Bool.not_eq_false',
    List.isEmpty_iff, bne_eq_false_iff_eq, and_comm]

/-- That is so for a current document without former tags. -/
theorem migrated_eq_false_iff (m : Migrator) (d : Document) (fields : Option Fields)
    (options : MigrationPolicy) (log : List SecurityEvent) :
    (m.bringUpToDate d fields options log).1.migrated = false ↔
      d.version = Document.currentVersion ∧ Condition.FreeOfFormerTags d.conditions := by
  rw [migrated_eq_false]
  refine and_congr_right fun current => ?_
  rw [(m.bringUpToDate_report d fields options log).2.1, current, bringForward_current,
    List.append_nil, RenameNote.changes_eq_nil_iff]

/-- Such a document is the only one that a migration gives back as it was. -/
theorem document_eq_self_iff (m : Migrator) (d : Document) (fields : Option Fields)
    (options : MigrationPolicy) (log : List SecurityEvent) :
    (m.bringUpToDate d fields options log).1.document = d ↔
      d.version = Document.currentVersion ∧ Condition.FreeOfFormerTags d.conditions := by
  obtain ⟨document, _, _⟩ := m.bringUpToDate_report d fields options log
  constructor
  · intro unchanged
    rw [unchanged] at document
    have current : d.version = Document.currentVersion := congrArg Document.version document
    have conditions := congrArg Document.conditions document
    rw [current, bringForward_current] at conditions
    exact ⟨current, Condition.renameTags_eq_self_iff.mp conditions.symm⟩
  · rintro ⟨current, free⟩
    rw [document, current, bringForward_current, Condition.renameTags_of_free free, ← current]

end

/-- A document is neither due nor a later one if it is a current one without former tags. -/
theorem settled_iff {d : Document} :
    ¬ (isDue d = true ∨ Document.currentVersion < d.version) ↔
      d.version = Document.currentVersion ∧ Condition.FreeOfFormerTags d.conditions := by
  rw [not_or, Bool.not_eq_true, isDue_eq_false_iff, Document.isEarlier, decide_eq_false_iff_not]
  constructor
  · rintro ⟨⟨recent, free⟩, known⟩
    exact ⟨UInt32.le_antisymm (UInt32.not_lt.mp known) (UInt32.not_lt.mp recent), free⟩
  · rintro ⟨current, free⟩
    rw [current]
    exact ⟨⟨UInt32.lt_irrefl _, free⟩, UInt32.lt_irrefl _⟩

/-- Whether a report says that something was migrated can be told from the document, and it says so
exactly if it gives another document. -/
theorem migrated_iff [PatternEngine] (m : Migrator) (d : Document) (fields : Option Fields)
    (options : MigrationPolicy) (log : List SecurityEvent) :
    let report := (m.bringUpToDate d fields options log).1
    (report.migrated = true ↔ isDue d = true ∨ Document.currentVersion < d.version) ∧
      (report.migrated = true ↔ report.document ≠ d) ∧
      (report.migrated = false → report.document = d ∧ report.changes = []) := by
  intro report
  have settled : report.migrated = false ↔ _ := m.migrated_eq_false_iff d fields options log
  have same : report.document = d ↔ _ := m.document_eq_self_iff d fields options log
  refine ⟨?_, ?_, ?_⟩
  · rw [← Bool.not_eq_false, settled, ← settled_iff, Classical.not_not]
  · rw [← Bool.not_eq_false, settled, ← same]
  · intro quiet
    exact ⟨same.mpr (settled.mp quiet), ((m.migrated_eq_false d fields options log).mp quiet).2⟩

end Migrator

end RowFilter
