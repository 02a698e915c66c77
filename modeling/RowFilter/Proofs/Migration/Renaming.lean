import Mathlib.Data.List.Forall2
import RowFilter.Proofs.Condition.Editing
import RowFilter.Proofs.Migration.History

/-! # What renaming does to a forest

Renaming goes over the nodes of a forest where they stand. A former tag of an operator gives way to
the current one, on nodes of every kind, and nothing else is touched. Each tag that is replaced is
one change on record, and each tag that no operator has or had is one warning, in document order;
the steps of a migration that follow only add to both.
-/

namespace RowFilter

/-- The table of former tags has one operator for each of them. -/
theorem mem_formerTags_iff {tag : String} {op : Operator} :
    (tag, op) ∈ formerTags ↔ Operator.ofFormerTag? tag = some op := by
  constructor
  · intro listed
    have table : ∀ e ∈ formerTags, Operator.ofFormerTag? e.1 = some e.2 := by decide
    exact table _ listed
  · intro found
    obtain ⟨before, after, split, _⟩ := List.lookup_eq_some_iff.mp found
    simp [split]

/-- Where `f` has a value exactly for what `p` holds of, the values stand in the order of the
elements. -/
theorem forall₂_filterMap {α β : Type} {r : α → β → Prop} {p : α → Bool} {f : α → Option β}
    (kept : ∀ x, p x = true → ∃ y, f x = some y ∧ r x y) (dropped : ∀ x, p x = false → f x = none)
    (xs : List α) : List.Forall₂ r (xs.filter p) (xs.filterMap f) := by
  induction xs with
  | nil => exact .nil
  | cons x rest ih =>
      cases holds : p x with
      | true =>
          obtain ⟨y, value, related⟩ := kept x holds
          simp only [List.filter_cons, holds, List.filterMap_cons, value, if_true]
          exact .cons related ih
      | false =>
          simp only [List.filter_cons, holds, List.filterMap_cons, dropped x holds,
            Bool.false_eq_true, if_false]
          exact ih

namespace Clause

variable {c : Clause}

/-- Whether a clause carries a tag that no operator has or had. -/
def hasUnknownTag (c : Clause) : Bool :=
  c.operator.any fun tag => !Operator.isTag tag && !Operator.isFormerTag tag

/-- What renaming makes of a clause: the operator at most is another one. -/
inductive Renames : Clause → Clause → Prop where
  | renamed {c : Clause} {tag : String} {op : Operator} :
    c.operator = some tag → (tag, op) ∈ formerTags →
    Renames c { c with operator := some op.tag }
  | kept {c : Clause} : c.hasFormerTag = false → Renames c c

/-- What renaming does about a clause is settled by its operator: a former tag is replaced, an
unknown one is left with a warning, and there is nothing to say about any other. -/
theorem renameNote?_cases (c : Clause) :
    (∃ tag op, c.operator = some tag ∧ (tag, op) ∈ formerTags ∧ c.hasFormerTag = true ∧
      c.hasUnknownTag = false ∧ c.renameNote? = some (.renamed c.id tag op)) ∨
    (∃ tag, c.operator = some tag ∧ c.hasFormerTag = false ∧ c.hasUnknownTag = true ∧
      c.renameNote? = some (.unknown c.id tag)) ∨
    c.hasFormerTag = false ∧ c.hasUnknownTag = false ∧ c.renameNote? = none := by
  cases carried : c.operator with
  | none => simp [hasFormerTag, hasUnknownTag, renameNote?, carried]
  | some tag =>
      by_cases current : Operator.isTag tag
      · have fresh : Operator.isFormerTag tag = false := by
          obtain ⟨op, rfl⟩ := Operator.tag_of_isTag current
          exact Operator.isFormerTag_tag op
        simp [hasFormerTag, hasUnknownTag, renameNote?, carried, current, fresh]
      · cases former : Operator.ofFormerTag? tag with
        | none =>
            simp [hasFormerTag, hasUnknownTag, renameNote?, carried, current, former,
              Operator.isFormerTag]
        | some op =>
            simp [hasFormerTag, hasUnknownTag, renameNote?, carried, current, former,
              Operator.isFormerTag, mem_formerTags_iff]

theorem renames_renamed (c : Clause) : c.Renames c.renamed := by
  rcases c.renameNote?_cases with ⟨tag, op, carried, listed, _, _, noted⟩ |
    ⟨_, _, settled, _, noted⟩ | ⟨settled, _, noted⟩
  · simp only [renamed, noted]
    exact .renamed carried listed
  · simp only [renamed, noted]
    exact .kept settled
  · simp only [renamed, noted]
    exact .kept settled

end Clause

namespace Condition

/-- Renaming puts one change on record for each node with a former tag, in document order. -/
theorem changes_renameNotes (forest : List Condition) :
    List.Forall₂ (fun c change => ∃ tag op, c.clause.operator = some tag ∧
        (tag, op) ∈ formerTags ∧
        change = { kind := .operatorRenamed, conditionId := some c.id,
                   description := s!"Renamed operator '{tag}' to '{op.tag}'" })
      ((nodes forest).filter fun c => c.clause.hasFormerTag)
      ((renameNotes forest).filterMap RenameNote.change?) := by
  rw [renameNotes, List.filterMap_filterMap]
  apply forall₂_filterMap
  · intro c former
    rcases c.clause.renameNote?_cases with ⟨tag, op, carried, listed, _, _, noted⟩ |
      ⟨_, _, settled, _, _⟩ | ⟨settled, _, _⟩
    · exact ⟨_, by rw [noted]; rfl, tag, op, carried, listed, rfl⟩
    · cases former.symm.trans settled
    · cases former.symm.trans settled
  · intro c settled
    rcases c.clause.renameNote?_cases with ⟨_, _, _, _, former, _, _⟩ | ⟨_, _, _, _, noted⟩ |
      ⟨_, _, noted⟩
    · cases former.symm.trans settled
    · rw [noted]
      rfl
    · rw [noted]
      rfl

/-- It warns once of each node with an unknown tag, in document order. -/
theorem unknown_renameNotes (forest : List Condition) :
    List.Forall₂ (fun c warning => ∃ tag, c.clause.operator = some tag ∧
        warning = s!"Unknown operator '{tag}' on condition {c.id}")
      ((nodes forest).filter fun c => c.clause.hasUnknownTag)
      ((renameNotes forest).filterMap RenameNote.warning?) := by
  rw [renameNotes, List.filterMap_filterMap]
  apply forall₂_filterMap
  · intro c unknown
    rcases c.clause.renameNote?_cases with ⟨_, _, _, _, _, known, _⟩ |
      ⟨tag, carried, _, _, noted⟩ | ⟨_, known, _⟩
    · cases unknown.symm.trans known
    · exact ⟨_, by rw [noted]; rfl, tag, carried, rfl⟩
    · cases unknown.symm.trans known
  · intro c known
    rcases c.clause.renameNote?_cases with ⟨_, _, _, _, _, _, noted⟩ |
      ⟨_, _, _, unknown, _⟩ | ⟨_, _, noted⟩
    · rw [noted]
      rfl
    · cases unknown.symm.trans known
    · rw [noted]
      rfl

end Condition

namespace Migrator

/-- The steps after renaming rename nothing. -/
theorem bringForward_changes (m : Migrator) (options : MigrationPolicy) (version : UInt32)
    (conditions : List Condition) :
    ∀ change ∈ (m.bringForward options version conditions).changes,
      change.kind = .structureChanged := by
  unfold bringForward
  split
  · simp
  · split
    · split
      · obtain ⟨attempts, ran⟩ := m.exists_ran (pendingVersions version) { conditions }
        change m.Ran _ _ (m.applyTransforms version conditions) attempts at ran
        rw [ran.changes]
        intro change recorded
        simp only [List.nil_append, List.mem_filterMap, List.mem_map] at recorded
        obtain ⟨_, ⟨attempt, _, rfl⟩, left⟩ := recorded
        cases outcome : attempt.outcome with
        | ok next =>
            rw [Attempt.record_of_ok outcome] at left
            cases left
            rfl
        | error e =>
            rw [Attempt.record_of_error outcome] at left
            cases left
      · simp
    · simp

/-- A migration first renames the operators. Going over the nodes where they stand it replaces every
tag of the table, on a node of any kind and at any depth, by the tag of its operator, and changes
nothing else. It records one change for each node with such a tag, and warns once of each node with
a tag that is neither current nor former, both in document order. The steps that follow start from
the renamed forest, add no change of this kind, and warn after it. -/
theorem bringUpToDate_renames [PatternEngine] (m : Migrator) (d : Document) (fields : Option Fields)
    (options : MigrationPolicy) (log : List SecurityEvent) :
    let forest := d.conditions
    let renamed := Condition.renameTags forest
    let notes := Condition.renameNotes forest
    let changes := notes.filterMap RenameNote.change?
    let warnings := notes.filterMap RenameNote.warning?
    let report := (m.bringUpToDate d fields options log).1
    (Condition.Walk.pass Clause.renamed Clause.renameNote?)^[Condition.forestSize forest]
        (Condition.Walk.start forest) = ⟨.group {} renamed, [], notes⟩ ∧
      Condition.NodeByNode Clause.Renames forest renamed ∧
      List.Forall₂ (fun c change => ∃ tag op, c.clause.operator = some tag ∧
          (tag, op) ∈ formerTags ∧
          change = { kind := .operatorRenamed, conditionId := some c.id,
                     description := s!"Renamed operator '{tag}' to '{op.tag}'" })
        ((Condition.nodes forest).filter fun c => c.clause.hasFormerTag) changes ∧
      List.Forall₂ (fun c warning => ∃ tag, c.clause.operator = some tag ∧
          warning = s!"Unknown operator '{tag}' on condition {c.id}")
        ((Condition.nodes forest).filter fun c => c.clause.hasUnknownTag) warnings ∧
      report.document.conditions = (m.bringForward options d.version renamed).conditions ∧
      (∃ later, report.changes = changes ++ later ∧
        ∀ change ∈ later, change.kind = .structureChanged) ∧
      ∃ later, report.warnings = warnings ++ later := by
  intro forest renamed notes changes warnings report
  obtain ⟨document, recorded, _⟩ := m.bringUpToDate_report d fields options log
  refine ⟨Condition.Walk.iterate_pass forest, ?_, Condition.changes_renameNotes forest,
    Condition.unknown_renameNotes forest, congrArg Document.conditions document, ?_, ?_⟩
  · exact Condition.nodeByNode_mapForest fun c _ => c.clause.renames_renamed
  · exact ⟨_, recorded, m.bringForward_changes options d.version renamed⟩
  · have warned := m.bringUpToDate_warnings d fields options log
    exact ⟨_, warned.trans (List.append_assoc _ _ _)⟩

end Migrator

end RowFilter
