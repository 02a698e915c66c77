import RowFilter.Migration.Transform
import RowFilter.Proofs.Condition.Forest
import RowFilter.Migration.Renaming

/-! # Forests without former tags

Renaming leaves no former tag of an operator on any node, be it a group or a predicate that has
no use for an operator, and has nothing to say about a forest without them. The transform from
version 1 changes operands only, so it brings none back.
-/

namespace RowFilter

namespace Operator

theorem tag_of_ofTag? {tag : String} {op : Operator} (found : ofTag? tag = some op) :
    op.tag = tag := by
  simpa using List.find?_some found

theorem tag_of_isTag {tag : String} (h : isTag tag) : ∃ op : Operator, op.tag = tag := by
  obtain ⟨op, found⟩ := Option.isSome_iff_exists.mp h
  exact ⟨op, tag_of_ofTag? found⟩

/-- No current tag is also a former one. -/
theorem isFormerTag_tag (op : Operator) : isFormerTag op.tag = false := by
  cases op <;> decide

end Operator

namespace Clause

/-- Whether a node still carries a former tag. -/
def hasFormerTag (c : Clause) : Bool := c.operator.any Operator.isFormerTag

theorem hasFormerTag_renamed (c : Clause) : c.renamed.hasFormerTag = false := by
  unfold renamed renameNote?
  cases carried : c.operator with
  | none => simp [hasFormerTag, carried]
  | some tag =>
      by_cases current : Operator.isTag tag
      · obtain ⟨op, rfl⟩ := Operator.tag_of_isTag current
        simp [hasFormerTag, carried, current, Operator.isFormerTag_tag]
      · cases former : Operator.ofFormerTag? tag with
        | none => simp [hasFormerTag, carried, current, former, Operator.isFormerTag]
        | some op => simp [hasFormerTag, current, former, Operator.isFormerTag_tag]

/-- A former tag is not a current one as well, so it is renamed and noted. -/
theorem renameNote?_of_hasFormerTag {c : Clause} (h : c.hasFormerTag = true) :
    ∃ tag op, c.renameNote? = some (.renamed c.id tag op) := by
  obtain ⟨tag, carried, former⟩ := (Option.any_eq_true _ _).mp h
  obtain ⟨op, found⟩ := Option.isSome_iff_exists.mp former
  have outdated : Operator.isTag tag = false := by
    rw [Bool.eq_false_iff]
    intro current
    obtain ⟨op, rfl⟩ := Operator.tag_of_isTag current
    rw [Operator.isFormerTag_tag] at former
    cases former
  exact ⟨tag, op, by simp [renameNote?, carried, outdated, found]⟩

/-- A note on a node without a former tag can only be about a tag that is unknown. -/
theorem renameNote?_of_not_hasFormerTag {c : Clause} (h : c.hasFormerTag = false) :
    c.renamed = c ∧ ∀ note ∈ c.renameNote?, ∃ tag, note = .unknown c.id tag := by
  unfold renamed renameNote?
  cases carried : c.operator with
  | none => simp
  | some tag =>
      have absent : Operator.ofFormerTag? tag = none := by
        simpa [hasFormerTag, carried, Operator.isFormerTag] using h
      by_cases current : Operator.isTag tag
      · simp [current]
      · simp [current, absent]

theorem hasFormerTag_upgraded (c : Clause) : c.upgraded.hasFormerTag = c.hasFormerTag := rfl

end Clause

namespace Condition

/-- No node of the forest carries a former tag. -/
def FreeOfFormerTags (forest : List Condition) : Prop :=
  ∀ tag ∈ operatorTags forest, Operator.isFormerTag tag = false

theorem freeOfFormerTags_iff {forest : List Condition} :
    FreeOfFormerTags forest ↔ ∀ c ∈ nodes forest, c.clause.hasFormerTag = false := by
  constructor
  · intro free c member
    cases carried : c.clause.operator with
    | none => simp [Clause.hasFormerTag, carried]
    | some tag =>
        have current := free tag (mem_operatorTags.mpr ⟨c, member, carried⟩)
        simpa [Clause.hasFormerTag, carried] using current
  · intro free tag member
    obtain ⟨c, inside, carried⟩ := mem_operatorTags.mp member
    simpa [Clause.hasFormerTag, carried] using free c inside

/-- A rewriting under which every clause ends up without a former tag clears the forest. -/
theorem freeOfFormerTags_mapForest {f : Clause → Clause} {forest : List Condition}
    (h : ∀ c ∈ nodes forest, (f c.clause).hasFormerTag = false) :
    FreeOfFormerTags (mapForest f forest) := by
  rw [freeOfFormerTags_iff, nodes_mapForest]
  intro c member
  obtain ⟨source, inside, rfl⟩ := List.mem_map.mp member
  rw [clause_mapClauses]
  exact h source inside

theorem freeOfFormerTags_renameTags (forest : List Condition) :
    FreeOfFormerTags (renameTags forest) :=
  freeOfFormerTags_mapForest fun c _ => c.clause.hasFormerTag_renamed

theorem renameTags_of_free {forest : List Condition} (free : FreeOfFormerTags forest) :
    renameTags forest = forest :=
  mapForest_eq_self fun c member =>
    (Clause.renameNote?_of_not_hasFormerTag (freeOfFormerTags_iff.mp free c member)).1

end Condition

/-- A transform that brings in no former tag. One whose outputs never carry any is such. -/
def Transform.KeepsTagsCurrent (t : Transform) : Prop :=
  ∀ forest output, Condition.FreeOfFormerTags forest → t forest = .ok output →
    Condition.FreeOfFormerTags output

theorem upgradeFromVersion1_keepsTagsCurrent :
    Transform.KeepsTagsCurrent upgradeFromVersion1 := by
  intro forest output free applied
  unfold upgradeFromVersion1 at applied
  split at applied
  · cases applied
  · cases applied
    apply Condition.freeOfFormerTags_mapForest
    intro c member
    rw [Clause.hasFormerTag_upgraded]
    exact Condition.freeOfFormerTags_iff.mp free c member

end RowFilter
