import RowFilter.Proofs.Compilation.Inversion
import RowFilter.Proofs.Criteria.Nodes

/-! # Where compiled criteria come from

Unless a registered handler speaks for one of its predicates, a forest compiles in three kinds of
steps: a predicate of an unknown handler says nothing, any other predicate gives one leaf, and a
group joins what its children give. `Compiler.Yields` is the record of these steps, and what holds
of all compiled criteria is proved along it: which leaves they have, what form, and what height.
-/

namespace RowFilter

open Outcome

/-- Whether a test is left to a handler that is registered. -/
def Predicate.isHandled (r : Registry) : Predicate → Bool
  | .custom handler .. => r.contains handler
  | .raw .. | .relation .. | .field .. => false

namespace Condition

/-- A forest in which no predicate is left to a registered handler. -/
def Unhandled (r : Registry) (forest : List Condition) : Prop :=
  ∀ p ∈ predicates forest, p.isHandled r = false

/-- Whether a node is a leaf that is not left to a handler. -/
def isOwnLeaf (c : Condition) : Bool := c.predicate?.any fun p => !p.isCustom

/-- The field, relation and raw predicates of a forest, each with its node, in document order. -/
def ownLeaves (forest : List Condition) : List Condition := (nodes forest).filter isOwnLeaf

variable {clause : Clause}

theorem ownLeaves_custom_cons (custom : clause.predicate.isCustom = true) (rest : List Condition) :
    ownLeaves (leaf clause :: rest) = ownLeaves rest := by
  simp [ownLeaves, nodes_cons, children, nodes_nil, isOwnLeaf, predicate?, custom]

theorem ownLeaves_own_cons (own : clause.predicate.isCustom = false) (rest : List Condition) :
    ownLeaves (leaf clause :: rest) = leaf clause :: ownLeaves rest := by
  simp [ownLeaves, nodes_cons, children, nodes_nil, isOwnLeaf, predicate?, own]

theorem ownLeaves_group_cons (clause : Clause) (children rest : List Condition) :
    ownLeaves (group clause children :: rest) = ownLeaves children ++ ownLeaves rest := by
  simp [ownLeaves, nodes_cons, Condition.children, isOwnLeaf, predicate?]

theorem mem_ownLeaves {forest : List Condition} {c : Condition} :
    c ∈ ownLeaves forest ↔
      ∃ clause, c = leaf clause ∧ c ∈ nodes forest ∧ clause.predicate.isCustom = false := by
  rw [ownLeaves, List.mem_filter]
  cases c with
  | leaf clause => simp [isOwnLeaf, predicate?]
  | group clause children => simp [isOwnLeaf, predicate?]

end Condition

/-- What is related to an element of the second list stands in the first. -/
theorem exists_of_mem_right {α β : Type} {r : α → β → Prop} {xs : List α} {ys : List β}
    (related : List.Forall₂ r xs ys) {y : β} (member : y ∈ ys) : ∃ x ∈ xs, r x y := by
  induction related with
  | nil => cases member
  | cons here _ ih =>
      rcases List.mem_cons.mp member with rfl | later
      · exact ⟨_, List.mem_cons_self, here⟩
      · obtain ⟨x, stands, there⟩ := ih later
        exact ⟨x, List.mem_cons_of_mem _ stands, there⟩

theorem exists_of_mem_left {α β : Type} {r : α → β → Prop} {xs : List α} {ys : List β}
    (related : List.Forall₂ r xs ys) {x : α} (member : x ∈ xs) : ∃ y ∈ ys, r x y :=
  exists_of_mem_right related.flip member

namespace Compiler

open Criteria

variable {k : Compiler}

section

variable [PatternEngine]

/-- A predicate that no registered handler speaks for says nothing if it is left to a handler, and
else gives one leaf. -/
theorem criteriaOfPredicate_unhandled {id : String} {p : Predicate} {c : Criteria}
    (unhandled : p.isHandled k.registry = false) (compiled : k.criteriaOfPredicate id p = .ok c) :
    p.isCustom = true ∧ c = .empty ∨ p.isCustom = false ∧ c.isLeaf = true := by
  cases p with
  | raw text params =>
      obtain ⟨_, rfl⟩ := criteriaOfPredicate_raw.mp compiled
      exact .inr ⟨rfl, rfl⟩
  | custom handler tag value params =>
      have missing : k.registry.get? handler = none := by
        simpa [Predicate.isHandled, NameMap.contains] using unhandled
      rw [criteriaOfPredicate, criteriaOfHandler, missing] at compiled
      cases compiled
      exact .inl ⟨rfl, rfl⟩
  | relation relation field tag value =>
      obtain ⟨_, _, _, _, _, rfl⟩ := criteriaOfPredicate_relation.mp compiled
      exact .inr ⟨rfl, rfl⟩
  | field field tag value =>
      obtain ⟨_, _, _, _, _, rfl⟩ := criteriaOfPredicate_field.mp compiled
      exact .inr ⟨rfl, rfl⟩

/-- At the top of a forest no leaf is too deep. -/
theorem criteriaOfCondition_leaf (clause : Clause) :
    k.criteriaOfCondition (.leaf clause) = k.criteriaOfPredicate clause.id clause.predicate := by
  rw [criteriaOfCondition, criteriaOfNode, if_neg (Nat.not_lt_zero _)]

/-- The steps in which trees at one depth compile to parts, where no registered handler takes
part. -/
inductive Yields (k : Compiler) : Nat → List Condition → List Criteria → Prop where
  | nil (depth : Nat) : Yields k depth [] []
  /-- A predicate of an unknown handler says nothing. -/
  | silent {depth : Nat} {clause : Clause} {rest : List Condition} {others : List Criteria} :
    depth ≤ k.config.limits.maxDepth → clause.predicate.isCustom = true →
    Yields k depth rest others → Yields k depth (.leaf clause :: rest) (.empty :: others)
  /-- Any other predicate gives one leaf, the same at every depth. -/
  | leaf {depth : Nat} {clause : Clause} {rest : List Condition} {part : Criteria}
    {others : List Criteria} :
    depth ≤ k.config.limits.maxDepth → clause.predicate.isCustom = false →
    k.criteriaOfCondition (.leaf clause) = .ok part → part.isLeaf = true →
    Yields k depth rest others → Yields k depth (.leaf clause :: rest) (part :: others)
  /-- A group joins those parts of its children that say anything. -/
  | group {depth : Nat} {clause : Clause} {children rest : List Condition} {part : Criteria}
    {below others : List Criteria} :
    depth ≤ k.config.limits.maxDepth →
    below.length ≤ k.config.limits.maxConditionsPerGroup → Joined (substantive below) part →
    Yields k (depth + 1) children below → Yields k depth rest others →
    Yields k depth (.group clause children :: rest) (part :: others)

/-- A forest that compiles without handlers does so in these steps. -/
theorem yields_of_criteriaOfAll {depth : Nat} {forest : List Condition} {parts : List Criteria}
    (unhandled : Condition.Unhandled k.registry forest)
    (compiled : k.criteriaOfAll depth forest = .ok parts) : k.Yields depth forest parts := by
  induction forest using Condition.forest_induction generalizing depth parts with
  | nil =>
      rw [criteriaOfAll_nil.mp compiled]
      exact .nil depth
  | leaf clause rest ih =>
      rw [Condition.Unhandled, Condition.predicates_leaf_cons, List.forall_mem_cons] at unhandled
      obtain ⟨part, others, here, beside, rfl⟩ := criteriaOfAll_cons.mp compiled
      obtain ⟨fits, predicate⟩ := criteriaOfNode_leaf.mp here
      have remaining := ih unhandled.2 beside
      rcases criteriaOfPredicate_unhandled unhandled.1 predicate with ⟨custom, rfl⟩ | ⟨own, single⟩
      · exact .silent fits custom remaining
      · rw [← criteriaOfCondition_leaf] at predicate
        exact .leaf fits own predicate single remaining
  | group clause children rest ihc ihr =>
      rw [Condition.Unhandled, Condition.predicates_group_cons, List.forall_mem_append] at unhandled
      obtain ⟨part, others, here, beside, rfl⟩ := criteriaOfAll_cons.mp compiled
      obtain ⟨fits, size, logic, below, _, inner, joined⟩ := criteriaOfNode_group.mp here
      rw [← criteriaOfAll_length inner] at size
      exact .group fits size (joined_of_join joined) (ihc unhandled.1 inner)
        (ihr unhandled.2 beside)

/-- A whole forest compiles as a group does that stands above it. -/
theorem yields_of_criteriaOfForest {forest : List Condition} {logic : Logic} {c : Criteria}
    (unhandled : Condition.Unhandled k.registry forest)
    (compiled : k.criteriaOfForest forest logic = .ok c) :
    ∃ parts, k.Yields 0 forest parts ∧
      parts.length ≤ k.config.limits.maxConditionsPerGroup ∧ Joined (substantive parts) c := by
  obtain ⟨size, parts, all, joined⟩ := criteriaOfForest_eq_ok.mp compiled
  rw [← criteriaOfAll_length all] at size
  exact ⟨parts, yields_of_criteriaOfAll unhandled all, size, joined_of_join joined⟩

/-- The parts of a forest have the forest's own leaves for leaves, in document order, each as it
compiles by itself. -/
theorem Yields.leaves_eq {depth : Nat} {forest : List Condition} {parts : List Criteria}
    (yields : k.Yields depth forest parts) :
    List.Forall₂ (fun node part => k.criteriaOfCondition node = .ok part)
      (Condition.ownLeaves forest) (parts.flatMap leaves) := by
  induction yields with
  | nil depth => simp [Condition.ownLeaves, Condition.nodes_nil]
  | silent _ custom _ ih =>
      rw [Condition.ownLeaves_custom_cons custom, List.flatMap_cons, leaves_empty]
      exact ih
  | leaf _ own alone single _ ih =>
      rw [Condition.ownLeaves_own_cons own, List.flatMap_cons, leaves_of_isLeaf single]
      exact .cons alone ih
  | group _ _ joined _ _ ihc ihr =>
      rw [Condition.ownLeaves_group_cons, List.flatMap_cons, joined.leaves_eq,
        flatMap_leaves_substantive]
      exact List.rel_append ihc ihr

/-- Every part of a forest is in normal form. -/
theorem Yields.normal {depth : Nat} {forest : List Condition} {parts : List Criteria}
    (yields : k.Yields depth forest parts) :
    ∀ part ∈ parts, part.Normal k.config.limits.maxConditionsPerGroup := by
  induction yields with
  | nil depth => simp
  | silent _ _ _ ih =>
      rw [List.forall_mem_cons]
      exact ⟨.inl rfl, ih⟩
  | leaf _ _ _ single _ ih =>
      rw [List.forall_mem_cons]
      exact ⟨normal_of_isLeaf single, ih⟩
  | group _ size joined _ _ ihc ihr =>
      rw [List.forall_mem_cons]
      exact ⟨joined.normal size ihc, ihr⟩

/-- A part of a forest is no higher than the depth that is left to its trees. -/
theorem Yields.height_le {depth : Nat} {forest : List Condition} {parts : List Criteria}
    (yields : k.Yields depth forest parts) :
    ∀ part ∈ parts, depth + part.height ≤ k.config.limits.maxDepth := by
  induction yields with
  | nil depth => simp
  | silent fits _ _ ih =>
      rw [List.forall_mem_cons]
      exact ⟨fits, ih⟩
  | leaf fits _ _ single _ ih =>
      rw [List.forall_mem_cons, height_of_isLeaf single]
      exact ⟨fits, ih⟩
  | @group depth _ _ _ part below _ fits _ joined _ _ ihc ihr =>
      rw [List.forall_mem_cons]
      refine ⟨?_, ihr⟩
      have lower : ∀ part ∈ substantive below,
          part.height < k.config.limits.maxDepth - depth := by
        intro part said
        have left := ihc part (mem_substantive.mp said).1
        omega
      have bounded := joined.height_le lower
      omega

end

section Forest

variable [PatternEngine] {forest : List Condition} {logic : Logic} {c : Criteria}
  (unhandled : Condition.Unhandled k.registry forest)
  (compiled : k.criteriaOfForest forest logic = .ok c)

include unhandled compiled

theorem leaves_criteriaOfForest :
    List.Forall₂ (fun node part => k.criteriaOfCondition node = .ok part)
      (Condition.ownLeaves forest) c.leaves := by
  obtain ⟨parts, yields, _, joined⟩ := yields_of_criteriaOfForest unhandled compiled
  rw [joined.leaves_eq, flatMap_leaves_substantive]
  exact yields.leaves_eq

/-- Every leaf comes from a predicate of the forest. -/
theorem predicate_of_mem_leaves {part : Criteria} (leaf : part ∈ c.leaves) :
    ∃ id, ∃ p ∈ Condition.predicates forest,
      p.isCustom = false ∧ k.criteriaOfPredicate id p = .ok part := by
  obtain ⟨node, kept, alone⟩ :=
    exists_of_mem_right (leaves_criteriaOfForest unhandled compiled) leaf
  obtain ⟨clause, rfl, place, own⟩ := Condition.mem_ownLeaves.mp kept
  rw [criteriaOfCondition_leaf] at alone
  exact ⟨clause.id, clause.predicate, Condition.mem_predicates.mpr ⟨clause, place, rfl⟩, own, alone⟩

/-- Every predicate that is not left to a handler gives a leaf. -/
theorem mem_leaves_of_predicate {p : Predicate} (stands : p ∈ Condition.predicates forest)
    (own : p.isCustom = false) : ∃ id, ∃ part ∈ c.leaves, k.criteriaOfPredicate id p = .ok part := by
  obtain ⟨clause, place, rfl⟩ := Condition.mem_predicates.mp stands
  obtain ⟨part, leaf, alone⟩ :=
    exists_of_mem_left (leaves_criteriaOfForest unhandled compiled)
      (Condition.mem_ownLeaves.mpr ⟨clause, rfl, place, own⟩)
  rw [criteriaOfCondition_leaf] at alone
  exact ⟨clause.id, part, leaf, alone⟩

theorem normal_criteriaOfForest : c.Normal k.config.limits.maxConditionsPerGroup := by
  obtain ⟨parts, yields, size, joined⟩ := yields_of_criteriaOfForest unhandled compiled
  exact joined.normal size yields.normal

/-- The forest's own connective adds one to the depth that its trees are allowed. -/
theorem height_criteriaOfForest : c.height ≤ k.config.limits.maxDepth + 1 := by
  obtain ⟨parts, yields, _, joined⟩ := yields_of_criteriaOfForest unhandled compiled
  apply joined.height_le
  intro part said
  have bounded := yields.height_le part (mem_substantive.mp said).1
  omega

end Forest

end Compiler

end RowFilter
