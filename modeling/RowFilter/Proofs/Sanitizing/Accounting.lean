import RowFilter.Proofs.Condition.Depths
import RowFilter.Sanitizing

/-! # What sanitizing does with every node

Sanitizing prunes from the leaves up, and a group goes when all its children have gone. Said of one
node at a time: a leaf stays if it is not too deep and nothing speaks against it, and a group stays
if some leaf in it does. So what is left is the forest without the other nodes, each of these is
recorded once, down to the first level that is too deep, and to sanitize again changes nothing,
since the leaves that stay are the same.
-/

namespace RowFilter.Sanitizer

open Condition

variable {fields : Fields} {o : SanitizingPolicy} {depth : Nat} {forest : List Condition}

/-- Whether a node is a leaf that may stay. -/
def admits (fields : Fields) (o : SanitizingPolicy) (depth : Nat) : Condition → Bool
  | .leaf clause => depth ≤ o.maxDepth && (leafReason? fields o clause.predicate).isNone
  | .group _ _ => false

/-- Whether a node stays: some leaf in it may. -/
def survives (fields : Fields) (o : SanitizingPolicy) (depth : Nat) (c : Condition) : Bool :=
  (nodesOf depth c).any fun t => admits fields o t.1 t.2

/-- Why a node at a given depth goes, if it does. -/
def reason? (fields : Fields) (o : SanitizingPolicy) (depth : Nat) (c : Condition) :
    Option RemovalReason :=
  if o.maxDepth < depth then some (.tooDeep o.maxDepth)
  else
    match c with
    | .leaf clause => leafReason? fields o clause.predicate
    | .group _ _ => if survives fields o depth c then none else some .emptyGroup

/-- The record of a node that goes. -/
def removal? (fields : Fields) (o : SanitizingPolicy) (t : Nat × Condition) : Option Removal :=
  (reason? fields o t.1 t.2).map fun reason => ⟨t.2.id, reason⟩

/-- The records of the nodes that go, down to the first level that is too deep. -/
def removals (fields : Fields) (o : SanitizingPolicy) (depth : Nat) (forest : List Condition) :
    List Removal :=
  ((nodesFrom depth forest).filter fun t => t.1 ≤ o.maxDepth + 1).filterMap (removal? fields o)

theorem survives_leaf (clause : Clause) :
    survives fields o depth (.leaf clause) = admits fields o depth (.leaf clause) := by
  rw [survives, nodesOf, List.any_cons, List.any_nil, Bool.or_false]

theorem survives_of_admits {c : Condition} (admitted : admits fields o depth c = true) :
    survives fields o depth c = true := by
  rw [survives, nodesOf_eq, List.any_cons, admitted, Bool.true_or]

theorem survives_group (clause : Clause) (children : List Condition) :
    survives fields o depth (.group clause children) =
      (nodesFrom (depth + 1) children).any fun t => admits fields o t.1 t.2 := by
  rw [survives, nodesOf, List.any_cons, admits, Bool.false_or]

theorem any_admits (depth : Nat) (forest : List Condition) :
    ((nodesFrom depth forest).any fun t => admits fields o t.1 t.2) =
      forest.any (survives fields o depth) := by
  induction forest with
  | nil => rw [nodesFrom_nil, List.any_nil, List.any_nil]
  | cons c rest ih => rw [nodesFrom, List.any_append, ih, List.any_cons, survives]

theorem depth_of_admits {c : Condition} (admitted : admits fields o depth c = true) :
    depth ≤ o.maxDepth := by
  cases c with
  | leaf clause => exact of_decide_eq_true ((Bool.and_eq_true _ _).mp admitted).1
  | group clause children => cases admitted

/-- What stays has a leaf that may, somewhere below it or in its place. -/
theorem depth_of_survives {c : Condition} (surviving : survives fields o depth c = true) :
    depth ≤ o.maxDepth := by
  rw [survives, nodesOf_eq, List.any_cons, Bool.or_eq_true, List.any_eq_true] at surviving
  rcases surviving with here | ⟨t, below, admitted⟩
  · exact depth_of_admits here
  · exact Nat.le_trans (Nat.le_of_succ_le (depth_le_of_mem below)) (depth_of_admits admitted)

theorem nodesOf_subset {t : Nat × Condition} (stands : t ∈ nodesFrom depth forest) :
    nodesOf t.1 t.2 ⊆ nodesFrom depth forest := by
  induction forest using forest_induction generalizing depth with
  | nil => simp at stands
  | leaf clause rest ih =>
      rw [nodesFrom_leaf_cons, List.mem_cons] at stands
      rw [nodesFrom]
      rcases stands with rfl | beside
      · exact List.subset_append_left _ _
      · exact List.subset_append_of_subset_right _ (ih beside)
  | group clause children rest ihc ihr =>
      rw [nodesFrom_group_cons, List.mem_cons, List.mem_append] at stands
      rw [nodesFrom]
      rcases stands with rfl | below | beside
      · exact List.subset_append_left _ _
      · rw [nodesOf]
        exact List.subset_append_of_subset_left _ (List.subset_cons_of_subset _ (ihc below))
      · exact List.subset_append_of_subset_right _ (ihr beside)

/-- A node stays if one below it does. -/
theorem rooted_survives (fields : Fields) (o : SanitizingPolicy) : Rooted (survives fields o) := by
  intro depth c t below surviving
  rw [survives, List.any_eq_true] at surviving ⊢
  obtain ⟨leaf, inside, admitted⟩ := surviving
  refine ⟨leaf, ?_, admitted⟩
  rw [nodesOf_eq]
  exact List.mem_cons_of_mem _ (nodesOf_subset below inside)

theorem survives_tooDeep (beyond : o.maxDepth < depth) (c : Condition) :
    survives fields o depth c = false := by
  rw [Bool.eq_false_iff]
  intro surviving
  exact absurd (depth_of_survives surviving) (Nat.not_le.mpr beyond)

theorem survives_leaf_of_fits (fits : depth ≤ o.maxDepth) (clause : Clause) :
    survives fields o depth (.leaf clause) = (leafReason? fields o clause.predicate).isNone := by
  rw [survives_leaf, admits, decide_eq_true fits, Bool.true_and]

theorem reason?_tooDeep (beyond : o.maxDepth < depth) (c : Condition) :
    reason? fields o depth c = some (.tooDeep o.maxDepth) := if_pos beyond

theorem reason?_leaf (fits : depth ≤ o.maxDepth) (clause : Clause) :
    reason? fields o depth (.leaf clause) = leafReason? fields o clause.predicate :=
  if_neg (Nat.not_lt.mpr fits)

theorem reason?_group (fits : depth ≤ o.maxDepth) (clause : Clause) (children : List Condition) :
    reason? fields o depth (.group clause children) =
      if survives fields o depth (.group clause children) then none else some .emptyGroup :=
  if_neg (Nat.not_lt.mpr fits)

/-- A node stays exactly if there is no reason for it to go. -/
theorem reason?_isNone (fields : Fields) (o : SanitizingPolicy) (depth : Nat) (c : Condition) :
    (reason? fields o depth c).isNone = survives fields o depth c := by
  by_cases beyond : o.maxDepth < depth
  · rw [reason?_tooDeep beyond, survives_tooDeep beyond, Option.isNone_some]
  · have fits := Nat.not_lt.mp beyond
    cases c with
    | leaf clause => rw [reason?_leaf fits, survives_leaf_of_fits fits]
    | group clause children =>
        rw [reason?_group fits]
        cases survives fields o depth (.group clause children) <;> rfl

/-- A group stays exactly if one of its children does. -/
theorem isEmpty_restrict (clause : Clause) (children : List Condition) :
    (restrict (survives fields o) (depth + 1) children).isEmpty =
      !survives fields o depth (.group clause children) := by
  rw [survives_group, any_admits, Bool.eq_iff_iff, List.isEmpty_iff, restrict_eq_nil_iff]
  simp

/-- A node is pruned to itself or to nothing, by whether it stays; in the second case it is recorded
after what goes below it. -/
theorem pruneNode_eq (c : Condition)
    (below : (pruneForest fields o (depth + 1) c.children).conditions =
      restrict (survives fields o) (depth + 1) c.children) :
    pruneNode fields o depth c =
      ⟨restrict (survives fields o) depth [c],
        (if o.maxDepth < depth then []
          else (pruneForest fields o (depth + 1) c.children).removed) ++
            (removal? fields o (depth, c)).toList⟩ := by
  by_cases beyond : o.maxDepth < depth
  · simp only [removal?, reason?_tooDeep beyond, restrict_singleton, survives_tooDeep beyond,
      if_pos beyond]
    cases c with
    | leaf clause =>
        rw [pruneNode, if_pos beyond]
        rfl
    | group clause children =>
        rw [pruneNode, if_pos beyond]
        rfl
  · have fits := Nat.not_lt.mp beyond
    cases c with
    | leaf clause =>
        rw [pruneNode, if_neg beyond, if_neg beyond, restrict_singleton,
          survives_leaf_of_fits fits, removal?, reason?_leaf fits, children, pruneForest]
        cases leafReason? fields o clause.predicate <;> rfl
    | group clause children =>
        rw [Condition.children] at below
        simp only [pruneNode, if_neg beyond, restrict_singleton, removal?, reason?_group fits,
          below, isEmpty_restrict clause, Condition.children]
        cases survives fields o depth (.group clause children) <;>
          simp [restrictNode, Condition.id, Condition.clause]

theorem pruneForest_cons (c : Condition) (rest : List Condition) :
    pruneForest fields o depth (c :: rest) =
      (pruneNode fields o depth c).append (pruneForest fields o depth rest) := by
  rw [pruneForest]

/-- What sanitizing leaves are the nodes that stay. -/
theorem conditions_pruneForest (fields : Fields) (o : SanitizingPolicy) (depth : Nat)
    (forest : List Condition) :
    (pruneForest fields o depth forest).conditions =
      restrict (survives fields o) depth forest := by
  induction forest using forest_induction generalizing depth with
  | nil => rw [pruneForest, restrict_nil]
  | leaf clause rest ih =>
      have below : (pruneForest fields o (depth + 1) []).conditions = [] := by rw [pruneForest]
      rw [pruneForest_cons, pruneNode_eq (.leaf clause) (by rw [children, below, restrict_nil]),
        Sanitized.append, ih, ← restrict_cons]
  | group clause children rest ihc ihr =>
      rw [pruneForest_cons, pruneNode_eq (.group clause children) (ihc (depth + 1)),
        Sanitized.append, ihr, ← restrict_cons]

theorem removals_nil (fields : Fields) (o : SanitizingPolicy) (depth : Nat) :
    removals fields o depth [] = [] := by
  rw [removals, nodesFrom_nil, List.filter_nil, List.filterMap_nil]

theorem removals_cons (reached : depth ≤ o.maxDepth + 1) (c : Condition) (rest : List Condition) :
    removals fields o depth (c :: rest) =
      (removal? fields o (depth, c)).toList ++
        (removals fields o (depth + 1) c.children ++ removals fields o depth rest) := by
  have here : decide ((depth, c).1 ≤ o.maxDepth + 1) = true := decide_eq_true reached
  rw [removals, nodesFrom_cons, List.filter_cons, if_pos here, List.filterMap_cons,
    List.filter_append, List.filterMap_append, ← removals, ← removals]
  cases removal? fields o (depth, c) <;> rfl

/-- Below the first level that is too deep nothing is recorded. -/
theorem removals_unreached (beyond : o.maxDepth + 1 < depth) (forest : List Condition) :
    removals fields o depth forest = [] := by
  have unseen : (nodesFrom depth forest).filter (fun t => t.1 ≤ o.maxDepth + 1) = [] := by
    rw [List.filter_eq_nil_iff]
    intro t stands near
    exact absurd (Nat.le_trans (depth_le_of_mem stands) (of_decide_eq_true near))
      (Nat.not_le.mpr beyond)
  rw [removals, unseen, List.filterMap_nil]

/-- A tree adds its own record to those below it, where sanitizing goes there. -/
theorem removed_cons (reached : depth ≤ o.maxDepth + 1) (c : Condition) (rest : List Condition)
    (below : depth ≤ o.maxDepth → (pruneForest fields o (depth + 1) c.children).removed.Perm
      (removals fields o (depth + 1) c.children))
    (beside : (pruneForest fields o depth rest).removed.Perm (removals fields o depth rest)) :
    (pruneForest fields o depth (c :: rest)).removed.Perm
      (removals fields o depth (c :: rest)) := by
  have inside : (if o.maxDepth < depth then []
      else (pruneForest fields o (depth + 1) c.children).removed).Perm
        (removals fields o (depth + 1) c.children) := by
    split
    · rename_i beyond
      rw [removals_unreached (Nat.succ_lt_succ beyond)]
    · rename_i fits
      exact below (Nat.not_lt.mp fits)
  rw [pruneForest_cons, pruneNode_eq c (conditions_pruneForest fields o (depth + 1) c.children),
    Sanitized.append, removals_cons reached, ← List.append_assoc]
  exact (List.perm_append_comm.trans (inside.append_left _)).append beside

/-- What sanitizing records, but for the order: a group is recorded after its children. -/
theorem removed_pruneForest (reached : depth ≤ o.maxDepth + 1) (forest : List Condition) :
    (pruneForest fields o depth forest).removed.Perm (removals fields o depth forest) := by
  induction forest using forest_induction generalizing depth with
  | nil => rw [pruneForest, removals_nil]
  | leaf clause rest ih =>
      refine removed_cons reached (.leaf clause) rest (fun _ => ?_) (ih reached)
      rw [children, pruneForest, removals_nil]
  | group clause children rest ihc ihr =>
      exact removed_cons reached (.group clause children) rest
        (fun fits => ihc (Nat.succ_le_succ fits)) (ihr reached)

theorem shallow_survives (d : Nat) (c : Condition) (surviving : survives fields o d c = true) :
    d < o.maxDepth + 1 :=
  Nat.lt_succ_of_le (depth_of_survives surviving)

/-- Sanitizing leaves a forest as it is if no node within its reach goes. -/
theorem pruneForest_eq_self (reached : depth ≤ o.maxDepth + 1)
    (unrecorded : removals fields o depth forest = []) :
    pruneForest fields o depth forest = ⟨forest, []⟩ := by
  have all : ∀ t ∈ nodesFrom depth forest, t.1 ≤ o.maxDepth + 1 →
      survives fields o t.1 t.2 = true := by
    intro t stands near
    rw [removals, List.filterMap_eq_nil_iff] at unrecorded
    have absent := unrecorded t (List.mem_filter.mpr ⟨stands, decide_eq_true near⟩)
    rw [removal?, Option.map_eq_none_iff] at absent
    rw [← reason?_isNone, absent, Option.isNone_none]
  have conditions := conditions_pruneForest fields o depth forest
  have removed : (pruneForest fields o depth forest).removed.Perm
      (removals fields o depth forest) := removed_pruneForest reached forest
  rw [restrict_eq_self shallow_survives reached all] at conditions
  rw [unrecorded, List.perm_nil] at removed
  calc pruneForest fields o depth forest
      = ⟨(pruneForest fields o depth forest).conditions,
          (pruneForest fields o depth forest).removed⟩ := rfl
    _ = ⟨forest, []⟩ := by rw [conditions, removed]

/-- The leaves that are left are those that may stay. -/
theorem filter_isLeaf_restrict (depth : Nat) (forest : List Condition) :
    (nodesFrom depth (restrict (survives fields o) depth forest)).filter (fun t => t.2.isLeaf) =
      (nodesFrom depth forest).filter fun t => admits fields o t.1 t.2 := by
  have leaves (t : Nat × Condition) :
      (restrictNode (survives fields o) t.1 t.2).isLeaf = t.2.isLeaf := by
    cases t.2 <;> rfl
  have admitted (t : Nat × Condition) :
      (t.2.isLeaf && survives fields o t.1 t.2) = admits fields o t.1 t.2 := by
    obtain ⟨d, c⟩ := t
    cases c with
    | leaf clause => rw [survives_leaf, isLeaf, Bool.true_and]
    | group clause children => rw [isLeaf, admits, Bool.false_and]
  rw [nodesFrom_restrict (rooted_survives fields o), List.filter_map, List.filter_filter]
  simp only [Function.comp_def, leaves, admitted]
  refine (List.map_congr_left ?_).trans (List.map_id' _)
  rintro ⟨d, c⟩ stands
  cases c with
  | leaf clause => rfl
  | group clause children => cases (List.mem_filter.mp stands).2

theorem isLeaf_of_admits {c : Condition} (admitted : admits fields o depth c = true) :
    c.isLeaf = true := by
  cases c with
  | leaf clause => rfl
  | group clause children => cases admitted

/-- What speaks for a node to stay still stands in what is left. -/
theorem any_admits_restrict (depth : Nat) (forest : List Condition) :
    ((nodesFrom depth (restrict (survives fields o) depth forest)).any
        fun t => admits fields o t.1 t.2) =
      (nodesFrom depth forest).any fun t => admits fields o t.1 t.2 := by
  have among_leaves (ts : List (Nat × Condition)) :
      ts.any (fun t => admits fields o t.1 t.2) =
        (ts.filter fun t => t.2.isLeaf).any fun t => admits fields o t.1 t.2 := by
    rw [List.any_filter]
    congr 1
    funext t
    rw [Bool.eq_iff_iff, Bool.and_eq_true]
    exact ⟨fun admitted => ⟨isLeaf_of_admits admitted, admitted⟩, And.right⟩
  rw [among_leaves, filter_isLeaf_restrict, List.any_filter]
  simp only [Bool.and_self]

/-- Whatever is left of a forest stays when that is sanitized. -/
theorem survives_restrict {t : Nat × Condition}
    (stands : t ∈ nodesFrom depth (restrict (survives fields o) depth forest)) :
    survives fields o t.1 t.2 = true := by
  rw [nodesFrom_restrict (rooted_survives fields o), List.mem_map] at stands
  obtain ⟨⟨d, c⟩, inside, rfl⟩ := stands
  have surviving := (List.mem_filter.mp inside).2
  cases c with
  | leaf clause => exact surviving
  | group clause children =>
      rw [restrictNode, survives_group, any_admits_restrict, ← survives_group clause]
      exact surviving

/-- Where all nodes stay, nothing is recorded. -/
theorem removals_eq_nil (all : ∀ t ∈ nodesFrom depth forest, survives fields o t.1 t.2 = true) :
    removals fields o depth forest = [] := by
  rw [removals, List.filterMap_eq_nil_iff]
  intro t near
  rw [removal?, Option.map_eq_none_iff, ← Option.isNone_iff_eq_none, reason?_isNone]
  exact all t (List.mem_filter.mp near).1

/-- An account of a sanitizing by the reasons against single nodes: where there is none the node is
left, and where there is one it is recorded with it. -/
structure Account (o : SanitizingPolicy) (forest : List Condition) (result : Sanitized)
    (reason? : Nat → Condition → Option RemovalReason) : Prop where
  /-- What is left is the forest without the nodes that go. -/
  left : result.conditions = restrict (fun d c => (reason? d c).isNone) 0 forest
  /-- Its nodes are all those that stay, in their order and at their depth; of each only the
  children may be others. -/
  nodes : nodesFrom 0 result.conditions =
    ((nodesFrom 0 forest).filter fun t => (reason? t.1 t.2).isNone).map fun t =>
      (t.1, restrictNode (fun d c => (reason? d c).isNone) t.1 t.2)
  /-- Of the nodes down to the first level that is too deep, those that go are recorded, once
  each. -/
  recorded : result.removed.Perm
    (((nodesFrom 0 forest).filter fun t => t.1 ≤ o.maxDepth + 1).filterMap fun t =>
      (reason? t.1 t.2).map fun reason => ⟨t.2.id, reason⟩)
  /-- No node that is too deep stays. -/
  shallow : ∀ depth c, o.maxDepth < depth → reason? depth c = some (.tooDeep o.maxDepth)

theorem account (fields : Fields) (o : SanitizingPolicy) (forest : List Condition) :
    Account o forest (sanitize fields o forest) (reason? fields o) := by
  have stays : (fun d c => (reason? fields o d c).isNone) = survives fields o := by
    funext d c
    exact reason?_isNone fields o d c
  have left := conditions_pruneForest fields o 0 forest
  refine ⟨?_, ?_, removed_pruneForest (Nat.zero_le _) forest,
    fun _ c beyond => reason?_tooDeep beyond c⟩
  · rw [stays]
    exact left
  · rw [stays, sanitize, left, nodesFrom_restrict (rooted_survives fields o)]
    simp only [reason?_isNone]

/-- Sanitizing leaves or records every node within its reach, has nothing more to do afterwards,
and records nothing exactly if it changes nothing. -/
theorem sanitize_accounts (fields : Fields) (o : SanitizingPolicy) (forest : List Condition) :
    let once := sanitize fields o forest
    Account o forest once (reason? fields o) ∧
      sanitize fields o once.conditions = ⟨once.conditions, []⟩ ∧
      (once.removed = [] ↔ once.conditions = forest) := by
  intro once
  have again : sanitize fields o once.conditions = ⟨once.conditions, []⟩ := by
    apply pruneForest_eq_self (Nat.zero_le _)
    apply removals_eq_nil
    intro t stands
    have left : once.conditions = _ := conditions_pruneForest fields o 0 forest
    rw [left] at stands
    exact survives_restrict stands
  refine ⟨account fields o forest, again, ?_, ?_⟩
  · intro none
    have recorded : once.removed.Perm (removals fields o 0 forest) :=
      removed_pruneForest (Nat.zero_le _) forest
    rw [none, List.nil_perm] at recorded
    exact congrArg Sanitized.conditions (pruneForest_eq_self (Nat.zero_le _) recorded)
  · intro unchanged
    rw [unchanged] at again
    exact congrArg Sanitized.removed again

end RowFilter.Sanitizer
