import RowFilter.Proofs.Condition.Forest

/-! # Depths of nodes

`Condition.nodesFrom` lists the nodes of a forest in document order, each with the depth that it
stands at; the deepest of them gives the depth of the forest. `Condition.restrict` cuts a forest
down to the nodes that a predicate on depth and node keeps. Where nothing is kept below a node that
is not, the nodes of what is left are the kept ones, each at its depth and in its order.
-/

namespace RowFilter.Condition

mutual

/-- The nodes of a tree that stands at a given depth. -/
def nodesOf (depth : Nat) : Condition → List (Nat × Condition)
  | leaf clause => [(depth, leaf clause)]
  | group clause children => (depth, group clause children) :: nodesFrom (depth + 1) children

/-- The nodes of a forest, all of whose trees stand at a given depth. -/
def nodesFrom (depth : Nat) : List Condition → List (Nat × Condition)
  | [] => []
  | c :: rest => nodesOf depth c ++ nodesFrom depth rest

end

theorem nodesOf_eq (depth : Nat) (c : Condition) :
    nodesOf depth c = (depth, c) :: nodesFrom (depth + 1) c.children := by
  cases c with
  | leaf clause => rw [nodesOf, children, nodesFrom]
  | group clause below => rw [nodesOf, children]

@[simp] theorem nodesFrom_nil (depth : Nat) : nodesFrom depth [] = [] := by rw [nodesFrom]

theorem nodesFrom_cons (depth : Nat) (c : Condition) (rest : List Condition) :
    nodesFrom depth (c :: rest) =
      (depth, c) :: (nodesFrom (depth + 1) c.children ++ nodesFrom depth rest) := by
  rw [nodesFrom, nodesOf_eq, List.cons_append]

@[simp] theorem nodesFrom_leaf_cons (depth : Nat) (clause : Clause) (rest : List Condition) :
    nodesFrom depth (leaf clause :: rest) = (depth, leaf clause) :: nodesFrom depth rest := by
  rw [nodesFrom_cons, children, nodesFrom_nil, List.nil_append]

@[simp] theorem nodesFrom_group_cons (depth : Nat) (clause : Clause)
    (children rest : List Condition) :
    nodesFrom depth (group clause children :: rest) =
      (depth, group clause children) :: (nodesFrom (depth + 1) children ++ nodesFrom depth rest) :=
  nodesFrom_cons depth (group clause children) rest

theorem nodesFrom_eq_flatMap (depth : Nat) (forest : List Condition) :
    nodesFrom depth forest = forest.flatMap (nodesOf depth) := by
  induction forest with
  | nil => rw [nodesFrom_nil, List.flatMap_nil]
  | cons c rest ih => rw [nodesFrom, List.flatMap_cons, ih]

def isLeaf : Condition → Bool
  | leaf _ => true
  | group _ _ => false

/-- The nodes are those of the walk, and each is listed once. -/
theorem map_snd_nodesFrom (depth : Nat) (forest : List Condition) :
    (nodesFrom depth forest).map Prod.snd = nodes forest := by
  induction forest using forest_induction generalizing depth with
  | nil => rw [nodesFrom_nil, nodes_nil, List.map_nil]
  | leaf clause rest ih =>
      rw [nodesFrom_leaf_cons, List.map_cons, ih, nodes_cons, children, nodes_nil, List.nil_append]
  | group clause children rest ihc ihr =>
      rw [nodesFrom_group_cons, List.map_cons, List.map_append, ihc, ihr, nodes_cons]
      rfl

theorem mem_nodes {forest : List Condition} {c : Condition} (depth : Nat) :
    c ∈ nodes forest ↔ ∃ d, (d, c) ∈ nodesFrom depth forest := by
  rw [← map_snd_nodesFrom depth, List.mem_map]
  constructor
  · rintro ⟨⟨d, _⟩, stands, rfl⟩
    exact ⟨d, stands⟩
  · rintro ⟨d, stands⟩
    exact ⟨(d, c), stands, rfl⟩

theorem depth_le_of_mem {depth : Nat} {forest : List Condition} {t : Nat × Condition}
    (stands : t ∈ nodesFrom depth forest) : depth ≤ t.1 := by
  induction forest using forest_induction generalizing depth with
  | nil => simp at stands
  | leaf clause rest ih =>
      rw [nodesFrom_leaf_cons, List.mem_cons] at stands
      rcases stands with rfl | beside
      · exact Nat.le_refl depth
      · exact ih beside
  | group clause children rest ihc ihr =>
      rw [nodesFrom_group_cons, List.mem_cons, List.mem_append] at stands
      rcases stands with rfl | below | beside
      · exact Nat.le_refl depth
      · exact Nat.le_of_succ_le (ihc below)
      · exact ihr beside

/-- Depths have no gaps: above a node there is one at every depth from the roots on. -/
theorem exists_at_depth {depth d : Nat} {forest : List Condition} {t : Nat × Condition}
    (stands : t ∈ nodesFrom depth forest) (reached : depth ≤ d) (within : d ≤ t.1) :
    ∃ s ∈ nodesFrom depth forest, s.1 = d := by
  induction forest using forest_induction generalizing depth with
  | nil => simp at stands
  | leaf clause rest ih =>
      rw [nodesFrom_leaf_cons] at stands ⊢
      rcases List.mem_cons.mp stands with rfl | beside
      · exact ⟨_, List.mem_cons_self, Nat.le_antisymm reached within⟩
      · obtain ⟨s, inside, same⟩ := ih beside reached
        exact ⟨s, List.mem_cons_of_mem _ inside, same⟩
  | group clause children rest ihc ihr =>
      rw [nodesFrom_group_cons] at stands ⊢
      rw [List.mem_cons, List.mem_append] at stands
      rcases stands with rfl | below | beside
      · exact ⟨_, List.mem_cons_self, Nat.le_antisymm reached within⟩
      · rcases Nat.eq_or_lt_of_le reached with same | deeper
        · exact ⟨_, List.mem_cons_self, same⟩
        · obtain ⟨s, inside, same⟩ := ihc below deeper
          exact ⟨s, List.mem_cons_of_mem _ (List.mem_append_left _ inside), same⟩
      · obtain ⟨s, inside, same⟩ := ihr beside reached
        exact ⟨s, List.mem_cons_of_mem _ (List.mem_append_right _ inside), same⟩

/-- What the loop over pending trees finds is the depth of the deepest of their nodes. -/
theorem deepest_le_iff {d found : Nat} {pending : List (Nat × Condition)} :
    deepest found pending ≤ d ↔
      found ≤ d ∧ ∀ t ∈ pending.flatMap fun t => nodesOf t.1 t.2, t.1 ≤ d := by
  induction found, pending using deepest.induct with
  | case1 found => simp [deepest]
  | case2 found depth clause pending ih =>
      rw [deepest, ih, List.flatMap_cons, nodesOf, List.singleton_append, List.forall_mem_cons,
        Nat.max_le, and_assoc]
  | case3 found depth clause children pending ih =>
      have pushed : (children.attach.map fun ⟨c, _⟩ => (depth + 1, c)) =
          children.map fun c => (depth + 1, c) := List.attach_map_val
      have below : (children.map fun c => (depth + 1, c)).flatMap (fun t => nodesOf t.1 t.2) =
          nodesFrom (depth + 1) children := by
        rw [List.flatMap_map, nodesFrom_eq_flatMap]
      rw [pushed, List.flatMap_append, below] at ih
      rw [deepest, ih, List.flatMap_cons, nodesOf, List.cons_append, List.forall_mem_cons,
        Nat.max_le, and_assoc]

/-- A forest is as deep as its deepest node. -/
theorem forestDepth_le_iff {d : Nat} {forest : List Condition} :
    forestDepth forest ≤ d ↔ ∀ t ∈ nodesFrom 0 forest, t.1 ≤ d := by
  rw [forestDepth, deepest_le_iff, List.flatMap_map, ← nodesFrom_eq_flatMap]
  exact and_iff_right (Nat.zero_le d)

/-- A forest is deeper than a limit exactly if a node stands one level below it. -/
theorem lt_forestDepth_iff {d : Nat} {forest : List Condition} :
    d < forestDepth forest ↔ ∃ t ∈ nodesFrom 0 forest, t.1 = d + 1 := by
  constructor
  · intro deep
    rw [← Nat.not_le, forestDepth_le_iff, Classical.not_forall] at deep
    obtain ⟨t, deep⟩ := deep
    rw [Classical.not_imp, Nat.not_le] at deep
    exact exists_at_depth deep.1 (Nat.zero_le _) deep.2
  · rintro ⟨t, stands, level⟩
    have reached := forestDepth_le_iff.mp (Nat.le_refl (forestDepth forest)) t stands
    omega

/-- Rewriting every clause leaves every node at its depth. -/
theorem nodesFrom_mapForest (f : Clause → Clause) (depth : Nat) (forest : List Condition) :
    nodesFrom depth (mapForest f forest) =
      (nodesFrom depth forest).map fun t => (t.1, mapClauses f t.2) := by
  induction forest using forest_induction generalizing depth with
  | nil => rw [mapForest, nodesFrom_nil, List.map_nil]
  | leaf clause rest ih =>
      rw [mapForest, mapClauses, nodesFrom_leaf_cons, nodesFrom_leaf_cons, ih, List.map_cons,
        mapClauses]
  | group clause children rest ihc ihr =>
      rw [mapForest, mapClauses, nodesFrom_group_cons, nodesFrom_group_cons, ihc, ihr,
        List.map_cons, List.map_append, mapClauses]

theorem nodesOf_mapClauses (f : Clause → Clause) (depth : Nat) (c : Condition) :
    nodesOf depth (mapClauses f c) = (nodesOf depth c).map fun t => (t.1, mapClauses f t.2) := by
  rw [nodesOf_eq, nodesOf_eq, children_mapClauses, nodesFrom_mapForest, List.map_cons]

mutual

/-- A node with what is kept of its children. -/
def restrictNode (kept : Nat → Condition → Bool) (depth : Nat) : Condition → Condition
  | leaf clause => leaf clause
  | group clause children => group clause (restrict kept (depth + 1) children)

/-- The kept trees of a forest, each with what is kept below it. -/
def restrict (kept : Nat → Condition → Bool) (depth : Nat) : List Condition → List Condition
  | [] => []
  | c :: rest =>
    if kept depth c then restrictNode kept depth c :: restrict kept depth rest
    else restrict kept depth rest

end

section Restrict

variable {kept : Nat → Condition → Bool} {depth : Nat} {forest : List Condition}

@[simp] theorem restrict_nil (kept : Nat → Condition → Bool) (depth : Nat) :
    restrict kept depth [] = [] := by rw [restrict]

/-- What is kept of one tree. -/
theorem restrict_singleton (c : Condition) :
    restrict kept depth [c] = if kept depth c then [restrictNode kept depth c] else [] := by
  rw [restrict, restrict_nil]

theorem restrict_cons (c : Condition) (rest : List Condition) :
    restrict kept depth (c :: rest) = restrict kept depth [c] ++ restrict kept depth rest := by
  rw [restrict_singleton, restrict]
  split <;> rfl

/-- Nothing is left of a forest if none of its trees is kept. -/
theorem restrict_eq_nil_iff :
    restrict kept depth forest = [] ↔ ∀ c ∈ forest, kept depth c = false := by
  induction forest with
  | nil => simp
  | cons c rest ih => cases here : kept depth c <;> simp [restrict, here, ih]

/-- A predicate that keeps nothing below a node without the node. -/
def Rooted (kept : Nat → Condition → Bool) : Prop :=
  ∀ depth c, ∀ t ∈ nodesFrom (depth + 1) c.children, kept t.1 t.2 = true → kept depth c = true

/-- The nodes of what is left are the kept nodes, in their order and at their depth. -/
theorem nodesFrom_restrict (rooted : Rooted kept) :
    nodesFrom depth (restrict kept depth forest) =
      ((nodesFrom depth forest).filter fun t => kept t.1 t.2).map fun t =>
        (t.1, restrictNode kept t.1 t.2) := by
  induction forest using forest_induction generalizing depth with
  | nil => simp
  | leaf clause rest ih =>
      cases here : kept depth (leaf clause) <;> simp [restrict, restrictNode, here, ih]
  | group clause children rest ihc ihr =>
      cases here : kept depth (group clause children) with
      | true => simp [restrict, restrictNode, here, ihc, ihr]
      | false =>
          have below : (nodesFrom (depth + 1) children).filter (fun t => kept t.1 t.2) = [] := by
            rw [List.filter_eq_nil_iff]
            intro t stands surviving
            rw [rooted depth (group clause children) t stands surviving] at here
            cases here
          simp [restrict, here, ihr, below]

/-- A forest is left as it is if nothing is kept from some depth on and everything down to there
is. -/
theorem restrict_eq_self {limit : Nat} (shallow : ∀ d c, kept d c = true → d < limit)
    (fits : depth ≤ limit) (all : ∀ t ∈ nodesFrom depth forest, t.1 ≤ limit → kept t.1 t.2 = true) :
    restrict kept depth forest = forest := by
  induction forest using forest_induction generalizing depth with
  | nil => exact restrict_nil kept depth
  | leaf clause rest ih =>
      rw [nodesFrom_leaf_cons, List.forall_mem_cons] at all
      rw [restrict, if_pos (all.1 fits), restrictNode, ih fits all.2]
  | group clause children rest ihc ihr =>
      rw [nodesFrom_group_cons, List.forall_mem_cons, List.forall_mem_append] at all
      have here := all.1 fits
      rw [restrict, if_pos here, restrictNode, ihc (shallow _ _ here) all.2.1, ihr fits all.2.2]

theorem restrict_congr {kept' : Nat → Condition → Bool}
    (same : ∀ t ∈ nodesFrom depth forest, kept t.1 t.2 = kept' t.1 t.2) :
    restrict kept depth forest = restrict kept' depth forest := by
  induction forest using forest_induction generalizing depth with
  | nil => rw [restrict_nil, restrict_nil]
  | leaf clause rest ih =>
      rw [nodesFrom_leaf_cons, List.forall_mem_cons] at same
      rw [restrict, restrict, restrictNode, restrictNode, same.1, ih same.2]
  | group clause children rest ihc ihr =>
      rw [nodesFrom_group_cons, List.forall_mem_cons, List.forall_mem_append] at same
      rw [restrict, restrict, restrictNode, restrictNode, same.1, ihc same.2.1, ihr same.2.2]

/-- It is the same to rewrite the clauses before or after nodes are dropped, if those are judged
as they are after the rewriting. -/
theorem restrict_mapForest (f : Clause → Clause) :
    restrict kept depth (mapForest f forest) =
      mapForest f (restrict (fun d c => kept d (mapClauses f c)) depth forest) := by
  induction forest using forest_induction generalizing depth with
  | nil => rw [mapForest, restrict_nil, restrict_nil, mapForest]
  | leaf clause rest ih =>
      cases here : kept depth (leaf (f clause)) <;>
        simp [mapForest, mapClauses, restrict, restrictNode, here, ih]
  | group clause children rest ihc ihr =>
      cases here : kept depth (group (f clause) (mapForest f children)) <;>
        simp [mapForest, mapClauses, restrict, restrictNode, here, ihc, ihr]

end Restrict

end RowFilter.Condition
