import RowFilter.Condition.Walk

/-! # Recursion over forests

`Condition.nodes` works off a list of pending trees. Read as a recursion it visits a node, then
the node's children, then the trees beside it; every statement about all nodes of a forest is
proved along that recursion.
-/

namespace RowFilter.Condition

theorem nodes_nil : nodes [] = [] := by rw [nodes]

theorem nodes_append (before after : List Condition) :
    nodes (before ++ after) = nodes before ++ nodes after := by
  induction before using nodes.induct with
  | case1 => rw [nodes_nil, List.nil_append, List.nil_append]
  | case2 c pending ih => rw [List.cons_append, nodes, nodes, ih, List.cons_append]
  | case3 c children pending ih =>
      rw [List.cons_append, nodes, ← List.append_assoc, ih, nodes, List.cons_append]

/-- A node stands before its children, and these before the trees beside it. -/
theorem nodes_cons (c : Condition) (rest : List Condition) :
    nodes (c :: rest) = c :: (nodes c.children ++ nodes rest) := by
  cases c with
  | leaf clause => rw [nodes, children, nodes_nil, List.nil_append]
  | group clause below => rw [nodes, nodes_append, children]

/-- Induction over forests: a leaf in front of a forest, and a group, whose children are a
forest of their own, in front of a forest. -/
@[elab_as_elim]
theorem forest_induction {motive : List Condition → Prop} (nil : motive [])
    (leaf : ∀ clause rest, motive rest → motive (leaf clause :: rest))
    (group : ∀ clause children rest, motive children → motive rest →
      motive (group clause children :: rest)) (forest : List Condition) : motive forest := by
  match forest with
  | [] => exact nil
  | .leaf clause :: rest => exact leaf clause rest (forest_induction nil leaf group rest)
  | .group clause children :: rest =>
      exact group clause children rest (forest_induction nil leaf group children)
        (forest_induction nil leaf group rest)
termination_by forestSize forest
decreasing_by
  all_goals simp only [forestSize, size]
  all_goals omega

@[simp] theorem clause_mapClauses (f : Clause → Clause) (c : Condition) :
    (mapClauses f c).clause = f c.clause := by
  cases c <;> rfl

theorem children_mapClauses (f : Clause → Clause) (c : Condition) :
    (mapClauses f c).children = mapForest f c.children := by
  cases c <;> rfl

/-- Rewriting every clause rewrites the nodes one by one, in their places. -/
theorem nodes_mapForest (f : Clause → Clause) (forest : List Condition) :
    nodes (mapForest f forest) = (nodes forest).map (mapClauses f) := by
  induction forest using forest_induction with
  | nil => rw [mapForest, nodes_nil, List.map_nil]
  | leaf clause rest ih =>
      rw [mapForest, nodes_cons, children_mapClauses, nodes_cons, ih]
      simp only [children, mapForest, nodes_nil, List.nil_append, List.map_cons]
  | group clause children rest ihc ihr =>
      rw [mapForest, nodes_cons, children_mapClauses, nodes_cons, ihr]
      simp only [Condition.children, ihc, List.map_cons, List.map_append]

/-- A rewriting that leaves the clause of every node leaves the forest. -/
theorem mapForest_eq_self {f : Clause → Clause} {forest : List Condition}
    (h : ∀ c ∈ nodes forest, f c.clause = c.clause) : mapForest f forest = forest := by
  induction forest using forest_induction with
  | nil => rfl
  | leaf clause rest ih =>
      simp only [nodes_cons, children, nodes_nil, List.nil_append, List.forall_mem_cons] at h
      rw [mapForest, mapClauses, ih h.2]
      exact congrArg (fun c => leaf c :: rest) h.1
  | group clause children rest ihc ihr =>
      simp only [nodes_cons, Condition.children, List.forall_mem_cons, List.forall_mem_append] at h
      rw [mapForest, mapClauses, ihc h.2.1, ihr h.2.2]
      exact congrArg (fun c => group c children :: rest) h.1

/-- Two forests of the same shape, with related clauses in the same places. -/
inductive NodeByNode (r : Clause → Clause → Prop) : List Condition → List Condition → Prop where
  | nil : NodeByNode r [] []
  | leaf {c c' : Clause} {rest rest' : List Condition} :
    r c c' → NodeByNode r rest rest' → NodeByNode r (leaf c :: rest) (leaf c' :: rest')
  | group {c c' : Clause} {children children' rest rest' : List Condition} :
    r c c' → NodeByNode r children children' → NodeByNode r rest rest' →
    NodeByNode r (group c children :: rest) (group c' children' :: rest')

theorem nodeByNode_mapForest {r : Clause → Clause → Prop} {f : Clause → Clause}
    {forest : List Condition} (related : ∀ c ∈ nodes forest, r c.clause (f c.clause)) :
    NodeByNode r forest (mapForest f forest) := by
  induction forest using forest_induction with
  | nil => exact .nil
  | leaf clause rest ih =>
      simp only [nodes_cons, children, nodes_nil, List.nil_append, List.forall_mem_cons] at related
      exact .leaf related.1 (ih related.2)
  | group clause children rest ihc ihr =>
      simp only [nodes_cons, Condition.children, List.forall_mem_cons,
        List.forall_mem_append] at related
      exact .group related.1 (ihc related.2.1) (ihr related.2.2)

/-- What every clause on the right is shown to be, every node on the right is. -/
theorem NodeByNode.forall_nodes {r : Clause → Clause → Prop} {p : Clause → Prop}
    {forest forest' : List Condition} (alike : NodeByNode r forest forest')
    (h : ∀ c c', r c c' → p c') : ∀ c ∈ nodes forest', p c.clause := by
  induction alike with
  | nil => simp [nodes_nil]
  | leaf related _ ih =>
      simpa only [nodes_cons, children, nodes_nil, List.nil_append, List.forall_mem_cons]
        using ⟨h _ _ related, ih⟩
  | group related _ _ ihc ihr =>
      simpa only [nodes_cons, Condition.children, List.forall_mem_cons, List.forall_mem_append]
        using ⟨h _ _ related, ihc, ihr⟩

/-- What a leaf tests; a group tests nothing itself. -/
def predicate? : Condition → Option Predicate
  | leaf clause => some clause.predicate
  | group _ _ => none

/-- The predicates of a forest in document order. -/
def predicates (forest : List Condition) : List Predicate := (nodes forest).filterMap predicate?

theorem mem_predicates {forest : List Condition} {p : Predicate} :
    p ∈ predicates forest ↔ ∃ clause, leaf clause ∈ nodes forest ∧ clause.predicate = p := by
  rw [predicates, List.mem_filterMap]
  constructor
  · rintro ⟨c, stands, found⟩
    cases c with
    | leaf clause =>
        cases found
        exact ⟨clause, stands, rfl⟩
    | group clause children => cases found
  · rintro ⟨clause, stands, rfl⟩
    exact ⟨.leaf clause, stands, rfl⟩

@[simp] theorem predicates_nil : predicates [] = [] := by
  rw [predicates, nodes_nil, List.filterMap_nil]

theorem predicates_append (before after : List Condition) :
    predicates (before ++ after) = predicates before ++ predicates after := by
  rw [predicates, nodes_append, List.filterMap_append, ← predicates, ← predicates]

@[simp] theorem predicates_leaf_cons (clause : Clause) (rest : List Condition) :
    predicates (leaf clause :: rest) = clause.predicate :: predicates rest := by
  simp only [predicates, nodes_cons, children, nodes_nil, List.nil_append, predicate?,
    List.filterMap_cons]

@[simp] theorem predicates_group_cons (clause : Clause) (children rest : List Condition) :
    predicates (group clause children :: rest) = predicates children ++ predicates rest := by
  simp only [predicates, nodes_cons, Condition.children, predicate?, List.filterMap_cons,
    List.filterMap_append]

theorem mem_operatorTags {forest : List Condition} {tag : String} :
    tag ∈ operatorTags forest ↔ ∃ c ∈ nodes forest, c.clause.operator = some tag := by
  rw [operatorTags, List.mem_eraseDups, List.mem_filterMap]

end RowFilter.Condition
