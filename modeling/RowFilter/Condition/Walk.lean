import RowFilter.Condition.Tree

/-! # Walking a forest

`Condition.nodes` lists the nodes of a forest in document order, a group before its children. It
works off a list of pending trees, so its depth of recursion does not grow with the depth of the
forest. `Condition.mapForest` rewrites every node and keeps the shape. -/

namespace RowFilter.Condition

/-- All nodes of a forest in document order. -/
def nodes : List Condition → List Condition
  | [] => []
  | leaf c :: pending => leaf c :: nodes pending
  | group c children :: pending => group c children :: nodes (children ++ pending)
termination_by pending => forestSize pending
decreasing_by
  · simp [forestSize, size]
  · simp [forestSize, size]

/-- The field that a field test names. -/
def testedField? : Condition → Option String
  | group _ _ => none
  | leaf c =>
    match c.predicate with
    | .field field _ _ => field
    | _ => none

/-- The fields that field tests name, each at its first occurrence. -/
def testedFields (forest : List Condition) : List String :=
  ((nodes forest).filterMap testedField?).eraseDups

/-- The operator tags of all nodes, each at its first occurrence. -/
def operatorTags (forest : List Condition) : List String :=
  ((nodes forest).filterMap fun c => c.clause.operator).eraseDups

/-- The depth of the deepest node from here on, each pending tree standing at its own depth. -/
def deepest (found : Nat) : List (Nat × Condition) → Nat
  | [] => found
  | (depth, leaf _) :: pending => deepest (max found depth) pending
  | (depth, group _ children) :: pending =>
    deepest (max found depth) (children.map (fun c => (depth + 1, c)) ++ pending)
termination_by pending => forestSize (pending.map Prod.snd)
decreasing_by
  · simp [forestSize, size]
  · simp [forestSize, size, Function.comp_def]

/-- How deep a forest is nested: a flat one has depth 0. -/
def forestDepth (forest : List Condition) : Nat := deepest 0 (forest.map fun c => (0, c))

mutual

/-- Rewrites the clause of every node. -/
def mapClauses (f : Clause → Clause) : Condition → Condition
  | leaf c => leaf (f c)
  | group c children => group (f c) (mapForest f children)

def mapForest (f : Clause → Clause) : List Condition → List Condition
  | [] => []
  | c :: rest => mapClauses f c :: mapForest f rest

end

end RowFilter.Condition
