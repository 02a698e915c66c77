import RowFilter.Pattern.Matching
import RowFilter.Proofs.Compilation.Provenance
import RowFilter.Proofs.Validation.Operands

/-! # The size of compiled criteria

The compiler counts on the forest: the children of a group before they compile, the depth of a node
as it is entered, the values of a list after a scalar has become one. Criteria are built from what
is left of the forest, and no larger: their connectives join no more parts than a group may have,
stand no deeper than a tree may be nested under the forest's own connective, and their membership
tests list as many values as a list may have.
-/

namespace RowFilter

open Outcome

namespace Constraint

/-- The values that a membership test compares with. -/
def members? : Constraint → Option (List Json)
  | isIn vs | notIn vs => some vs
  | eq _ | ne _ | gt _ | gte _ | lt _ | lte _ | contains _ | iContains _ | lowerContains _
  | startsWith _ | endsWith _ | regexp _ | range .. | isNull | isNotNull => none

variable {id : String} {op : Operator} {v : Json} {vs : List Json} {dialect : Dialect}
  {limits : Limits} {test : Constraint}

/-- A list that is taken for a membership test is neither empty nor over the ceiling, whether it
was given as a list or as a scalar. -/
theorem operandList_bounded (taken : operandList id op limits v = .ok vs) :
    1 ≤ vs.length ∧ vs.length ≤ limits.maxInValues := by
  cases v with
  | array items =>
      obtain ⟨filled, fits, rfl⟩ := operandList_array.mp taken
      refine ⟨?_, fits⟩
      cases vs with
      | nil => cases filled
      | cons v rest => simp
  | null | bool | number | string | object =>
      simp only [operandList, List.isEmpty_cons, Bool.false_eq_true, if_false] at taken
      split at taken
      · cases taken
      · rename_i fits
        cases taken
        exact ⟨Nat.le_refl 1, Nat.not_lt.mp fits⟩

/-- Membership tests get their values from nowhere else. -/
theorem operandList_of_members [PatternEngine]
    (compiled : ofOperand id op v dialect limits = .ok test)
    (listed : test.members? = some vs) : operandList id op limits v = .ok vs := by
  cases op with
  | isIn | notIn =>
      obtain ⟨taken, found, rfl⟩ := map_eq_ok.mp compiled
      cases listed
      exact found
  | like | startsWith | endsWith =>
      obtain ⟨text, _, rfl⟩ := map_eq_ok.mp compiled
      cases listed
  | ilike =>
      obtain ⟨text, _, rfl⟩ := map_eq_ok.mp compiled
      split at listed <;> cases listed
  | regex =>
      cases v with
      | string pattern =>
          rw [ofOperand] at compiled
          split at compiled <;> cases compiled
          cases listed
      | null | bool | number | array | object => cases compiled
  | between =>
      simp only [ofOperand] at compiled
      split at compiled <;> cases compiled
      cases listed
  | eq | neq | gt | gte | lt | lte | isNull | isNotNull | custom =>
      cases compiled
      cases listed

theorem members_bounded [PatternEngine] {value : Option Json}
    (compiled : ofOperator id op value dialect limits = .ok test)
    (listed : test.members? = some vs) : 1 ≤ vs.length ∧ vs.length ≤ limits.maxInValues := by
  have there : ∃ v, ofOperand id op v dialect limits = .ok test := by
    unfold ofOperator at compiled
    split at compiled
    · exact ⟨.null, compiled⟩
    · split at compiled
      · cases compiled
      · rename_i v _
        dsimp only at compiled
        split at compiled
        · cases compiled
        · exact ⟨v, compiled⟩
  obtain ⟨v, given⟩ := there
  exact operandList_bounded (operandList_of_members given listed)

end Constraint

namespace Criteria

/-- The test on a value that a node makes, if it makes one. -/
def constraint? : Criteria → Option Constraint
  | field _ test | relation _ _ test => some test
  | empty | allOf _ | anyOf _ | complement _ | raw .. | inMemory _ => none

/-- The tests on values that criteria are made of, from left to right. -/
def constraints (c : Criteria) : List Constraint := c.nodes.filterMap constraint?

/-- Only leaves test values. -/
theorem mem_constraints {c : Criteria} {test : Constraint} :
    test ∈ c.constraints ↔ ∃ node ∈ c.leaves, node.constraint? = some test := by
  rw [constraints, List.mem_filterMap]
  constructor
  · rintro ⟨node, stands, found⟩
    refine ⟨node, mem_leaves.mpr ⟨stands, ?_⟩, found⟩
    cases node with
    | field | relation => rfl
    | empty | allOf | anyOf | complement | raw | inMemory => cases found
  · rintro ⟨node, leaf, found⟩
    exact ⟨node, (mem_leaves.mp leaf).1, found⟩

end Criteria

namespace Compiler

variable {k : Compiler}

section

variable [PatternEngine]

/-- Without a handler, a leaf tests a value as an operator on an operand says. -/
theorem constraint_of_criteriaOfPredicate {id : String} {p : Predicate} {c : Criteria}
    {test : Constraint} (own : p.isCustom = false) (compiled : k.criteriaOfPredicate id p = .ok c)
    (found : c.constraint? = some test) : ∃ tag value, k.constraint id tag value = .ok test := by
  cases p with
  | raw text params =>
      obtain ⟨_, rfl⟩ := criteriaOfPredicate_raw.mp compiled
      cases found
  | custom => cases own
  | relation relation field tag value =>
      obtain ⟨name, _, _, _, given, rfl⟩ := criteriaOfPredicate_relation.mp compiled
      cases found
      exact ⟨tag, value, given⟩
  | field field tag value =>
      obtain ⟨name, _, _, _, given, rfl⟩ := criteriaOfPredicate_field.mp compiled
      cases found
      exact ⟨tag, value, given⟩

theorem members_criteriaOfForest {forest : List Condition} {logic : Logic} {c : Criteria}
    (unhandled : Condition.Unhandled k.registry forest)
    (compiled : k.criteriaOfForest forest logic = .ok c) {test : Constraint} {vs : List Json}
    (stands : test ∈ c.constraints) (listed : test.members? = some vs) :
    1 ≤ vs.length ∧ vs.length ≤ k.config.limits.maxInValues := by
  obtain ⟨part, leaf, found⟩ := Criteria.mem_constraints.mp stands
  obtain ⟨id, p, _, own, alone⟩ := predicate_of_mem_leaves unhandled compiled leaf
  obtain ⟨tag, value, given⟩ := constraint_of_criteriaOfPredicate own alone found
  obtain ⟨op, _, operand⟩ := constraint_eq_ok.mp given
  exact Constraint.members_bounded operand listed

/-- Whatever forest is compiled, and whether or not it would pass a validation: without handlers
the conjunctions and disjunctions of its criteria have no more parts than a group may have
children, no way through the criteria meets more connectives than the depth of a tree allows and
one, and every membership test has at least one value and no more than the limits admit. -/
theorem criteriaOfForest_bounded {forest : List Condition} {logic : Logic} {c : Criteria}
    (unhandled : Condition.Unhandled k.registry forest)
    (compiled : k.criteriaOfForest forest logic = .ok c) :
    (∀ parts, .allOf parts ∈ c.nodes ∨ .anyOf parts ∈ c.nodes →
      parts.length ≤ k.config.limits.maxConditionsPerGroup) ∧
    c.height ≤ k.config.limits.maxDepth + 1 ∧
    (∀ vs, .isIn vs ∈ c.constraints ∨ .notIn vs ∈ c.constraints →
      1 ≤ vs.length ∧ vs.length ≤ k.config.limits.maxInValues) := by
  refine ⟨?_, height_criteriaOfForest unhandled compiled, ?_⟩
  · intro parts stands
    exact ((normal_criteriaOfForest unhandled compiled).connective stands).2
  · rintro vs (member | excluded)
    · exact members_criteriaOfForest unhandled compiled member rfl
    · exact members_criteriaOfForest unhandled compiled excluded rfl

end

/-- Criteria that reach every bound: two parts where groups may have two, a negation below the
conjunction where trees may be nested once, and lists of one, one of them given as a scalar. -/
theorem criteriaOfForest_bounded_reached :
    let limits : Limits := { maxDepth := 1, maxConditionsPerGroup := 2, maxInValues := 1 }
    let k : Compiler :=
      { schema := { name := "User", fields := .ofList [("name", {})] }, config := { limits } }
    let forest : List Condition :=
      [.combining "g" .not [.onField "a" "name" .isIn (.string "x")],
       .onField "b" "name" .notIn (.array [.string "y"])]
    let parts : List Criteria :=
      [.complement (.field "name" (.isIn [.string "x"])), .field "name" (.notIn [.string "y"])]
    let c : Criteria := .allOf parts
    Condition.Unhandled k.registry forest ∧ k.criteriaOfForest forest .and = .ok c ∧
      parts.length = limits.maxConditionsPerGroup ∧ c.height = limits.maxDepth + 1 ∧
      c.constraints = [.isIn [.string "x"], .notIn [.string "y"]] ∧
      c.height ≤ limits.maxDepth + 1 ∧ parts.length ≤ limits.maxConditionsPerGroup ∧
      [Json.string "x"].length ≤ limits.maxInValues := by
  intro limits k forest parts c
  have unhandled : Condition.Unhandled k.registry forest := by
    simp [Condition.Unhandled, forest, Condition.combining, Condition.onField, Clause.predicate,
      Predicate.isHandled]
  have compiled : k.criteriaOfForest forest .and = .ok c := rfl
  obtain ⟨size, height, values⟩ := criteriaOfForest_bounded unhandled compiled
  have tests : c.constraints = [.isIn [.string "x"], .notIn [.string "y"]] := rfl
  have listed : Constraint.isIn [.string "x"] ∈ c.constraints := by simp [tests]
  exact ⟨unhandled, compiled, rfl, rfl, tests, height, size parts (.inl List.mem_cons_self),
    (values _ (.inl listed)).2⟩

end Compiler

end RowFilter
