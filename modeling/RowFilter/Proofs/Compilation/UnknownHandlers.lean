import RowFilter.Pattern.Matching
import RowFilter.Proofs.Compilation.Provenance
import RowFilter.Proofs.Condition.Depths

/-! # Predicates of unknown handlers

A predicate whose handler is not registered counts as absent. It compiles to criteria that say
nothing, and the group around it drops these before it looks at how many parts it has. Taking the
predicate out of the tree is therefore the same as leaving it there: the parts of a forest that say
anything stay the same, one by one, and nothing else is looked at when they are joined. Groups get
shorter in this way, so none of them comes to exceed the limits.
-/

namespace RowFilter

/-- Whether a test is left to a handler that is not registered. -/
def Predicate.isUnregistered (r : Registry) (p : Predicate) : Bool :=
  p.isCustom && !p.isHandled r

namespace Condition

/-- Whether a node is a test that is left to a handler that is not registered. -/
def isUnregistered (r : Registry) (c : Condition) : Bool :=
  c.predicate?.any fun p => p.isUnregistered r

/-- Every node but the tests of handlers that are not registered. -/
def known (r : Registry) : Nat → Condition → Bool := fun _ c => !c.isUnregistered r

/-- A forest without the tests of handlers that are not registered. All groups stay. -/
def withoutUnregistered (r : Registry) (forest : List Condition) : List Condition :=
  restrict (known r) 0 forest

@[simp] theorem known_leaf (r : Registry) (depth : Nat) (clause : Clause) :
    known r depth (leaf clause) = !clause.predicate.isUnregistered r := rfl

@[simp] theorem known_group (r : Registry) (depth : Nat) (clause : Clause)
    (children : List Condition) : known r depth (group clause children) = true := rfl

theorem length_restrict_le (kept : Nat → Condition → Bool) (depth : Nat)
    (forest : List Condition) : (restrict kept depth forest).length ≤ forest.length := by
  induction forest with
  | nil => simp
  | cons c rest ih =>
      simp only [restrict, List.length_cons]
      split
      · simpa using ih
      · omega

end Condition

namespace Compiler

open Criteria Condition

variable {k : Compiler}

/-- Joining looks at nothing but the parts that say something. -/
theorem join_congr {parts parts' : List Criteria} (same : substantive parts = substantive parts')
    (id : String) (logic : Logic) : join id logic parts = join id logic parts' := by
  unfold substantive at same
  cases logic <;> simp [join, Criteria.and, Criteria.or, combine, same]

section

variable [PatternEngine]

theorem criteriaOfPredicate_unregistered (id : String) {p : Predicate}
    (unregistered : p.isUnregistered k.registry = true) :
    k.criteriaOfPredicate id p = .ok .empty := by
  cases p with
  | custom handler tag value params =>
      have missing : k.registry.get? handler = none := by
        simpa [Predicate.isUnregistered, Predicate.isCustom, Predicate.isHandled,
          NameMap.contains] using unregistered
      rw [criteriaOfPredicate, criteriaOfHandler, missing]
  | raw | relation | field => cases unregistered

/-- A forest that compiles still does without the tests of unknown handlers, to parts of which the
same ones say something. -/
theorem criteriaOfAll_restrict_known {depth : Nat} {forest : List Condition}
    {parts : List Criteria} (compiled : k.criteriaOfAll depth forest = .ok parts) :
    ∃ left, k.criteriaOfAll depth (restrict (known k.registry) depth forest) = .ok left ∧
      substantive left = substantive parts := by
  induction forest using forest_induction generalizing depth parts with
  | nil => exact ⟨parts, by simpa using compiled, rfl⟩
  | leaf clause rest ih =>
      obtain ⟨part, others, here, beside, rfl⟩ := criteriaOfAll_cons.mp compiled
      obtain ⟨left, remaining, same⟩ := ih beside
      cases unregistered : clause.predicate.isUnregistered k.registry with
      | true =>
          have silent := criteriaOfPredicate_unregistered (k := k) clause.id unregistered
          rw [(criteriaOfNode_leaf.mp here).2] at silent
          cases silent
          refine ⟨left, by simpa [restrict, unregistered] using remaining, ?_⟩
          exact same.trans (substantive_cons_of_empty rfl others).symm
      | false =>
          refine ⟨part :: left, ?_, substantive_cons_congr same part⟩
          simp only [restrict, restrictNode, known_leaf, unregistered, Bool.not_false, if_true]
          exact criteriaOfAll_cons.mpr ⟨part, left, here, remaining, rfl⟩
  | group clause children rest ihc ihr =>
      obtain ⟨part, others, here, beside, rfl⟩ := criteriaOfAll_cons.mp compiled
      obtain ⟨fits, size, logic, below, given, inner, joined⟩ := criteriaOfNode_group.mp here
      obtain ⟨left, remaining, same⟩ := ihr beside
      obtain ⟨lower, shorter, alike⟩ := ihc inner
      have fewer := length_restrict_le (known k.registry) (depth + 1) children
      rw [← join_congr alike] at joined
      refine ⟨part :: left, ?_, substantive_cons_congr same part⟩
      simp only [restrict, restrictNode, known_group, if_true]
      apply criteriaOfAll_cons.mpr
      refine ⟨part, left, ?_, remaining, rfl⟩
      exact criteriaOfNode_group.mpr
        ⟨fits, Nat.le_trans fewer size, logic, lower, given, shorter, joined⟩

/-- A predicate whose handler is not registered counts as absent: without all such predicates, at
every depth and with every group kept, a forest that compiles still does, to the same criteria. -/
theorem criteriaOfForest_withoutUnregistered {forest : List Condition} {logic : Logic}
    {c : Criteria} (compiled : k.criteriaOfForest forest logic = .ok c) :
    k.criteriaOfForest (withoutUnregistered k.registry forest) logic = .ok c := by
  obtain ⟨size, parts, all, joined⟩ := criteriaOfForest_eq_ok.mp compiled
  obtain ⟨left, remaining, same⟩ := criteriaOfAll_restrict_known all
  have fewer := length_restrict_le (known k.registry) 0 forest
  rw [← join_congr same] at joined
  exact criteriaOfForest_eq_ok.mpr ⟨Nat.le_trans fewer size, left, remaining, joined⟩

end

/-- Of three tests of handlers one is registered; of the others, one is beside the part of a
negation and one is all that its group has. -/
theorem criteriaOfForest_withoutUnregistered_negation :
    let answer : Criteria := .raw "premium = 1" []
    let k : Compiler :=
      { schema := { name := "User", fields := .ofList [("name", {})] },
        registry := .ofList [("User.premium", { build := fun _ _ _ _ => .ok answer })] }
    let test : Condition := .onField "a" "name" .eq (.string "x")
    let unknown : Condition := .custom "u" "missing" .eq .null
    let premium : Condition := .custom "p" "User.premium" .eq .null
    let forest : List Condition :=
      [.combining "g" .not [unknown, test], .combining "h" .or [unknown], premium]
    let c : Criteria := .allOf [.complement (.field "name" (.eq (.string "x"))), answer]
    withoutUnregistered k.registry forest =
        [.combining "g" .not [test], .combining "h" .or [], premium] ∧
      k.criteriaOfForest forest .and = .ok c ∧
      k.criteriaOfForest (withoutUnregistered k.registry forest) .and = .ok c := by
  intro answer k test unknown premium forest c
  have compiled : k.criteriaOfForest forest .and = .ok c := rfl
  exact ⟨rfl, compiled, criteriaOfForest_withoutUnregistered compiled⟩

end Compiler

end RowFilter
