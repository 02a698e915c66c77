import RowFilter.Pattern.Matching
import RowFilter.Proofs.Compilation.Inversion
import RowFilter.Proofs.Criteria.Answers
import RowFilter.Proofs.Criteria.Combination

/-! # Compiled filters mean what the tree says

A tree is read on a row by recursion, without criteria: a predicate says whether its constraint
accepts the value it is about, a group says what its logic makes of those of its children that
say anything, and a group of which no child does says nothing. The criteria of a forest evaluate
on every row to its reading, and never fail.

The compiler drops a part that says nothing, and what the absent part would have stood for
depends on the group around it. The invariant is therefore not about truth values: the parts
that are left evaluate, in their order, to the readings of exactly the children that say
anything.
-/

namespace RowFilter

open Outcome

/-- A predicate that rows alone decide: neither raw text nor left to a handler. -/
def Predicate.isTest : Predicate → Bool
  | .field .. | .relation .. => true
  | .raw .. | .custom .. => false

/-- A forest in which every predicate is decided by rows alone. -/
def Condition.Plain (forest : List Condition) : Prop :=
  ∀ p ∈ Condition.predicates forest, p.isTest = true

/-- Whether a test holds of a row: the constraint of its operator and operand accepts the value
of its field. -/
def Predicate.holds [PatternEngine] (k : Compiler) (row : Row) (id : String) : Predicate → Bool
  | .field name tag value =>
    (k.constraint id tag value).toOption.any fun c => c.accepts (Json.member? row (name.getD ""))
  | .relation related name tag value =>
    (k.constraint id tag value).toOption.any fun c =>
      c.acceptsRelated (Json.member? row related) (name.getD "")
  | .raw .. | .custom .. => false

/-- What a logic makes of the values of at least one child. A negation has a single one. -/
def Logic.verdict (values : List Bool) : Logic → Bool
  | .and => values.all id
  | .or => values.any id
  | .not => !values.any id

/-- What a group says whose children say `values`, those left out that say nothing. -/
def Logic.reading (logic : Logic) (values : List Bool) : Option Bool :=
  if values.isEmpty then none else some (logic.verdict values)

namespace Condition

/-- The logic of a group: conjunction where none is given. -/
def logic (clause : Clause) : Logic := (clause.logic.bind Logic.ofTag?).getD .and

variable [PatternEngine]

mutual

/-- What a tree says of a row. -/
def reading (k : Compiler) (row : Row) : Condition → Option Bool
  | leaf clause => some (clause.predicate.holds k row clause.id)
  | group clause children => (logic clause).reading (readings k row children)

/-- What the trees of a forest say, those left out that say nothing. -/
def readings (k : Compiler) (row : Row) : List Condition → List Bool
  | [] => []
  | c :: rest => (reading k row c).toList ++ readings k row rest

end

/-- Whether a row matches a forest under a logic. A forest that says nothing matches every row. -/
def admits (k : Compiler) (logic : Logic) (forest : List Condition) (row : Row) : Bool :=
  (logic.reading (readings k row forest)).getD true

end Condition

namespace Criteria

section

variable [PatternEngine]

/-- Whether a row satisfies criteria, where evaluation does not fail. -/
def holds (row : Row) (c : Criteria) : Bool := (c.evaluate row).toOption.getD false

/-- Criteria tell of a row what a reading says: nothing, or a truth value. -/
inductive Tells (row : Row) : Criteria → Option Bool → Prop where
  | nothing : Tells row .empty none
  | truth {c : Criteria} {b : Bool} :
    c.isEmpty = false → c.evaluate row = .ok b → Tells row c (some b)

theorem Tells.evaluate {row : Row} {c : Criteria} {said : Option Bool} (h : Tells row c said) :
    c.evaluate row = .ok (said.getD true) := by
  cases h with
  | nothing => rw [Criteria.evaluate]; rfl
  | truth _ value => exact value

theorem Tells.cons {row : Row} {c : Criteria} {said : Option Bool} {rest : List Criteria}
    {values : List Bool} (h : Tells row c said) (others : Evaluates row (substantive rest) values) :
    Evaluates row (substantive (c :: rest)) (said.toList ++ values) := by
  cases h with
  | nothing => rw [substantive_cons_of_empty rfl]; exact others
  | truth kept value => rw [substantive_cons_of_said kept]; exact .cons value others

theorem combine_tells {row : Row} {wrap : List Criteria → Criteria} {parts : List Criteria}
    {values : List Bool} {b : Bool} (wraps : ∀ ps, (wrap ps).isEmpty = false)
    (h : Evaluates row (substantive parts) values)
    (value : values.isEmpty = false → (combine wrap parts).evaluate row = .ok b) :
    Tells row (combine wrap parts) (if values.isEmpty then none else some b) := by
  have blank := isEmpty_combine wraps parts
  rw [h.isEmpty_eq] at blank
  cases filled : values.isEmpty with
  | true =>
      rw [eq_empty_of_isEmpty (blank.trans filled)]
      exact .nothing
  | false => exact .truth (blank.trans filled) (value filled)

theorem negate_tells {row : Row} {c : Criteria} {b : Bool} (kept : c.isEmpty = false)
    (value : c.evaluate row = .ok b) : Tells row (negate c) (some !b) := by
  rw [negate, kept, if_neg Bool.false_ne_true]
  exact .truth rfl (by rw [Criteria.evaluate, value]; rfl)

end

theorem join_not {id : String} {parts : List Criteria} {c : Criteria}
    (h : Compiler.join id .not parts = .ok c) :
    (substantive parts = [] ∧ c = empty) ∨
      ∃ part, substantive parts = [part] ∧ c = negate part := by
  rw [Compiler.join, ← substantive] at h
  split at h
  · rename_i none
    exact .inl ⟨none, by cases h; rfl⟩
  · rename_i part single
    exact .inr ⟨part, single, by cases h; rfl⟩
  · cases h

/-- A connective says what its logic makes of what the parts say. -/
theorem join_tells [PatternEngine] {row : Row} {id : String} {logic : Logic} {parts : List Criteria}
    {values : List Bool} {c : Criteria} (joined : Compiler.join id logic parts = .ok c)
    (h : Evaluates row (substantive parts) values) : Tells row c (logic.reading values) := by
  cases logic with
  | and =>
      cases joined
      refine combine_tells (fun _ => rfl) h fun _ => ?_
      rw [← Criteria.and, evaluate_and, ← evaluateAll_substantive, h.all, Logic.verdict]
  | or =>
      cases joined
      refine combine_tells (fun _ => rfl) h fun filled => ?_
      rw [← Criteria.or, evaluate_or, h.isEmpty_eq, filled, if_neg Bool.false_ne_true, h.any,
        Logic.verdict]
  | not =>
      rcases join_not joined with ⟨none, rfl⟩ | ⟨part, single, rfl⟩
      · rw [none] at h
        cases h
        exact .nothing
      · have kept : part.isEmpty = false := by
          have member : part ∈ substantive parts := by simp [single]
          simpa using (List.mem_filter.mp member).2
        rw [single] at h
        obtain ⟨b, _, value, rest, rfl⟩ := List.forall₂_cons_left_iff.mp h
        cases rest
        simpa [Logic.reading, Logic.verdict] using negate_tells kept value

end Criteria

namespace Compiler

open Criteria

variable {k : Compiler} {row : Row}

/-- The criteria of a test are never empty and say whether it holds. -/
theorem criteriaOfPredicate_tells [PatternEngine] {id : String} {p : Predicate} {c : Criteria}
    (plain : p.isTest = true) (h : k.criteriaOfPredicate id p = .ok c) :
    Tells row c (some (p.holds k row id)) := by
  cases p with
  | raw | custom => cases plain
  | field field tag value =>
      obtain ⟨name, test, rfl, _, compiled, rfl⟩ := criteriaOfPredicate_field.mp h
      obtain ⟨op, _, mapped⟩ := constraint_eq_ok.mp compiled
      refine .truth rfl ?_
      rw [evaluate, (Constraint.ofOperator_answers mapped).matchesValue, Predicate.holds, compiled]
      rfl
  | relation relation field tag value =>
      obtain ⟨name, test, rfl, _, compiled, rfl⟩ := criteriaOfPredicate_relation.mp h
      obtain ⟨op, _, mapped⟩ := constraint_eq_ok.mp compiled
      refine .truth rfl ?_
      rw [evaluate, (Constraint.ofOperator_answers mapped).matchesRelated, Predicate.holds,
        compiled]
      rfl

theorem groupLogic_eq_ok {clause : Clause} {logic : Logic}
    (h : groupLogic clause.id clause.logic = .ok logic) : Condition.logic clause = logic := by
  unfold groupLogic at h
  unfold Condition.logic
  cases given : clause.logic with
  | none => rw [given] at h; cases h; rfl
  | some tag =>
      rw [given] at h
      cases found : Logic.ofTag? tag with
      | none => simp [found] at h
      | some l => simpa [found] using h

section

variable [PatternEngine]

theorem criteriaOfAll_evaluates {forest : List Condition} (plain : Condition.Plain forest)
    {depth : Nat} {parts : List Criteria} (h : k.criteriaOfAll depth forest = .ok parts) :
    Evaluates row (substantive parts) (Condition.readings k row forest) := by
  induction forest using Condition.forest_induction generalizing depth parts with
  | nil =>
      rw [criteriaOfAll_nil.mp h]
      exact .nil
  | leaf clause rest ih =>
      simp only [Condition.Plain, Condition.predicates_leaf_cons, List.forall_mem_cons] at plain
      obtain ⟨part, others, compiled, remaining, rfl⟩ := criteriaOfAll_cons.mp h
      obtain ⟨_, predicate⟩ := criteriaOfNode_leaf.mp compiled
      rw [Condition.readings, Condition.reading]
      exact (criteriaOfPredicate_tells plain.1 predicate).cons (ih plain.2 remaining)
  | group clause children rest ihc ihr =>
      simp only [Condition.Plain, Condition.predicates_group_cons, List.forall_mem_append] at plain
      obtain ⟨part, others, compiled, remaining, rfl⟩ := criteriaOfAll_cons.mp h
      obtain ⟨_, _, logic, below, given, inner, joined⟩ := criteriaOfNode_group.mp compiled
      rw [Condition.readings, Condition.reading, groupLogic_eq_ok given]
      exact (join_tells joined (ihc plain.1 inner)).cons (ihr plain.2 remaining)

theorem criteriaOfForest_evaluates {forest : List Condition} (plain : Condition.Plain forest)
    {logic : Logic} {c : Criteria} (h : k.criteriaOfForest forest logic = .ok c) :
    c.evaluate row = .ok (Condition.admits k logic forest row) := by
  obtain ⟨_, parts, compiled, joined⟩ := criteriaOfForest_eq_ok.mp h
  exact (join_tells joined (criteriaOfAll_evaluates plain compiled)).evaluate

theorem fragment?_evaluates {text : String} {number : Option Double}
    {candidate : String × FieldKind} {c : Criteria}
    (h : GlobalSearch.fragment? text number candidate = some c) : ∃ b, c.evaluate row = .ok b := by
  obtain ⟨name, kind⟩ := candidate
  simp only [GlobalSearch.fragment?] at h
  split at h
  · cases h
    exact ⟨_, rfl⟩
  · split at h
    · obtain ⟨v, _, rfl⟩ := Option.map_eq_some_iff.mp h
      exact ⟨_, rfl⟩
    · cases h

/-- A search fragment fails on no row: it compares and looks for text, and holds no pattern. -/
theorem searchFragment_evaluates {p : PageRequest} {fragment : Criteria}
    (h : k.searchFragment p = .ok (some fragment)) :
    fragment.evaluate row = .ok (fragment.holds row) := by
  have total : ∃ b, fragment.evaluate row = .ok b := by
    unfold searchFragment at h
    split at h
    · cases h
    · obtain ⟨text, number, rfl⟩ := GlobalSearch.build_eq_some h
      apply exists_evaluate_or
      intro c member
      obtain ⟨candidate, _, given⟩ := List.mem_filterMap.mp member
      exact fragment?_evaluates given
  obtain ⟨b, value⟩ := total
  rw [holds, value]
  rfl

/-- Compiled criteria evaluate on every row to the reading of their tree, and those of a request
to the reading of its filters and of its search fragment together. -/
theorem evaluate_eq_reading (k : Compiler) (row : Row) :
    (∀ forest logic c, Condition.Plain forest → k.criteriaOfForest forest logic = .ok c →
      c.evaluate row = .ok (Condition.admits k logic forest row)) ∧
    ∀ p c, Condition.Plain p.filters → k.criteriaOfRequest p = .ok c →
      ∃ fragment, k.searchFragment p = .ok fragment ∧
        (∀ f ∈ fragment, f.evaluate row = .ok (f.holds row)) ∧
        c.evaluate row =
          .ok (Condition.admits k .and p.filters row && fragment.all fun f => f.holds row) := by
  refine ⟨fun forest logic c plain h => criteriaOfForest_evaluates plain h, ?_⟩
  intro p c plain h
  obtain ⟨filters, fragment, compiled, found, rfl⟩ := criteriaOfRequest_eq_ok.mp h
  have value : filters.evaluate row = .ok (Condition.admits k .and p.filters row) :=
    criteriaOfForest_evaluates plain compiled
  refine ⟨fragment, found, ?_, ?_⟩
  · rintro f ⟨⟩
    exact searchFragment_evaluates found
  · rw [evaluate_and]
    cases fragment with
    | none => simpa using Evaluates.all (.cons value .nil)
    | some f =>
        have both : Evaluates row [filters, f] [_, f.holds row] :=
          .cons value (.cons (searchFragment_evaluates found) .nil)
        simpa using both.all

end

theorem evaluate_eq_reading_negation :
    let k : Compiler := { schema := { name := "User", fields := .ofList [("name", {})] } }
    let forest : List Condition :=
      [.group { id := "g", logic := some "NOT" }
         [.group { id := "h" } [],
          .leaf { id := "a", field := some "name", operator := some "isNull" }],
       .leaf { id := "b", relation := some "tags", relationField := some "label",
               operator := some "eq", value := some (.string "x") }]
    let request : PageRequest := { filters := forest, globalSearch := some " An " }
    let row : Row := [("name", .string "Ann"), ("tags", .array [.object [("label", .string "x")]])]
    let negation : Criteria := .complement (.field "name" .isNull)
    let test : Criteria := .relation "tags" "label" (.eq (.string "x"))
    let search : Criteria := .field "name" (.contains "An")
    Condition.Plain forest ∧ k.criteriaOfForest forest .and = .ok (.allOf [negation, test]) ∧
      k.criteriaOfRequest request = .ok (.allOf [.allOf [negation, test], search]) ∧
      (allOf [negation, test]).evaluate row = .ok true ∧
      (allOf [.allOf [negation, test], search]).evaluate row = .ok true := by
  intro k forest request row negation test search
  have plain : Condition.Plain forest := by
    simp [Condition.Plain, forest, Clause.predicate, Predicate.isTest]
  refine ⟨plain, rfl, rfl, (evaluate_eq_reading k row).1 forest .and _ plain rfl, ?_⟩
  obtain ⟨fragment, found, _, value⟩ := (evaluate_eq_reading k row).2 request _ plain rfl
  have given : k.searchFragment request = .ok (some search) := rfl
  cases given.symm.trans found
  exact value

end Compiler

end RowFilter
