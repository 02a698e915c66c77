import RowFilter.Pattern.Matching
import RowFilter.Proofs.Engine.Preparation

/-! # Accepted filters that do not compile

Compilation repeats the checks of validation, so that what preparation has accepted should only
fail where a registered handler gives up. Two things slip through. The validator counts the
children of groups, and the compiler the top-level conditions as well. And a test of something
that is not in the catalogue is not looked at any further; where that fault is forgiven, an
operator or an operand that is wrong besides is left to the compiler.
-/

namespace RowFilter

open Outcome

namespace Engine

variable {e : Engine}

section

variable [PatternEngine]

/-- The errors of a forest that validation does not look out for. -/
inductive Overlooked (e : Engine) (forest : List Condition) : CompileError → Prop where
  | oversized : e.config.limits.maxConditionsPerGroup < forest.length →
      Overlooked e forest (e.compiler.oversized forest)
  /-- A test of something unknown, under lenient validation. -/
  | untested {clause : Clause} {error : CompileError} : e.config.strictValidation = false →
      .leaf clause ∈ Condition.nodes forest →
      clause.predicate.isKnown e.schema.fields = false →
      e.compiler.criteriaOfPredicate clause.id clause.predicate = .error error →
      Overlooked e forest error

/-- The errors that an accepted forest can still have. -/
def LateError (e : Engine) (forest : List Condition) (error : CompileError) : Prop :=
  e.compiler.HandlerRefusal (Condition.predicates forest) error ∨ e.Overlooked forest error

/-- A leaf with no fault, or only a forgivable one, fails by its handler, or is about something
unknown. -/
theorem criteriaOfPredicate_of_forgivable {forest : List Condition}
    (lenient : e.config.strictValidation = false) {clause : Clause}
    (stands : .leaf clause ∈ Condition.nodes forest)
    (forgivable : ∀ x ∈ e.validator.leafFault? clause.predicate, x.2.code = .unknownField) :
    FailsOnly (e.LateError forest)
      (e.compiler.criteriaOfPredicate clause.id clause.predicate) := by
  have soft : Validator.Forgivable (e.validator.faultOf? clause.predicate).toList := by
    intro fault found
    obtain ⟨x, blamed, rfl⟩ := Option.map_eq_some_iff.mp (Option.mem_toList.mp found)
    exact forgivable x blamed
  cases known : clause.predicate.isKnown e.schema.fields with
  | true =>
      have faultless := (Validator.leaf_of_forgivable soft).2.mpr known
      have here : clause.predicate ∈ Condition.predicates forest :=
        Condition.mem_predicates.mpr ⟨clause, stands, rfl⟩
      refine (Compiler.criteriaOfPredicate_failsOnly rfl clause.id faultless).mono ?_
      exact fun error refusal => .inl (Compiler.HandlerRefusal.mono (by simpa using here) _ refusal)
  | false => exact fun error failed => .inr (.untested lenient stands known failed)

/-- What an accepted forest can fail to compile with. -/
theorem criteriaOfForest_of_judged {forest : List Condition} {log : List SecurityEvent}
    (passed : (e.judged (e.validate forest log).1).valid = true) :
    FailsOnly (e.LateError forest) (e.compiler.criteriaOfForest forest .and) := by
  obtain ⟨forgivable, strictly⟩ := judged_valid_iff.mp passed
  have all : FailsOnly (e.LateError forest) (e.compiler.criteriaOfAll 0 forest) := by
    cases strict : e.config.strictValidation with
    | true => exact (Compiler.criteriaOfAll_failsOnly rfl (strictly strict)).mono fun _ => .inl
    | false =>
        rw [Validator.Forgivable, Validator.faultsIn, List.forall_mem_map] at forgivable
        refine Compiler.criteriaOfAll_failsOnly_of (fun fault => fault.code = .unknownField) rfl
          (by simp [Fault.code]) (fun _ _ _ => Validator.code_of_groupFault?) forgivable ?_
        intro clause stands blamed
        exact criteriaOfPredicate_of_forgivable strict stands blamed
  unfold Compiler.criteriaOfForest Compiler.checkGroupSize
  split
  · rename_i beyond
    exact .error (.inr (.oversized beyond))
  · exact all.bind fun _ _ => .ok _ _

/-- A forest with an error that validation overlooks does not compile. -/
theorem criteriaOfForest_of_overlooked {forest : List Condition} {error : CompileError}
    (overlooked : e.Overlooked forest error) (c : Criteria) :
    e.compiler.criteriaOfForest forest .and ≠ .ok c := by
  intro compiled
  obtain ⟨fits, parts, all, _⟩ := Compiler.criteriaOfForest_eq_ok.mp compiled
  cases overlooked with
  | oversized beyond => exact absurd fits (Nat.not_le.mpr beyond)
  | untested _ stands _ failed =>
      obtain ⟨part, value⟩ := Compiler.criteriaOfPredicate_of_mem_nodes all _ stands
      rw [failed] at value
      cases value

/-- Preparation refuses a filter with its validation. An accepted filter gives criteria, or fails
with the error of a registered handler, as long as validation has overlooked nothing; where it has,
the filter is accepted and does not compile. -/
theorem prepare_outcomes (e : Engine) (d : Document) (log : List SecurityEvent) :
    let report := (e.migrate d log).1
    let forest := report.document.conditions
    ∃ v, report.validation = some v ∧
      (v.valid = false → (e.prepare d log).1 = .error (.invalid v)) ∧
      (v.valid = true → (∀ error, ¬ e.Overlooked forest error) →
        (∃ ready, (e.prepare d log).1 = .ok ready) ∨
        ∃ error, e.compiler.HandlerRefusal (Condition.predicates forest) error ∧
          (e.prepare d log).1 = .error (.query (.compile error))) ∧
      (v.valid = true → ∀ overlooked, e.Overlooked forest overlooked →
        ∃ error, e.LateError forest error ∧
          (e.prepare d log).1 = .error (.query (.compile error))) := by
  intro report forest
  refine ⟨_, e.migrate_validation d log, fun refused => ?_, fun passed => ?_, fun passed => ?_⟩
  · rw [prepare_eq, outcome, refused]
    rfl
  · intro seen
    have fails := criteriaOfForest_of_judged passed
    rw [prepare_eq, outcome, if_pos passed]
    cases compiled : e.compiler.criteriaOfForest (e.migrated d) .and with
    | ok c => exact .inl ⟨_, rfl⟩
    | error error =>
        refine .inr ⟨error, ?_, rfl⟩
        exact (fails error compiled).resolve_right (seen error)
  · intro overlooked unseen
    have fails := criteriaOfForest_of_judged passed
    rw [prepare_eq, outcome, if_pos passed]
    cases compiled : e.compiler.criteriaOfForest (e.migrated d) .and with
    | ok c => exact absurd compiled (criteriaOfForest_of_overlooked unseen c)
    | error error => exact ⟨error, fails error compiled, rfl⟩

end

/-- A test of an unknown field is ready where its operator and operand are fine. -/
theorem prepare_outcomes_unknown :
    let e : Engine := { schema := { name := "User", fields := .ofList [("name", {})] } }
    let d : Document := ⟨2, [.onField "a" "ghost" .eq (.string "x")]⟩
    (∃ v, (e.migrate d []).1.validation = some v ∧ v.valid = true) ∧
      (∀ error, ¬ e.Overlooked (e.migrate d []).1.document.conditions error) ∧
      ∃ ready, (e.prepare d []).1 = .ok ready := by
  intro e d
  have migrated : (e.migrate d []).1.document.conditions = d.conditions := rfl
  have seen (error) : ¬ e.Overlooked (e.migrate d []).1.document.conditions error := by
    rw [migrated]
    intro overlooked
    cases overlooked with
    | oversized beyond => exact absurd beyond (by decide)
    | untested _ stands _ failed =>
        simp only [d, Condition.onField, Condition.nodes_cons, Condition.nodes_nil,
          Condition.children, List.append_nil, List.mem_singleton, Condition.leaf.injEq] at stands
        subst stands
        cases failed
  have unknown : e.validator.findingsIn 0 (e.migrated d) =
      [{ conditionId := "a", field := some "ghost", fault := .unknownField "ghost",
         shown := some (.string "x") }] := rfl
  have passed := judged_valid_of_lenient (e := e) rfl (by rw [unknown]; simp [Fault.code]) []
  obtain ⟨v, reported, _, ready, _⟩ := prepare_outcomes e d []
  have same : v = _ := Option.some.inj (reported.symm.trans (e.migrate_validation d []))
  rw [← same] at passed
  refine ⟨⟨v, reported, passed⟩, seen, ?_⟩
  rcases ready passed seen with done | ⟨error, ⟨_, _, _, _, _, _, stands, _⟩, _⟩
  · exact done
  · rw [migrated] at stands
    simp [d, Condition.onField, Clause.predicate] at stands

/-- A test of an unknown field that lacks its operand, and more top-level conditions than a group
may have: both filters are accepted, and neither compiles, though no handler has a part in it. -/
theorem accepted_but_not_compiled :
    let schema : Schema := { name := "User", fields := .ofList [("name", {})] }
    let lenient : Engine := { schema }
    let tight : Engine :=
      { schema, config := { strictValidation := true, limits := { maxConditionsPerGroup := 1 } } }
    let incomplete : Document :=
      ⟨2, [.leaf { id := "a", field := some "ghost", operator := some "eq" }]⟩
    let crowded : Document :=
      ⟨2, [.onField "a" "name" .eq (.string "x"), .onField "b" "name" .eq (.string "y")]⟩
    (∃ v, (lenient.migrate incomplete []).1.validation = some v ∧ v.valid = true) ∧
      (lenient.prepare incomplete []).1 =
        .error (.query (.compile (.invalidValue "a" (.valueRequired .eq)))) ∧
      (∃ v, (tight.migrate crowded []).1.validation = some v ∧ v.valid = true) ∧
      (tight.prepare crowded []).1 =
        .error (.query (.compile (.tooManyConditions "root" 2 1))) := by
  intro schema lenient tight incomplete crowded
  have unknown : lenient.validator.findingsIn 0 (lenient.migrated incomplete) =
      [{ conditionId := "a", field := some "ghost", fault := .unknownField "ghost" }] := rfl
  have forgiven := judged_valid_of_lenient (e := lenient) rfl
    (by rw [unknown]; simp [Fault.code]) []
  have faultless : (tight.judged (tight.validate (tight.migrated crowded) []).1).valid = true :=
    judged_valid rfl []
  refine ⟨⟨_, lenient.migrate_validation incomplete [], forgiven⟩, ?_,
    ⟨_, tight.migrate_validation crowded [], faultless⟩, ?_⟩
  · rw [prepare_eq, outcome, if_pos forgiven]
    rfl
  · rw [prepare_eq, outcome, if_pos faultless]
    rfl

end Engine

end RowFilter
