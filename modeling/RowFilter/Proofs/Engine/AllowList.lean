import RowFilter.Pattern.Matching
import RowFilter.Proofs.Criteria.Names
import RowFilter.Proofs.Engine.Preparation
import RowFilter.Proofs.Reading

/-! # The list of allowed names

An engine may restrict which fields and relations filters test. The validator asks for the list
at each leaf before it asks for the catalogue, so forgiving what is unknown forgives nothing that
is not allowed; and the compiler names a field or a relation only where a leaf does. Criteria that
a handler or a search contributes are outside of this.
-/

namespace RowFilter

namespace Compiler

variable {k : Compiler}

/-- A connective names what its parts name. -/
theorem mem_namesIn_of_join {id : String} {logic : Logic} {parts : List Criteria} {c : Criteria}
    (joined : join id logic parts = .ok c) {name : String} (tested : name ∈ c.testedNames) :
    name ∈ Criteria.namesIn parts := by
  cases logic with
  | and =>
      cases joined
      exact Criteria.mem_namesIn_of_combine (fun _ => rfl) tested
  | or =>
      cases joined
      exact Criteria.mem_namesIn_of_combine (fun _ => rfl) tested
  | not =>
      rcases Criteria.join_not joined with ⟨_, rfl⟩ | ⟨part, single, rfl⟩
      · cases tested
      · have within : part ∈ parts := Criteria.mem_of_substantive (by simp [single])
        unfold Criteria.negate at tested
        split at tested
        · cases tested
        · exact Criteria.mem_namesIn.mpr ⟨part, within, tested⟩

/-- A predicate names what it is about, unless a handler speaks for it. -/
theorem mem_subject?_of_criteriaOfPredicate [PatternEngine] {id : String} {p : Predicate}
    {c : Criteria}
    (plain : p.isCustom = false) (compiled : k.criteriaOfPredicate id p = .ok c) {name : String}
    (tested : name ∈ c.testedNames) : name ∈ p.subject? := by
  cases p with
  | raw text params =>
      obtain ⟨_, rfl⟩ := criteriaOfPredicate_raw.mp compiled
      cases tested
  | custom handler tag value params => cases plain
  | relation relation field tag value =>
      obtain ⟨_, _, _, _, _, rfl⟩ := criteriaOfPredicate_relation.mp compiled
      exact congrArg some (List.mem_singleton.mp tested).symm
  | field field tag value =>
      obtain ⟨_, _, rfl, _, _, rfl⟩ := criteriaOfPredicate_field.mp compiled
      exact congrArg some (List.mem_singleton.mp tested).symm

/-- Without handlers, the criteria of a forest name what its predicates are about. -/
theorem mem_subject?_of_criteriaOfAll [PatternEngine] {depth : Nat} {forest : List Condition}
    {parts : List Criteria} (plain : ∀ p ∈ Condition.predicates forest, p.isCustom = false)
    (compiled : k.criteriaOfAll depth forest = .ok parts) {name : String}
    (tested : name ∈ Criteria.namesIn parts) :
    ∃ p ∈ Condition.predicates forest, name ∈ p.subject? := by
  induction forest using Condition.forest_induction generalizing depth parts with
  | nil =>
      rw [criteriaOfAll_nil.mp compiled] at tested
      cases tested
  | leaf clause rest ih =>
      obtain ⟨part, others, first, beside, rfl⟩ := criteriaOfAll_cons.mp compiled
      obtain ⟨_, tests⟩ := criteriaOfNode_leaf.mp first
      rw [Condition.predicates_leaf_cons] at plain ⊢
      rw [List.forall_mem_cons] at plain
      rcases List.mem_append.mp tested with here | there
      · exact ⟨clause.predicate, List.mem_cons_self,
          mem_subject?_of_criteriaOfPredicate plain.1 tests here⟩
      · obtain ⟨p, stands, about⟩ := ih plain.2 beside there
        exact ⟨p, List.mem_cons_of_mem _ stands, about⟩
  | group clause children rest ihc ihr =>
      obtain ⟨part, others, first, beside, rfl⟩ := criteriaOfAll_cons.mp compiled
      obtain ⟨_, _, _, _, _, below, joined⟩ := criteriaOfNode_group.mp first
      rw [Condition.predicates_group_cons] at plain ⊢
      rw [List.forall_mem_append] at plain
      rcases List.mem_append.mp tested with here | there
      · obtain ⟨p, stands, about⟩ := ihc plain.1 below (mem_namesIn_of_join joined here)
        exact ⟨p, List.mem_append_left _ stands, about⟩
      · obtain ⟨p, stands, about⟩ := ihr plain.2 beside there
        exact ⟨p, List.mem_append_right _ stands, about⟩

end Compiler

namespace Engine

variable {e : Engine}

/-- Whatever faults are forgiven, criteria name nothing that is not allowed. -/
theorem allows_of_criteriaOfForest [PatternEngine] {forest : List Condition} {c : Criteria}
    (forgivable : Validator.Forgivable (e.validator.faultsIn 0 forest))
    (plain : ∀ p ∈ Condition.predicates forest, p.isCustom = false)
    (compiled : e.compiler.criteriaOfForest forest .and = .ok c) {name : String}
    (tested : name ∈ c.testedNames) : e.validator.allows name = true := by
  obtain ⟨_, parts, all, joined⟩ := Compiler.criteriaOfForest_eq_ok.mp compiled
  obtain ⟨p, stands, about⟩ :=
    Compiler.mem_subject?_of_criteriaOfAll plain all (Compiler.mem_namesIn_of_join joined tested)
  exact Validator.allows_of_forgivable forgivable p stands name about

/-- With a list of allowed names, no criteria of a stored filter or a request are about a field or
a relation outside of it, be validation strict or lenient. -/
theorem testedNames_allowed [PatternEngine] {names : List String}
    (restricted : e.config.allowedFields = some names) (log : List SecurityEvent) :
    (∀ d ready, (e.prepare d log).1 = .ok ready →
      (∀ p ∈ Condition.predicates ready.report.document.conditions, p.isCustom = false) →
      ∀ name ∈ ready.criteria.testedNames, name ∈ names) ∧
    (∀ (p : PageRequest) c, (e.compile p log).1 = .ok c → p.globalSearch = none →
      (∀ q ∈ Condition.predicates p.filters, q.isCustom = false) →
      ∀ name ∈ c.testedNames, name ∈ names) := by
  have listed (name : String) (allowed : e.validator.allows name = true) : name ∈ names := by
    simpa [Validator.allows, validator, restricted] using allowed
  constructor
  · intro d ready prepared plain name tested
    obtain ⟨passed, compiled, reported, -⟩ := prepare_eq_ok.mp prepared
    rw [reported] at plain
    have forgivable := (judged_valid_iff.mp passed).1
    exact listed name (allows_of_criteriaOfForest forgivable plain compiled tested)
  · intro p c accepted noSearch plain name tested
    rw [compile_eq, criteriaOfRequest_filters noSearch] at accepted
    obtain ⟨valid, compiled⟩ := outcome_eq_ok.mp accepted
    have forgivable :=
      Validator.forgivable_of_findingsIn_eq_nil (Validator.validate_valid_iff.mp valid)
    exact listed name (allows_of_criteriaOfForest forgivable plain compiled tested)

/-- A stored filter with a field that is allowed but unknown, under a negation, and a request
about a relation. -/
theorem testedNames_allowed_unknown :
    let names := ["ghost", "team"]
    let e : Engine :=
      { schema := { name := "User", fields := .ofList [("team", { kind := .association })] }
        config := { allowedFields := some names } }
    let onTeam := Condition.onRelation "r" "team" "name" .eq (.string "x")
    let d : Document :=
      ⟨2, [.combining "g" .not [.onField "a" "ghost" .eq (.string "x")], onTeam]⟩
    (∃ ready, (e.prepare d []).1 = .ok ready ∧ ready.criteria.testedNames = names ∧
      ∀ name ∈ ready.criteria.testedNames, name ∈ names) ∧
    (∃ c, (e.compile { filters := [onTeam] } []).1 = .ok c ∧ c.testedNames = ["team"] ∧
      ∀ name ∈ c.testedNames, name ∈ names) := by
  intro names e onTeam d
  obtain ⟨stored, requested⟩ := testedNames_allowed (e := e) rfl []
  constructor
  · have unknown : e.validator.findingsIn 0 (e.migrated d) =
        [{ conditionId := "a", field := some "ghost", fault := .unknownField "ghost",
           shown := some (.string "x") }] := rfl
    have forgivable : Validator.Forgivable (e.validator.faultsIn 0 (e.migrated d)) := by
      rw [Validator.faultsIn, unknown]
      exact List.forall_mem_singleton.mpr rfl
    have kept : e.migrated d = d.conditions := rfl
    have plain : ∀ p ∈ Condition.predicates (e.migrated d), p.isCustom = false := by
      rw [kept]
      simp [d, onTeam, Condition.combining, Condition.onField, Condition.onRelation,
        Clause.predicate, Predicate.isCustom]
    obtain ⟨ready, prepared, criteria, conditions, -⟩ := exists_ready (e := e) (d := d)
      (judged_valid_iff.mpr ⟨forgivable, by rintro ⟨⟩⟩) rfl
    rw [← conditions] at plain
    refine ⟨ready, prepared, ?_, stored d ready prepared plain⟩
    rw [criteria]
    rfl
  · have accepted : (e.compile { filters := [onTeam] } []).1 =
        .ok (.relation "team" "name" (.eq (.string "x"))) := by
      rw [compile_eq]
      exact outcome_eq_ok.mpr ⟨Validator.validate_valid_iff.mpr rfl, rfl⟩
    have plain : ∀ p ∈ Condition.predicates [onTeam], p.isCustom = false := by
      simp [onTeam, Condition.onRelation, Clause.predicate, Predicate.isCustom]
    exact ⟨_, accepted, rfl, requested _ _ accepted rfl plain⟩

end Engine

end RowFilter
