import RowFilter.Pattern.Matching
import RowFilter.Proofs.Criteria.Combination
import RowFilter.Proofs.Engine.Assembly
import RowFilter.Proofs.Migration.Convergence
import RowFilter.Proofs.Validation.Leniency

/-! # Stored filters and requests

A filter reaches the compiler of an engine along two ways: from a stored document, which is
migrated and judged as leniently as the policy says, or with a request, which is always judged
strictly. Both draw on one configuration, so they agree wherever the two judgements do. They part
at a stored filter that tests what the catalogue no longer has: it is ready to run, and refused
as a request.
-/

namespace RowFilter

open Outcome

namespace Migrator

/-- Conditions of the current version or a later one are taken as they are. -/
theorem bringForward_recent (m : Migrator) (options : MigrationPolicy) {d : Document}
    (recent : d.isEarlier = false) (conditions : List Condition) :
    (m.bringForward options d.version conditions).conditions = conditions ∧
      (m.bringForward options d.version conditions).changes = [] := by
  have late : ¬ d.version < Document.currentVersion := of_decide_eq_false recent
  rw [bringForward, if_neg late]
  split <;> exact ⟨rfl, rfl⟩

end Migrator

namespace Logged

variable {α β : Type}

theorem bind_run (x : Logged α) (f : α → Logged β) (log : List SecurityEvent) :
    (x >>= f) log = f (x log).1 (x log).2 := rfl

theorem pure_run (a : α) (log : List SecurityEvent) : (pure a : Logged α) log = (a, log) := rfl

end Logged

namespace Engine

variable {e : Engine}

/-- What is found wrong with a forest does not depend on what was logged before. -/
theorem validate_log [PatternEngine] (forest : List Condition) (log log' : List SecurityEvent) :
    (e.validate forest log).1 = (e.validate forest log').1 := by
  rw [validate, Validator.validate_eq, Validator.validate_eq]

/-- The conditions of a document after migration. -/
def migrated (e : Engine) (d : Document) : List Condition :=
  (e.migrator.bringForward e.config.migrationPolicy d.version
    (Condition.renameTags d.conditions)).conditions

/-- What is left of a validation under the policy for stored filters. -/
def judged (e : Engine) (v : Validation) : Validation :=
  if e.config.strictValidation then v else (Migrator.demoteUnknownFields v).1

/-- The migrator validates as the engine does, and judges by the policy. -/
theorem migrate_validation [PatternEngine] (e : Engine) (d : Document) (log : List SecurityEvent) :
    (e.migrate d log).1.validation = some (e.judged (e.validate (e.migrated d) log).1) := by
  have reported : (e.migrate d log).1.validation =
      some (e.migrator.validateMigrated e.schema.fields e.config.migrationPolicy
        (e.migrated d) log).1.1 := rfl
  rw [reported, judged]
  change some (if e.config.strictValidation then _ else _ : Validation × List String).1 = _
  split <;> rfl

/-- What an engine answers to a filter that has been validated and compiled. -/
def outcome (v : Validation) (compiled : Except CompileError Criteria) :
    Except EngineError Criteria :=
  if v.valid then compiled.mapError fun error => .query (.compile error) else .error (.invalid v)

theorem outcome_eq_ok {v : Validation} {compiled : Except CompileError Criteria} {c : Criteria} :
    outcome v compiled = .ok c ↔ v.valid = true ∧ compiled = .ok c := by
  unfold outcome
  cases v.valid with
  | false => simp
  | true => simpa using mapError_eq_ok

section

variable [PatternEngine]

theorem compile_eq (e : Engine) (p : PageRequest) (log : List SecurityEvent) :
    (e.compile p log).1 =
      outcome (e.validate p.filters log).1 (e.compiler.criteriaOfRequest p) := by
  rw [compile, Assembly.compile, assembly_validate, assembly_compiler, Logged.bind_run, outcome]
  cases (e.validate p.filters log).1.valid <;> rfl

theorem prepare_eq (e : Engine) (d : Document) (log : List SecurityEvent) :
    let v := e.judged (e.validate (e.migrated d) log).1
    (e.prepare d log).1 =
      (outcome v (e.compiler.criteriaOfForest (e.migrated d) .and)).map fun criteria =>
        { criteria, report := { (e.migrate d log).1 with validation := none },
          validation := v } := by
  intro v
  have validated : (e.migrate d log).1.validation = some v := e.migrate_validation d log
  have conditions : (e.migrate d log).1.document.conditions = e.migrated d := rfl
  rw [prepare, Assembly.prepare, assembly_migrate, assembly_validate, assembly_compiler,
    Logged.bind_run, validated]
  dsimp only
  rw [Logged.bind_run, Logged.pure_run, outcome]
  cases v.valid with
  | false => rfl
  | true =>
      rw [conditions]
      cases e.compiler.criteriaOfForest (e.migrated d) .and <;> rfl

/-- What it takes for a stored filter to be ready. -/
theorem prepare_eq_ok {d : Document} {log : List SecurityEvent} {ready : ReadyFilter} :
    (e.prepare d log).1 = .ok ready ↔
      (e.judged (e.validate (e.migrated d) log).1).valid = true ∧
        e.compiler.criteriaOfForest (e.migrated d) .and = .ok ready.criteria ∧
        ready.report = { (e.migrate d log).1 with validation := none } ∧
        ready.validation = e.judged (e.validate (e.migrated d) log).1 := by
  rw [prepare_eq, map_eq_ok]
  simp only [outcome_eq_ok]
  constructor
  · rintro ⟨c, ⟨valid, compiled⟩, rfl⟩
    exact ⟨valid, compiled, rfl, rfl⟩
  · obtain ⟨criteria, report, validation⟩ := ready
    rintro ⟨valid, compiled, rfl, rfl⟩
    exact ⟨criteria, ⟨valid, compiled⟩, rfl⟩

/-- A document whose conditions pass and compile after migration is ready. -/
theorem exists_ready {d : Document} {log : List SecurityEvent} {c : Criteria}
    (valid : (e.judged (e.validate (e.migrated d) log).1).valid = true)
    (compiled : e.compiler.criteriaOfForest (e.migrated d) .and = .ok c) :
    ∃ ready, (e.prepare d log).1 = .ok ready ∧ ready.criteria = c ∧
      ready.report.document.conditions = e.migrated d ∧
      ready.report.changes = (e.migrate d log).1.changes :=
  ⟨⟨c, _, _⟩, prepare_eq_ok.mpr ⟨valid, compiled, rfl, rfl⟩, rfl, rfl, rfl⟩

/-- Without a search, a request is compiled as its filters are. -/
theorem criteriaOfRequest_filters {k : Compiler} {p : PageRequest}
    (noSearch : p.globalSearch = none) :
    k.criteriaOfRequest p = k.criteriaOfForest p.filters .and := by
  rw [Compiler.criteriaOfRequest, noSearch]
  cases k.criteriaOfForest p.filters .and with
  | error error => rfl
  | ok c => exact congrArg Except.ok (Criteria.and_singleton c)

/-- A judgement passes a forest with forgivable faults, and with none where it is strict. -/
theorem judged_valid_iff {forest : List Condition} {log : List SecurityEvent} :
    (e.judged (e.validate forest log).1).valid = true ↔
      Validator.Forgivable (e.validator.faultsIn 0 forest) ∧
        (e.config.strictValidation = true → e.validator.findingsIn 0 forest = []) := by
  rw [judged, validate]
  cases e.config.strictValidation with
  | false => simp [Migrator.demoteUnknownFields_valid, Validator.errors_forgivable_iff]
  | true =>
      rw [if_pos rfl, Validator.validate_valid_iff]
      constructor
      · intro faultless
        exact ⟨Validator.forgivable_of_findingsIn_eq_nil faultless, fun _ => faultless⟩
      · rintro ⟨_, faultless⟩
        exact faultless rfl

/-- A document that is not due for migration keeps its conditions. -/
theorem migrate_settled {d : Document} (settled : Migrator.isDue d = false)
    (log : List SecurityEvent) :
    e.migrated d = d.conditions ∧ (e.migrate d log).1.changes = [] := by
  obtain ⟨recent, free⟩ := Migrator.isDue_eq_false_iff.mp settled
  have onward := e.migrator.bringForward_recent e.config.migrationPolicy recent d.conditions
  have reported := (e.migrator.bringUpToDate_report d (some e.schema.fields)
    e.config.migrationPolicy log).2.1
  rw [Condition.renameTags_of_free free, RenameNote.changes_eq_nil_iff.mpr free,
    onward.2] at reported
  rw [migrated, Condition.renameTags_of_free free]
  exact ⟨onward.1, reported⟩

/-- Where there is nothing to forgive, every judgement passes. -/
theorem judged_valid {forest : List Condition} (faultless : e.validator.findingsIn 0 forest = [])
    (log : List SecurityEvent) : (e.judged (e.validate forest log).1).valid = true :=
  judged_valid_iff.mpr ⟨Validator.forgivable_of_findingsIn_eq_nil faultless, fun _ => faultless⟩

/-- Where there is nothing but unknown fields and relations, a lenient judgement passes. -/
theorem judged_valid_of_lenient {forest : List Condition}
    (lenient : e.config.strictValidation = false)
    (soft : ∀ f ∈ e.validator.findingsIn 0 forest, f.fault.code = .unknownField)
    (log : List SecurityEvent) : (e.judged (e.validate forest log).1).valid = true := by
  refine judged_valid_iff.mpr ⟨List.forall_mem_map.mpr soft, fun strict => ?_⟩
  rw [lenient] at strict
  cases strict

/-- A stored filter that needs no migration gives the criteria that it gives as a request, if it
gives any as a request. Under strict validation the two ways have one outcome. -/
theorem prepare_agrees {d : Document} (settled : Migrator.isDue d = false) {p : PageRequest}
    (filters : p.filters = d.conditions) (noSearch : p.globalSearch = none)
    (log log' : List SecurityEvent) :
    (∀ c, (e.compile p log').1 = .ok c →
      ∃ ready, (e.prepare d log).1 = .ok ready ∧ ready.criteria = c ∧
        ready.report.document.conditions = d.conditions ∧ ready.report.changes = []) ∧
    (e.config.strictValidation = true →
      (e.prepare d log).1.map ReadyFilter.criteria = (e.compile p log').1) := by
  obtain ⟨kept, unchanged⟩ := e.migrate_settled settled log
  rw [compile_eq, criteriaOfRequest_filters noSearch, filters]
  constructor
  · intro c accepted
    obtain ⟨valid, compiled⟩ := outcome_eq_ok.mp accepted
    have passed := judged_valid (Validator.validate_valid_iff.mp valid) log
    rw [← kept] at passed compiled
    obtain ⟨ready, prepared, criteria, conditions, changes⟩ := exists_ready passed compiled
    exact ⟨ready, prepared, criteria, conditions.trans kept, changes.trans unchanged⟩
  · intro strict
    rw [prepare_eq, kept, judged, if_pos strict, validate_log d.conditions log log']
    cases outcome _ _ <;> rfl

end

/-- A filter of a later version, under strict validation. -/
theorem prepare_agrees_newer :
    let e : Engine :=
      { schema := { name := "User", fields := .ofList [("name", {})] }
        config := { strictValidation := true } }
    let d : Document := ⟨3, [.onField "a" "name" .eq (.string "x")]⟩
    Migrator.isDue d = false ∧
      (∃ ready, (e.prepare d []).1 = .ok ready ∧
        ready.criteria = .field "name" (.eq (.string "x")) ∧
        ready.report.document.conditions = d.conditions ∧ ready.report.changes = []) ∧
      (e.prepare d []).1.map ReadyFilter.criteria =
        (e.compile { filters := d.conditions } []).1 := by
  intro e d
  have settled : Migrator.isDue d = false := by
    simp [d, Migrator.isDue, Document.isEarlier, Condition.operatorTags, Condition.nodes_cons,
      Condition.nodes_nil, Condition.onField, Condition.children, Condition.clause,
      Operator.isFormerTag_tag, Document.currentVersion]
  have requested : (e.compile { filters := d.conditions } []).1 =
      .ok (.field "name" (.eq (.string "x"))) := by
    rw [compile_eq]
    exact outcome_eq_ok.mpr ⟨Validator.validate_valid_iff.mpr rfl, rfl⟩
  obtain ⟨ready, agreed⟩ :=
    prepare_agrees (e := e) settled (p := { filters := d.conditions }) rfl rfl [] []
  exact ⟨settled, ready _ requested, agreed rfl⟩

/-- A filter that is ready compiles as a request to the same criteria, if everything that it tests
is in the catalogue. If not, then validation is lenient, and the request is refused for what is
unknown and for nothing else. -/
theorem compile_prepared [PatternEngine] {d : Document} {log : List SecurityEvent}
    {ready : ReadyFilter} (prepared : (e.prepare d log).1 = .ok ready) {p : PageRequest}
    (filters : p.filters = ready.report.document.conditions) (noSearch : p.globalSearch = none)
    (log' : List SecurityEvent) :
    ((∀ q ∈ Condition.predicates p.filters, q.isKnown e.schema.fields = true) →
      (e.compile p log').1 = .ok ready.criteria) ∧
    ((∃ q ∈ Condition.predicates p.filters, q.isKnown e.schema.fields = false) →
      e.config.strictValidation = false ∧
        ∃ v, (e.compile p log').1 = .error (.invalid v) ∧ v.errors ≠ [] ∧
          ∀ error ∈ v.errors, error.code = .unknownField) := by
  obtain ⟨passed, compiled, reported, -⟩ := prepare_eq_ok.mp prepared
  have migrated : p.filters = e.migrated d := by
    rw [filters, reported]
    rfl
  obtain ⟨forgivable, strictly⟩ := judged_valid_iff.mp passed
  rw [← migrated] at forgivable strictly compiled
  have known : e.validator.findingsIn 0 p.filters = [] ↔
      ∀ q ∈ Condition.predicates p.filters, q.isKnown e.schema.fields = true :=
    Validator.findingsIn_eq_nil_of_forgivable forgivable
  rw [compile_eq, criteriaOfRequest_filters noSearch]
  constructor
  · intro all
    exact outcome_eq_ok.mpr ⟨Validator.validate_valid_iff.mpr (known.mpr all), compiled⟩
  · rintro ⟨q, stands, unknown⟩
    have found : e.validator.findingsIn 0 p.filters ≠ [] := by
      intro faultless
      rw [known.mp faultless q stands] at unknown
      cases unknown
    have refused : (e.validate p.filters log').1.valid = false :=
      Bool.eq_false_iff.mpr fun valid => found (Validator.validate_valid_iff.mp valid)
    refine ⟨Bool.eq_false_iff.mpr fun strict => found (strictly strict), _,
      if_neg (Bool.eq_false_iff.mp refused), ?_, Validator.errors_forgivable_iff.mpr forgivable⟩
    rw [validate, Validator.validate_eq]
    exact fun none => found (List.map_eq_nil_iff.mp none)

/-- A filter with a former tag of an operator runs once it is prepared. -/
theorem compile_prepared_renamed :
    let e : Engine := { schema := { name := "User", fields := .ofList [("name", {})] } }
    let d : Document :=
      ⟨2, [.leaf { id := "a", field := some "name", operator := some "equals",
                   value := some (.string "x") }]⟩
    ∃ ready, (e.prepare d []).1 = .ok ready ∧
      (e.compile { filters := ready.report.document.conditions } []).1 = .ok ready.criteria := by
  intro e d
  have migrated : e.migrated d = [.onField "a" "name" .eq (.string "x")] := rfl
  have known : ∀ q ∈ Condition.predicates (e.migrated d), q.isKnown e.schema.fields = true := by
    rw [migrated, Condition.onField, Condition.predicates_leaf_cons, Condition.predicates_nil]
    exact List.forall_mem_singleton.mpr rfl
  obtain ⟨ready, prepared, -, conditions, -⟩ :=
    exists_ready (e := e) (d := d) (judged_valid rfl []) rfl
  rw [← conditions] at known
  exact ⟨ready, prepared, (compile_prepared prepared rfl rfl []).1 known⟩

/-- A field that has left the catalogue stops no lenient preparation. As a request, the prepared
filter is refused. -/
theorem prepared_and_refused :
    let e : Engine := { schema := { name := "User", fields := .ofList [("name", {})] } }
    let d : Document := ⟨2, [.onField "a" "ghost" .eq (.string "x")]⟩
    ∃ ready, (e.prepare d []).1 = .ok ready ∧ ready.criteria = .field "ghost" (.eq (.string "x")) ∧
      ∀ log, (e.compile { filters := ready.report.document.conditions } log).1 ≠
        .ok ready.criteria := by
  intro e d
  have unknown : e.validator.findingsIn 0 (e.migrated d) =
      [{ conditionId := "a", field := some "ghost", fault := .unknownField "ghost",
         shown := some (.string "x") }] := rfl
  have forgivable : Validator.Forgivable (e.validator.faultsIn 0 (e.migrated d)) := by
    rw [Validator.faultsIn, unknown]
    exact List.forall_mem_singleton.mpr rfl
  obtain ⟨ready, prepared, criteria, conditions, -⟩ := exists_ready (e := e) (d := d)
    (judged_valid_iff.mpr ⟨forgivable, by rintro ⟨⟩⟩) rfl
  refine ⟨ready, prepared, criteria, fun log accepted => ?_⟩
  rw [compile_eq, conditions] at accepted
  have faultless := Validator.validate_valid_iff.mp (outcome_eq_ok.mp accepted).1
  rw [unknown] at faultless
  cases faultless

end Engine

end RowFilter
