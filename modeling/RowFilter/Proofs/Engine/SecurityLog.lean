import RowFilter.Pattern.Matching
import RowFilter.Proofs.Engine.Preparation
import RowFilter.Proofs.Validation.Events

/-! # The security log of an engine

An engine holds a validator and a migrator with a validator of its own, and preparation would fall
back on the one where the other gave no result. Still each call validates exactly one forest, and
once: whatever the call does after that has no logger to write to. So a log that keeps everything
holds, at the end of a session, the events of one validation for each call, in the order of the
calls.
-/

namespace RowFilter

/-- Keeping events one after the other appends them to the log. -/
theorem Logger.foldl_keeping (events log : List SecurityEvent) :
    events.foldl Logger.keeping log = log ++ events := by
  induction events generalizing log with
  | nil => exact (List.append_nil log).symm
  | cons event rest ih =>
      rw [List.foldl_cons, ih, Logger.keeping, List.append_assoc, List.singleton_append]

namespace Engine

/-- A call that validates something. -/
inductive Call where
  | validate (forest : List Condition)
  | migrate (d : Document)
  | prepare (d : Document)
  | compile (p : PageRequest)
  | query (store : Store) (p : PageRequest)

variable [PatternEngine]

/-- The log that a call leaves. -/
def logged (e : Engine) (log : List SecurityEvent) : Call → List SecurityEvent
  | .validate forest => (e.validate forest log).2
  | .migrate d => (e.migrate d log).2
  | .prepare d => (e.prepare d log).2
  | .compile p => (e.compile p log).2
  | .query store p => (e.query store p log).2

/-- The log that a sequence of calls leaves, starting from an empty one. -/
def session (e : Engine) (calls : List Call) : List SecurityEvent := calls.foldl e.logged []

/-- The conditions that a call validates: those of a document after its migration. -/
def validated (e : Engine) : Call → List Condition
  | .validate forest => forest
  | .migrate d | .prepare d => e.migrated d
  | .compile p | .query _ p => p.filters

/-- The same engine with a log that keeps every event. -/
def remembering (e : Engine) : Engine := { e with logger := .keeping }

theorem prepare_log (e : Engine) (d : Document) (log : List SecurityEvent) :
    (e.prepare d log).2 = (e.migrate d log).2 := by
  rw [prepare, Assembly.prepare, assembly_migrate, assembly_validate, assembly_compiler,
    Logged.bind_run, e.migrate_validation d log]
  dsimp only
  rw [Logged.bind_run, Logged.pure_run]
  dsimp only
  split
  · rfl
  · cases e.compiler.criteriaOfForest (e.migrate d log).1.document.conditions .and <;> rfl

/-- A call logs what the validation of its conditions does, and nothing besides. -/
theorem logged_eq (e : Engine) (call : Call) (log : List SecurityEvent) :
    e.logged log call = (e.validate (e.validated call) log).2 := by
  cases call with
  | validate forest => rfl
  | migrate d => rfl
  | prepare d => exact e.prepare_log d log
  | compile p =>
      rw [logged, compile, Assembly.compile, assembly_validate, Logged.bind_run]
      split <;> rfl
  | query store p =>
      rw [logged, query, Assembly.query, assembly_validate, Logged.bind_run]
      split <;> rfl

/-- One call appends the events of one validation. -/
theorem remembering_logged (e : Engine) (call : Call) (log : List SecurityEvent) :
    e.remembering.logged log call = log ++ (e.validate (e.validated call) []).1.events := by
  let v : Validator := { e.validator with logger := .keeping }
  have same : (v.validate (e.validated call) log).1 = (e.validate (e.validated call) []).1 :=
    e.validator.validate_logger .keeping (e.validated call) [] log
  calc e.remembering.logged log call
    _ = (v.validate (e.validated call) log).2 := e.remembering.logged_eq call log
    _ = (v.validate (e.validated call) log).1.events.foldl Logger.keeping log :=
      v.validate_log_eq (e.validated call) log
    _ = log ++ (v.validate (e.validated call) log).1.events := Logger.foldl_keeping _ _
    _ = log ++ (e.validate (e.validated call) []).1.events := by rw [same]

/-- A session logs the events of one validation for each call, in the order of the calls. -/
theorem session_eq (e : Engine) (calls : List Call) :
    e.remembering.session calls =
      calls.flatMap fun call => (e.validate (e.validated call) []).1.events := by
  have from_log (log : List SecurityEvent) : calls.foldl e.remembering.logged log =
      log ++ calls.flatMap fun call => (e.validate (e.validated call) []).1.events := by
    induction calls generalizing log with
    | nil => exact (List.append_nil log).symm
    | cons call rest ih =>
        rw [List.foldl_cons, ih, remembering_logged, List.flatMap_cons, List.append_assoc]
  exact from_log []

end Engine

/-- Security events are exact and change nothing. Of every validation they are the hostile errors
over again, with the same conditions and texts and in the same order; what is valid has none, even
if it is valid only by leniency; and no logger changes what is found. What a session leaves in a
log is one validation's events for each call. -/
theorem events_exact [PatternEngine] :
    (∀ (v : Validator) forest log,
      (∃ blamed, v.Account forest (v.validate forest log).1 blamed) ∧
      ((v.validate forest log).1.valid = true → (v.validate forest log).1.events = []) ∧
      ∀ logger log', (({ v with logger } : Validator).validate forest log').1 =
        (v.validate forest log).1) ∧
    (∀ (m : Migrator) d fields options log,
      (∀ v, (m.bringUpToDate d fields options log).1.validation = some v → v.valid = true →
        v.events = []) ∧
      ∀ logger log', (({ m with logger } : Migrator).bringUpToDate d fields options log').1 =
        (m.bringUpToDate d fields options log).1) ∧
    ∀ (e : Engine) calls, e.remembering.session calls =
      calls.flatMap fun call => (e.validate (e.validated call) []).1.events := by
  refine ⟨fun v forest log => ?_, fun m d fields options log => ?_, Engine.session_eq⟩
  · exact ⟨v.exists_account forest log, Validator.events_eq_nil_of_valid,
      fun logger log' => v.validate_logger logger forest log log'⟩
  · exact ⟨fun v => Migrator.bringUpToDate_events,
      fun logger log' => m.bringUpToDate_logger logger d fields options log log'⟩

/-- A session with three calls, of which the second meets nothing hostile, and a lenient migration
that is valid for all that a field is unknown. -/
theorem events_exact_session :
    let e : Engine :=
      { schema := { name := "User", fields := .ofList [("name", {})] }
        config := { limits := { maxDepth := 0, maxStringLength := 1 } } }
    let test (field text : String) : Condition := .onField "a" field .eq (.string text)
    let nested : List Condition := [.group { id := "g" } [test "name" "x"]]
    let stored : Document := ⟨2, [test "ghost" "x"]⟩
    let long : OperandFault := .stringTooLong 2 1
    let fine : List Condition := [test "name" "x"]
    e.remembering.session
        [.validate nested, .compile { filters := fine }, .prepare ⟨2, [test "name" "xy"]⟩] =
      [{ kind := .maxDepthExceeded, conditionId := "a", details := (Fault.tooDeep 0).message },
       { kind := .stringTooLong, conditionId := "a", details := long.message,
         value := some (.string "xy") }] ∧
    (e.validate fine []).1.valid = true ∧ (e.validate fine []).1.events = [] ∧
    ∃ v, (e.migrate stored []).1.validation = some v ∧ v.valid = true ∧ v.events = [] := by
  intro e test nested stored long fine
  have logged := events_exact.2.2 e
    [.validate nested, .compile { filters := fine }, .prepare ⟨2, [test "name" "xy"]⟩]
  simp only [Engine.validate, Validator.validate_eq, Validation.ofParts] at logged
  have faultless : (e.validate fine []).1.valid = true := Validator.validate_valid_iff.mpr rfl
  have unknown : e.validator.findingsIn 0 (e.migrated stored) =
      [{ conditionId := "a", field := some "ghost", fault := .unknownField "ghost",
         shown := some (.string "x") }] := rfl
  have forgivable : Validator.Forgivable (e.validator.faultsIn 0 (e.migrated stored)) := by
    rw [Validator.faultsIn, unknown]
    exact List.forall_mem_singleton.mpr rfl
  have valid : (e.judged (e.validate (e.migrated stored) []).1).valid = true :=
    Engine.judged_valid_iff.mpr ⟨forgivable, by rintro ⟨⟩⟩
  have reported := e.migrate_validation stored []
  exact ⟨logged, faultless, (events_exact.1 e.validator fine []).2.1 faultless, _, reported, valid,
    (events_exact.2.1 _ _ _ _ _).1 _ reported valid⟩

end RowFilter
