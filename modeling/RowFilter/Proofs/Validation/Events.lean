import Mathlib.Data.List.Forall2
import RowFilter.Migration.Migrator
import RowFilter.Proofs.Validation.Leniency
import RowFilter.Proofs.Validation.Operands

/-! # Security events of a validation

An event is raised where a fault looks hostile, and the fault is reported as an error besides.
Whether it does can be told without the fault: for most codes of errors from the code alone, and
for a bad operand from its size. So the events are those errors over again, in their order, and
where no error is left, or only such as a lenient validation forgives, there are none. The log gets
the same events as they are raised and gives nothing back.
-/

namespace RowFilter

namespace Operand

/-- How many values an operand lists. -/
def valueCount : Json → Nat
  | .array items => items.length
  | _ => 0

/-- Whether the list of a membership test has more values, or any string in an operand more
characters, than the limits admit. -/
def isOversized (op : Operator) (v : Json) (limits : Limits) : Bool :=
  (op == .isIn || op == .notIn) && limits.maxInValues < valueCount v ||
    limits.maxStringLength < longestText v

end Operand

/-- Whether the operand of a test is oversized for its operator. -/
def Predicate.isOversized (limits : Limits) : Predicate → Bool
  | .field _ tag value | .relation _ _ tag value =>
    (tag.bind Operator.ofTag?).any fun op => value.any fun v => Operand.isOversized op v limits
  | .raw .. | .custom .. => false

/-- Whether a node tests something with an oversized operand. -/
def Condition.isOversized (limits : Limits) (c : Condition) : Bool :=
  c.predicate?.any (Predicate.isOversized limits)

/-- Whether an error of this code raises an event; one about a bad operand does if the operand is
oversized. -/
def ErrorCode.isHostile (oversized : Bool) : ErrorCode → Bool
  | maxDepthExceeded | tooManyConditions | dangerousSql => true
  | invalidValue => oversized
  | _ => false

/-- An event with the condition and the text of an error. -/
def SecurityEvent.Records (event : SecurityEvent) (e : ValidationError) : Prop :=
  event.conditionId = e.conditionId ∧ event.details = e.message

namespace Operand

variable {op : Operator} {v : Json} {limits : Limits}

/-- The first fault in the size of an operand under the limits, whatever its field admits. -/
def ceilingFault? (op : Operator) (v : Json) (limits : Limits) : Option OperandFault :=
  (countFault? op limits v).or (lengthFault? limits v)

theorem countFault?_eq_none :
    countFault? op limits v = none ↔
      (op = .isIn ∨ op = .notIn → valueCount v ≤ limits.maxInValues) := by
  cases v with
  | array items => simp [countFault?, valueCount]
  | null | bool | number | string | object => simp [countFault?, valueCount]

theorem isOversized_eq : isOversized op v limits = (ceilingFault? op v limits).isSome := by
  have many : (countFault? op limits v).isSome =
      ((op == .isIn || op == .notIn) && decide (limits.maxInValues < valueCount v)) := by
    cases v with
    | array items =>
        rw [countFault?, valueCount]
        split
        · rename_i beyond
          exact beyond.symm
        · rename_i fits
          exact (Bool.eq_false_iff.mpr fits).symm
    | _ => simp [countFault?, valueCount]
  have long : (lengthFault? limits v).isSome = decide (limits.maxStringLength < longestText v) := by
    rw [lengthFault?]
    split <;> simp [*]
  rw [isOversized, ceilingFault?, Option.isSome_or, many, long]

theorem sizeFault?_eq (config : Option FieldConfig) :
    sizeFault? op v config limits =
      (ceilingFault? op v limits).or (fieldLengthFault? config v) := by
  rw [sizeFault?, ceilingFault?, Option.or_assoc]

theorem ceilingFault?_loud {fault : OperandFault} (found : ceilingFault? op v limits = some fault) :
    fault.eventKind?.isSome = true := by
  rw [ceilingFault?, Option.or_eq_some_iff] at found
  rcases found with many | ⟨_, long⟩
  · unfold countFault? at many
    split at many
    · split at many <;> cases many
      rfl
    · cases many
  · rw [lengthFault?] at long
    split at long <;> cases long
    rfl

theorem fieldLengthFault?_quiet {config : Option FieldConfig} {fault : OperandFault}
    (found : fieldLengthFault? config v = some fault) : Quiet fault := by
  obtain ⟨max, _, exceeded⟩ := Option.bind_eq_some_iff.mp found
  split at exceeded <;> cases exceeded
  rfl

theorem size_of_isEmpty (absent : isEmpty (some v) = true) :
    valueCount v = 0 ∧ longestText v = 0 := by
  cases v with
  | null => exact ⟨rfl, rfl⟩
  | string s =>
      refine ⟨rfl, ?_⟩
      rw [longestText, String.isEmpty_iff.mp absent]
      rfl
  | array items =>
      cases items with
      | nil => exact ⟨rfl, rfl⟩
      | cons => cases absent
  | _ => cases absent

/-- What is oversized is there. -/
theorem isEmpty_of_isOversized (oversized : isOversized op v limits = true) :
    isEmpty (some v) = false := by
  rw [Bool.eq_false_iff]
  intro absent
  obtain ⟨count, length⟩ := size_of_isEmpty absent
  simp [isOversized, count, length] at oversized

/-- An operand that is refused raises an event exactly if it is oversized: that is asked before
anything else about an operand that is there. -/
theorem eventKind?_of_check [PatternEngine] {value : Option Json} {config : Option FieldConfig}
    {fault : OperandFault} (refused : check op value config limits = .error fault) :
    fault.eventKind?.isSome = value.any fun v => isOversized op v limits := by
  rw [Bool.eq_iff_iff]
  constructor
  · intro loud
    have raised : ¬ Quiet fault := by
      intro quiet
      rw [quiet] at loud
      cases loud
    obtain ⟨_, v, rfl, _, sized⟩ := sizeFault?_of_event refused raised
    rw [sizeFault?_eq, Option.or_eq_some_iff] at sized
    rcases sized with found | ⟨_, exceeding⟩
    · rw [Option.any_some, isOversized_eq, found]
      rfl
    · exact absurd (fieldLengthFault?_quiet exceeding) raised
  · intro oversized
    cases value with
    | none => cases oversized
    | some v =>
        -- Whatever else is wrong with the operand, its size is what it is refused for.
        rw [Option.any_some] at oversized
        have present := isEmpty_of_isOversized oversized
        rw [isOversized_eq, Option.isSome_iff_exists] at oversized
        obtain ⟨first, found⟩ := oversized
        have sized : sizeFault? op v config limits = some first := by
          rw [sizeFault?_eq, found, Option.some_or]
        rw [check_some, present, sized] at refused
        split at refused
        · cases refused
          exact ceilingFault?_loud found
        · cases refused

end Operand

namespace Validator

variable {v : Validator} {forest : List Condition}

section

variable [PatternEngine]

/-- The validator reports an error on a node, at some depth. -/
def Reports (v : Validator) (c : Condition) (e : ValidationError) : Prop :=
  ∃ depth f, (v.inspect depth c).1 = some f ∧ f.error = e

/-- Whether an error on a node looks hostile: too deep a nesting, too large a group, dangerous
text, or a bad operand that is oversized. -/
def isHostile (v : Validator) (t : Condition × ValidationError) : Bool :=
  t.2.code.isHostile (t.1.isOversized v.limits)

/-- An account of a validation: the errors, each with the node of the forest that it is reported
on, in document order. The events are those of the hostile ones, one each and in the same order. -/
structure Account (v : Validator) (forest : List Condition) (result : Validation)
    (blamed : List (Condition × ValidationError)) : Prop where
  errors : blamed.map Prod.snd = result.errors
  nodes : (blamed.map Prod.fst).Sublist (Condition.nodes forest)
  reported : ∀ t ∈ blamed, v.Reports t.1 t.2
  events : List.Forall₂ SecurityEvent.Records result.events
    ((blamed.filter v.isHostile).map Prod.snd)

/-- Among the faults of a test only that of an operand may raise an event. -/
theorem eventKind?_of_testFault? {tag : Option String} {value : Option Json}
    {config : Option FieldConfig} {fault : Fault}
    (found : v.testFault? tag value config = some fault) :
    fault.eventKind?.isSome = fault.code.isHostile ((tag.bind Operator.ofTag?).any fun op =>
      value.any fun operand => Operand.isOversized op operand v.limits) := by
  rcases testFault?_eq_some found with rfl | ⟨_, _, rfl⟩ | ⟨op, refusal, known, refused, rfl⟩
  · rfl
  · rfl
  · rw [known, Option.any_some]
    exact Operand.eventKind?_of_check refused

theorem eventKind?_of_leafFault? {p : Predicate} {field : Option String} {fault : Fault}
    (found : v.leafFault? p = some (field, fault)) :
    fault.eventKind?.isSome = fault.code.isHostile (p.isOversized v.limits) := by
  cases p with
  | raw text params =>
      obtain ⟨_, found, ⟨⟩⟩ := Option.map_eq_some_iff.mp found
      rcases rawFault?_eq_some found with ⟨_, rfl⟩ | ⟨_, _, rfl⟩ <;> rfl
  | custom handler tag value params =>
      obtain ⟨_, found, ⟨⟩⟩ := Option.map_eq_some_iff.mp found
      obtain ⟨_, rfl⟩ := customFault?_eq_some found
      rfl
  | relation relation field tag value =>
      rcases leafFault?_relation_eq_some found with rfl | rfl | rfl | tested
      · rfl
      · rfl
      · rfl
      · exact eventKind?_of_testFault? tested
  | field field tag value =>
      rcases leafFault?_field_eq_some found with rfl | ⟨_, rfl⟩ | ⟨_, rfl⟩ | ⟨_, tested⟩
      · rfl
      · rfl
      · rfl
      · exact eventKind?_of_testFault? tested

end

theorem eventKind?_of_groupFault? {tag : Option String} {size : Nat} {fault : Fault}
    (found : v.groupFault? tag size = some fault) :
    fault.eventKind?.isSome = fault.code.isHostile false := by
  rcases groupFault?_eq_some found with rfl | ⟨_, rfl⟩ | rfl <;> rfl

/-- Whether the finding on a node raises an event can be told from the code of the error and the
size of the operand. -/
theorem event?_of_inspect [PatternEngine] {depth : Nat} {c : Condition} {f : Finding}
    (found : (v.inspect depth c).1 = some f) :
    f.event?.isSome = v.isHostile (c, f.error) := by
  rw [Finding.event?, Option.isSome_map, isHostile, Finding.error]
  unfold inspect at found
  split at found
  · cases found
    rfl
  · cases c with
    | leaf clause =>
        obtain ⟨⟨field, fault⟩, blamed, rfl⟩ := Option.map_eq_some_iff.mp found
        exact eventKind?_of_leafFault? blamed
    | group clause children =>
        obtain ⟨fault, blamed, rfl⟩ := Option.map_eq_some_iff.mp found
        exact eventKind?_of_groupFault? blamed

theorem records_of_event? {f : Finding} {event : SecurityEvent} (raised : f.event? = some event) :
    event.Records f.error := by
  obtain ⟨kind, _, rfl⟩ := Option.map_eq_some_iff.mp raised
  exact ⟨rfl, rfl⟩

section

variable [PatternEngine]

/-- Findings on a forest, each with the node that it is about. -/
structure Placed (v : Validator) (forest : List Condition) (found : List Finding)
    (placed : List (Condition × Finding)) : Prop where
  findings : placed.map Prod.snd = found
  nodes : (placed.map Prod.fst).Sublist (Condition.nodes forest)
  inspected : ∀ t ∈ placed, ∃ depth, (v.inspect depth t.1).1 = some t.2

theorem Placed.nil (v : Validator) (forest : List Condition) : v.Placed forest [] [] :=
  ⟨rfl, List.nil_sublist _, List.forall_mem_nil _⟩

/-- The findings on a tree and the trees beside it, from those below its root and those beside. -/
theorem Placed.cons {depth : Nat} {c : Condition} {rest : List Condition}
    {below beside : List (Condition × Finding)}
    (inside : v.Placed c.children (v.findingsIn (depth + 1) c.children) below)
    (others : v.Placed rest (v.findingsIn depth rest) beside) :
    ∃ placed, v.Placed (c :: rest) (v.findingsIn depth (c :: rest)) placed := by
  obtain ⟨looked, opened⟩ : ∃ looked, v.Placed c.children
      (if (v.inspect depth c).2 then v.findingsIn (depth + 1) c.children else []) looked := by
    split
    · exact ⟨below, inside⟩
    · exact ⟨[], .nil v c.children⟩
  refine ⟨(v.inspect depth c).1.toList.map (c, ·) ++ (looked ++ beside), ?_, ?_, ?_⟩
  · rw [findingsIn, findings_eq, List.append_assoc, List.map_append, List.map_append,
      opened.findings, others.findings, List.map_map]
    exact congrArg (· ++ _) (List.map_id _)
  · rw [Condition.nodes_cons, List.map_append, List.map_append]
    have under := opened.nodes.append others.nodes
    cases (v.inspect depth c).1 with
    | none => exact under.cons c
    | some f => exact under.cons_cons c
  · intro t member
    rw [List.mem_append, List.mem_append] at member
    rcases member with here | inner | outer
    · obtain ⟨f, found, rfl⟩ := List.mem_map.mp here
      exact ⟨depth, Option.mem_toList.mp found⟩
    · exact opened.inspected t inner
    · exact others.inspected t outer

/-- No node has two findings, and they come in the order of the nodes. -/
theorem exists_placed (v : Validator) (depth : Nat) (forest : List Condition) :
    ∃ placed, v.Placed forest (v.findingsIn depth forest) placed := by
  induction forest using Condition.forest_induction generalizing depth with
  | nil => exact ⟨[], .nil v []⟩
  | leaf clause rest ih =>
      obtain ⟨beside, others⟩ := ih depth
      exact Placed.cons (.nil v []) others
  | group clause children rest ihc ihr =>
      obtain ⟨below, inside⟩ := ihc (depth + 1)
      obtain ⟨beside, others⟩ := ihr depth
      exact Placed.cons inside others

/-- The events raised by findings are those of the hostile errors. -/
theorem records_hostile {placed : List (Condition × Finding)}
    (inspected : ∀ t ∈ placed, ∃ depth, (v.inspect depth t.1).1 = some t.2) :
    List.Forall₂ SecurityEvent.Records ((placed.map Prod.snd).filterMap Finding.event?)
      (((placed.map fun t => (t.1, t.2.error)).filter v.isHostile).map Prod.snd) := by
  induction placed with
  | nil => exact .nil
  | cons t rest ih =>
      rw [List.forall_mem_cons] at inspected
      obtain ⟨⟨depth, found⟩, others⟩ := inspected
      have told := event?_of_inspect found
      rw [List.map_cons, List.map_cons]
      cases raised : t.2.event? with
      | none =>
          rw [raised, Option.isSome_none] at told
          have passed := Bool.eq_false_iff.mp told.symm
          rw [List.filterMap_cons_none raised, List.filter_cons_of_neg passed]
          exact ih others
      | some event =>
          rw [raised, Option.isSome_some] at told
          rw [List.filterMap_cons_some raised, List.filter_cons_of_pos told.symm, List.map_cons]
          exact .cons (records_of_event? raised) (ih others)

theorem exists_account (v : Validator) (forest : List Condition) (log : List SecurityEvent) :
    ∃ blamed, v.Account forest (v.validate forest log).1 blamed := by
  obtain ⟨placed, h⟩ := v.exists_placed 0 forest
  refine ⟨placed.map fun t => (t.1, t.2.error), ?_, ?_, ?_, ?_⟩
  · rw [validate_eq, ← h.findings, Validation.ofParts, List.map_map, List.map_map]
    rfl
  · rw [List.map_map]
    exact h.nodes
  · rw [List.forall_mem_map]
    intro t member
    obtain ⟨depth, found⟩ := h.inspected t member
    exact ⟨depth, t.2, found, rfl⟩
  · rw [validate_eq, ← h.findings]
    exact records_hostile h.inspected

/-- Errors that a lenient validation forgives raise no events. -/
theorem Account.events_eq_nil {result : Validation} {blamed : List (Condition × ValidationError)}
    (h : v.Account forest result blamed) (forgiven : ∀ e ∈ result.errors, e.code = .unknownField) :
    result.events = [] := by
  have harmless : blamed.filter v.isHostile = [] := by
    rw [List.filter_eq_nil_iff]
    intro t member
    have code : t.2.code = .unknownField := by
      refine forgiven _ ?_
      rw [← h.errors]
      exact List.mem_map_of_mem member
    rw [isHostile, code]
    exact Bool.false_ne_true
  have recorded := h.events
  rw [harmless, List.map_nil, List.forall₂_nil_right_iff] at recorded
  exact recorded

/-- A validation that finds nothing raises no events. -/
theorem events_eq_nil_of_valid {log : List SecurityEvent}
    (valid : (v.validate forest log).1.valid = true) : (v.validate forest log).1.events = [] := by
  rw [validate_eq, Validation.ofParts, validate_valid_iff.mp valid]
  rfl

/-- The logger has no say in what is found. -/
theorem findingsIn_logger (v : Validator) (logger : Logger) (depth : Nat)
    (forest : List Condition) :
    ({ v with logger } : Validator).findingsIn depth forest = v.findingsIn depth forest := by
  have looked (depth : Nat) (c : Condition) :
      ({ v with logger } : Validator).inspect depth c = v.inspect depth c := rfl
  induction forest using Condition.forest_induction generalizing depth with
  | nil => rfl
  | leaf clause rest ih => rw [findingsIn, findingsIn, findings, findings, looked, ih]
  | group clause children rest ihc ihr =>
      rw [findingsIn, findingsIn, findings, findings, looked, ihc, ihr]

/-- What a validation gives depends neither on the logger nor on what was logged before. -/
theorem validate_logger (v : Validator) (logger : Logger) (forest : List Condition)
    (log log' : List SecurityEvent) :
    (({ v with logger } : Validator).validate forest log').1 = (v.validate forest log).1 := by
  rw [validate_eq, validate_eq, findingsIn_logger]

end

theorem reports_log (logger : Logger) (found : List Finding) (p : Progress) :
    (found.foldl (fun p f => p.report logger f) p).log =
      (found.filterMap Finding.event?).foldl logger p.log := by
  induction found generalizing p with
  | nil => rfl
  | cons f rest ih =>
      rw [List.foldl_cons, ih, Progress.report]
      cases raised : f.event? <;> simp [raised]

/-- The logger gets the events of the result, in their order. -/
theorem validate_log_eq [PatternEngine] (v : Validator) (forest : List Condition)
    (log : List SecurityEvent) :
    (v.validate forest log).2 = (v.validate forest log).1.events.foldl v.logger log := by
  have visited := v.visit_eq { log } (forest.map fun c => (0, c))
  rw [List.flatMap_map, ← findingsIn_eq_flatMap] at visited
  rw [validate_eq, Validation.ofParts]
  exact (congrArg Progress.log visited).trans (reports_log v.logger _ { log })

end Validator

namespace Migrator

variable [PatternEngine] {m : Migrator} {fields : Fields} {options : MigrationPolicy}

theorem validateMigrated_eq (m : Migrator) (fields : Fields) (options : MigrationPolicy)
    (conditions : List Condition) (log : List SecurityEvent) :
    (m.validateMigrated fields options conditions log).1 =
      if options.strictValidation then
        (((m.validator fields options).validate conditions log).1, [])
      else demoteUnknownFields ((m.validator fields options).validate conditions log).1 := rfl

/-- What is valid raises no events, and neither does what is valid once it has been forgiven. -/
theorem validateMigrated_events {conditions : List Condition} {log : List SecurityEvent}
    (valid : (m.validateMigrated fields options conditions log).1.1.valid = true) :
    (m.validateMigrated fields options conditions log).1.1.events = [] := by
  rw [validateMigrated_eq] at valid ⊢
  by_cases strict : options.strictValidation = true
  · rw [if_pos strict] at valid ⊢
    exact Validator.events_eq_nil_of_valid valid
  · rw [if_neg strict] at valid ⊢
    obtain ⟨blamed, account⟩ := (m.validator fields options).exists_account conditions log
    exact account.events_eq_nil (demoteUnknownFields_valid.mp valid)

theorem bringUpToDate_events {d : Document} {fields : Option Fields} {log : List SecurityEvent}
    {v : Validation} (reported : (m.bringUpToDate d fields options log).1.validation = some v)
    (valid : v.valid = true) : v.events = [] := by
  cases fields with
  | none => cases reported
  | some fields =>
      cases reported
      exact validateMigrated_events valid

theorem validateMigrated_logger (m : Migrator) (logger : Logger) (fields : Fields)
    (options : MigrationPolicy) (conditions : List Condition) (log log' : List SecurityEvent) :
    (({ m with logger } : Migrator).validateMigrated fields options conditions log').1 =
      (m.validateMigrated fields options conditions log).1 := by
  have same := (m.validator fields options).validate_logger logger conditions log log'
  rw [validateMigrated_eq, validateMigrated_eq, ← same]
  rfl

/-- A migration with fields is one without them, with a validation of what it leaves. -/
theorem bringUpToDate_some (m : Migrator) (d : Document) (fields : Fields)
    (options : MigrationPolicy) (log : List SecurityEvent) :
    let plain := (m.bringUpToDate d none options log).1
    let judged := (m.validateMigrated fields options plain.document.conditions log).1
    (m.bringUpToDate d (some fields) options log).1 =
      { plain with
        warnings := plain.warnings ++ judged.2 ++
          missingFieldWarnings fields plain.document.conditions
        validation := some judged.1 } := rfl

/-- What a migration reports depends neither on the logger nor on what was logged before. -/
theorem bringUpToDate_logger (m : Migrator) (logger : Logger) (d : Document)
    (fields : Option Fields) (options : MigrationPolicy) (log log' : List SecurityEvent) :
    (({ m with logger } : Migrator).bringUpToDate d fields options log').1 =
      (m.bringUpToDate d fields options log).1 := by
  cases fields with
  | none => rfl
  | some fields =>
      rw [bringUpToDate_some, bringUpToDate_some, m.validateMigrated_logger logger _ _ _ log]
      rfl

end Migrator

end RowFilter
