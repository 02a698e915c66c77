import RowFilter.Proofs.Condition.Forest
import RowFilter.Validation

/-! # Findings as a recursion

The validator works off a list of pending trees and reports into a record of errors, events and
log. What it reports is a recursion over the forest: the finding about a node, then the findings
below it, unless the node is too deep or too large to be looked into.
-/

namespace RowFilter.Validator

section

variable [PatternEngine]

mutual

/-- The findings on a tree that stands at a given depth, in document order. -/
def findings (v : Validator) (depth : Nat) : Condition → List Finding
  | .leaf clause => (v.inspect depth (.leaf clause)).1.toList
  | .group clause children =>
    (v.inspect depth (.group clause children)).1.toList ++
      if (v.inspect depth (.group clause children)).2 then findingsIn v (depth + 1) children
      else []

/-- The findings on the trees of a forest, all at one depth. -/
def findingsIn (v : Validator) (depth : Nat) : List Condition → List Finding
  | [] => []
  | c :: rest => findings v depth c ++ findingsIn v depth rest

end

theorem findingsIn_eq_flatMap (v : Validator) (depth : Nat) (forest : List Condition) :
    v.findingsIn depth forest = forest.flatMap (v.findings depth) := by
  induction forest with
  | nil => rw [findingsIn, List.flatMap_nil]
  | cons c rest ih => rw [findingsIn, List.flatMap_cons, ih]

theorem findings_eq (v : Validator) (depth : Nat) (c : Condition) :
    v.findings depth c = (v.inspect depth c).1.toList ++
      if (v.inspect depth c).2 then v.findingsIn (depth + 1) c.children else [] := by
  cases c with
  | leaf clause => rw [findings, Condition.children, findingsIn, ite_self, List.append_nil]
  | group clause children => rw [findings, Condition.children]

end

theorem given?_eq_some {text : Option String} {s : String} :
    given? text = some s ↔ text = some s ∧ s.isEmpty = false := by
  rw [given?, Option.filter_eq_some_iff, Bool.not_eq_true']

section Faults

variable {v : Validator} {fault : Fault}

/-- What can be wrong with a group itself. -/
theorem groupFault?_eq_some {tag : Option String} {size : Nat}
    (found : v.groupFault? tag size = some fault) :
    fault = .tooManyConditions size v.limits.maxConditionsPerGroup ∨
      (∃ name, fault = .invalidLogic name) ∨ fault = .notRequiresOne := by
  unfold groupFault? at found
  split at found
  · exact .inl (Option.some.inj found).symm
  · cases tag with
    | none => cases found
    | some tag =>
        dsimp only at found
        split at found
        · exact .inr (.inl ⟨tag, (Option.some.inj found).symm⟩)
        · split at found
          · cases found
          · exact .inr (.inr (Option.some.inj found).symm)
        · cases found

theorem rawFault?_eq_some {text : String} {params : Option (List Json)}
    (found : rawFault? text params = some fault) :
    (∃ pattern, fault = .dangerousText pattern) ∨
      ∃ expected given, fault = .paramMismatch expected given := by
  unfold rawFault? at found
  split at found
  · exact .inl ⟨_, (Option.some.inj found).symm⟩
  · split at found
    · cases found
    · dsimp only at found
      split at found
      · cases found
      · exact .inr ⟨_, _, (Option.some.inj found).symm⟩

theorem customFault?_eq_some {handler : String} {value : Option Json}
    (found : v.customFault? handler value = some fault) :
    ∃ reason, fault = .refusedByHandler reason := by
  unfold customFault? at found
  split at found
  · cases found
  · split at found
    · cases found
    · exact ⟨_, (Option.some.inj found).symm⟩

variable [PatternEngine]

/-- What can be wrong with a test of a known field: its operator, or an operand that the operator
does not take. -/
theorem testFault?_eq_some {tag : Option String} {value : Option Json}
    {config : Option FieldConfig} (found : v.testFault? tag value config = some fault) :
    fault = .operatorRequired ∨ (∃ name kind, fault = .invalidOperator name kind) ∨
      ∃ op refusal, tag.bind Operator.ofTag? = some op ∧
        Operand.check op value config v.limits = .error refusal ∧ fault = .badOperand refusal := by
  unfold testFault? at found
  split at found
  · exact .inl (Option.some.inj found).symm
  · rename_i name filled
    split at found
    · exact .inr (.inl ⟨_, _, (Option.some.inj found).symm⟩)
    · rename_i op suits
      split at found
      · cases found
      · rename_i refusal refused
        refine .inr (.inr ⟨op, refusal, ?_, refused, (Option.some.inj found).symm⟩)
        rw [(given?_eq_some.mp filled).1, Option.bind_some]
        exact (Option.filter_eq_some_iff.mp suits).1

/-- A test of an associated record fails for the name of its relation or of its field, or else as a
test. -/
theorem leafFault?_relation_eq_some {relation : String} {given tag : Option String}
    {value : Option Json} {field : Option String}
    (found : v.leafFault? (.relation relation given tag value) = some (field, fault)) :
    fault = .relationFieldRequired ∨ fault = .notAllowed relation ∨
      fault = .unknownRelation relation ∨ v.testFault? tag value none = some fault := by
  rw [leafFault?] at found
  split at found
  · cases found
    exact .inl rfl
  · split at found
    · cases found
      exact .inr (.inl rfl)
    · split at found
      · cases found
        exact .inr (.inr (.inl rfl))
      · obtain ⟨_, tested, ⟨⟩⟩ := Option.map_eq_some_iff.mp found
        exact .inr (.inr (.inr tested))

/-- A test of a row fails for the name of its field, or else as a test. -/
theorem leafFault?_field_eq_some {given tag : Option String} {value : Option Json}
    {field : Option String}
    (found : v.leafFault? (.field given tag value) = some (field, fault)) :
    fault = .fieldRequired ∨ (∃ name, fault = .notAllowed name) ∨
      (∃ name, fault = .unknownField name) ∨
      ∃ config, v.testFault? tag value (some config) = some fault := by
  rw [leafFault?] at found
  split at found
  · cases found
    exact .inl rfl
  · split at found
    · cases found
      exact .inr (.inl ⟨_, rfl⟩)
    · split at found
      · cases found
        exact .inr (.inr (.inl ⟨_, rfl⟩))
      · obtain ⟨_, tested, ⟨⟩⟩ := Option.map_eq_some_iff.mp found
        exact .inr (.inr (.inr ⟨_, tested⟩))

end Faults

section

variable [PatternEngine]

/-- What is too deep is neither looked at nor into. -/
theorem findings_tooDeep {v : Validator} {depth : Nat} (beyond : v.limits.maxDepth < depth)
    (c : Condition) :
    v.findings depth c = [{ conditionId := c.id, fault := .tooDeep v.limits.maxDepth }] := by
  have inspected : v.inspect depth c =
      (some { conditionId := c.id, fault := .tooDeep v.limits.maxDepth }, false) := if_pos beyond
  rw [findings_eq, inspected]
  rfl

theorem findings_leaf {v : Validator} {depth : Nat} (fits : depth ≤ v.limits.maxDepth)
    (clause : Clause) :
    v.findings depth (.leaf clause) =
      Option.toList ((v.leafFault? clause.predicate).map fun (field, fault) =>
        { conditionId := clause.id, field, fault, shown := shownValue clause.predicate }) := by
  rw [findings, inspect, if_neg (Nat.not_lt.mpr fits)]
  rfl

theorem findings_group {v : Validator} {depth : Nat} (fits : depth ≤ v.limits.maxDepth)
    (clause : Clause) (children : List Condition) :
    v.findings depth (.group clause children) =
      ((v.groupFault? clause.logic children.length).map fun fault =>
        { conditionId := clause.id, fault }).toList ++
      if children.length ≤ v.limits.maxConditionsPerGroup then v.findingsIn (depth + 1) children
      else [] := by
  rw [findings, inspect, if_neg (Nat.not_lt.mpr fits)]
  simp only [decide_eq_true_eq]
  rfl

/-- The loop reports what the recursion finds in the pending trees, in their order. -/
theorem visit_eq (v : Validator) (p : Progress) (pending : List (Nat × Condition)) :
    v.visit p pending =
      (pending.flatMap fun t => v.findings t.1 t.2).foldl (fun p f => p.report v.logger f) p := by
  fun_induction visit v p pending with
  | case1 p => rfl
  | case2 p depth c pending finding descend inspected q below ih =>
      have inside : below.flatMap (fun t => v.findings t.1 t.2) =
          if descend then v.findingsIn (depth + 1) c.children else [] := by
        cases descend with
        | false => rfl
        | true => simp [below, findingsIn_eq_flatMap, List.flatMap_map]
      have reported : finding.toList.foldl (fun p f => p.report v.logger f) p = q := by
        cases finding <;> rfl
      rw [ih, List.flatMap_append, List.flatMap_cons, List.foldl_append, List.foldl_append, inside,
        findings_eq, inspected, List.foldl_append, reported]

end

theorem report_errors (p : Progress) (logger : Logger) (f : Finding) :
    (p.report logger f).errors = p.errors ++ [f.error] := by
  unfold Progress.report
  cases f.event? <;> rfl

theorem report_events (p : Progress) (logger : Logger) (f : Finding) :
    (p.report logger f).events = p.events ++ f.event?.toList := by
  unfold Progress.report
  cases f.event? with
  | none => exact (List.append_nil _).symm
  | some e => rfl

theorem reports (logger : Logger) (found : List Finding) (p : Progress) :
    (found.foldl (fun p f => p.report logger f) p).errors = p.errors ++ found.map Finding.error ∧
      (found.foldl (fun p f => p.report logger f) p).events =
        p.events ++ found.filterMap Finding.event? := by
  induction found generalizing p with
  | nil => simp
  | cons f rest ih =>
      rw [List.foldl_cons, (ih _).1, (ih _).2, report_errors, report_events]
      cases raised : f.event? <;> simp [raised]

variable [PatternEngine]

/-- A validation lists one error for each finding, and the events that findings raise. -/
theorem validate_eq (v : Validator) (forest : List Condition) (log : List SecurityEvent) :
    (v.validate forest log).1 =
      .ofParts ((v.findingsIn 0 forest).map Finding.error)
        ((v.findingsIn 0 forest).filterMap Finding.event?) := by
  have found : (forest.map fun c => (0, c)).flatMap (fun t => v.findings t.1 t.2) =
      v.findingsIn 0 forest := by
    rw [List.flatMap_map, findingsIn_eq_flatMap]
  have visited := v.visit_eq { log } (forest.map fun c => (0, c))
  rw [found] at visited
  obtain ⟨errors, events⟩ := reports v.logger (v.findingsIn 0 forest) { log }
  rw [← visited, List.nil_append] at errors events
  simp only [validate, errors, events]

theorem validate_valid_iff {v : Validator} {forest : List Condition} {log : List SecurityEvent} :
    (v.validate forest log).1.valid = true ↔ v.findingsIn 0 forest = [] := by
  rw [validate_eq, Validation.ofParts, List.isEmpty_iff, List.map_eq_nil_iff]

theorem mem_validate_errors {v : Validator} {forest : List Condition} {log : List SecurityEvent}
    {e : ValidationError} :
    e ∈ (v.validate forest log).1.errors ↔ ∃ f ∈ v.findingsIn 0 forest, f.error = e := by
  rw [validate_eq, Validation.ofParts, List.mem_map]

theorem mem_validate_events {v : Validator} {forest : List Condition} {log : List SecurityEvent}
    {e : SecurityEvent} :
    e ∈ (v.validate forest log).1.events ↔ ∃ f ∈ v.findingsIn 0 forest, f.event? = some e := by
  rw [validate_eq, Validation.ofParts, List.mem_filterMap]

end RowFilter.Validator
