import RowFilter.Pattern.Matching
import RowFilter.Proofs.Compilation.Inversion
import RowFilter.Proofs.Validation.Findings
import RowFilter.Proofs.Validation.Operands

/-! # Accepted filters compile

The validator goes over a list of pending trees and the compiler recurses, and each has checks
of its own. A forest without findings gives the compiler no reason to refuse it but two: the
validator does not look at the number of top-level conditions, and it does not ask the handlers
to build anything.
-/

namespace RowFilter

open Outcome

namespace Validator

variable {v : Validator}

/-- A test that is accepted has an operator, and the operand passes its check. -/
theorem testFault?_eq_none [PatternEngine] {operator : Option String} {value : Option Json}
    {config : Option FieldConfig} (accepted : v.testFault? operator value config = none) :
    ∃ tag op, operator = some tag ∧ Operator.ofTag? tag = some op ∧
      Operand.check op value config v.limits = .ok () := by
  rw [testFault?] at accepted
  split at accepted
  · cases accepted
  · rename_i tag there
    split at accepted
    · cases accepted
    · rename_i op suits
      split at accepted
      · rename_i passed
        exact ⟨tag, op, (given?_eq_some.mp there).1, (Option.filter_eq_some_iff.mp suits).1, passed⟩
      · cases accepted

/-- What is only looked at under a name has no fault if there is a name and no fault under it. -/
private theorem named_of_faultless {text : Option String} {missing : Option String × Fault}
    {rest : String → Option (Option String × Fault)}
    (accepted : (match given? text with
      | none => some missing
      | some name => rest name) = none) :
    ∃ name, text = some name ∧ name.isEmpty = false ∧ rest name = none := by
  split at accepted
  · cases accepted
  · rename_i name there
    exact ⟨name, (given?_eq_some.mp there).1, (given?_eq_some.mp there).2, accepted⟩

section

variable [PatternEngine]

theorem leafFault?_field_eq_none {field operator : Option String} {value : Option Json}
    (accepted : v.leafFault? (.field field operator value) = none) :
    ∃ name config, field = some name ∧ name.isEmpty = false ∧
      v.testFault? operator value config = none := by
  obtain ⟨name, named, filled, rest⟩ := named_of_faultless accepted
  split at rest
  · cases rest
  · split at rest
    · cases rest
    · exact ⟨name, _, named, filled, Option.map_eq_none_iff.mp rest⟩

theorem leafFault?_relation_eq_none {relation : String} {field operator : Option String}
    {value : Option Json}
    (accepted : v.leafFault? (.relation relation field operator value) = none) :
    ∃ name, field = some name ∧ name.isEmpty = false ∧
      v.testFault? operator value none = none := by
  obtain ⟨name, named, filled, rest⟩ := named_of_faultless accepted
  split at rest
  · cases rest
  · split at rest
    · cases rest
    · exact ⟨name, named, filled, Option.map_eq_none_iff.mp rest⟩

theorem leafFault?_raw_eq_none {text : String} {params : Option (List Json)}
    (accepted : v.leafFault? (.raw text params) = none) : DangerousPattern.find? text = none := by
  rw [leafFault?, Option.map_eq_none_iff] at accepted
  unfold rawFault? at accepted
  split at accepted
  · cases accepted
  · rename_i harmless
    exact harmless

end

/-- A group that is accepted is not too large, and its logic is known; a negation has one child. -/
theorem groupFault?_eq_none {tag : Option String} {size : Nat} (id : String)
    (accepted : v.groupFault? tag size = none) :
    size ≤ v.limits.maxConditionsPerGroup ∧
      ∃ logic, Compiler.groupLogic id tag = .ok logic ∧ (logic = .not → size = 1) := by
  unfold groupFault? at accepted
  split at accepted
  · cases accepted
  · rename_i fits
    refine ⟨Nat.not_lt.mp fits, ?_⟩
    cases tag with
    | none => exact ⟨.and, rfl, by rintro ⟨⟩⟩
    | some tag =>
        dsimp only at accepted
        cases known : Logic.ofTag? tag with
        | none =>
            rw [known] at accepted
            cases accepted
        | some logic =>
            refine ⟨logic, by simp only [Compiler.groupLogic, known], ?_⟩
            rintro rfl
            rw [known] at accepted
            dsimp only at accepted
            split at accepted
            · rename_i single
              exact single
            · cases accepted

variable [PatternEngine]

/-- A tree without findings is not too deep. -/
theorem depth_of_findings_eq_nil {depth : Nat} {c : Condition}
    (accepted : v.findings depth c = []) : depth ≤ v.limits.maxDepth := by
  refine Nat.not_lt.mp fun beyond => ?_
  rw [findings_tooDeep beyond] at accepted
  cases accepted

theorem findings_leaf_eq_nil {depth : Nat} {clause : Clause}
    (accepted : v.findings depth (.leaf clause) = []) :
    v.leafFault? clause.predicate = none := by
  rw [findings_leaf (depth_of_findings_eq_nil accepted), Option.toList_eq_nil_iff,
    Option.map_eq_none_iff] at accepted
  exact accepted

theorem findings_group_eq_nil {depth : Nat} {clause : Clause} {children : List Condition}
    (accepted : v.findings depth (.group clause children) = []) :
    v.groupFault? clause.logic children.length = none ∧ v.findingsIn (depth + 1) children = [] := by
  rw [findings_group (depth_of_findings_eq_nil accepted), List.append_eq_nil_iff,
    Option.toList_eq_nil_iff, Option.map_eq_none_iff] at accepted
  obtain ⟨faultless, below⟩ := accepted
  rw [if_pos (groupFault?_eq_none clause.id faultless).1] at below
  exact ⟨faultless, below⟩

end Validator

namespace Compiler

variable {v : Validator} {k : Compiler}

/-- The error of a registered handler that was to build the criteria of a predicate. -/
def HandlerRefusal (k : Compiler) (predicates : List Predicate) (e : CompileError) : Prop :=
  ∃ id h tag value params refusal, Predicate.custom id tag value params ∈ predicates ∧
    k.registry.get? id = some h ∧
    h.build (tag.getD Operator.custom.tag) (value.getD .null) k.config.dialect params =
      .error refusal ∧
    e = .handler id refusal

theorem HandlerRefusal.mono {fewer more : List Predicate} (within : fewer ⊆ more) (e : CompileError)
    (h : k.HandlerRefusal fewer e) : k.HandlerRefusal more e := by
  obtain ⟨id, h, tag, value, params, refusal, stands, rest⟩ := h
  exact ⟨id, h, tag, value, params, refusal, within stands, rest⟩

/-- Joining fails for a negation of several parts only. -/
theorem exists_join (id : String) {logic : Logic} {parts : List Criteria}
    (single : logic = .not → parts.length = 1) : ∃ c, join id logic parts = .ok c := by
  cases logic with
  | and | or => exact ⟨_, rfl⟩
  | not =>
      obtain ⟨part, rfl⟩ := List.length_eq_one_iff.mp (single rfl)
      cases vacuous : part.isEmpty with
      | true => exact ⟨.empty, by simp [join, vacuous]⟩
      | false => exact ⟨.negate part, by simp [join, vacuous]⟩

section

variable [PatternEngine]

theorem exists_constraint (sameLimits : k.config.limits = v.limits) (id : String)
    {tag : Option String} {value : Option Json} {config : Option FieldConfig}
    (accepted : v.testFault? tag value config = none) : ∃ c, k.constraint id tag value = .ok c := by
  obtain ⟨tag, op, rfl, known, passed⟩ := Validator.testFault?_eq_none accepted
  rw [← sameLimits] at passed
  obtain ⟨c, compiled⟩ := Constraint.ofOperator_of_check id k.config.dialect passed
  exact ⟨c, constraint_eq_ok.mpr ⟨op, known, compiled⟩⟩

/-- An accepted predicate can only fail by its handler. -/
theorem criteriaOfPredicate_failsOnly (sameLimits : k.config.limits = v.limits) (id : String)
    {p : Predicate} (accepted : v.leafFault? p = none) :
    FailsOnly (k.HandlerRefusal [p]) (k.criteriaOfPredicate id p) := by
  cases p with
  | raw text params =>
      have harmless := Validator.leafFault?_raw_eq_none accepted
      rw [criteriaOfPredicate_raw.mpr ⟨harmless, rfl⟩]
      exact .ok _ _
  | custom handler tag value params =>
      rw [criteriaOfPredicate, criteriaOfHandler]
      split
      · exact .ok _ _
      · rename_i h registered
        split
        · exact .ok _ _
        · rename_i refusal refused
          exact .error ⟨handler, h, tag, value, params, refusal, List.mem_singleton.mpr rfl,
            registered, refused, rfl⟩
  | relation relation field tag value =>
      obtain ⟨name, named, filled, tested⟩ := Validator.leafFault?_relation_eq_none accepted
      obtain ⟨test, compiled⟩ := exists_constraint sameLimits id tested
      rw [criteriaOfPredicate_relation.mpr ⟨name, test, named, filled, compiled, rfl⟩]
      exact .ok _ _
  | field field tag value =>
      obtain ⟨name, config, named, filled, tested⟩ := Validator.leafFault?_field_eq_none accepted
      obtain ⟨test, compiled⟩ := exists_constraint sameLimits id tested
      rw [criteriaOfPredicate_field.mpr ⟨name, test, named, filled, compiled, rfl⟩]
      exact .ok _ _

/-- Where all faults are of a kind that no node has of its own, being too deep or a group at fault,
the criteria of trees can only fail by one of their leaves. -/
theorem criteriaOfAll_failsOnly_of (soft : Fault → Prop) {admitted : CompileError → Prop}
    (sameLimits : k.config.limits = v.limits) (deep : ¬ soft (.tooDeep v.limits.maxDepth))
    (grouped : ∀ tag size fault, v.groupFault? tag size = some fault → ¬ soft fault)
    {depth : Nat} {forest : List Condition}
    (found : ∀ f ∈ v.findingsIn depth forest, soft f.fault)
    (leaves : ∀ clause, Condition.leaf clause ∈ Condition.nodes forest →
      (∀ x ∈ v.leafFault? clause.predicate, soft x.2) →
      FailsOnly admitted (k.criteriaOfPredicate clause.id clause.predicate)) :
    FailsOnly admitted (k.criteriaOfAll depth forest) := by
  have shallow {depth : Nat} {c : Condition} (here : ∀ f ∈ v.findings depth c, soft f.fault) :
      depth ≤ v.limits.maxDepth := by
    refine Nat.not_lt.mp fun beyond => ?_
    rw [Validator.findings_tooDeep beyond] at here
    exact deep (here _ (List.mem_singleton.mpr rfl))
  induction forest using Condition.forest_induction generalizing depth with
  | nil =>
      rw [criteriaOfAll]
      exact .ok _ _
  | leaf clause rest ih =>
      rw [Validator.findingsIn, List.forall_mem_append] at found
      obtain ⟨here, beside⟩ := found
      simp only [Condition.nodes_cons, Condition.children, Condition.nodes_nil, List.nil_append,
        List.mem_cons] at leaves
      have fits := shallow here
      have blamed : ∀ x ∈ v.leafFault? clause.predicate, soft x.2 := by
        rintro ⟨field, fault⟩ blamed
        rw [Validator.findings_leaf fits, Option.mem_def.mp blamed] at here
        exact here _ (List.mem_singleton.mpr rfl)
      rw [criteriaOfAll, criteriaOfNode, sameLimits, if_neg (Nat.not_lt.mpr fits)]
      refine (leaves clause (.inl rfl) blamed).bind fun _ _ => ?_
      refine (ih beside fun c stands => leaves c (.inr stands)).bind fun _ _ => ?_
      exact .ok _ _
  | group clause children rest ihc ihr =>
      rw [Validator.findingsIn, List.forall_mem_append] at found
      obtain ⟨here, beside⟩ := found
      simp only [Condition.nodes_cons, Condition.children, List.mem_cons, List.mem_append] at leaves
      have fits := shallow here
      rw [Validator.findings_group fits, List.forall_mem_append] at here
      have faultless : v.groupFault? clause.logic children.length = none := by
        refine Option.eq_none_iff_forall_ne_some.mpr fun fault blamed => ?_
        refine grouped _ _ fault blamed (here.1 { conditionId := clause.id, fault } ?_)
        rw [blamed]
        exact List.mem_singleton.mpr rfl
      obtain ⟨size, logic, known, single⟩ := Validator.groupFault?_eq_none clause.id faultless
      have below := here.2
      rw [if_pos size] at below
      rw [← sameLimits] at size fits
      rw [criteriaOfAll, criteriaOfNode, if_neg (Nat.not_lt.mpr fits), known]
      refine FailsOnly.bind ?_ fun _ _ => ?_
      · simp only [bind, Except.bind, checkGroupSize_eq_ok.mpr size]
        have inside := ihc below fun c stands => leaves c (.inr (.inl stands))
        refine inside.bind fun parts compiled => ?_
        rw [← criteriaOfAll_length compiled] at single
        obtain ⟨c, joined⟩ := exists_join clause.id single
        rw [joined]
        exact .ok _ _
      · refine (ihr beside fun c stands => leaves c (.inr (.inr stands))).bind fun _ _ => ?_
        exact .ok _ _

/-- The criteria of accepted trees can only fail by a handler of theirs, at whatever depth. -/
theorem criteriaOfAll_failsOnly (sameLimits : k.config.limits = v.limits) {depth : Nat}
    {forest : List Condition} (accepted : v.findingsIn depth forest = []) :
    FailsOnly (k.HandlerRefusal (Condition.predicates forest)) (k.criteriaOfAll depth forest) := by
  refine criteriaOfAll_failsOnly_of (fun _ => False) sameLimits id (fun _ _ _ _ => id)
    (by simp [accepted]) fun clause stands faultless => ?_
  have here : clause.predicate ∈ Condition.predicates forest :=
    Condition.mem_predicates.mpr ⟨clause, stands, rfl⟩
  refine (criteriaOfPredicate_failsOnly sameLimits clause.id
    (Option.eq_none_iff_forall_not_mem.mpr faultless)).mono (HandlerRefusal.mono ?_)
  simpa using here

/-- The error of a forest with too many top-level conditions. -/
def oversized (k : Compiler) (forest : List Condition) : CompileError :=
  .tooManyConditions rootId forest.length k.config.limits.maxConditionsPerGroup

/-- A valid forest compiles under the limits it was validated for, unless one of its handlers
refuses or it has too many top-level conditions, which the validator does not count. -/
theorem criteriaOfForest_of_valid (sameLimits : k.config.limits = v.limits)
    {forest : List Condition} {log : List SecurityEvent}
    (valid : (v.validate forest log).1.valid = true) :
    ((∃ c, k.criteriaOfForest forest .and = .ok c) ∨
      (∃ e, k.HandlerRefusal (Condition.predicates forest) e ∧
        k.criteriaOfForest forest .and = .error e) ∨
      k.criteriaOfForest forest .and = .error (k.oversized forest)) ∧
    (k.criteriaOfForest forest .and = .error (k.oversized forest) ↔
      k.config.limits.maxConditionsPerGroup < forest.length) := by
  by_cases beyond : k.config.limits.maxConditionsPerGroup < forest.length
  · have refused : k.criteriaOfForest forest .and = .error (k.oversized forest) := by
      rw [criteriaOfForest, checkGroupSize, if_pos beyond]
      rfl
    exact ⟨.inr (.inr refused), fun _ => beyond, fun _ => refused⟩
  · have fails := criteriaOfAll_failsOnly sameLimits (Validator.validate_valid_iff.mp valid)
    have joined : k.criteriaOfForest forest .and = (k.criteriaOfAll 0 forest).map .and := by
      rw [criteriaOfForest, checkGroupSize, if_neg beyond]
      cases k.criteriaOfAll 0 forest <;> rfl
    rw [joined]
    cases compiled : k.criteriaOfAll 0 forest with
    | ok parts => exact ⟨.inl ⟨_, rfl⟩, by rintro ⟨⟩, fun h => absurd h beyond⟩
    | error e =>
        have refusal := fails e compiled
        refine ⟨.inr (.inl ⟨e, refusal, rfl⟩), ?_, fun h => absurd h beyond⟩
        obtain ⟨_, _, _, _, _, _, _, _, _, rfl⟩ := refusal
        rintro ⟨⟩

end

/-- A negated test compiles. With another condition beside it, it is still valid, but too large
for a compiler that admits one condition. -/
theorem criteriaOfForest_of_valid_negation :
    let v : Validator :=
      { fields := .ofList [("name", {})], limits := { maxConditionsPerGroup := 1 } }
    let k : Compiler :=
      { schema := { name := "User", fields := v.fields }, config := { limits := v.limits } }
    let negation : Condition := .group { id := "g", logic := some "NOT" }
      [.leaf { id := "a", field := some "name", operator := some "isNull" }]
    let test : Condition := .leaf
      { id := "b", field := some "name", operator := some "eq", value := some (.string "x") }
    (v.validate [negation] []).1.valid = true ∧ (v.validate [negation, test] []).1.valid = true ∧
      (∃ c, k.criteriaOfForest [negation] .and = .ok c) ∧
      k.criteriaOfForest [negation, test] .and = .error (.tooManyConditions "root" 2 1) := by
  intro v k negation test
  have one : (v.validate [negation] []).1.valid = true := Validator.validate_valid_iff.mpr rfl
  have two : (v.validate [negation, test] []).1.valid = true := Validator.validate_valid_iff.mpr rfl
  refine ⟨one, two, ?_, (criteriaOfForest_of_valid (k := k) rfl two).2.mpr (by decide)⟩
  obtain ⟨compiled | ⟨e, ⟨_, _, _, _, _, _, stands, _⟩, _⟩ | refused, size⟩ :=
    criteriaOfForest_of_valid (k := k) rfl one
  · exact compiled
  · simp [negation, Clause.predicate] at stands
  · exact absurd (size.mp refused) (by decide)

end Compiler

end RowFilter
