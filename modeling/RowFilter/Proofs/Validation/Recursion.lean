import Mathlib.Logic.Function.Iterate
import RowFilter.Proofs.Validation.Events

/-! # The loop over pending nodes and the recursion it stands for

The loop keeps the nodes that are still to be looked at on a stack. A pass takes the last of them,
reports what is wrong with it and puts its children on the stack in reverse. What the nodes on the
stack will add to the report does not change by a pass, and there are fewer of them after it. So
the loop ends, and what it has reported by then is what a recursion over the trees says.
-/

namespace RowFilter.Validator

variable {v : Validator} {depth : Nat}

/-- The fault in how a group combines its children. -/
def logicFault? (logic : Option String) (size : Nat) : Option Fault :=
  logic.bind fun tag =>
    if Logic.ofTag? tag = none then some (.invalidLogic tag)
    else if Logic.ofTag? tag = some .not ∧ size ≠ 1 then some .notRequiresOne
    else none

mutual

/-- What is wrong with a tree that stands at a given depth, in document order. -/
def verdicts [PatternEngine] (v : Validator) (depth : Nat) : Condition → List Finding
  | .leaf clause =>
    if v.limits.maxDepth < depth then
      [{ conditionId := clause.id, fault := .tooDeep v.limits.maxDepth }]
    else
      (v.leafFault? clause.predicate).toList.map fun (field, fault) =>
        { conditionId := clause.id, field, fault, shown := shownValue clause.predicate }
  | .group clause children =>
    if v.limits.maxDepth < depth then
      [{ conditionId := clause.id, fault := .tooDeep v.limits.maxDepth }]
    else if v.limits.maxConditionsPerGroup < children.length then
      [{ conditionId := clause.id
         fault := .tooManyConditions children.length v.limits.maxConditionsPerGroup }]
    else
      ((logicFault? clause.logic children.length).toList.map fun fault =>
        { conditionId := clause.id, fault }) ++ verdictsIn v (depth + 1) children

/-- What is wrong with the trees of a forest, one after the other. -/
def verdictsIn [PatternEngine] (v : Validator) (depth : Nat) : List Condition → List Finding
  | [] => []
  | c :: rest => verdicts v depth c ++ verdictsIn v depth rest

end

theorem groupFault?_of_large {logic : Option String} {size : Nat}
    (large : v.limits.maxConditionsPerGroup < size) :
    v.groupFault? logic size = some (.tooManyConditions size v.limits.maxConditionsPerGroup) :=
  if_pos large

theorem groupFault?_of_fits {logic : Option String} {size : Nat}
    (fits : size ≤ v.limits.maxConditionsPerGroup) :
    v.groupFault? logic size = logicFault? logic size := by
  unfold groupFault?
  rw [if_neg (Nat.not_lt.mpr fits)]
  cases logic with
  | none => rfl
  | some tag =>
      rw [logicFault?, Option.bind_some]
      cases known : Logic.ofTag? tag with
      | none => simp [known]
      | some logic => cases logic <;> simp [known]

section

variable [PatternEngine]

theorem findings_leaf_eq (clause : Clause) :
    v.findings depth (.leaf clause) = v.verdicts depth (.leaf clause) := by
  rw [verdicts]
  by_cases beyond : v.limits.maxDepth < depth
  · rw [findings_tooDeep beyond, if_pos beyond]
    rfl
  · rw [findings_leaf (Nat.not_lt.mp beyond), if_neg beyond]
    cases v.leafFault? clause.predicate <;> rfl

theorem findings_group_eq (clause : Clause) {children : List Condition}
    (below : v.findingsIn (depth + 1) children = v.verdictsIn (depth + 1) children) :
    v.findings depth (.group clause children) = v.verdicts depth (.group clause children) := by
  rw [verdicts]
  by_cases beyond : v.limits.maxDepth < depth
  · rw [findings_tooDeep beyond, if_pos beyond]
    rfl
  · rw [findings_group (Nat.not_lt.mp beyond), if_neg beyond]
    by_cases fits : children.length ≤ v.limits.maxConditionsPerGroup
    · rw [groupFault?_of_fits fits, if_pos fits, if_neg (Nat.not_lt.mpr fits), below]
      cases logicFault? clause.logic children.length <;> rfl
    · have large := Nat.not_le.mp fits
      rw [groupFault?_of_large large, if_neg fits, if_pos large]
      rfl

/-- The findings on a forest are the verdicts of the recursion. -/
theorem findingsIn_eq_verdictsIn (v : Validator) (depth : Nat) (forest : List Condition) :
    v.findingsIn depth forest = v.verdictsIn depth forest := by
  induction forest using Condition.forest_induction generalizing depth with
  | nil => rw [findingsIn, verdictsIn]
  | leaf clause rest ih => rw [findingsIn, verdictsIn, findings_leaf_eq, ih]
  | group clause children rest ihc ihr =>
      rw [findingsIn, verdictsIn, findings_group_eq clause (ihc (depth + 1)), ihr]

/-- A pass of the loop over what has been reported and the stack: the last node is looked at, and
where its children are to be visited they come on the stack, the first of them last. -/
def pass (v : Validator) (s : Progress × List (Nat × Condition)) :
    Progress × List (Nat × Condition) :=
  match s.2.getLast? with
  | none => s
  | some (depth, c) =>
    let (finding, descend) := v.inspect depth c
    let below := if descend then c.children.map fun child => (depth + 1, child) else []
    (finding.elim s.1 (s.1.report v.logger), s.2.dropLast ++ below.reverse)

/-- The nodes that a stack holds, with all that is below them. -/
def pendingSize (stack : List (Nat × Condition)) : Nat := Condition.forestSize (stack.map Prod.snd)

theorem pass_concat (p : Progress) (stack : List (Nat × Condition)) (depth : Nat) (c : Condition) :
    v.pass (p, stack ++ [(depth, c)]) =
      ((v.inspect depth c).1.elim p (p.report v.logger),
        stack ++ (if (v.inspect depth c).2 then
          c.children.map fun child => (depth + 1, child) else []).reverse) := by
  rw [pass, List.getLast?_concat, List.dropLast_concat]

/-- A pass changes nothing about what the visit of the stack will have reported. -/
theorem visit_pass (s : Progress × List (Nat × Condition)) :
    v.visit (v.pass s).1 (v.pass s).2.reverse = v.visit s.1 s.2.reverse := by
  obtain ⟨p, stack⟩ := s
  rcases List.eq_nil_or_concat stack with rfl | ⟨rest, ⟨depth, c⟩, rfl⟩
  · rfl
  · rw [List.concat_eq_append, pass_concat]
    dsimp only
    rw [List.reverse_append, List.reverse_append, List.reverse_reverse, List.reverse_singleton,
      List.singleton_append, visit]
    obtain ⟨finding, descend⟩ := v.inspect depth c
    cases finding <;> rfl

end

theorem pendingSize_append (before after : List (Nat × Condition)) :
    pendingSize (before ++ after) = pendingSize before + pendingSize after := by
  rw [pendingSize, List.map_append, Condition.forestSize_append, ← pendingSize, ← pendingSize]

theorem pendingSize_reverse (stack : List (Nat × Condition)) :
    pendingSize stack.reverse = pendingSize stack := by
  induction stack with
  | nil => rfl
  | cons t rest ih =>
      rw [List.reverse_cons, pendingSize_append, ih, Nat.add_comm, ← pendingSize_append,
        List.singleton_append]

theorem pendingSize_map (depth : Nat) (forest : List Condition) :
    pendingSize (forest.map fun c => (depth, c)) = Condition.forestSize forest := by
  rw [pendingSize, List.map_map]
  exact congrArg Condition.forestSize (List.map_id forest)

theorem pendingSize_children_lt (depth : Nat) (c : Condition) :
    pendingSize (c.children.map fun child => (depth + 1, child)) < pendingSize [(depth, c)] := by
  rw [pendingSize_map, pendingSize]
  cases c <;> simp [Condition.children, Condition.forestSize, Condition.size]

variable [PatternEngine]

/-- A pass leaves fewer nodes. -/
theorem pendingSize_pass_lt (p : Progress) {stack : List (Nat × Condition)} (left : stack ≠ []) :
    pendingSize (v.pass (p, stack)).2 < pendingSize stack := by
  rcases List.eq_nil_or_concat stack with rfl | ⟨rest, ⟨depth, c⟩, rfl⟩
  · exact absurd rfl left
  · rw [List.concat_eq_append, pass_concat]
    dsimp only
    rw [pendingSize_append, pendingSize_append, pendingSize_reverse]
    apply Nat.add_lt_add_left
    have fewer := pendingSize_children_lt depth c
    split
    · exact fewer
    · exact Nat.zero_lt_of_lt fewer

/-- The loop ends, after no more passes than there are nodes, with what the visit reports. -/
theorem exists_passes (v : Validator) (s : Progress × List (Nat × Condition)) :
    ∃ n ≤ pendingSize s.2, v.pass^[n] s = (v.visit s.1 s.2.reverse, []) := by
  -- By induction on how much is pending, which every pass lowers.
  obtain ⟨bound, size⟩ : ∃ bound, pendingSize s.2 = bound := ⟨_, rfl⟩
  induction bound using Nat.strongRecOn generalizing s with
  | ind bound ih =>
      obtain ⟨p, stack⟩ := s
      by_cases done : stack = []
      · subst done
        refine ⟨0, Nat.zero_le _, ?_⟩
        rw [List.reverse_nil, visit]
        rfl
      · have fewer := pendingSize_pass_lt (v := v) p done
        rw [size] at fewer
        obtain ⟨n, within, ended⟩ := ih _ fewer (v.pass (p, stack)) rfl
        refine ⟨n + 1, ?_, ?_⟩
        · rw [size]
          exact Nat.lt_of_le_of_lt within fewer
        · rw [Function.iterate_succ_apply, ended, visit_pass]

theorem validate_errors_eq (v : Validator) (forest : List Condition) (log : List SecurityEvent) :
    (v.validate forest log).1.errors = (v.verdictsIn 0 forest).map Finding.error := by
  rw [validate_eq, Validation.ofParts, findingsIn_eq_verdictsIn]

theorem validate_events_eq (v : Validator) (forest : List Condition) (log : List SecurityEvent) :
    (v.validate forest log).1.events = (v.verdictsIn 0 forest).filterMap Finding.event? := by
  rw [validate_eq, Validation.ofParts, findingsIn_eq_verdictsIn]

theorem verdictsIn_eq_flatMap (v : Validator) (depth : Nat) (forest : List Condition) :
    v.verdictsIn depth forest = forest.flatMap (v.verdicts depth) := by
  induction forest with
  | nil => rw [verdictsIn, List.flatMap_nil]
  | cons c rest ih => rw [verdictsIn, List.flatMap_cons, ih]

/-- A validation as a recursion over the forest. -/
structure Recursion (v : Validator) (forest : List Condition) (log : List SecurityEvent)
    (outcome : Validation × List SecurityEvent) : Prop where
  /-- The loop ends with this outcome, after no more passes than there are nodes. -/
  ends : ∃ n ≤ Condition.forestSize forest, ∃ p,
    v.pass^[n] ({ log }, (forest.map fun c => (0, c)).reverse) = (p, []) ∧
      outcome = (.ofParts p.errors p.events, p.log)
  errors : outcome.1.errors = (v.verdictsIn 0 forest).map Finding.error
  events : outcome.1.events = (v.verdictsIn 0 forest).filterMap Finding.event?
  /-- What follows a forest adds what it would give by itself. -/
  append : ∀ more log', (v.validate (forest ++ more) log).1.errors =
      outcome.1.errors ++ (v.validate more log').1.errors ∧
    (v.validate (forest ++ more) log).1.events =
      outcome.1.events ++ (v.validate more log').1.events
  /-- Every tree has the errors that it has without the others. -/
  siblings : outcome.1.errors = forest.flatMap fun c => (v.validate [c] log).1.errors
  /-- The errors are reported on different nodes, in the order of these. -/
  once : ∃ blamed : List (Condition × ValidationError), blamed.map Prod.snd = outcome.1.errors ∧
    (blamed.map Prod.fst).Sublist (Condition.nodes forest) ∧
      ∀ t ∈ blamed, v.Reports t.1 t.2

/-- The loop ends, and a validation is what the recursion says: the errors and events of its trees
one after the other, with one error for a node at most. -/
theorem validate_recursion (v : Validator) (forest : List Condition) (log : List SecurityEvent) :
    Recursion v forest log (v.validate forest log) where
  ends := by
    obtain ⟨n, within, ended⟩ := v.exists_passes ({ log }, (forest.map fun c => (0, c)).reverse)
    rw [pendingSize_reverse, pendingSize_map] at within
    rw [List.reverse_reverse] at ended
    exact ⟨n, within, _, ended, rfl⟩
  errors := v.validate_errors_eq forest log
  events := v.validate_events_eq forest log
  append := by
    intro more log'
    simp only [validate_errors_eq, validate_events_eq, verdictsIn_eq_flatMap, List.flatMap_append,
      List.map_append, List.filterMap_append, and_self]
  siblings := by
    simp only [validate_errors_eq, verdictsIn_eq_flatMap, List.flatMap_singleton, List.map_flatMap]
  once := by
    obtain ⟨blamed, account⟩ := v.exists_account forest log
    exact ⟨blamed, account.errors, account.nodes, account.reported⟩

end RowFilter.Validator
