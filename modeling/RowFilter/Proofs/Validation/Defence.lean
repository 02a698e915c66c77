import RowFilter.Pattern.Matching
import RowFilter.Proofs.Compilation.Inversion
import RowFilter.Proofs.Validation.Findings
import RowFilter.Proofs.Validation.Operands

/-! # Compilation as a last line of defence

A forest may reach the compiler without having been validated. Some faults the compiler does not
let pass then either. The argument goes backwards: where a forest compiles, every node the
validator would have looked at has compiled, and a node that compiles has none of these faults.
-/

namespace RowFilter

open Outcome

/-- The codes of the faults that compilation does not let pass. -/
def ErrorCode.isEnforced : ErrorCode → Bool
  | maxDepthExceeded | tooManyConditions | invalidLogic | dangerousSql | fieldRequired
  | operatorRequired => true
  | _ => false

/-- Whether compilation enforces what a fault is about. Of the faults of operands that is the
ceiling on the number of values, which has no code of its own. -/
def Fault.isEnforced (fault : Fault) : Bool :=
  fault.code.isEnforced || fault.eventKind? == some .tooManyInValues

namespace Compiler

variable {v : Validator} {k : Compiler}

/-- Operators have tags that are not empty. -/
theorem given?_of_ofTag? {tag : Option String} {op : Operator}
    (known : Operator.ofTag? (tag.getD "") = some op) :
    ∃ s, tag = some s ∧ Validator.given? tag = some s := by
  cases tag with
  | none => cases known
  | some s =>
      refine ⟨s, rfl, Validator.given?_eq_some.mpr ⟨rfl, ?_⟩⟩
      cases empty : s.isEmpty with
      | false => rfl
      | true =>
          rw [Option.getD_some, String.isEmpty_iff.mp empty] at known
          cases known

/-- Where a test compiles, the validator may find fault with it, but with nothing that
compilation enforces. -/
theorem isEnforced_of_testFault? [PatternEngine] (sameLimits : k.config.limits = v.limits)
    {id : String}
    {tag : Option String} {value : Option Json} {config : Option FieldConfig} {c : Constraint}
    (compiled : k.constraint id tag value = .ok c) {fault : Fault}
    (found : v.testFault? tag value config = some fault) : fault.isEnforced = false := by
  obtain ⟨op, known, tested⟩ := constraint_eq_ok.mp compiled
  obtain ⟨s, rfl, given⟩ := given?_of_ofTag? known
  rw [Validator.testFault?, given] at found
  dsimp only at found
  split at found
  · cases found
    rfl
  · rename_i other suits
    have same : other = op :=
      Option.some.inj ((Option.filter_eq_some_iff.mp suits).1.symm.trans known)
    split at found
    · cases found
    · rename_i fault refused
      cases found
      rw [← sameLimits, same] at refused
      have silent := Constraint.eventKind?_of_ofOperator tested refused
      simpa [Fault.isEnforced, Fault.code, ErrorCode.isEnforced, Fault.eventKind?] using silent

theorem isEnforced_of_leafFault? [PatternEngine] (sameLimits : k.config.limits = v.limits)
    {id : String} {p : Predicate} {c : Criteria} (compiled : k.criteriaOfPredicate id p = .ok c)
    {field : Option String} {fault : Fault} (found : v.leafFault? p = some (field, fault)) :
    fault.isEnforced = false := by
  cases p with
  | raw text params =>
      obtain ⟨harmless, _⟩ := criteriaOfPredicate_raw.mp compiled
      obtain ⟨_, found, ⟨⟩⟩ := Option.map_eq_some_iff.mp found
      unfold Validator.rawFault? at found
      rw [harmless] at found
      dsimp only at found
      split at found
      · cases found
      · split at found <;> cases found
        rfl
  | custom handler tag value params =>
      obtain ⟨_, found, ⟨⟩⟩ := Option.map_eq_some_iff.mp found
      unfold Validator.customFault? at found
      split at found
      · cases found
      · split at found <;> cases found
        rfl
  | relation relation given tag value =>
      obtain ⟨name, test, there, filled, compiled, _⟩ := criteriaOfPredicate_relation.mp compiled
      rw [Validator.leafFault?, Validator.given?_eq_some.mpr ⟨there, filled⟩] at found
      dsimp only at found
      split at found
      · cases found
        rfl
      · split at found
        · cases found
          rfl
        · obtain ⟨_, found, ⟨⟩⟩ := Option.map_eq_some_iff.mp found
          exact isEnforced_of_testFault? sameLimits compiled found
  | field given tag value =>
      obtain ⟨name, test, there, filled, compiled, _⟩ := criteriaOfPredicate_field.mp compiled
      rw [Validator.leafFault?, Validator.given?_eq_some.mpr ⟨there, filled⟩] at found
      dsimp only at found
      split at found
      · cases found
        rfl
      · split at found
        · cases found
          rfl
        · obtain ⟨_, found, ⟨⟩⟩ := Option.map_eq_some_iff.mp found
          exact isEnforced_of_testFault? sameLimits compiled found

/-- What is left to find fault with in a group that compiles is the number of children of a
negation: compilation counts the parts that say anything. -/
theorem isEnforced_of_groupFault? {id : String} {tag : Option String} {size : Nat} {logic : Logic}
    (known : groupLogic id tag = .ok logic) (fits : size ≤ v.limits.maxConditionsPerGroup)
    {fault : Fault} (found : v.groupFault? tag size = some fault) : fault.isEnforced = false := by
  unfold Validator.groupFault? at found
  rw [if_neg (Nat.not_lt.mpr fits)] at found
  cases tag with
  | none => cases found
  | some tag =>
      rw [groupLogic] at known
      dsimp only at found
      split at found
      · rename_i unknown
        rw [unknown] at known
        cases known
      · split at found <;> cases found
        rfl
      · cases found

/-- No finding on trees that compile is about something that compilation enforces. -/
theorem isEnforced_of_findingsIn [PatternEngine] (sameLimits : k.config.limits = v.limits)
    {depth : Nat} {forest : List Condition} {parts : List Criteria}
    (compiled : k.criteriaOfAll depth forest = .ok parts) {f : Finding}
    (found : f ∈ v.findingsIn depth forest) : f.fault.isEnforced = false := by
  induction forest using Condition.forest_induction generalizing depth parts with
  | nil => cases found
  | leaf clause rest ih =>
      obtain ⟨part, others, here, beside, _⟩ := criteriaOfAll_cons.mp compiled
      rw [Validator.findingsIn, List.mem_append] at found
      rcases found with found | found
      · obtain ⟨fits, here⟩ := criteriaOfNode_leaf.mp here
        rw [sameLimits] at fits
        rw [Validator.findings_leaf fits, Option.mem_toList, Option.map_eq_some_iff] at found
        obtain ⟨⟨field, fault⟩, found, rfl⟩ := found
        exact isEnforced_of_leafFault? sameLimits here found
      · exact ih beside found
  | group clause children rest ihc ihr =>
      obtain ⟨part, others, here, beside, _⟩ := criteriaOfAll_cons.mp compiled
      rw [Validator.findingsIn, List.mem_append] at found
      rcases found with found | found
      · obtain ⟨fits, size, logic, _, known, below, _⟩ := criteriaOfNode_group.mp here
        rw [sameLimits] at fits size
        rw [Validator.findings_group fits, if_pos size, List.mem_append, Option.mem_toList,
          Option.map_eq_some_iff] at found
        rcases found with ⟨fault, found, rfl⟩ | found
        · exact isEnforced_of_groupFault? known size found
        · exact ihc below found
      · exact ihr beside found

/-- What the validator reports of these codes, or of lists with too many values, keeps the whole
forest from being compiled under the same limits, wherever in it the node stands and under
whichever logic. -/
theorem criteriaOfForest_of_enforced [PatternEngine] (sameLimits : k.config.limits = v.limits)
    {forest : List Condition} {log : List SecurityEvent}
    (reported : (∃ e ∈ (v.validate forest log).1.errors, e.code.isEnforced = true) ∨
      ∃ e ∈ (v.validate forest log).1.events, e.kind = .tooManyInValues) (logic : Logic) :
    ∃ e, k.criteriaOfForest forest logic = .error e := by
  have enforced : ∃ f ∈ v.findingsIn 0 forest, f.fault.isEnforced = true := by
    rcases reported with ⟨e, listed, code⟩ | ⟨e, raised, kind⟩
    · obtain ⟨f, found, rfl⟩ := Validator.mem_validate_errors.mp listed
      exact ⟨f, found, Bool.or_eq_true_iff.mpr (.inl code)⟩
    · obtain ⟨f, found, event⟩ := Validator.mem_validate_events.mp raised
      obtain ⟨_, known, rfl⟩ := Option.map_eq_some_iff.mp event
      refine ⟨f, found, Bool.or_eq_true_iff.mpr (.inr (beq_iff_eq.mpr ?_))⟩
      rw [known]
      exact congrArg some kind
  obtain ⟨f, found, enforced⟩ := enforced
  cases compiled : k.criteriaOfForest forest logic with
  | error e => exact ⟨e, rfl⟩
  | ok c =>
      obtain ⟨_, parts, all, _⟩ := criteriaOfForest_eq_ok.mp compiled
      have spared := isEnforced_of_findingsIn sameLimits all found
      rw [enforced] at spared
      cases spared

/-- A list with too many values, negated and below a group that could be collapsed. -/
theorem criteriaOfForest_of_enforced_values :
    let v : Validator := { fields := .ofList [("name", {})], limits := { maxInValues := 1 } }
    let k : Compiler :=
      { schema := { name := "User", fields := v.fields }, config := { limits := v.limits } }
    let test : Condition := .leaf
      { id := "a", field := some "name", operator := some "in",
        value := some (.array [.string "x", .string "y"]) }
    let forest : List Condition :=
      [.group { id := "g", logic := some "OR" } [.group { id := "h", logic := some "NOT" } [test]]]
    (∃ e ∈ (v.validate forest []).1.events, e.kind = .tooManyInValues) ∧
      ∀ logic, ∃ e, k.criteriaOfForest forest logic = .error e := by
  intro v k test forest
  have raised : ∃ e ∈ (v.validate forest []).1.events, e.kind = .tooManyInValues :=
    ⟨_, Validator.mem_validate_events.mpr ⟨_, .head _, rfl⟩, rfl⟩
  exact ⟨raised, criteriaOfForest_of_enforced (k := k) rfl (.inr raised)⟩

end Compiler

end RowFilter
