import RowFilter.Compilation.Compiler
import RowFilter.Proofs.Condition.Forest
import RowFilter.Proofs.Outcome

/-! # What compilation takes to succeed

One statement for each step of the compiler says exactly when it gives criteria and which ones.
Proofs about compiled filters go along `Condition.forest_induction` and open the compiler only
through these statements.
-/

namespace RowFilter

open Outcome

/-- Whether a test is left to a handler. -/
def Predicate.isCustom : Predicate → Bool
  | .custom .. => true
  | .raw .. | .relation .. | .field .. => false

/-- A search that gives a fragment has put it together from what its candidates give. -/
theorem GlobalSearch.build_eq_some {schema : Schema} {search : String}
    {fields : Option (List String)} {limits : Limits} {c : Criteria}
    (h : build schema search fields limits = .ok (some c)) :
    ∃ text number, c = .or ((candidates schema fields).filterMap (fragment? text number)) := by
  simp only [build] at h
  split at h
  · cases h
  · split at h
    · cases h
    · split at h
      · cases h
      · cases h
        exact ⟨_, _, rfl⟩

namespace Compiler

variable {k : Compiler}

theorem checkGroupSize_eq_ok {id : String} {count : Nat} :
    k.checkGroupSize id count = .ok () ↔ count ≤ k.config.limits.maxConditionsPerGroup := by
  unfold checkGroupSize
  split
  · rename_i beyond
    simpa using Nat.not_le.mpr beyond
  · rename_i fits
    simpa using Nat.not_lt.mp fits

section

variable [PatternEngine]

/-- A leaf compiles as its predicate does, unless it is too deep. -/
theorem criteriaOfNode_leaf {depth : Nat} {clause : Clause} {c : Criteria} :
    k.criteriaOfNode depth (.leaf clause) = .ok c ↔
      depth ≤ k.config.limits.maxDepth ∧
        k.criteriaOfPredicate clause.id clause.predicate = .ok c := by
  rw [criteriaOfNode]
  split
  · rename_i beyond
    simpa using fun fits => absurd fits (Nat.not_le.mpr beyond)
  · rename_i fits
    exact ⟨fun h => ⟨Nat.not_lt.mp fits, h⟩, And.right⟩

theorem criteriaOfNode_group {depth : Nat} {clause : Clause} {children : List Condition}
    {c : Criteria} :
    k.criteriaOfNode depth (.group clause children) = .ok c ↔
      depth ≤ k.config.limits.maxDepth ∧
        children.length ≤ k.config.limits.maxConditionsPerGroup ∧
        ∃ logic parts, groupLogic clause.id clause.logic = .ok logic ∧
          k.criteriaOfAll (depth + 1) children = .ok parts ∧
          join clause.id logic parts = .ok c := by
  rw [criteriaOfNode]
  split
  · rename_i beyond
    simpa using fun fits => absurd fits (Nat.not_le.mpr beyond)
  · rename_i fits
    simp only [bind_eq_ok]
    constructor
    · rintro ⟨logic, hlogic, ⟨⟩, size, parts, hparts, hjoin⟩
      exact ⟨Nat.not_lt.mp fits, checkGroupSize_eq_ok.mp size, logic, parts, hlogic, hparts, hjoin⟩
    · rintro ⟨_, size, logic, parts, hlogic, hparts, hjoin⟩
      exact ⟨logic, hlogic, (), checkGroupSize_eq_ok.mpr size, parts, hparts, hjoin⟩

theorem criteriaOfAll_nil {depth : Nat} {parts : List Criteria} :
    k.criteriaOfAll depth [] = .ok parts ↔ parts = [] := by
  rw [criteriaOfAll, Except.ok.injEq, eq_comm]

theorem criteriaOfAll_cons {depth : Nat} {c : Condition} {rest : List Condition}
    {parts : List Criteria} :
    k.criteriaOfAll depth (c :: rest) = .ok parts ↔
      ∃ part others, k.criteriaOfNode depth c = .ok part ∧
        k.criteriaOfAll depth rest = .ok others ∧ parts = part :: others := by
  rw [criteriaOfAll]
  simp only [bind_eq_ok, pure, Except.pure, Except.ok.injEq, eq_comm (b := parts)]
  constructor
  · rintro ⟨part, hpart, others, hothers, same⟩
    exact ⟨part, others, hpart, hothers, same⟩
  · rintro ⟨part, others, hpart, hothers, same⟩
    exact ⟨part, hpart, others, hothers, same⟩

theorem criteriaOfAll_length {depth : Nat} {forest : List Condition} {parts : List Criteria}
    (h : k.criteriaOfAll depth forest = .ok parts) : parts.length = forest.length := by
  induction forest generalizing parts with
  | nil => rw [criteriaOfAll_nil.mp h]; rfl
  | cons c rest ih =>
      obtain ⟨part, others, _, hothers, rfl⟩ := criteriaOfAll_cons.mp h
      rw [List.length_cons, List.length_cons, ih hothers]

/-- Where a forest compiles, every leaf in it does. -/
theorem criteriaOfPredicate_of_mem_nodes {depth : Nat} {forest : List Condition}
    {parts : List Criteria} (compiled : k.criteriaOfAll depth forest = .ok parts) :
    ∀ clause, Condition.leaf clause ∈ Condition.nodes forest →
      ∃ c, k.criteriaOfPredicate clause.id clause.predicate = .ok c := by
  intro clause stands
  induction forest using Condition.forest_induction generalizing depth parts with
  | nil => simp [Condition.nodes_nil] at stands
  | leaf first rest ih =>
      obtain ⟨part, others, here, beside, _⟩ := criteriaOfAll_cons.mp compiled
      simp only [Condition.nodes_cons, Condition.children, Condition.nodes_nil, List.nil_append,
        List.mem_cons, Condition.leaf.injEq] at stands
      rcases stands with rfl | stands
      · exact ⟨part, (criteriaOfNode_leaf.mp here).2⟩
      · exact ih beside stands
  | group first children rest ihc ihr =>
      obtain ⟨part, others, here, beside, _⟩ := criteriaOfAll_cons.mp compiled
      obtain ⟨_, _, _, _, _, below, _⟩ := criteriaOfNode_group.mp here
      simp only [Condition.nodes_cons, Condition.children, List.mem_cons, List.mem_append,
        reduceCtorEq, false_or] at stands
      rcases stands with stands | stands
      · exact ihc below stands
      · exact ihr beside stands

/-- Where a forest compiles, every predicate in it does. -/
theorem criteriaOfPredicate_of_criteriaOfAll {depth : Nat} {forest : List Condition}
    {parts : List Criteria} (compiled : k.criteriaOfAll depth forest = .ok parts) :
    ∀ p ∈ Condition.predicates forest, ∃ id c, k.criteriaOfPredicate id p = .ok c := by
  intro p stands
  obtain ⟨clause, inside, rfl⟩ := Condition.mem_predicates.mp stands
  exact ⟨clause.id, criteriaOfPredicate_of_mem_nodes compiled clause inside⟩

theorem criteriaOfForest_eq_ok {forest : List Condition} {logic : Logic} {c : Criteria} :
    k.criteriaOfForest forest logic = .ok c ↔
      forest.length ≤ k.config.limits.maxConditionsPerGroup ∧
        ∃ parts, k.criteriaOfAll 0 forest = .ok parts ∧ join rootId logic parts = .ok c := by
  rw [criteriaOfForest]
  simp only [bind_eq_ok]
  constructor
  · rintro ⟨⟨⟩, size, parts, hparts, hjoin⟩
    exact ⟨checkGroupSize_eq_ok.mp size, parts, hparts, hjoin⟩
  · rintro ⟨size, parts, hparts, hjoin⟩
    exact ⟨(), checkGroupSize_eq_ok.mpr size, parts, hparts, hjoin⟩

/-- What the search of a request adds to its filters, if anything. -/
def searchFragment (k : Compiler) (p : PageRequest) : Except CompileError (Option Criteria) :=
  match p.globalSearch with
  | none => .ok none
  | some search => GlobalSearch.build k.schema search p.searchFields k.config.limits

theorem criteriaOfRequest_eq_ok {p : PageRequest} {c : Criteria} :
    k.criteriaOfRequest p = .ok c ↔
      ∃ filters fragment, k.criteriaOfForest p.filters .and = .ok filters ∧
        k.searchFragment p = .ok fragment ∧ c = .and (filters :: fragment.toList) := by
  have joined : k.criteriaOfRequest p = (do
      let filters ← k.criteriaOfForest p.filters .and
      let fragment ← k.searchFragment p
      return .and (filters :: fragment.toList)) := by
    unfold criteriaOfRequest searchFragment
    cases p.globalSearch with
    | none => rfl
    | some search =>
        congr 1
        funext filters
        dsimp only
        cases GlobalSearch.build k.schema search p.searchFields k.config.limits with
        | error e => rfl
        | ok fragment => cases fragment <;> rfl
  rw [joined]
  simp only [bind_eq_ok, pure, Except.pure, Except.ok.injEq, eq_comm (b := c)]
  constructor
  · rintro ⟨filters, compiled, fragment, found, same⟩
    exact ⟨filters, fragment, compiled, found, same⟩
  · rintro ⟨filters, fragment, compiled, found, same⟩
    exact ⟨filters, compiled, fragment, found, same⟩

end

/-- A given text is the one that a check for presence hands on. -/
theorem named_eq_ok {id text : String} {given : Option String} {fault : PredicateFault} :
    named id given fault = .ok text ↔ given = some text ∧ text.isEmpty = false := by
  unfold named
  cases given with
  | none => simp
  | some s =>
      by_cases empty : s.isEmpty
      · simp only [Option.filter, empty, Bool.not_true, Bool.false_eq_true, if_false, reduceCtorEq,
          Option.some.injEq, false_iff, not_and]
        rintro rfl
        simp [empty]
      · simp only [Option.filter, empty, Bool.not_false, if_true, Except.ok.injEq,
          Option.some.injEq]
        exact ⟨fun same => ⟨same, by simpa [← same] using empty⟩, And.left⟩

theorem operator_eq_ok {id : String} {tag : Option String} {op : Operator} :
    operator id tag = .ok op ↔ Operator.ofTag? (tag.getD "") = some op := by
  unfold operator
  cases found : Operator.ofTag? (tag.getD "") <;> simp [found]

variable [PatternEngine]

theorem constraint_eq_ok {id : String} {tag : Option String} {value : Option Json}
    {c : Constraint} :
    k.constraint id tag value = .ok c ↔
      ∃ op, Operator.ofTag? (tag.getD "") = some op ∧
        Constraint.ofOperator id op value k.config.dialect k.config.limits = .ok c := by
  rw [constraint]
  simp only [bind_eq_ok, operator_eq_ok]

/-- Field and relation predicates compile alike: the field has to be named, and the operator has
to give a constraint on the operand. -/
private theorem test_eq_ok {id : String} {given tag : Option String} {value : Option Json}
    {fault : PredicateFault} {wrap : String → Constraint → Criteria} {c : Criteria} :
    (do let name ← named id given fault
        return wrap name (← k.constraint id tag value)) = Except.ok c ↔
      ∃ name test, given = some name ∧ name.isEmpty = false ∧
        k.constraint id tag value = .ok test ∧ c = wrap name test := by
  simp only [bind_eq_ok, named_eq_ok, pure, Except.pure, Except.ok.injEq, eq_comm (b := c)]
  constructor
  · rintro ⟨name, ⟨found, filled⟩, test, htest, same⟩
    exact ⟨name, test, found, filled, htest, same⟩
  · rintro ⟨name, test, found, filled, htest, same⟩
    exact ⟨name, ⟨found, filled⟩, test, htest, same⟩

theorem criteriaOfPredicate_field {id : String} {field tag : Option String} {value : Option Json}
    {c : Criteria} :
    k.criteriaOfPredicate id (.field field tag value) = .ok c ↔
      ∃ name test, field = some name ∧ name.isEmpty = false ∧
        k.constraint id tag value = .ok test ∧ c = .field name test :=
  test_eq_ok

theorem criteriaOfPredicate_relation {id relation : String} {field tag : Option String}
    {value : Option Json} {c : Criteria} :
    k.criteriaOfPredicate id (.relation relation field tag value) = .ok c ↔
      ∃ name test, field = some name ∧ name.isEmpty = false ∧
        k.constraint id tag value = .ok test ∧ c = .relation relation name test :=
  test_eq_ok

theorem criteriaOfPredicate_raw {id text : String} {params : Option (List Json)} {c : Criteria} :
    k.criteriaOfPredicate id (.raw text params) = .ok c ↔
      DangerousPattern.find? text = none ∧ c = .raw text (params.getD []) := by
  rw [criteriaOfPredicate]
  cases found : DangerousPattern.find? text <;> simp [eq_comm (a := c)]

end Compiler

end RowFilter
