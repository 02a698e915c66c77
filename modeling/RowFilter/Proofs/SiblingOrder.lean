import RowFilter.Pattern.Matching
import RowFilter.Proofs.Reading

/-! # The order of siblings

A group says what its logic makes of its children, and no logic asks in which order they stand.
Compilation and evaluation do go in order, and both stop early: at the first error, and at the
first decisive part. That does not show, for either every child compiles or none of them saves the
group, and the criteria of a compiled tree have an answer on every row. What the compiler may not
depend on is which parts are left in which place; it only asks how many there are.
-/

namespace RowFilter

namespace Condition

/-- Forests that differ in the order of siblings only, at any depth. -/
inductive Rearranged : List Condition → List Condition → Prop where
  | nil : Rearranged [] []
  | leaf (clause : Clause) {rest rest' : List Condition} :
    Rearranged rest rest' → Rearranged (leaf clause :: rest) (leaf clause :: rest')
  | group (clause : Clause) {children children' rest rest' : List Condition} :
    Rearranged children children' → Rearranged rest rest' →
    Rearranged (group clause children :: rest) (group clause children' :: rest')
  | swap (c d : Condition) (rest : List Condition) : Rearranged (c :: d :: rest) (d :: c :: rest)
  | trans {first second third : List Condition} :
    Rearranged first second → Rearranged second third → Rearranged first third

variable {forest forest' : List Condition}

namespace Rearranged

theorem refl (forest : List Condition) : Rearranged forest forest := by
  induction forest using forest_induction with
  | nil => exact .nil
  | leaf clause rest ih => exact .leaf clause ih
  | group clause children rest ihc ihr => exact .group clause ihc ihr

theorem symm (same : Rearranged forest forest') : Rearranged forest' forest := by
  induction same with
  | nil => exact .nil
  | leaf clause _ ih => exact .leaf clause ih
  | group clause _ _ ihc ihr => exact .group clause ihc ihr
  | swap c d rest => exact .swap d c rest
  | trans _ _ ih ih' => exact .trans ih' ih

theorem length_eq (same : Rearranged forest forest') : forest'.length = forest.length := by
  induction same with
  | nil => rfl
  | leaf _ _ ih => rw [List.length_cons, List.length_cons, ih]
  | group _ _ _ _ ih => rw [List.length_cons, List.length_cons, ih]
  | swap => rfl
  | trans _ _ ih ih' => exact ih'.trans ih

theorem predicates_perm (same : Rearranged forest forest') :
    (predicates forest).Perm (predicates forest') := by
  induction same with
  | nil => exact .refl _
  | leaf clause _ ih =>
      rw [predicates_leaf_cons, predicates_leaf_cons]
      exact ih.cons clause.predicate
  | group clause _ _ ihc ihr =>
      rw [predicates_group_cons, predicates_group_cons]
      exact ihc.append ihr
  | swap c d rest =>
      have apart (c : Condition) (rest : List Condition) :
          predicates (c :: rest) = predicates [c] ++ predicates rest := predicates_append [c] rest
      rw [apart c, apart d rest, apart d (c :: rest), apart c rest, ← List.append_assoc,
        ← List.append_assoc]
      exact List.perm_append_comm.append_right _
  | trans _ _ ih ih' => exact ih.trans ih'

theorem plain (same : Rearranged forest forest') (plain : Plain forest) : Plain forest' :=
  fun p stands => plain p (same.predicates_perm.mem_iff.mpr stands)

end Rearranged

end Condition

namespace Logic

theorem reading_perm (logic : Logic) {values values' : List Bool} (same : values.Perm values') :
    logic.reading values = logic.reading values' := by
  have blank : values.isEmpty = values'.isEmpty := by
    rw [Bool.eq_iff_iff, List.isEmpty_iff, List.isEmpty_iff]
    exact ⟨fun none => (none ▸ same).nil_eq.symm, fun none => (none ▸ same).eq_nil⟩
  have verdict : logic.verdict values = logic.verdict values' := by
    cases logic with
    | and => exact same.all_eq
    | or => exact same.any_eq
    | not => exact congrArg (!·) same.any_eq
  rw [reading, reading, blank, verdict]

end Logic

namespace Condition

variable {forest forest' : List Condition}

theorem Rearranged.readings_perm [PatternEngine] (same : Rearranged forest forest') (k : Compiler)
    (row : Row) : (readings k row forest).Perm (readings k row forest') := by
  induction same with
  | nil => exact .refl _
  | leaf clause _ ih =>
      rw [readings, readings]
      exact ih.append_left _
  | group clause _ _ ihc ihr =>
      rw [readings, readings, reading, reading, Logic.reading_perm _ ihc]
      exact ihr.append_left _
  | swap c d rest =>
      rw [readings, readings, readings, readings, ← List.append_assoc, ← List.append_assoc]
      exact List.perm_append_comm.append_right _
  | trans _ _ ih ih' => exact ih.trans ih'

/-- Rearranged forests match the same rows. -/
theorem Rearranged.admits_eq [PatternEngine] (same : Rearranged forest forest') (k : Compiler)
    (logic : Logic) (row : Row) : admits k logic forest row = admits k logic forest' row := by
  rw [admits, admits, logic.reading_perm (same.readings_perm k row)]

end Condition

namespace Criteria

theorem length_substantive_cons (c : Criteria) (parts : List Criteria) :
    (substantive (c :: parts)).length =
      (if c.isEmpty then 0 else 1) + (substantive parts).length := by
  cases said : c.isEmpty with
  | true => rw [substantive_cons_of_empty said, if_pos rfl, Nat.zero_add]
  | false =>
      rw [substantive_cons_of_said said, List.length_cons, if_neg Bool.false_ne_true, Nat.add_comm]

/-- A group says anything exactly if some part of it does. -/
theorem isEmpty_of_join {id : String} {logic : Logic} {parts : List Criteria} {c : Criteria}
    (joined : Compiler.join id logic parts = .ok c) :
    c.isEmpty = (substantive parts).isEmpty := by
  cases logic with
  | and =>
      cases joined
      exact isEmpty_combine (fun _ => rfl) parts
  | or =>
      cases joined
      exact isEmpty_combine (fun _ => rfl) parts
  | not =>
      rcases join_not joined with ⟨none, rfl⟩ | ⟨part, single, rfl⟩
      · rw [none]
        rfl
      · have kept : part.isEmpty = false := by
          have member : part ∈ substantive parts := by simp [single]
          simpa using (List.mem_filter.mp member).2
        rw [single, negate, kept, if_neg Bool.false_ne_true]
        rfl

/-- Whether parts can be joined, and whether that says anything, depends only on how many of them
say anything. -/
theorem join_of_length_eq {id : String} {logic : Logic} {parts parts' : List Criteria}
    {c : Criteria} (joined : Compiler.join id logic parts = .ok c)
    (count : (substantive parts').length = (substantive parts).length) :
    ∃ c', Compiler.join id logic parts' = .ok c' ∧ c'.isEmpty = c.isEmpty := by
  have joins : ∃ c', Compiler.join id logic parts' = .ok c' := by
    cases logic with
    | and | or => exact ⟨_, rfl⟩
    | not =>
        rw [Compiler.join, ← substantive]
        rcases join_not joined with ⟨none, _⟩ | ⟨part, single, _⟩
        · rw [none, List.length_nil, List.length_eq_zero_iff] at count
          exact ⟨.empty, by rw [count]⟩
        · rw [single, List.length_singleton, List.length_eq_one_iff] at count
          obtain ⟨part', single'⟩ := count
          exact ⟨negate part', by rw [single']⟩
  obtain ⟨c', joined'⟩ := joins
  refine ⟨c', joined', ?_⟩
  rw [isEmpty_of_join joined', isEmpty_of_join joined, Bool.eq_iff_iff,
    List.isEmpty_iff_length_eq_zero, List.isEmpty_iff_length_eq_zero, count]

end Criteria

namespace Compiler

open Criteria Condition

variable {k : Compiler} {forest forest' : List Condition}

section

variable [PatternEngine]

/-- If one of two rearranged forests compiles part by part, so does the other, with as many parts
that say anything. -/
theorem criteriaOfAll_rearranged (same : Rearranged forest forest') {depth : Nat}
    {parts : List Criteria} (compiled : k.criteriaOfAll depth forest = .ok parts) :
    ∃ parts', k.criteriaOfAll depth forest' = .ok parts' ∧
      (substantive parts').length = (substantive parts).length := by
  induction same generalizing depth parts with
  | nil => exact ⟨parts, compiled, rfl⟩
  | leaf clause _ ih =>
      obtain ⟨part, others, here, beside, rfl⟩ := criteriaOfAll_cons.mp compiled
      obtain ⟨others', beside', count⟩ := ih beside
      refine ⟨part :: others', criteriaOfAll_cons.mpr ⟨part, others', here, beside', rfl⟩, ?_⟩
      rw [length_substantive_cons, length_substantive_cons, count]
  | group clause inner _ ihc ihr =>
      obtain ⟨part, others, here, beside, rfl⟩ := criteriaOfAll_cons.mp compiled
      obtain ⟨others', beside', count⟩ := ihr beside
      obtain ⟨fits, size, logic, below, known, children, joined⟩ := criteriaOfNode_group.mp here
      obtain ⟨below', children', left⟩ := ihc children
      obtain ⟨part', joined', blank⟩ := join_of_length_eq joined left
      have here' := criteriaOfNode_group.mpr
        ⟨fits, inner.length_eq ▸ size, logic, below', known, children', joined'⟩
      refine ⟨part' :: others', criteriaOfAll_cons.mpr ⟨part', others', here', beside', rfl⟩, ?_⟩
      rw [length_substantive_cons, length_substantive_cons, blank, count]
  | swap c d rest =>
      obtain ⟨first, _, here, remaining, rfl⟩ := criteriaOfAll_cons.mp compiled
      obtain ⟨second, others, next, beside, rfl⟩ := criteriaOfAll_cons.mp remaining
      refine ⟨second :: first :: others, ?_, ?_⟩
      · exact criteriaOfAll_cons.mpr
          ⟨second, _, next, criteriaOfAll_cons.mpr ⟨first, others, here, beside, rfl⟩, rfl⟩
      · exact ((List.Perm.swap first second others).filter _).length_eq
  | trans _ _ ih ih' =>
      obtain ⟨parts', compiled', count⟩ := ih compiled
      obtain ⟨parts'', compiled'', count'⟩ := ih' compiled'
      exact ⟨parts'', compiled'', count'.trans count⟩

theorem exists_criteriaOfForest_rearranged (same : Rearranged forest forest') {logic : Logic}
    (compiles : ∃ c, k.criteriaOfForest forest logic = .ok c) :
    ∃ c, k.criteriaOfForest forest' logic = .ok c := by
  obtain ⟨c, compiled⟩ := compiles
  obtain ⟨size, parts, all, joined⟩ := criteriaOfForest_eq_ok.mp compiled
  obtain ⟨parts', all', count⟩ := criteriaOfAll_rearranged same all
  obtain ⟨c', joined', _⟩ := join_of_length_eq joined count
  exact ⟨c', criteriaOfForest_eq_ok.mpr ⟨same.length_eq ▸ size, parts', all', joined'⟩⟩

/-- Of two forests that differ in the order of siblings only, either both compile or neither does.
The criteria of both have one answer on every row, and do have an answer. -/
theorem rearranged_agree (k : Compiler) (same : Rearranged forest forest') (logic : Logic) :
    ((∃ c, k.criteriaOfForest forest logic = .ok c) ↔
      ∃ c, k.criteriaOfForest forest' logic = .ok c) ∧
    (Plain forest → ∀ c c', k.criteriaOfForest forest logic = .ok c →
      k.criteriaOfForest forest' logic = .ok c' →
      ∀ row, ∃ b, c.evaluate row = .ok b ∧ c'.evaluate row = .ok b) := by
  constructor
  · exact ⟨exists_criteriaOfForest_rearranged same, exists_criteriaOfForest_rearranged same.symm⟩
  · intro plain c c' compiled compiled' row
    refine ⟨_, criteriaOfForest_evaluates plain compiled, ?_⟩
    rw [same.admits_eq]
    exact criteriaOfForest_evaluates (same.plain plain) compiled'

end

/-- A negation beside a test, in both orders, with a group that says nothing on either side of the
condition under the negation. -/
theorem rearranged_agree_negation :
    let k : Compiler := { schema := { name := "User", fields := .ofList [("name", {})] } }
    let absent : Condition := .leaf { id := "a", field := some "name", operator := some "isNull" }
    let test : Condition := .leaf
      { id := "b", field := some "name", operator := some "eq", value := some (.string "x") }
    let negated (children : List Condition) : Condition :=
      .group { id := "g", logic := some "NOT" } children
    let forest := [negated [.group { id := "h" } [], absent], test]
    let forest' := [test, negated [absent, .group { id := "h" } []]]
    let negation : Criteria := .complement (.field "name" .isNull)
    let equality : Criteria := .field "name" (.eq (.string "x"))
    Rearranged forest forest' ∧ Plain forest ∧
      k.criteriaOfForest forest .or = .ok (.anyOf [negation, equality]) ∧
      k.criteriaOfForest forest' .or = .ok (.anyOf [equality, negation]) ∧
      ∀ row, ∃ b, (anyOf [negation, equality]).evaluate row = .ok b ∧
        (anyOf [equality, negation]).evaluate row = .ok b := by
  intro k absent test negated forest forest' negation equality
  have same : Rearranged forest forest' :=
    .trans (.group _ (.swap _ _ []) (.refl [test])) (.swap _ _ [])
  have plain : Plain forest := by
    simp [Plain, forest, negated, absent, test, Clause.predicate, Predicate.isTest]
  exact ⟨same, plain, rfl, rfl, (rearranged_agree k same .or).2 plain _ _ rfl rfl⟩

end Compiler

end RowFilter
