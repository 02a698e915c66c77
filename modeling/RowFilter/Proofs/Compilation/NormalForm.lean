import RowFilter.Pattern.Matching
import RowFilter.Proofs.Compilation.Provenance

/-! # The normal form of compiled criteria

Compilation drops what says nothing and unwraps groups of one part, at every level. What is left is
either nothing at all or criteria without anything empty in them, in which every conjunction and
disjunction has several parts; and no predicate is lost, doubled or moved on the way.
-/

namespace RowFilter.Compiler

open Outcome

variable {k : Compiler}

section

variable [PatternEngine]

/-- Of the predicates that no handler speaks for, the raw ones compile to raw text. -/
theorem raw_of_criteriaOfPredicate {id : String} {p : Predicate} {c : Criteria}
    (own : p.isCustom = false) (compiled : k.criteriaOfPredicate id p = .ok c) :
    (∃ text params, c = .raw text params) ↔ ∃ text params, p = .raw text params := by
  cases p with
  | raw text params =>
      obtain ⟨_, rfl⟩ := criteriaOfPredicate_raw.mp compiled
      simp
  | custom => cases own
  | relation relation field tag value =>
      obtain ⟨_, _, _, _, _, rfl⟩ := criteriaOfPredicate_relation.mp compiled
      simp
  | field field tag value =>
      obtain ⟨_, _, _, _, _, rfl⟩ := criteriaOfPredicate_field.mp compiled
      simp

/-- Criteria hand raw text on exactly if a predicate of their forest does. -/
theorem usesRaw_criteriaOfForest {forest : List Condition} {logic : Logic} {c : Criteria}
    (unhandled : Condition.Unhandled k.registry forest)
    (compiled : k.criteriaOfForest forest logic = .ok c) :
    c.usesRaw = true ↔ ∃ text params, .raw text params ∈ Condition.predicates forest := by
  rw [Criteria.usesRaw_iff]
  constructor
  · rintro ⟨text, params, stands⟩
    have leaf : .raw text params ∈ c.leaves := Criteria.mem_leaves.mpr ⟨stands, rfl⟩
    obtain ⟨id, p, given, own, alone⟩ := predicate_of_mem_leaves unhandled compiled leaf
    obtain ⟨text', params', rfl⟩ := (raw_of_criteriaOfPredicate own alone).mp ⟨text, params, rfl⟩
    exact ⟨text', params', given⟩
  · rintro ⟨text, params, given⟩
    obtain ⟨id, part, leaf, alone⟩ := mem_leaves_of_predicate unhandled compiled given rfl
    obtain ⟨text', params', rfl⟩ := (raw_of_criteriaOfPredicate rfl alone).mpr ⟨text, params, rfl⟩
    exact ⟨text', params', (Criteria.mem_leaves.mp leaf).1⟩

/-- Criteria compiled without handlers are nothing at all or have nothing empty in them; their
conjunctions and disjunctions have several parts; and their leaves from left to right are the
field, relation and raw predicates of the forest in document order, each as it compiles by itself.
So there is raw text in them exactly if there is some in the forest. -/
theorem criteriaOfForest_normal_form {forest : List Condition} {logic : Logic} {c : Criteria}
    (unhandled : Condition.Unhandled k.registry forest)
    (compiled : k.criteriaOfForest forest logic = .ok c) :
    (c = .empty ∨ Criteria.empty ∉ c.nodes) ∧
    (∀ parts, .allOf parts ∈ c.nodes ∨ .anyOf parts ∈ c.nodes → 2 ≤ parts.length) ∧
    List.Forall₂ (fun node part => k.criteriaOfCondition node = .ok part)
      (Condition.ownLeaves forest) c.leaves ∧
    (c.usesRaw = true ↔ ∃ text params, .raw text params ∈ Condition.predicates forest) := by
  refine ⟨?_, ?_, leaves_criteriaOfForest unhandled compiled,
    usesRaw_criteriaOfForest unhandled compiled⟩
  · rcases normal_criteriaOfForest unhandled compiled with blank | shaped
    · exact .inl blank
    · right
      intro stands
      exact shaped _ stands
  · intro parts stands
    exact ((normal_criteriaOfForest unhandled compiled).connective stands).1

end

/-- A negation of raw text beside a group without children, a predicate of an unknown handler, and
a group under its own logic. -/
theorem criteriaOfForest_normal_form_nested :
    let k : Compiler := { schema := { name := "User", fields := .ofList [("name", {})] } }
    let absent : Condition := .withoutOperand "a" "name" .isNull
    let test : Condition := .onField "b" "name" .eq (.string "x")
    let text : Condition := .raw "r" "age = 1" none
    let forest : List Condition :=
      [.combining "g" .not [.combining "h" .and [], text], .custom "u" "missing" .eq .null,
       .combining "o" .or [absent, test]]
    let raw : Criteria := .raw "age = 1" []
    let isNull : Criteria := .field "name" .isNull
    let isX : Criteria := .field "name" (.eq (.string "x"))
    let c : Criteria := .allOf [.complement raw, .anyOf [isNull, isX]]
    Condition.Unhandled k.registry forest ∧ k.criteriaOfForest forest .and = .ok c ∧
      Criteria.empty ∉ c.nodes ∧ Condition.ownLeaves forest = [text, absent, test] ∧
      c.leaves = [raw, isNull, isX] ∧
      List.Forall₂ (fun node part => k.criteriaOfCondition node = .ok part)
        [text, absent, test] [raw, isNull, isX] ∧
      c.usesRaw = true := by
  intro k absent test text forest raw isNull isX c
  have unhandled : Condition.Unhandled k.registry forest := by
    simp [Condition.Unhandled, forest, Condition.combining, Condition.custom, Condition.raw, text,
      absent, test, Condition.withoutOperand, Condition.onField, Clause.predicate,
      Predicate.isHandled]
    rfl
  have compiled : k.criteriaOfForest forest .and = .ok c := rfl
  obtain ⟨filled, _, leaves, _⟩ := criteriaOfForest_normal_form unhandled compiled
  have own : Condition.ownLeaves forest = [text, absent, test] := by
    simp [forest, text, absent, test, Condition.combining, Condition.custom, Condition.raw,
      Condition.withoutOperand, Condition.onField, Condition.ownLeaves, Condition.nodes_cons,
      Condition.nodes_nil, Condition.children, Condition.isOwnLeaf, Condition.predicate?,
      Clause.predicate, Predicate.isCustom]
  rw [own] at leaves
  exact ⟨unhandled, compiled, filled.resolve_left (by simp [c]), own, rfl, leaves, rfl⟩

end RowFilter.Compiler
