import RowFilter.Pattern.Matching
import RowFilter.Proofs.Compilation.Inversion
import RowFilter.Proofs.Validation.Events

/-! # Ceilings on operands, enforced twice

The compiler refuses an operand over a ceiling even where no validation stood before it. It counts
the values of a list as the validator does, but measures a list by the strings that stand in it
directly, while the validator goes into lists within lists. So an operand is refused again unless
all its long strings stand deeper and its operator takes lists as they are; such an operand is
`Operand.Overlooked`, and compiles.
-/

namespace RowFilter

open Outcome

/-- Whether an operator takes a list of so many values as its operand. -/
def Operator.takesList (count : Nat) : Operator → Bool
  | eq | neq | gt | gte | lt | lte | custom | isIn | notIn => true
  | between => count == 2
  | like | ilike | startsWith | endsWith | regex | isNull | isNotNull => false

/-- An operand with long strings only in lists within a list, of a size and shape that its operator
takes. -/
structure Operand.Overlooked (op : Operator) (v : Json) (limits : Limits) : Prop where
  long : limits.maxStringLength < longestText v
  hidden : Constraint.longestListed v ≤ limits.maxStringLength
  taken : op.takesList (valueCount v) = true
  fits : op = .isIn ∨ op = .notIn → valueCount v ≤ limits.maxInValues

namespace Operand

variable {op : Operator} {v : Json} {limits : Limits}

/-- What raises an event without listing too many values has a string that is too long. -/
theorem long_of_isOversized (oversized : isOversized op v limits = true)
    (counted : countFault? op limits v = none) : limits.maxStringLength < longestText v := by
  rw [isOversized_eq, ceilingFault?, counted, Option.none_or, lengthFault?] at oversized
  split at oversized
  · assumption
  · cases oversized

/-- Only of a list can anything escape the second measure. -/
theorem array_of_hidden (hidden : Constraint.longestListed v < longestText v) :
    ∃ items, v = .array items := by
  cases v with
  | array items => exact ⟨items, rfl⟩
  | null | bool | number | string | object => exact absurd hidden (Nat.lt_irrefl _)

end Operand

namespace Constraint

variable {id : String} {op : Operator} {v : Json} {dialect : Dialect} {limits : Limits}

theorem ofOperand_array [PatternEngine] {items : List Json} (needed : op.needsOperand = true)
    (filled : items.isEmpty = false) :
    (∃ test, ofOperand id op (.array items) dialect limits = .ok test) ↔
      op.takesList items.length = true ∧
        Operand.countFault? op limits (.array items) = none := by
  cases op with
  | isIn | notIn =>
      rw [Operand.countFault?_eq_none]
      constructor
      · rintro ⟨test, compiled⟩
        obtain ⟨vs, listed, _⟩ := map_eq_ok.mp compiled
        exact ⟨rfl, fun _ => (operandList_array.mp listed).2.1⟩
      · rintro ⟨_, fits⟩
        have count : items.length ≤ limits.maxInValues := fits (by simp)
        exact ⟨_, map_eq_ok.mpr ⟨items, operandList_array.mpr ⟨filled, count, rfl⟩, rfl⟩⟩
  | between =>
      rcases items with _ | ⟨low, _ | ⟨high, _ | _⟩⟩ <;>
        simp [ofOperand, Operator.takesList, Operand.countFault?]
  | like | ilike | startsWith | endsWith | regex =>
      simp [ofOperand, operandText, Except.map, Operator.takesList]
  | isNull | isNotNull => cases needed
  | eq | neq | gt | gte | lt | lte | custom =>
      simp [ofOperand, Operator.takesList, Operand.countFault?]

/-- Of the operands over a ceiling exactly those compile that the second measure overlooks. -/
theorem ofOperator_eq_ok_of_isOversized [PatternEngine] (id : String) (dialect : Dialect)
    (needed : op.needsOperand = true) (oversized : Operand.isOversized op v limits = true) :
    (∃ test, ofOperator id op (some v) dialect limits = .ok test) ↔
      Operand.Overlooked op v limits := by
  have present := Operand.isEmpty_of_isOversized oversized
  constructor
  · rintro ⟨test, compiled⟩
    have counted := countFault?_of_ofOperator compiled
    have long := Operand.long_of_isOversized oversized counted
    rw [ofOperator_some id dialect limits needed (isNull_of_present present)] at compiled
    split at compiled
    · cases compiled
    · rename_i short
      have hidden := Nat.not_lt.mp short
      obtain ⟨items, rfl⟩ := Operand.array_of_hidden (Nat.lt_of_le_of_lt hidden long)
      have taken := ((ofOperand_array needed present).mp ⟨test, compiled⟩).1
      exact ⟨long, hidden, taken, Operand.countFault?_eq_none.mp counted⟩
  · rintro ⟨long, hidden, taken, fits⟩
    obtain ⟨items, rfl⟩ := Operand.array_of_hidden (Nat.lt_of_le_of_lt hidden long)
    rw [ofOperator_some id dialect limits needed (isNull_of_present present),
      if_neg (Nat.not_lt.mpr hidden)]
    exact (ofOperand_array needed present).mpr ⟨taken, Operand.countFault?_eq_none.mpr fits⟩

end Constraint

/-- Whether a predicate tests a value by an operator on an operand. -/
def Predicate.Tests (op : Operator) (v : Json) : Predicate → Prop
  | .field _ tag value | .relation _ _ tag value =>
    tag.bind Operator.ofTag? = some op ∧ value = some v
  | .raw .. | .custom .. => False

namespace Compiler

variable {k : Compiler}

theorem ofOperator_of_constraint [PatternEngine] {id : String} {tag : Option String}
    {value : Option Json}
    {test : Constraint} {op : Operator} (constrained : k.constraint id tag value = .ok test)
    (named : tag.bind Operator.ofTag? = some op) :
    Constraint.ofOperator id op value k.config.dialect k.config.limits = .ok test := by
  obtain ⟨read, found, given⟩ := constraint_eq_ok.mp constrained
  obtain ⟨tag, rfl, known⟩ := Option.bind_eq_some_iff.mp named
  rw [Option.getD_some, known] at found
  cases found
  exact given

/-- A test compiles only if its operator gives a constraint on its operand. -/
theorem ofOperator_of_criteriaOfPredicate [PatternEngine] {id : String} {p : Predicate}
    {c : Criteria} {op : Operator} {v : Json} (compiled : k.criteriaOfPredicate id p = .ok c)
    (tests : p.Tests op v) :
    ∃ test, Constraint.ofOperator id op (some v) k.config.dialect k.config.limits = .ok test := by
  cases p with
  | raw | custom => cases tests
  | relation relation field tag value =>
      obtain ⟨named, rfl⟩ := tests
      obtain ⟨_, test, _, _, constrained, _⟩ := criteriaOfPredicate_relation.mp compiled
      exact ⟨test, ofOperator_of_constraint constrained named⟩
  | field field tag value =>
      obtain ⟨named, rfl⟩ := tests
      obtain ⟨_, test, _, _, constrained, _⟩ := criteriaOfPredicate_field.mp compiled
      exact ⟨test, ofOperator_of_constraint constrained named⟩

end Compiler

/-- An operand that its check refuses with a security event is refused by the compiler as well,
whatever the operator, the dialect and the limits, unless it is one that the second measure
overlooks; those give a constraint. So no other operand over a ceiling is left in a forest that
compiles, whether or not it was validated. -/
theorem oversized_refused_again [PatternEngine] {op : Operator} {v : Json}
    {config : Option FieldConfig} {limits : Limits} {fault : OperandFault}
    (refused : Operand.check op (some v) config limits = .error fault)
    (hostile : fault.eventKind? ≠ none) :
    (∀ id dialect,
      (∃ e, Constraint.ofOperator id op (some v) dialect limits = .error e) ↔
        ¬ Operand.Overlooked op v limits) ∧
    ∀ (k : Compiler) forest logic c, k.config.limits = limits →
      k.criteriaOfForest forest logic = .ok c →
      (∃ p ∈ Condition.predicates forest, p.Tests op v) →
      Operand.Overlooked op v limits := by
  obtain ⟨needed, _⟩ := Operand.sizeFault?_of_event refused hostile
  have oversized : Operand.isOversized op v limits = true := by
    have raised := Operand.eventKind?_of_check refused
    rw [Option.isSome_iff_ne_none.mpr hostile] at raised
    exact raised.symm
  constructor
  · intro id dialect
    rw [← Constraint.ofOperator_eq_ok_of_isOversized id dialect needed oversized]
    cases Constraint.ofOperator id op (some v) dialect limits <;> simp
  · rintro k forest logic c rfl compiled ⟨p, stands, tests⟩
    obtain ⟨_, parts, all, _⟩ := Compiler.criteriaOfForest_eq_ok.mp compiled
    obtain ⟨id, part, alone⟩ := Compiler.criteriaOfPredicate_of_criteriaOfAll all p stands
    have accepted := Compiler.ofOperator_of_criteriaOfPredicate alone tests
    exact (Constraint.ofOperator_eq_ok_of_isOversized id k.config.dialect needed oversized).mp
      accepted

/-- A string over the ceiling that a list holds: its operator is refused again, and no forest with
the test compiles. -/
theorem oversized_refused_again_listed :
    let limits : Limits := { maxStringLength := 1 }
    let k : Compiler := { schema := { name := "User" }, config := { limits } }
    let v : Json := .array [.string "x", .string "yz"]
    Operand.check .isIn (some v) none limits = .error (.stringTooLong 2 1) ∧
      (OperandFault.stringTooLong 2 1).eventKind? ≠ none ∧
      ¬ Operand.Overlooked .isIn v limits ∧
      (∃ e, Constraint.ofOperator "a" .isIn (some v) .generic limits = .error e) ∧
      ∀ c, k.criteriaOfForest [.onField "a" "name" .isIn v] .and ≠ .ok c := by
  intro limits k v
  have refused : Operand.check .isIn (some v) none limits = .error (.stringTooLong 2 1) := rfl
  have hostile : (OperandFault.stringTooLong 2 1).eventKind? ≠ none := by decide
  have seen : ¬ Operand.Overlooked .isIn v limits := by
    intro overlooked
    exact absurd overlooked.hidden (by decide)
  obtain ⟨operator, forests⟩ := oversized_refused_again refused hostile
  refine ⟨refused, hostile, seen, (operator "a" .generic).mpr seen, ?_⟩
  intro c compiled
  apply seen
  apply forests k _ _ c rfl compiled
  refine ⟨.field (some "name") (some "in") (some v), ?_, rfl, rfl⟩
  simp [Condition.onField, Clause.predicate, operand, Json.isNull, v, Operator.tag]

/-- The same string in a list within the list is refused by the check alone. -/
theorem nested_string_compiles :
    let limits : Limits := { maxStringLength := 1 }
    let v : Json := .array [.array [.string "yz"]]
    Operand.check .eq (some v) none limits = .error (.stringTooLong 2 1) ∧
      (OperandFault.stringTooLong 2 1).eventKind? = some .stringTooLong ∧
      Constraint.ofOperator "a" .eq (some v) .generic limits = .ok (.eq v) :=
  ⟨rfl, rfl, rfl⟩

end RowFilter
