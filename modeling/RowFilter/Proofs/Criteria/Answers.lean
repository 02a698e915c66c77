import RowFilter.Compilation.Search
import RowFilter.Criteria.Evaluation
import RowFilter.Proofs.Outcome

/-! # Constraints that always have an answer

The one constraint that can fail on a value is a pattern that cannot be read. Compilation reads
every pattern before it hands it on, so a compiled constraint answers for every value, and for
every relation whatever stands in the row.
-/

namespace RowFilter

open Outcome

namespace Constraint

variable [PatternEngine]

/-- The engine takes the pattern, where there is one. -/
def Answers (c : Constraint) : Prop :=
  ∀ pattern, c = .regexp pattern → ∃ test, PatternEngine.compile pattern = .ok test

/-- Whether a value, or its absence, satisfies a constraint. -/
def accepts (c : Constraint) (v : Option Json) : Bool :=
  match c.matchesValue v with
  | .ok b => b
  | .error _ => false

/-- Whether the field of a record satisfies a constraint; what is no record satisfies none. -/
def acceptsRecord (c : Constraint) (field : String) : Json → Bool
  | .object members => c.accepts (Json.member? members field)
  | _ => false

/-- Whether the field of a related record, or of one of several, satisfies a constraint. Where
there is no record the field is absent. -/
def acceptsRelated (c : Constraint) (related : Option Json) (field : String) : Bool :=
  match related with
  | some (.object members) => c.accepts (Json.member? members field)
  | some (.array records) => records.any (c.acceptsRecord field)
  | _ => c.accepts none

theorem Answers.holds {c : Constraint} (h : c.Answers) (present : Option Json) :
    ∃ b, c.holds present = .ok b := by
  cases c with
  | regexp pattern =>
      obtain ⟨test, compiled⟩ := h pattern rfl
      exact ⟨hasText present test, by rw [Constraint.holds, compiled]⟩
  | _ => exact ⟨_, rfl⟩

theorem Answers.matchesValue {c : Constraint} (h : c.Answers) (v : Option Json) :
    c.matchesValue v = .ok (c.accepts v) := by
  obtain ⟨b, value⟩ : ∃ b, c.matchesValue v = .ok b := h.holds _
  rw [accepts, value]

theorem Answers.matchesSome {c : Constraint} (h : c.Answers) (field : String)
    (records : List Json) :
    c.matchesSome field records = .ok (records.any (c.acceptsRecord field)) := by
  induction records with
  | nil => rfl
  | cons record rest ih =>
      rw [List.any_cons]
      cases record with
      | object members =>
          rw [Constraint.matchesSome, h.matchesValue, ih, acceptsRecord]
          cases c.accepts (Json.member? members field) <;> rfl
      | _ => exact ih

theorem Answers.matchesRelated {c : Constraint} (h : c.Answers) (related : Option Json)
    (field : String) : c.matchesRelated related field = .ok (c.acceptsRelated related field) := by
  cases related with
  | none => exact h.matchesValue none
  | some v =>
      cases v with
      | object members => exact h.matchesValue _
      | array records => exact h.matchesSome field records
      | _ => exact h.matchesValue none

theorem ofOperand_answers {id : String} {op : Operator} {v : Json} {dialect : Dialect}
    {limits : Limits} {c : Constraint} (h : ofOperand id op v dialect limits = .ok c) :
    c.Answers := by
  rintro pattern rfl
  cases op with
  | regex =>
      simp only [ofOperand] at h
      split at h
      · split at h
        · rename_i test compiled
          cases h
          exact ⟨test, compiled⟩
        · cases h
      · cases h
  | ilike =>
      obtain ⟨text, _, same⟩ := map_eq_ok.mp h
      split at same <;> cases same
  | like | startsWith | endsWith | isIn | notIn =>
      obtain ⟨_, _, same⟩ := map_eq_ok.mp h
      cases same
  | between =>
      simp only [ofOperand] at h
      split at h <;> cases h
  | _ => cases h

/-- A compiled constraint always has an answer. -/
theorem ofOperator_answers {id : String} {op : Operator} {value : Option Json} {dialect : Dialect}
    {limits : Limits} {c : Constraint} (h : ofOperator id op value dialect limits = .ok c) :
    c.Answers := by
  unfold ofOperator at h
  split at h
  · exact ofOperand_answers h
  · split at h
    · cases h
    · dsimp only at h
      split at h
      · cases h
      · exact ofOperand_answers h

end Constraint

end RowFilter
