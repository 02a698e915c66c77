import Mathlib.Data.List.Forall2
import RowFilter.Criteria.Evaluation

/-! # Combined criteria

The connectives drop the parts that say nothing and unwrap a part that is left alone. Neither
shows in evaluation: a conjunction evaluates as its parts do one after the other, errors
included, and so does a disjunction as long as some part says anything.
-/

namespace RowFilter.Criteria

/-- The parts that say anything. -/
def substantive (parts : List Criteria) : List Criteria := parts.filter fun c => !c.isEmpty

theorem substantive_cons_of_empty {c : Criteria} (h : c.isEmpty = true) (parts : List Criteria) :
    substantive (c :: parts) = substantive parts := by
  simp [substantive, h]

theorem substantive_cons_of_said {c : Criteria} (h : c.isEmpty = false) (parts : List Criteria) :
    substantive (c :: parts) = c :: substantive parts := by
  simp [substantive, h]

theorem substantive_cons_congr {parts parts' : List Criteria}
    (h : substantive parts = substantive parts') (c : Criteria) :
    substantive (c :: parts) = substantive (c :: parts') := by
  cases said : c.isEmpty with
  | true => rw [substantive_cons_of_empty said, substantive_cons_of_empty said, h]
  | false => rw [substantive_cons_of_said said, substantive_cons_of_said said, h]

theorem eq_empty_of_isEmpty {c : Criteria} (h : c.isEmpty = true) : c = empty := by
  cases c <;> first | rfl | cases h

section

variable [PatternEngine]

theorem evaluateAll_substantive (row : Row) (parts : List Criteria) :
    evaluateAll row (substantive parts) = evaluateAll row parts := by
  induction parts with
  | nil => rfl
  | cons c rest ih =>
      cases blank : c.isEmpty with
      | true =>
          rw [substantive_cons_of_empty blank, ih, eq_empty_of_isEmpty blank, evaluateAll, evaluate]
          rfl
      | false => rw [substantive_cons_of_said blank, evaluateAll, evaluateAll, ih]

theorem evaluateAll_singleton (row : Row) (c : Criteria) :
    evaluateAll row [c] = evaluate row c := by
  rw [evaluateAll, evaluateAll]
  cases evaluate row c with
  | error e => rfl
  | ok b => cases b <;> rfl

theorem evaluateAny_singleton (row : Row) (c : Criteria) :
    evaluateAny row [c] = evaluate row c := by
  rw [evaluateAny, evaluateAny]
  cases evaluate row c with
  | error e => rfl
  | ok b => cases b <;> rfl

end

theorem combine_eq (wrap : List Criteria → Criteria) (parts : List Criteria) :
    combine wrap parts = match substantive parts with
      | [] => empty
      | [c] => c
      | kept => wrap kept := rfl

theorem isEmpty_combine {wrap : List Criteria → Criteria} (h : ∀ ps, (wrap ps).isEmpty = false)
    (parts : List Criteria) : (combine wrap parts).isEmpty = (substantive parts).isEmpty := by
  have kept : ∀ c ∈ substantive parts, c.isEmpty = false := by
    intro c member
    simpa using (List.mem_filter.mp member).2
  rw [combine_eq]
  cases said : substantive parts with
  | nil => rfl
  | cons c rest =>
      cases rest with
      | nil => exact kept c (by simp [said])
      | cons d others => exact h _

/-- A conjunction of one part is that part, even if it says nothing. -/
theorem and_singleton (c : Criteria) : and [c] = c := by
  rw [Criteria.and, combine_eq]
  cases blank : c.isEmpty with
  | true => rw [substantive_cons_of_empty blank, eq_empty_of_isEmpty blank]; rfl
  | false => rw [substantive_cons_of_said blank]; rfl

variable [PatternEngine]

/-- A conjunction evaluates as all its parts do in turn. -/
theorem evaluate_and (row : Row) (parts : List Criteria) :
    (and parts).evaluate row = evaluateAll row parts := by
  rw [← evaluateAll_substantive, Criteria.and, combine_eq]
  cases substantive parts with
  | nil => rw [evaluate, evaluateAll]
  | cons c rest =>
      cases rest with
      | nil => exact (evaluateAll_singleton row c).symm
      | cons d others => rw [evaluate]

/-- A disjunction evaluates as those of its parts that say anything, if there are any. -/
theorem evaluate_or (row : Row) (parts : List Criteria) :
    (or parts).evaluate row =
      if (substantive parts).isEmpty then .ok true else evaluateAny row (substantive parts) := by
  rw [Criteria.or, combine_eq]
  cases substantive parts with
  | nil => rfl
  | cons c rest =>
      cases rest with
      | nil => exact (evaluateAny_singleton row c).symm
      | cons d others => rfl

/-- Criteria that evaluate, each to its value. -/
def Evaluates (row : Row) (parts : List Criteria) (values : List Bool) : Prop :=
  List.Forall₂ (fun c b => evaluate row c = .ok b) parts values

theorem Evaluates.isEmpty_eq {row : Row} {parts : List Criteria} {values : List Bool}
    (h : Evaluates row parts values) : parts.isEmpty = values.isEmpty := by
  cases h <;> rfl

theorem Evaluates.all {row : Row} {parts : List Criteria} {values : List Bool}
    (h : Evaluates row parts values) : evaluateAll row parts = .ok (values.all id) := by
  induction h with
  | nil => rw [evaluateAll]; rfl
  | @cons c b rest values value _ ih =>
      rw [evaluateAll, value]
      cases b with
      | false => rfl
      | true => simpa [bind, Except.bind] using ih

theorem Evaluates.any {row : Row} {parts : List Criteria} {values : List Bool}
    (h : Evaluates row parts values) : evaluateAny row parts = .ok (values.any id) := by
  induction h with
  | nil => rw [evaluateAny]; rfl
  | @cons c b rest values value _ ih =>
      rw [evaluateAny, value]
      cases b with
      | true => rfl
      | false => simpa [bind, Except.bind] using ih

theorem exists_evaluates {row : Row} {parts : List Criteria}
    (h : ∀ c ∈ parts, ∃ b, evaluate row c = .ok b) : ∃ values, Evaluates row parts values := by
  induction parts with
  | nil => exact ⟨[], .nil⟩
  | cons c rest ih =>
      rw [List.forall_mem_cons] at h
      obtain ⟨b, value⟩ := h.1
      obtain ⟨values, others⟩ := ih h.2
      exact ⟨b :: values, .cons value others⟩

/-- A disjunction fails only where one of its parts does. -/
theorem exists_evaluate_or {row : Row} {parts : List Criteria}
    (h : ∀ c ∈ parts, ∃ b, evaluate row c = .ok b) : ∃ b, (or parts).evaluate row = .ok b := by
  obtain ⟨values, evaluated⟩ :=
    exists_evaluates fun c (member : c ∈ substantive parts) => h c (List.mem_filter.mp member).1
  rw [evaluate_or, evaluated.any]
  split
  · exact ⟨_, rfl⟩
  · exact ⟨_, rfl⟩

end RowFilter.Criteria
