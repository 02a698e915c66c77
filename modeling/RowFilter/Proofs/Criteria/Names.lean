import RowFilter.Proofs.Criteria.Combination

/-! # The names in criteria

Criteria test fields and relations by name. Joining parts brings in no names and loses none.
-/

namespace RowFilter.Criteria

mutual

/-- The fields and the relations that criteria are about, at any depth. -/
def testedNames : Criteria → List String
  | field name _ => [name]
  | relation name _ _ => [name]
  | allOf parts | anyOf parts => namesIn parts
  | complement part => testedNames part
  | empty | raw .. | inMemory _ => []

def namesIn : List Criteria → List String
  | [] => []
  | c :: rest => testedNames c ++ namesIn rest

end

theorem mem_namesIn {name : String} {parts : List Criteria} :
    name ∈ namesIn parts ↔ ∃ c ∈ parts, name ∈ c.testedNames := by
  induction parts with
  | nil => simp [namesIn]
  | cons c rest ih => simp [namesIn, ih]

theorem mem_of_substantive {c : Criteria} {parts : List Criteria} (kept : c ∈ substantive parts) :
    c ∈ parts :=
  (List.mem_filter.mp kept).1

theorem namesIn_substantive (parts : List Criteria) :
    namesIn (substantive parts) = namesIn parts := by
  induction parts with
  | nil => rfl
  | cons c rest ih =>
      cases said : c.isEmpty with
      | true => rw [substantive_cons_of_empty said, eq_empty_of_isEmpty said, ih]; rfl
      | false => rw [substantive_cons_of_said said, namesIn, namesIn, ih]

section Combine

variable {wrap : List Criteria → Criteria} (h : ∀ parts, (wrap parts).testedNames = namesIn parts)
include h

/-- Combining parts keeps their names, in order. -/
theorem testedNames_combine (parts : List Criteria) :
    (combine wrap parts).testedNames = namesIn parts := by
  rw [combine_eq, ← namesIn_substantive parts]
  split
  · rename_i none
    rw [none]
    rfl
  · rename_i c alone
    rw [alone, namesIn, namesIn, List.append_nil]
  · exact h _

theorem mem_namesIn_of_combine {parts : List Criteria} {name : String}
    (tested : name ∈ (combine wrap parts).testedNames) : name ∈ namesIn parts := by
  rwa [testedNames_combine h] at tested

end Combine

end RowFilter.Criteria
