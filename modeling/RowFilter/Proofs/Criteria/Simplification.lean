import RowFilter.Pattern.Matching
import RowFilter.Proofs.Criteria.Nodes

/-! # Simplified and plain connectives

`and`, `or` and `negate` drop the parts that say nothing and unwrap a part that is left alone;
`allOf`, `anyOf` and `complement` take their parts as they are. Both forms answer alike on every
row. Where evaluation fails they fail with the same error, which is that of the first leaf that is
looked at and has no answer. A fragment of raw text, or one that is tested in memory, is neither
lost nor brought in, and criteria without raw text are never refused as unsupported.
-/

namespace RowFilter

namespace Constraint

variable [PatternEngine] {c : Constraint} {e : StoreError}

/-- The one constraint without an answer is a pattern that cannot be read. -/
theorem holds_eq_error {present : Option Json} (failed : c.holds present = .error e) :
    ∃ pattern reason, c = .regexp pattern ∧ e = .invalidPattern pattern reason := by
  cases c with
  | regexp pattern =>
      rw [holds] at failed
      cases compiled : PatternEngine.compile pattern with
      | error reason =>
          rw [compiled] at failed
          cases failed
          exact ⟨pattern, reason, rfl, rfl⟩
      | ok test =>
          rw [compiled] at failed
          cases failed
  | _ => cases failed

theorem matchesSome_eq_error {field : String} {records : List Json}
    (failed : c.matchesSome field records = .error e) :
    ∃ pattern reason, e = .invalidPattern pattern reason := by
  induction records with
  | nil => cases failed
  | cons record rest ih =>
      cases record with
      | object members =>
          rw [matchesSome] at failed
          cases tested : c.matchesValue (Json.member? members field) with
          | error first =>
              rw [tested] at failed
              cases failed
              obtain ⟨pattern, reason, -, rfl⟩ := holds_eq_error tested
              exact ⟨pattern, reason, rfl⟩
          | ok hit =>
              rw [tested] at failed
              cases hit with
              | true => cases failed
              | false => exact ih failed
      | _ => exact ih failed

theorem matchesRelated_eq_error {related : Option Json} {field : String}
    (failed : c.matchesRelated related field = .error e) :
    ∃ pattern reason, e = .invalidPattern pattern reason := by
  unfold matchesRelated at failed
  split at failed
  · obtain ⟨pattern, reason, -, rfl⟩ := holds_eq_error failed
    exact ⟨pattern, reason, rfl⟩
  · exact matchesSome_eq_error failed
  · obtain ⟨pattern, reason, -, rfl⟩ := holds_eq_error failed
    exact ⟨pattern, reason, rfl⟩

end Constraint

namespace Criteria

section Errors

variable [PatternEngine] {row : Row} {e : StoreError}

mutual

/-- Connectives have no errors of their own: an error is that of a leaf. -/
theorem exists_leaf_of_evaluate (c : Criteria) (failed : evaluate row c = .error e) :
    ∃ leaf ∈ c.leaves, evaluate row leaf = .error e := by
  cases c with
  | empty => cases failed
  | field | relation | raw | inMemory => exact ⟨_, List.mem_singleton_self _, failed⟩
  | allOf parts =>
      rw [evaluate] at failed
      rw [leaves_allOf]
      exact exists_leaf_of_evaluateAll parts failed
  | anyOf parts =>
      rw [evaluate] at failed
      rw [leaves_anyOf]
      exact exists_leaf_of_evaluateAny parts failed
  | complement part =>
      rw [leaves_complement]
      apply exists_leaf_of_evaluate part
      rw [evaluate] at failed
      cases inner : evaluate row part with
      | error first =>
          rw [inner] at failed
          exact failed
      | ok b =>
          rw [inner] at failed
          cases failed
termination_by sizeOf c

theorem exists_leaf_of_evaluateAll (parts : List Criteria)
    (failed : evaluateAll row parts = .error e) :
    ∃ leaf ∈ parts.flatMap leaves, evaluate row leaf = .error e := by
  cases parts with
  | nil =>
      rw [evaluateAll] at failed
      cases failed
  | cons c rest =>
      rw [evaluateAll] at failed
      simp only [List.flatMap_cons, List.mem_append, or_and_right, exists_or]
      cases first : evaluate row c with
      | error stop =>
          rw [first] at failed
          cases failed
          exact .inl (exists_leaf_of_evaluate c first)
      | ok b =>
          rw [first] at failed
          cases b with
          | true => exact .inr (exists_leaf_of_evaluateAll rest failed)
          | false => cases failed
termination_by sizeOf parts

theorem exists_leaf_of_evaluateAny (parts : List Criteria)
    (failed : evaluateAny row parts = .error e) :
    ∃ leaf ∈ parts.flatMap leaves, evaluate row leaf = .error e := by
  cases parts with
  | nil =>
      rw [evaluateAny] at failed
      cases failed
  | cons c rest =>
      rw [evaluateAny] at failed
      simp only [List.flatMap_cons, List.mem_append, or_and_right, exists_or]
      cases first : evaluate row c with
      | error stop =>
          rw [first] at failed
          cases failed
          exact .inl (exists_leaf_of_evaluate c first)
      | ok b =>
          rw [first] at failed
          cases b with
          | true => cases failed
          | false => exact .inr (exists_leaf_of_evaluateAny rest failed)
termination_by sizeOf parts

end

/-- Criteria are refused as unsupported for a raw text that stands among their nodes. -/
theorem raw_mem_of_evaluate {c : Criteria} {text : String}
    (refused : evaluate row c = .error (.rawText text)) : ∃ params, raw text params ∈ c.nodes := by
  obtain ⟨leaf, stands, failed⟩ := exists_leaf_of_evaluate c refused
  obtain ⟨inside, single⟩ := mem_leaves.mp stands
  cases leaf with
  | raw other params =>
      cases failed
      exact ⟨params, inside⟩
  | field name test =>
      obtain ⟨_, _, _, ⟨⟩⟩ := Constraint.holds_eq_error failed
  | relation r name test =>
      obtain ⟨_, _, ⟨⟩⟩ := Constraint.matchesRelated_eq_error failed
  | inMemory test => cases failed
  | empty | allOf _ | anyOf _ | complement _ => cases single

end Errors

/-- A mark that leaves may bear, and connectives exactly if one of their parts does. -/
structure Mark (on : Criteria → Bool) : Prop where
  empty : on empty = false
  allOf : ∀ parts, on (allOf parts) = parts.any on
  anyOf : ∀ parts, on (anyOf parts) = parts.any on
  complement : ∀ part, on (complement part) = on part

theorem anyRaw_eq (parts : List Criteria) : anyRaw parts = parts.any usesRaw := by
  induction parts with
  | nil => rfl
  | cons c rest ih => rw [anyRaw, List.any_cons, ih]

theorem anyInMemory_eq (parts : List Criteria) : anyInMemory parts = parts.any usesInMemory := by
  induction parts with
  | nil => rfl
  | cons c rest ih => rw [anyInMemory, List.any_cons, ih]

theorem mark_usesRaw : Mark usesRaw where
  empty := rfl
  allOf := anyRaw_eq
  anyOf := anyRaw_eq
  complement _ := rfl

theorem mark_usesInMemory : Mark usesInMemory where
  empty := rfl
  allOf := anyInMemory_eq
  anyOf := anyInMemory_eq
  complement _ := rfl

namespace Mark

variable {on : Criteria → Bool} (mark : Mark on)
include mark

theorem any_substantive (parts : List Criteria) : (substantive parts).any on = parts.any on := by
  induction parts with
  | nil => rfl
  | cons c rest ih =>
      cases said : c.isEmpty with
      | true =>
          rw [substantive_cons_of_empty said, ih, List.any_cons, eq_empty_of_isEmpty said,
            mark.empty, Bool.false_or]
      | false => rw [substantive_cons_of_said said, List.any_cons, List.any_cons, ih]

theorem combine {wrap : List Criteria → Criteria} (plain : ∀ kept, on (wrap kept) = kept.any on)
    (parts : List Criteria) : on (combine wrap parts) = parts.any on := by
  rw [combine_eq, ← mark.any_substantive]
  cases substantive parts with
  | nil => exact mark.empty
  | cons c rest =>
      cases rest with
      | nil => rw [List.any_cons, List.any_nil, Bool.or_false]
      | cons d others => exact plain _

theorem and (parts : List Criteria) : on (and parts) = parts.any on :=
  mark.combine mark.allOf parts

theorem or (parts : List Criteria) : on (or parts) = parts.any on :=
  mark.combine mark.anyOf parts

theorem negate (c : Criteria) : on (negate c) = on c := by
  rw [Criteria.negate]
  split
  · next said => rw [eq_empty_of_isEmpty said]
  · exact mark.complement c

end Mark

theorem evaluate_negate [PatternEngine] (row : Row) (c : Criteria) :
    (negate c).evaluate row = if c.isEmpty then .ok true else (complement c).evaluate row := by
  rw [negate]
  split <;> rfl

/-- The simplified connectives answer as the plain ones do, errors included: `and` as `allOf`, and
`or` and `negate` as `anyOf` and `complement` of what says anything. They keep raw text and tests
in memory, and nothing but raw text is ever refused as unsupported. -/
theorem simplified_agree [PatternEngine] (parts : List Criteria) (c : Criteria) (row : Row) :
    (and parts).evaluate row = (allOf parts).evaluate row ∧
    (or parts).evaluate row =
      (if (substantive parts).isEmpty then .ok true
        else (anyOf (substantive parts)).evaluate row) ∧
    (negate c).evaluate row = (if c.isEmpty then .ok true else (complement c).evaluate row) ∧
    ((and parts).usesRaw = parts.any usesRaw ∧ (or parts).usesRaw = parts.any usesRaw ∧
      (negate c).usesRaw = c.usesRaw) ∧
    ((and parts).usesInMemory = parts.any usesInMemory ∧
      (or parts).usesInMemory = parts.any usesInMemory ∧
      (negate c).usesInMemory = c.usesInMemory) ∧
    ∀ text, c.evaluate row = .error (.rawText text) → c.usesRaw = true := by
  refine ⟨?_, ?_, evaluate_negate row c,
    ⟨mark_usesRaw.and parts, mark_usesRaw.or parts, mark_usesRaw.negate c⟩,
    ⟨mark_usesInMemory.and parts, mark_usesInMemory.or parts, mark_usesInMemory.negate c⟩, ?_⟩
  · rw [evaluate_and, evaluate]
  · rw [evaluate_or, evaluate]
  · intro text refused
    obtain ⟨params, stands⟩ := raw_mem_of_evaluate refused
    exact (usesRaw_iff c).mpr ⟨text, params, stands⟩

/-- A disjunction of nothing and of raw text in front of a pattern that cannot be read: the raw
text is met first, whether or not the disjunction is unwrapped. -/
theorem simplified_agree_raw_first :
    let raised : Criteria := .raw "a = 1" []
    let parts : List Criteria := [.empty, or [.empty, raised], .field "name" (.regexp "(")]
    let row : Row := [("name", .string "x")]
    (and parts).evaluate row = .error (.rawText "a = 1") ∧
      (allOf parts).evaluate row = .error (.rawText "a = 1") ∧
      (and parts).usesRaw = true := by
  intro raised parts row
  have refused : (and parts).evaluate row = .error (.rawText "a = 1") := rfl
  obtain ⟨plain, -, -, -, -, unsupported⟩ := simplified_agree parts (and parts) row
  exact ⟨refused, plain.symm.trans refused, unsupported "a = 1" refused⟩

end Criteria

end RowFilter
