import Mathlib.Data.List.Basic
import RowFilter.Proofs.Condition.Forest

/-! # Names in the order of their first mention

A walk over a forest collects names, each at its first occurrence. Such a list is determined by
what the walk mentions: it has the same members, in the order of their first places.
-/

namespace RowFilter

/-- A list of the members of `all`, each once, in the order in which they first occur there. -/
structure FirstOccurrences [BEq α] (once all : List α) : Prop where
  mem_iff : ∀ a, a ∈ once ↔ a ∈ all
  inOrder : once.Pairwise fun a b => all.idxOf a < all.idxOf b

namespace FirstOccurrences

variable {α : Type} [BEq α] [LawfulBEq α] {once all : List α}

/-- Leaving out some members of a list keeps the order of the others. -/
theorem idxOf_filter_lt_iff {p : α → Bool} {a b : α} (keepsA : p a = true) (keepsB : p b = true)
    (all : List α) :
    (all.filter p).idxOf a < (all.filter p).idxOf b ↔ all.idxOf a < all.idxOf b := by
  induction all with
  | nil => rfl
  | cons x rest ih =>
      cases kept : p x with
      | true =>
          rw [List.filter_cons_of_pos kept]
          simp only [List.idxOf_cons]
          cases x == a <;> cases x == b <;> simp [ih]
      | false =>
          have other (c : α) (keeps : p c = true) : x ≠ c := by
            rintro rfl
            rw [kept] at keeps
            cases keeps
          rw [List.filter_cons_of_neg (Bool.eq_false_iff.mp kept),
            List.idxOf_cons_ne rest (other a keepsA), List.idxOf_cons_ne rest (other b keepsB),
            Nat.succ_lt_succ_iff, ih]

theorem filter (first : FirstOccurrences once all) (p : α → Bool) :
    FirstOccurrences (once.filter p) (all.filter p) where
  mem_iff a := by rw [List.mem_filter, List.mem_filter, first.mem_iff]
  inOrder := by
    refine (first.inOrder.filter p).imp_of_mem fun insideA insideB before => ?_
    exact (idxOf_filter_lt_iff (List.mem_filter.mp insideA).2 (List.mem_filter.mp insideB).2
      all).mpr before

omit [LawfulBEq α] in
theorem nodup (first : FirstOccurrences once all) : once.Nodup :=
  first.inOrder.imp fun before => ne_of_apply_ne all.idxOf (Nat.ne_of_lt before)

/-- What comes first, and then the first occurrences of everything else. -/
theorem cons {a : α} {rest : List α}
    (others : FirstOccurrences once (rest.filter fun b => !b == a)) :
    FirstOccurrences (a :: once) (a :: rest) := by
  have later (b : α) (inside : b ∈ once) : b ∈ rest ∧ (!b == a) = true :=
    List.mem_filter.mp ((others.mem_iff b).mp inside)
  have place (b : α) (inside : b ∈ once) : (a :: rest).idxOf b = rest.idxOf b + 1 :=
    List.idxOf_cons_ne rest (by simpa using Ne.symm (by simpa using (later b inside).2))
  refine ⟨fun b => ?_, List.pairwise_cons.mpr ⟨fun b inside => ?_, ?_⟩⟩
  · rw [List.mem_cons, List.mem_cons, others.mem_iff, List.mem_filter]
    by_cases same : b = a <;> simp [same]
  · rw [List.idxOf_cons_self, place b inside]
    exact Nat.succ_pos _
  · refine others.inOrder.imp_of_mem fun {b c} insideB insideC before => ?_
    rw [idxOf_filter_lt_iff (p := fun b => !b == a) (later b insideB).2 (later c insideC).2]
      at before
    rw [place b insideB, place c insideC]
    exact Nat.succ_lt_succ before

end FirstOccurrences

/-- Taking away later occurrences leaves the first ones. -/
theorem firstOccurrences_eraseDups {α : Type} [BEq α] [LawfulBEq α] (all : List α) :
    FirstOccurrences all.eraseDups all := by
  match all with
  | [] => exact ⟨fun _ => by simp, List.Pairwise.nil⟩
  | a :: rest =>
      rw [List.eraseDups_cons]
      exact (firstOccurrences_eraseDups (rest.filter fun b => !b == a)).cons
termination_by all.length
decreasing_by exact Nat.lt_succ_of_le (List.length_filter_le _ _)

/-- The field of the row that a test names. -/
def Predicate.rowField? : Predicate → Option String
  | .field name _ _ => name
  | .raw .. | .custom .. | .relation .. => none

namespace Condition

theorem testedField?_eq (c : Condition) :
    c.testedField? = c.predicate?.bind Predicate.rowField? := by
  cases c with
  | group clause children => rfl
  | leaf clause =>
      rw [testedField?, predicate?, Option.bind_some]
      cases clause.predicate <;> rfl

/-- The fields of the row that the tests of a forest name, in document order. -/
def mentionedFields (forest : List Condition) : List String :=
  (predicates forest).filterMap Predicate.rowField?

theorem testedFields_first (forest : List Condition) :
    FirstOccurrences (testedFields forest) (mentionedFields forest) := by
  have mentions : mentionedFields forest = (nodes forest).filterMap testedField? := by
    rw [mentionedFields, predicates, List.filterMap_filterMap]
    exact List.filterMap_congr fun c _ => (testedField?_eq c).symm
  rw [mentions, testedFields]
  exact firstOccurrences_eraseDups _

end Condition

end RowFilter
