import RowFilter.Proofs.Reading
import RowFilter.Store

/-! # Rows that a store finds

A store selects the rows that criteria hold of, which takes that the criteria fail on no row,
and sorts them. Sorting permutes: it is an insertion of one row after the other.
-/

namespace RowFilter

open Outcome

namespace RowOrder

variable (s : RowOrder)

theorem insertRow_perm (row : Row) (sorted : List Row) :
    (s.insertRow row sorted).Perm (row :: sorted) := by
  induction sorted with
  | nil => exact .refl _
  | cons last before ih =>
      rw [insertRow]
      split
      · exact (ih.cons last).trans (.swap row last before)
      · exact .refl _

theorem sortRows_perm (rows : List Row) : (s.sortRows rows).Perm rows := by
  have inserted (sorted : List Row) :
      (rows.foldl (fun sorted row => s.insertRow row sorted) sorted).Perm (sorted ++ rows) := by
    induction rows generalizing sorted with
    | nil => rw [List.foldl_nil, List.append_nil]
    | cons row rest ih =>
        rw [List.foldl_cons]
        refine (ih _).trans (((s.insertRow_perm row sorted).append_right rest).trans ?_)
        exact List.perm_middle.symm
  exact (List.reverse_perm _).trans (inserted [])

end RowOrder

namespace Store

variable [PatternEngine] {c : Criteria} {rows found : List Row}

/-- Criteria fail on none of the rows. -/
def Decides (c : Criteria) (rows : List Row) : Prop :=
  ∀ row ∈ rows, c.evaluate row = .ok (c.holds row)

theorem holds_of_evaluate {row : Row} {b : Bool} (value : c.evaluate row = .ok b) :
    c.holds row = b := by
  rw [Criteria.holds, value]
  rfl

theorem select_eq_ok :
    select c rows = .ok found ↔ Decides c rows ∧ found = rows.filter c.holds := by
  induction rows generalizing found with
  | nil => simp [select, Decides, eq_comm]
  | cons row rest ih =>
      rw [select]
      simp only [bind_eq_ok, ih, pure, Except.pure, Except.ok.injEq, Decides, List.forall_mem_cons]
      constructor
      · rintro ⟨hit, value, hits, ⟨others, rfl⟩, rfl⟩
        have same := holds_of_evaluate value
        subst same
        exact ⟨⟨value, others⟩, by rw [List.filter_cons]⟩
      · rintro ⟨⟨value, others⟩, rfl⟩
        exact ⟨_, value, _, ⟨others, rfl⟩, by rw [List.filter_cons]⟩

theorem find_eq_ok {s : Store} {r : RowQuery} :
    s.find r = .ok found ↔ Decides r.criteria s.rows ∧
      found = ((r.sort.sortRows (s.rows.filter r.criteria.holds)).drop r.offset).take r.limit := by
  rw [find, map_eq_ok]
  simp only [select_eq_ok]
  constructor
  · rintro ⟨_, ⟨decides, rfl⟩, rfl⟩
    exact ⟨decides, rfl⟩
  · rintro ⟨decides, rfl⟩
    exact ⟨_, ⟨decides, rfl⟩, rfl⟩

/-- Counting without looking comes to the same for empty criteria, as they hold of every row. -/
theorem count_of_decides {s : Store} (decides : Decides c s.rows) :
    s.count c = .ok (s.rows.filter c.holds).length := by
  rw [count]
  split
  · rename_i blank
    have everyRow : s.rows.filter c.holds = s.rows := by
      apply List.filter_eq_self.mpr
      intro row _
      rw [Criteria.eq_empty_of_isEmpty blank]
      exact holds_of_evaluate (by rw [Criteria.evaluate])
    rw [everyRow, size]
  · rw [select_eq_ok.mpr ⟨decides, rfl⟩]
    rfl

end Store

end RowFilter
