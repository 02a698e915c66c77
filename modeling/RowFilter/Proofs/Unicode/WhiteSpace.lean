import RowFilter.Unicode.CharClass

/-! # White space is no part of words

A word character is found in one of seven tables, each written as a text of ranges. That no range
of a table holds a white-space character is told range by range while its text is read, so the
tables need not be built for it.
-/

namespace RowFilter.Unicode

namespace CodePoints

/-- The white-space characters beyond ASCII. -/
def spaces : List Nat :=
  [0x85, 0xa0, 0x1680, 0x2000, 0x2001, 0x2002, 0x2003, 0x2004, 0x2005, 0x2006, 0x2007, 0x2008,
   0x2009, 0x200a, 0x2028, 0x2029, 0x202f, 0x205f, 0x3000]

/-- Whether a range holds none of them. -/
def apart (low high : Nat) : Bool := spaces.all fun n => Nat.blt n low || Nat.blt high n

/-- Whether the range being read, once it ends, holds none of them. -/
def Pending.apart (p : Pending) : Bool :=
  match p.low, p.digits with
  | some low, some high => CodePoints.apart low high
  | none, some n => CodePoints.apart n n
  | _, none => true

/-- Whether no range that a text goes on with holds one of them. -/
def readsApart (p : Pending) : List Char → Bool
  | [] => p.apart
  | c :: rest =>
    match hexValue? c with
    | some d => readsApart { p with digits := some (16 * p.digits.getD 0 + d) } rest
    | none =>
      if c = '-' then readsApart ⟨p.digits, none⟩ rest
      else p.apart && readsApart ⟨none, none⟩ rest

/-- None of the ranges holds one of them. -/
def Avoids (ranges : Array (Nat × Nat)) : Prop := ∀ r ∈ ranges, apart r.1 r.2 = true

theorem avoids_close {p : Pending} {ranges : Array (Nat × Nat)} (before : Avoids ranges)
    (fits : p.apart = true) : Avoids (p.close ranges) := by
  obtain ⟨low, digits⟩ := p
  cases digits with
  | none => cases low <;> exact before
  | some high =>
      cases low with
      | none =>
          intro r listed
          rcases Array.mem_push.mp listed with old | rfl
          · exact before r old
          · exact fits
      | some low =>
          intro r listed
          rcases Array.mem_push.mp listed with old | rfl
          · exact before r old
          · exact fits

theorem avoids_readRanges {p : Pending} {ranges : Array (Nat × Nat)} {text : List Char}
    (before : Avoids ranges) (reads : readsApart p text = true) :
    Avoids (readRanges ranges p text) := by
  induction text generalizing p ranges with
  | nil => exact avoids_close before reads
  | cons c rest ih =>
      rw [readsApart] at reads
      rw [readRanges]
      split
      · rename_i d digit
        rw [digit] at reads
        exact ih before reads
      · rename_i other
        rw [other] at reads
        split
        · rename_i dash
          simp only [dash, if_true] at reads
          exact ih before reads
        · rename_i space
          simp only [space, if_false, Bool.and_eq_true] at reads
          exact ih (avoids_close before reads.1) reads.2

theorem searchBetween_eq_false {ranges : Array (Nat × Nat)} (avoids : Avoids ranges) {n : Nat}
    (listed : n ∈ spaces) (low high : Nat) : searchBetween ranges n low high = false := by
  fun_induction searchBetween ranges n low high with
  | case1 | case5 => rfl
  | case2 _ _ _ _ _ _ _ _ ih | case3 _ _ _ _ _ _ _ _ _ ih => exact ih
  | case4 low high inside middle first last found above below =>
      have outside := avoids (first, last) (Array.mem_of_getElem? found)
      simp only [apart, List.all_eq_true, Bool.or_eq_true, Nat.blt_eq] at outside
      have := outside n listed
      omega

/-- What a text is checked for holds of the table that it is read as. -/
theorem contains_ofText {text : String} (reads : readsApart ⟨none, none⟩ text.toList = true)
    {c : Char} (listed : c.toNat ∈ spaces) : (ofText text).contains c = false :=
  searchBetween_eq_false (avoids_readRanges (by simp [Avoids]) reads) listed _ _

end CodePoints

open CodePoints

set_option maxRecDepth 100000 in
/-- The tables come to some ten thousand characters, so the reading is left to the kernel. -/
theorem wordTables_space {c : Char} (listed : c.toNat ∈ spaces) :
    ∀ table ∈ [alphabetic, nonspacingMark, spacingMark, enclosingMark, decimalNumber,
      connectorPunctuation, joinControl], table.contains c = false := by
  simp only [List.forall_mem_cons]
  refine ⟨?_, ?_, ?_, ?_, ?_, ?_, ?_, List.forall_mem_nil _⟩
  all_goals
    refine contains_ofText ?_ listed
    rw [String.toList_ofList]
    decide +kernel

/-- White space beyond ASCII is listed. -/
theorem mem_spaces {c : Char} (space : isSpace c = true) (beyond : ¬ c.toNat < 128) :
    c.toNat ∈ spaces := by
  simp only [isSpace, Bool.or_eq_true, Bool.and_eq_true, decide_eq_true_eq, beq_iff_eq] at space
  simp only [spaces, List.mem_cons, List.not_mem_nil, or_false]
  omega

theorem not_isWord_ascii_space {c : Char} (space : isSpace c = true) (ascii : c.toNat < 128) :
    (c.isAlphanum || c == '_') = false := by
  have known : c.toNat ∈ [9, 10, 11, 12, 13, 32] := by
    simp only [isSpace, Bool.or_eq_true, Bool.and_eq_true, decide_eq_true_eq, beq_iff_eq] at space
    simp only [List.mem_cons, List.not_mem_nil, or_false]
    omega
  have none : ∀ n ∈ [9, 10, 11, 12, 13, 32],
      ((Char.ofNat n).isAlphanum || Char.ofNat n == '_') = false := by
    decide
  rw [← Char.ofNat_toNat c]
  exact none _ known

theorem isWord_of_isSpace {c : Char} (space : isSpace c = true) : isWord c = false := by
  by_cases ascii : c.toNat < 128
  · rw [isWord, if_pos ascii, not_isWord_ascii_space space ascii]
  · have apart := wordTables_space (mem_spaces space ascii)
    simp only [List.forall_mem_cons] at apart
    obtain ⟨letters, nonspacing, spacing, enclosing, digits, connecting, joining, -⟩ := apart
    rw [isWord, if_neg ascii, letters, nonspacing, spacing, enclosing, digits, connecting, joining]
    rfl

end RowFilter.Unicode
