import RowFilter.Json.Printer
import RowFilter.Number.Numeral
import RowFilter.Unicode.CodePoints

/-! # Integers read back from their texts

The decimal text of an integer has no white space in it and is read as the double nearest to the
integer, unless it has so many digits that it is read as infinite.
-/

namespace RowFilter

namespace Unicode

theorem dropWhile_isSpace_of_forall {cs : List Char} (none : ∀ c ∈ cs, isSpace c = false) :
    cs.dropWhile isSpace = cs := by
  cases cs with
  | nil => rfl
  | cons c rest => exact List.dropWhile_cons_of_neg (by simp [none c List.mem_cons_self])

/-- A text without white space is trimmed already. -/
theorem trimSpace_of_forall {cs : List Char} (none : ∀ c ∈ cs, isSpace c = false) :
    trimSpace cs = cs := by
  have backwards : ∀ c ∈ cs.reverse, isSpace c = false := by simpa using none
  rw [trimSpace, dropWhile_isSpace_of_forall none, dropWhile_isSpace_of_forall backwards,
    List.reverse_reverse]

end Unicode

namespace Numeral

theorem digitValue?_digitChar : ∀ d < 10, digitValue? (Nat.digitChar d) = some d := by decide

theorem takeDigits_digit {d : Nat} (digit : d < 10) :
    takeDigits [Nat.digitChar d] = ([d], []) := by
  rw [takeDigits, digitValue?_digitChar d digit]
  rfl

/-- Behind digits alone the next digit is taken as well. -/
theorem takeDigits_concat {cs : List Char} {ds : List Nat} (taken : takeDigits cs = (ds, []))
    {d : Nat} (digit : d < 10) : takeDigits (cs ++ [Nat.digitChar d]) = (ds ++ [d], []) := by
  induction cs generalizing ds with
  | nil =>
      cases taken
      exact takeDigits_digit digit
  | cons c rest ih =>
      rw [List.cons_append]
      rw [takeDigits] at taken ⊢
      cases known : digitValue? c with
      | none =>
          rw [known] at taken
          cases taken
      | some first =>
          obtain ⟨others, after, parted⟩ : ∃ others after, takeDigits rest = (others, after) :=
            ⟨_, _, rfl⟩
          rw [known, parted] at taken
          cases taken
          rw [ih parted]
          rfl

theorem ofDigits_concat (ds : List Nat) (d : Nat) :
    ofDigits (ds ++ [d]) = 10 * ofDigits ds + d := by
  rw [ofDigits, List.foldl_append]
  rfl

/-- The digits of a number are taken as a whole, and their value is the number. -/
theorem takeDigits_toDigits (n : Nat) :
    ∃ ds, takeDigits (Nat.toDigits 10 n) = (ds, []) ∧ ds ≠ [] ∧ ofDigits ds = n := by
  induction n using Nat.strongRecOn with
  | ind n ih =>
      rw [Nat.toDigits_eq_if (by decide)]
      split
      · rename_i single
        exact ⟨[n], takeDigits_digit single, by simp, by simp [ofDigits]⟩
      · rename_i several
        obtain ⟨ds, taken, -, value⟩ := ih (n / 10) (by omega)
        refine ⟨ds ++ [n % 10], takeDigits_concat taken (by omega), by simp, ?_⟩
        rw [ofDigits_concat, value]
        omega

/-- Digits alone have neither a fraction nor an exponent. -/
theorem unsigned?_of_takeDigits {cs : List Char} {ds : List Nat} (taken : takeDigits cs = (ds, []))
    (filled : ds ≠ []) (negative : Bool) :
    unsigned? negative cs = some ⟨negative, ds, [], 0⟩ := by
  unfold unsigned?
  rw [taken]
  cases ds with
  | nil => exact absurd rfl filled
  | cons d rest => rfl

theorem nearest_whole (negative : Bool) (ds : List Nat) :
    nearest ⟨negative, ds, [], 0⟩ = nearestTo negative (ofDigits ds) 0 := by
  rw [nearest, significand, List.append_nil, lastPlace]
  rfl

theorem finite?_ofRounded (negative : Bool) (d : Option Double) :
    (ExtendedDouble.ofRounded negative d).finite? = d := by
  cases d <;> rfl

/-- A number that is not too long is read as the double nearest to it. -/
theorem nearestTo_whole {n : Nat} (negative : Bool) (positive : n ≠ 0)
    (short : (Nat.toDigits 10 n).length ≤ 400) :
    nearestTo negative n 0 = .ofRounded negative (Double.ofRatio? negative n 1) := by
  unfold nearestTo
  dsimp only
  rw [if_neg (by omega), if_neg (by omega), Int.toNat_zero]
  simp

theorem nearestTo_long {n : Nat} (negative : Bool) (positive : n ≠ 0)
    (long : 400 < (Nat.toDigits 10 n).length) : nearestTo negative n 0 = .infinity negative := by
  unfold nearestTo
  dsimp only
  rw [if_neg (by omega), if_pos (by omega)]

end Numeral

namespace ExtendedDouble

variable {s : String} {m : Numeral}

theorem ofText?_negative {body : List Char} (signed : s.toList = '-' :: body)
    (read : Numeral.unsigned? true body = some m) : ofText? s = some m.nearest := by
  simp [ofText?, signed, read]

theorem ofText?_unsigned {c : Char} {rest : List Char} (plain : s.toList = c :: rest)
    (digit : c.isDigit = true) (read : Numeral.unsigned? false (c :: rest) = some m) :
    ofText? s = some m.nearest := by
  have minus : c ≠ '-' := by rintro rfl; cases digit
  have plus : c ≠ '+' := by rintro rfl; cases digit
  simp [ofText?, plain, minus, plus, read]

end ExtendedDouble

namespace Json

theorem toList_intText (i : Int) :
    (intText i).toList =
      (if i < 0 then ['-'] else []) ++ Nat.toDigits 10 i.natAbs := by
  unfold intText
  dsimp only
  split
  · rw [String.toList_append, @String.toList_ofList (Nat.toDigits 10 i.natAbs)]
    rfl
  · rw [String.toList_ofList, List.nil_append]

/-- The sign is taken off a text and the rest is a number. -/
theorem ofText?_intText (i : Int) :
    ExtendedDouble.ofText? (intText i) =
      some (Numeral.nearestTo (decide (i < 0)) i.natAbs 0) := by
  obtain ⟨ds, taken, filled, value⟩ := Numeral.takeDigits_toDigits i.natAbs
  rw [← value, ← Numeral.nearest_whole]
  have text := toList_intText i
  have read := Numeral.unsigned?_of_takeDigits taken filled (decide (i < 0))
  split at text
  · rename_i below
    rw [decide_eq_true below] at read ⊢
    exact ExtendedDouble.ofText?_negative text read
  · rename_i above
    rw [decide_eq_false above] at read ⊢
    cases chars : Nat.toDigits 10 i.natAbs with
    | nil => exact absurd chars Nat.toDigits_ne_nil
    | cons c rest =>
        have first : c ∈ Nat.toDigits 10 i.natAbs := by simp [chars]
        have digit := Nat.isDigit_of_mem_toDigits (by decide) (by decide) first
        rw [chars] at text read
        exact ExtendedDouble.ofText?_unsigned text digit read

theorem isSpace_of_isDigit {c : Char} (digit : c.isDigit = true) : Unicode.isSpace c = false := by
  have low : 48 ≤ c.toNat := by
    simp only [Char.isDigit, Bool.and_eq_true, decide_eq_true_eq] at digit
    exact digit.1
  have high : c.toNat ≤ 57 := by
    simp only [Char.isDigit, Bool.and_eq_true, decide_eq_true_eq] at digit
    exact digit.2
  simp only [Unicode.isSpace, Bool.or_eq_false_iff, Bool.and_eq_false_iff, decide_eq_false_iff_not,
    beq_eq_false_iff_ne]
  omega

theorem isSpace_of_mem_intText {i : Int} {c : Char} (stands : c ∈ (intText i).toList) :
    Unicode.isSpace c = false := by
  rw [toList_intText] at stands
  rcases List.mem_append.mp stands with sign | digit
  · split at sign
    · cases List.mem_singleton.mp sign
      rfl
    · cases sign
  · exact isSpace_of_isDigit (Nat.isDigit_of_mem_toDigits (by decide) (by decide) digit)

theorem trim_intText (i : Int) : Unicode.trim (intText i) = intText i := by
  rw [Unicode.trim, Unicode.trimSpace_of_forall fun c => isSpace_of_mem_intText,
    String.ofList_toList]

theorem isEmpty_intText (i : Int) : (intText i).isEmpty = false := by
  rw [Bool.eq_false_iff, Ne, String.isEmpty_iff, ← String.toList_eq_nil_iff, toList_intText,
    List.append_eq_nil_iff]
  exact fun blank => Nat.toDigits_ne_nil blank.2

end Json

end RowFilter
