import RowFilter.Json.Value

/-! # Integers as doubles

An integer below `2 ^ 53` in magnitude is a double, and no other integer is rounded to the same
one: its rank is read off its leading digit, and the integers from `2 ^ 53` on have greater ranks.
-/

namespace RowFilter

theorem roundHalfEven_mul (q : Nat) {d : Nat} (positive : 0 < d) : roundHalfEven (q * d) d = q := by
  rw [roundHalfEven, Nat.mul_mod_left, Nat.mul_div_cancel q positive, if_neg]
  omega

theorem div_le_roundHalfEven (n d : Nat) : n / d ≤ roundHalfEven n d := by
  rw [roundHalfEven]
  split
  · exact Nat.le_succ _
  · exact Nat.le_refl _

section Shifts

variable {n : Nat}

theorem two_pow_pos (k : Nat) : 0 < Nat.pow 2 k := Nat.two_pow_pos k

theorem shiftLeft_eq_pow (n k : Nat) : n <<< k = n * Nat.pow 2 k := Nat.shiftLeft_eq n k

theorem shiftLeft_eq_mul (n k : Nat) : n <<< k = n * 1 <<< k := by
  rw [Nat.one_shiftLeft, Nat.shiftLeft_eq]

theorem one_shiftLeft_pos (k : Nat) : 0 < 1 <<< k := by
  rw [Nat.one_shiftLeft]
  exact Nat.two_pow_pos k

theorem leading_le_shiftLeft (positive : n ≠ 0) (k : Nat) : 1 <<< (n.log2 + k) ≤ n <<< k := by
  rw [Nat.shiftLeft_add, shiftLeft_eq_mul n k, shiftLeft_eq_mul (1 <<< n.log2) k, Nat.one_shiftLeft]
  exact Nat.mul_le_mul_right _ (Nat.log2_self_le positive)

theorem shiftLeft_lt_leading (n k : Nat) : n <<< k < 1 <<< (n.log2 + 1 + k) := by
  rw [Nat.shiftLeft_add, shiftLeft_eq_mul n k, shiftLeft_eq_mul (1 <<< (n.log2 + 1)) k,
    Nat.one_shiftLeft (n.log2 + 1)]
  exact Nat.mul_lt_mul_of_pos_right Nat.lt_log2_self (one_shiftLeft_pos k)

theorem log2_shiftLeft (positive : n ≠ 0) (k : Nat) : (n <<< k).log2 = n.log2 + k := by
  have low := leading_le_shiftLeft positive k
  have high := shiftLeft_lt_leading n k
  have shifted : n <<< k ≠ 0 := Nat.ne_of_gt (Nat.lt_of_lt_of_le (one_shiftLeft_pos _) low)
  rw [Nat.one_shiftLeft, ← Nat.le_log2 shifted] at low
  rw [Nat.one_shiftLeft, ← Nat.log2_lt shifted] at high
  omega

end Shifts

namespace Double

/-- The number of ranks that share an exponent. -/
theorem binade : Nat.pow 2 52 = 4503599627370496 := rfl

variable {n : Nat}

/-- The rank of an integer, by its leading digit. -/
theorem nearestRank_one (positive : n ≠ 0) :
    nearestRank n 1 = (n.log2 + 1022) * Nat.pow 2 52 +
      roundHalfEven (n <<< 1074) (1 <<< (n.log2 + 1022)) := by
  have leading : (n <<< 1074 / 1).log2 - 52 = n.log2 + 1022 := by
    rw [Nat.div_one, log2_shiftLeft positive]
    omega
  rw [nearestRank, leading]

/-- An integer that fits the significand is not rounded. -/
theorem nearestRank_of_lt (positive : n ≠ 0) (fits : n < Nat.pow 2 53) :
    nearestRank n 1 = (n.log2 + 1022) * Nat.pow 2 52 + n <<< (52 - n.log2) := by
  have short : n.log2 < 53 := (Nat.log2_lt positive).mpr fits
  have aligned : n <<< 1074 = n <<< (52 - n.log2) * 1 <<< (n.log2 + 1022) := by
    have places : 52 - n.log2 + (n.log2 + 1022) = 1074 := by omega
    rw [← shiftLeft_eq_mul, ← Nat.shiftLeft_add, places]
  rw [nearestRank_one positive, aligned, roundHalfEven_mul _ (one_shiftLeft_pos _)]

/-- The significand of an integer has its leading digit in front. -/
theorem aligned_bounds (positive : n ≠ 0) (fits : n < Nat.pow 2 53) :
    Nat.pow 2 52 ≤ n <<< (52 - n.log2) ∧ n <<< (52 - n.log2) < 2 * Nat.pow 2 52 := by
  have short : n.log2 < 53 := (Nat.log2_lt positive).mpr fits
  have low := leading_le_shiftLeft positive (52 - n.log2)
  have high := shiftLeft_lt_leading n (52 - n.log2)
  have places : n.log2 + (52 - n.log2) = 52 := by omega
  have places' : n.log2 + 1 + (52 - n.log2) = 53 := by omega
  rw [places] at low
  rw [places'] at high
  exact ⟨low, high⟩

-- The exponent of `2 ^ 53` is kept as `53 + 1023`, in front of the 52 places of the significand.
/-- The ranks of greater integers are greater than those of all that fit the significand. -/
theorem le_nearestRank (beyond : Nat.pow 2 53 ≤ n) : 1076 * Nat.pow 2 52 ≤ nearestRank n 1 := by
  have positive : n ≠ 0 := Nat.ne_of_gt (Nat.lt_of_lt_of_le (by decide) beyond)
  have long : 53 ≤ n.log2 := (Nat.le_log2 positive).mpr beyond
  have whole : Nat.pow 2 52 ≤ n <<< 1074 / 1 <<< (n.log2 + 1022) := by
    rw [Nat.le_div_iff_mul_le (one_shiftLeft_pos _)]
    have places : 52 + (n.log2 + 1022) = n.log2 + 1074 := by omega
    have leading := leading_le_shiftLeft positive 1074
    rw [← places, Nat.shiftLeft_add, shiftLeft_eq_mul (1 <<< 52)] at leading
    exact leading
  have rounded := div_le_roundHalfEven (n <<< 1074) (1 <<< (n.log2 + 1022))
  rw [binade] at whole ⊢
  rw [nearestRank_one positive, binade]
  omega

/-- Units are parts of one as small as this power of two. -/
def unitPlaces : Nat := 1074

section Value

variable {d : Double}

theorem units_eq_shiftLeft (d : Double) : d.units = d.significand <<< d.scale :=
  (shiftLeft_eq_pow d.significand d.scale).symm

/-- The value of a double is read off its rank. -/
theorem units_of_rank {e s : Nat} (placed : d.rank = e * Nat.pow 2 52 + s)
    (low : Nat.pow 2 52 ≤ s) (high : s < 2 * Nat.pow 2 52) : d.units = s <<< e := by
  rw [binade] at placed low high
  have significand : d.significand = s := by
    rw [Double.significand, binade]
    split
    · omega
    · omega
  have scale : d.scale = e := by
    rw [Double.scale, binade]
    omega
  rw [units_eq_shiftLeft, significand, scale]

theorem units_of_nearestRank (fits : n < Nat.pow 2 53) (rounded : d.rank = nearestRank n 1) :
    d.units = n <<< unitPlaces := by
  by_cases zero : n = 0
  · subst zero
    have least : d.rank = 0 := rounded
    have significand : d.significand = 0 := by
      rw [Double.significand, binade, least]
      rfl
    rw [units_eq_shiftLeft, significand, Nat.zero_shiftLeft, Nat.zero_shiftLeft]
  · have short : n.log2 < 53 := (Nat.log2_lt zero).mpr fits
    have places : 52 - n.log2 + (n.log2 + 1022) = unitPlaces := by
      rw [unitPlaces]
      omega
    obtain ⟨low, high⟩ := aligned_bounds zero fits
    rw [nearestRank_of_lt zero fits] at rounded
    rw [units_of_rank rounded low high, ← Nat.shiftLeft_add, places]

/-- Every rank from that of `2 ^ 53` on stands for a greater magnitude or the same. -/
theorem le_units (beyond : 1076 * Nat.pow 2 52 ≤ d.rank) :
    Nat.pow 2 53 <<< unitPlaces ≤ d.units := by
  rw [unitPlaces]
  rw [binade] at beyond
  have significand : 1 <<< 52 ≤ d.significand := by
    rw [Double.significand, binade]
    split
    · omega
    · exact Nat.le_add_right _ _
  have scale : 1075 ≤ d.scale := by
    rw [Double.scale, binade]
    omega
  have shifted : 1 <<< 1075 ≤ 1 <<< d.scale := by
    obtain ⟨more, places⟩ := Nat.exists_eq_add_of_le scale
    rw [places, Nat.shiftLeft_add]
    exact Nat.le_shiftLeft
  calc
    1 <<< 53 <<< 1074 = 1 <<< 52 * 1 <<< 1075 := by
      rw [← Nat.shiftLeft_add, ← shiftLeft_eq_mul, ← Nat.shiftLeft_add]
    _ ≤ d.significand * 1 <<< d.scale := Nat.mul_le_mul significand shifted
    _ = d.units := by rw [units_eq_shiftLeft, ← shiftLeft_eq_mul]

/-- The integer that a number of units makes, if it is whole. -/
def wholePart? (unit : Nat) (negative : Bool) (units : Nat) : Option Int :=
  if units % unit == 0 then
    some (if negative then -((units / unit : Nat) : Int) else (units / unit : Nat))
  else none

theorem toInt?_eq (d : Double) :
    d.toInt? = wholePart? (Nat.pow 2 unitPlaces) d.negative d.units := by
  have same : 1074 = unitPlaces := rfl
  rw [toInt?, isIntegral, wholePart?, same]

theorem wholePart?_shiftLeft {units k : Nat} (whole : units = n <<< k) (negative : Bool) :
    wholePart? (Nat.pow 2 k) negative units = some (if negative then -(n : Int) else n) := by
  rw [shiftLeft_eq_pow] at whole
  rw [wholePart?, whole, Nat.mul_mod_left, Nat.mul_div_cancel n (two_pow_pos k)]
  rfl

theorem le_of_wholePart? {units k m : Nat} (beyond : m <<< k ≤ units) {negative : Bool} {i : Int}
    (whole : wholePart? (Nat.pow 2 k) negative units = some i) : m ≤ i.natAbs := by
  rw [shiftLeft_eq_pow] at beyond
  have enough := (Nat.le_div_iff_mul_le (two_pow_pos k)).mpr beyond
  rw [wholePart?] at whole
  split at whole
  · cases whole
    cases negative with
    | true => rwa [if_pos rfl, Int.natAbs_neg]
    | false => exact enough
  · cases whole

end Value

section OfInt

variable {i : Int} {d : Double}

theorem signed_natAbs (i : Int) :
    (if decide (i < 0) = true then -(i.natAbs : Int) else i.natAbs) = i := by
  split
  · rename_i below
    have below := of_decide_eq_true below
    omega
  · rename_i below
    have above := of_decide_eq_false (Bool.eq_false_iff.mpr below)
    omega

theorem ofRank?_eq_some {negative : Bool} {rank : Nat} :
    ofRank? negative rank = some d ↔ d.negative = negative ∧ d.rank = rank := by
  unfold ofRank?
  constructor
  · intro found
    split at found
    · cases found
      exact ⟨rfl, rfl⟩
    · cases found
  · rintro ⟨rfl, rfl⟩
    rw [dif_pos d.rank_lt]

theorem ofInt?_eq_some :
    ofInt? i = some d ↔ d.negative = decide (i < 0) ∧ d.rank = nearestRank i.natAbs 1 := by
  rw [ofInt?, ofRatio?, ofRank?_eq_some]

theorem nearestRank_lt (fits : n < Nat.pow 2 53) : nearestRank n 1 < 1076 * Nat.pow 2 52 := by
  by_cases zero : n = 0
  · subst zero
    decide
  · have short : n.log2 < 53 := (Nat.log2_lt zero).mpr fits
    have high := (aligned_bounds zero fits).2
    rw [nearestRank_of_lt zero fits]
    rw [binade] at high ⊢
    omega

theorem nearestRank_finite (fits : n < Nat.pow 2 53) : nearestRank n 1 < 2047 * Nat.pow 2 52 :=
  Nat.lt_trans (nearestRank_lt fits) (by decide)

/-- An integer below `2 ^ 53` in magnitude is a double, and can be read off it. -/
theorem exists_ofInt? (fits : i.natAbs < Nat.pow 2 53) :
    ∃ d, ofInt? i = some d ∧ d.toInt? = some i := by
  obtain ⟨d, rounded⟩ : ∃ d, ofInt? i = some d := by
    rw [ofInt?, ofRatio?]
    exact ⟨_, dif_pos (nearestRank_finite fits)⟩
  obtain ⟨negative, rank⟩ := ofInt?_eq_some.mp rounded
  refine ⟨d, rounded, ?_⟩
  rw [toInt?_eq, wholePart?_shiftLeft (units_of_nearestRank fits rank), negative, signed_natAbs]

/-- What other integers are rounded to is no smaller integer. -/
theorem natAbs_of_toInt?_ofInt? {j : Int} (beyond : Nat.pow 2 53 ≤ i.natAbs)
    (rounded : ofInt? i = some d) (whole : d.toInt? = some j) : Nat.pow 2 53 ≤ j.natAbs := by
  obtain ⟨-, rank⟩ := ofInt?_eq_some.mp rounded
  have units := le_units (rank ▸ le_nearestRank beyond)
  rw [toInt?_eq] at whole
  exact le_of_wholePart? units whole

end OfInt

section Place

/-- The place of a natural number in the order of numbers, which ends at infinity. -/
def place (n : Nat) : Nat := min (nearestRank n 1) infinityRank

theorem place_of_lt (fits : n < Nat.pow 2 53) : place n = nearestRank n 1 := by
  have below := nearestRank_lt fits
  rw [place, infinityRank]
  rw [binade] at below ⊢
  generalize nearestRank n 1 = rank at below ⊢
  omega

theorem le_place (beyond : Nat.pow 2 53 ≤ n) : 1076 * Nat.pow 2 52 ≤ place n := by
  have above := le_nearestRank beyond
  rw [place, infinityRank]
  rw [binade] at above ⊢
  generalize nearestRank n 1 = rank at above ⊢
  omega

/-- Integers that fit the significand have ranks of their own, since these give back their values. -/
theorem nearestRank_inj {m : Nat} (fits : n < Nat.pow 2 53) (fits' : m < Nat.pow 2 53)
    (same : nearestRank m 1 = nearestRank n 1) : m = n := by
  have finite := nearestRank_finite fits
  obtain ⟨d, rank⟩ : ∃ d : Double, d.rank = nearestRank n 1 := by
    generalize nearestRank n 1 = rank at finite
    exact ⟨⟨false, rank, finite⟩, rfl⟩
  have value := units_of_nearestRank fits rank
  rw [units_of_nearestRank fits' (rank.trans same.symm), shiftLeft_eq_pow,
    shiftLeft_eq_pow] at value
  exact Nat.eq_of_mul_eq_mul_right (two_pow_pos unitPlaces) value

/-- A number that fits the significand shares its place with no other. -/
theorem place_inj {m : Nat} (fits : n < Nat.pow 2 53) : place m = place n ↔ m = n := by
  refine ⟨fun same => ?_, fun same => by rw [same]⟩
  rcases Nat.lt_or_ge m (Nat.pow 2 53) with fits' | beyond
  · rw [place_of_lt fits, place_of_lt fits'] at same
    exact nearestRank_inj fits fits' same
  · have above := le_place beyond
    rw [same, place_of_lt fits] at above
    exact absurd (nearestRank_lt fits) (Nat.not_lt.mpr above)

theorem key?_ofRounded (negative : Bool) (rank : Nat) :
    (ExtendedDouble.ofRounded negative (ofRank? negative rank)).key? =
      some (if negative then -((min rank infinityRank : Nat) : Int)
        else (min rank infinityRank : Nat)) := by
  unfold ofRank?
  split
  · rename_i finite
    rw [infinityRank, Nat.min_eq_left (Nat.le_of_lt finite)]
    rfl
  · rename_i beyond
    rw [infinityRank, Nat.min_eq_right (Nat.not_lt.mp beyond)]
    rfl

end Place

end Double

namespace JsonNumber

open Double

theorem key?_int (i : Int) :
    (int i).toExtended.key? =
      some (if decide (i < 0) then -(place i.natAbs : Int) else place i.natAbs) := by
  rw [toExtended, ofInt?, ofRatio?, key?_ofRounded, place]

/-- An integer below `2 ^ 53` in magnitude is equal as a number to no other integer. -/
theorem key?_int_inj {i j : Int} (fits : i.natAbs < Nat.pow 2 53) :
    (int j).toExtended.key? = (int i).toExtended.key? ↔ j = i := by
  refine ⟨fun same => ?_, fun same => by rw [same]⟩
  have alike := place_inj (m := j.natAbs) fits
  have zero := place_inj (m := i.natAbs) (n := 0) (by decide)
  have zero' := place_inj (m := j.natAbs) (n := 0) (by decide)
  have least : place 0 = 0 := by decide
  rw [key?_int, key?_int, Option.some.injEq] at same
  rw [least] at zero zero'
  -- From here on the places are opaque, as telling them apart as terms would round the numbers.
  generalize place i.natAbs = x at same alike zero
  generalize place j.natAbs = y at same alike zero'
  simp only [decide_eq_true_eq] at same
  split at same
  · split at same <;> omega
  · split at same <;> omega

end JsonNumber

end RowFilter
