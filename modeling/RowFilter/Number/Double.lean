/-! # Finite doubles

A finite binary64 number is a sign and the rank of its magnitude: the finite magnitudes,
listed in increasing order, are numbered from `0` (zero) upwards, and the number after the
last of them is where infinity would stand. Ranks order magnitudes as their values do, so
comparing two doubles is comparing two integers (`Double.key`). The value itself is a whole
number of units of `2 ^ -1074`. -/

namespace RowFilter

/-- A finite binary64 number. -/
structure Double where
  negative : Bool
  /-- Position of the magnitude among all finite magnitudes. -/
  rank : Nat
  rank_lt : rank < 2047 * Nat.pow 2 52
  deriving DecidableEq

/-- The integer nearest `n / d`, a half going to the even neighbour. -/
def roundHalfEven (n d : Nat) : Nat :=
  let q := n / d
  let r := n % d
  if d < 2 * r ∨ (2 * r = d ∧ q % 2 = 1) then q + 1 else q

namespace Double

/-- The rank of infinity: one past the largest finite magnitude. -/
def infinityRank : Nat := 2047 * Nat.pow 2 52

def zero (negative : Bool) : Double := ⟨negative, 0, by decide⟩

instance : Inhabited Double := ⟨zero false⟩

def significand (d : Double) : Nat :=
  if d.rank < Nat.pow 2 52 then d.rank else Nat.pow 2 52 + d.rank % Nat.pow 2 52

/-- Exponent of two of the last place of the significand, counted from `-1074`. -/
def scale (d : Double) : Nat := d.rank / Nat.pow 2 52 - 1

/-- The magnitude in units of `2 ^ -1074`. -/
def units (d : Double) : Nat := d.significand * Nat.pow 2 d.scale

/-- Orders doubles by value; both zeros have the key `0`. -/
def key (d : Double) : Int := if d.negative then -(d.rank : Int) else d.rank

/-- The rank of the magnitude nearest `num / den`, a tie going to the even significand. -/
def nearestRank (num den : Nat) : Nat :=
  let n := num <<< 1074
  let shift := (n / den).log2 - 52
  shift * Nat.pow 2 52 + roundHalfEven n (den <<< shift)

def ofRank? (negative : Bool) (rank : Nat) : Option Double :=
  if h : rank < 2047 * Nat.pow 2 52 then some ⟨negative, rank, h⟩ else none

/-- The double nearest `num / den`, or `none` where that is infinite. -/
def ofRatio? (negative : Bool) (num den : Nat) : Option Double :=
  ofRank? negative (nearestRank num den)

/-- The double nearest an integer; `none` only from about `2 ^ 1024` on. -/
def ofInt? (i : Int) : Option Double := ofRatio? (i < 0) i.natAbs 1

def isIntegral (d : Double) : Bool := d.units % Nat.pow 2 1074 == 0

/-- The integer of this value, for a double without a fraction. -/
def toInt? (d : Double) : Option Int :=
  if d.isIntegral then
    let magnitude : Int := (d.units / Nat.pow 2 1074 : Nat)
    some (if d.negative then -magnitude else magnitude)
  else none

/-- The product rounded once, or `none` where it overflows. -/
def mul? (a b : Double) : Option Double :=
  ofRatio? (a.negative != b.negative) (a.units * b.units) (Nat.pow 2 2148)

/-- The quotient rounded once, or `none` where it overflows; by zero it is infinite. -/
def div? (a b : Double) : Option Double :=
  if b.units = 0 then none else ofRatio? (a.negative != b.negative) a.units b.units

end Double

/-- Any double, such as a numeric text stands for: finite, infinite or no number at all. -/
inductive ExtendedDouble where
  | notANumber
  | infinity (negative : Bool)
  | finite (d : Double)
  deriving DecidableEq

namespace ExtendedDouble

/-- Orders numbers by value, infinities at the ends; what is no number has no place. -/
def key? : ExtendedDouble → Option Int
  | notANumber => none
  | infinity negative =>
    some (if negative then -(Double.infinityRank : Int) else Double.infinityRank)
  | finite d => some d.key

/-- Whether `a` is less than `b`; what is no number is neither less nor greater. -/
def isLess (a b : ExtendedDouble) : Bool :=
  match a.key?, b.key? with
  | some x, some y => x < y
  | _, _ => false

def finite? : ExtendedDouble → Option Double
  | finite d => some d
  | _ => none

/-- What a number is rounded to: an infinity where that is beyond all doubles. -/
def ofRounded (negative : Bool) : Option Double → ExtendedDouble
  | some d => finite d
  | none => infinity negative

end ExtendedDouble

end RowFilter
