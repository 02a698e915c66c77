import RowFilter.Number.Double

/-! # Shortest decimal texts of doubles

The digits written for a double are the fewest that still lie among the reals rounding to it,
and of those the nearest. Two layouts use them: plain positional notation (`Double.positional`)
and the one of JSON texts (`Double.literal`), which turns to an exponent for very small and
very large magnitudes. -/

namespace RowFilter

/-- Decimal digits `digits * 10 ^ place`, without trailing zeros unless the value is zero. -/
structure DecimalDigits where
  digits : Nat
  place : Int
  deriving DecidableEq

/-- The same value without trailing zeros; `fuel` bounds how many are dropped. -/
def DecimalDigits.trimmed (fuel : Nat) (x : DecimalDigits) : DecimalDigits :=
  match fuel with
  | 0 => x
  | fuel + 1 =>
    if x.digits % 10 = 0 ∧ x.digits ≠ 0 then trimmed fuel ⟨x.digits / 10, x.place + 1⟩ else x

namespace Double

/-- The reals that round to a magnitude, in quarters of `2 ^ -1074`; the ends count where the
significand is even. -/
structure RoundingInterval where
  low : Nat
  value : Nat
  high : Nat
  closed : Bool

def roundingInterval (d : Double) : RoundingInterval :=
  let gap := Nat.pow 2 d.scale
  let below := if d.significand = Nat.pow 2 52 ∧ 0 < d.scale then gap else 2 * gap
  { low := 4 * d.units - below
    value := 4 * d.units
    high := 4 * d.units + 2 * gap
    closed := d.significand % 2 == 0 }

/-- Whether `n * 10 ^ place` lies in the interval. -/
def RoundingInterval.contains (r : RoundingInterval) (n : Nat) (place : Int) : Bool :=
  let x := n * Nat.pow 10 place.toNat * Nat.pow 2 1076
  let unit := Nat.pow 10 (-place).toNat
  if r.closed then r.low * unit ≤ x && x ≤ r.high * unit
  else r.low * unit < x && x < r.high * unit

/-- The exponent of the leading decimal digit of `num / den`, for a positive ratio. -/
def leadingPlace (num den : Nat) : Int :=
  let q := num / den
  if 0 < q then ((Nat.toDigits 10 q).length : Int) - 1
  else -((Nat.toDigits 10 ((den - 1) / num)).length : Int)

/-- The neighbours of the value on the grid of multiples of `10 ^ place`: the nearer one first. -/
def gridNeighbours (value : Nat) (place : Int) : List Nat :=
  let num := value * Nat.pow 10 (-place).toNat
  let den := Nat.pow 10 place.toNat * Nat.pow 2 1076
  let below := num / den
  let rest := num % den
  if 2 * rest < den ∨ (2 * rest = den ∧ below % 2 = 0) then [below, below + 1]
  else [below + 1, below]

/-- Tries grids from coarse to fine, `count` of them. -/
def searchGrids (r : RoundingInterval) (place : Int) : Nat → Option DecimalDigits
  | 0 => none
  | count + 1 =>
    match (gridNeighbours r.value place).find? fun n => r.contains n place with
    | some n => some ⟨n, place⟩
    | none => searchGrids r (place - 1) count

def shortestDigits (d : Double) : DecimalDigits :=
  if d.units = 0 then ⟨0, 0⟩
  else
    let r := d.roundingInterval
    let lead := leadingPlace r.value (Nat.pow 2 1076)
    ((searchGrids r lead 17).getD ⟨0, 0⟩).trimmed 20

def decimalText (n : Nat) : List Char := Nat.toDigits 10 n

/-- All digits written out around the point; `point` writes the end of a whole number. -/
def layOut (x : DecimalDigits) (wholeEnd : List Char) : List Char :=
  let ds := decimalText x.digits
  if 0 ≤ x.place then ds ++ List.replicate x.place.toNat '0' ++ wholeEnd
  else
    let places := (-x.place).toNat
    let padded := List.replicate (places + 1 - ds.length) '0' ++ ds
    let split := padded.length - places
    padded.take split ++ '.' :: padded.drop split

def signed (negative : Bool) (cs : List Char) : String :=
  String.ofList (if negative then '-' :: cs else cs)

/-- Positional notation without an exponent, and without a point for a whole number. -/
def positional (d : Double) : String :=
  signed d.negative (layOut d.shortestDigits [])

/-- The JSON text: positional from `1e-5` up to `1e16`, with `.0` after a whole number, and in
scientific notation with a signed exponent elsewhere. -/
def literal (d : Double) : String :=
  let x := d.shortestDigits
  let ds := decimalText x.digits
  let lead := (ds.length : Int) + x.place - 1
  if d.units = 0 ∨ (-5 ≤ lead ∧ lead < 16) then
    signed d.negative (layOut x ['.', '0'])
  else
    let mantissa := match ds with
      | [] => []
      | [c] => [c]
      | c :: rest => c :: '.' :: rest
    let sign := if lead < 0 then '-' else '+'
    signed d.negative (mantissa ++ 'e' :: sign :: decimalText lead.natAbs)

end Double

/-- The text of any double. -/
def ExtendedDouble.positional : ExtendedDouble → String
  | notANumber => "NaN"
  | infinity negative => if negative then "-inf" else "inf"
  | finite d => d.positional

end RowFilter
