import RowFilter.Number.Double

/-! # Decimal numerals

A numeral is read in two steps: its parts are separated by a grammar, then turned into a
double. `Numeral.nearest` rounds the exact value once. `Numeral.scaled?` rounds the leading
digits first and the product with a power of ten again, which is how JSON literals are read. -/

namespace RowFilter

/-- The digits before and after the point, and the power of ten that follows. -/
structure Numeral where
  negative : Bool
  whole : List Nat
  fraction : List Nat
  exponent : Int

namespace Numeral

def digitValue? (c : Char) : Option Nat :=
  if '0' ≤ c ∧ c ≤ '9' then some (c.toNat - 48) else none

/-- The leading decimal digits of a text and what follows them. -/
def takeDigits : List Char → List Nat × List Char
  | [] => ([], [])
  | c :: rest =>
    match digitValue? c with
    | some d => let (ds, after) := takeDigits rest; (d :: ds, after)
    | none => ([], c :: rest)

def ofDigits (ds : List Nat) : Nat := ds.foldl (fun n d => 10 * n + d) 0

/-- An exponent part: nothing, or a mark, an optional sign and at least one digit, up to the end. -/
def exponentPart? : List Char → Option Int
  | [] => some 0
  | mark :: rest =>
    if mark = 'e' ∨ mark = 'E' then
      let (sign, body) : Int × List Char :=
        match rest with
        | '-' :: r => (-1, r)
        | '+' :: r => (1, r)
        | r => (1, r)
      match takeDigits body with
      | ([], _) => none
      | (ds, []) => some (sign * ofDigits ds)
      | _ => none
    else none

/-- Digits with an optional point among or beside them, and an optional exponent. -/
def unsigned? (negative : Bool) (cs : List Char) : Option Numeral :=
  let (whole, rest) := takeDigits cs
  let (fraction, rest) :=
    match rest with
    | '.' :: r => takeDigits r
    | r => ([], r)
  if whole.isEmpty && fraction.isEmpty then none
  else (exponentPart? rest).map fun e => ⟨negative, whole, fraction, e⟩

def significand (n : Numeral) : Nat := ofDigits (n.whole ++ n.fraction)

/-- The power of ten that the last digit counts. -/
def lastPlace (n : Numeral) : Int := n.exponent - n.fraction.length

/-- The double nearest `digits * 10 ^ place`, infinite where that is out of range. -/
def nearestTo (negative : Bool) (digits : Nat) (place : Int) : ExtendedDouble :=
  let top := ((Nat.toDigits 10 digits).length : Int) + place
  if digits = 0 ∨ top < -400 then .finite (.zero negative)
  else if 400 < top then .infinity negative
  else
    let num := digits * Nat.pow 10 place.toNat
    let den := Nat.pow 10 (-place).toNat
    .ofRounded negative (Double.ofRatio? negative num den)

def nearest (n : Numeral) : ExtendedDouble :=
  nearestTo n.negative n.significand n.lastPlace

/-- The double nearest a power of ten up to `10 ^ 308`. -/
def powerOfTen (e : Nat) : Double :=
  (Double.ofRatio? false (Nat.pow 10 e) 1).getD (.zero false)

/-- Multiplication by a power of ten: one rounding where the power is itself in range. -/
def scaleByTen? (d : Double) (e : Int) : Option Double :=
  if d.units = 0 then some d
  else if 308 < e then none
  else if 0 ≤ e then d.mul? (powerOfTen e.toNat)
  else if -308 ≤ e then d.div? (powerOfTen (-e).toNat)
  else (d.div? (powerOfTen 308)).bind fun r => scaleByTen? r (e + 308)
termination_by (-e).toNat

/-- The digits that fit 64 bits, as a number, and how many were left over. -/
def leadingDigits (start : Nat) : List Nat → Nat × List Nat
  | [] => (start, [])
  | d :: rest =>
    if 10 * start + d < Nat.pow 2 64 then leadingDigits (10 * start + d) rest
    else (start, d :: rest)

/-- The value of a literal read with at most 64 bits of significand: the digits that fit are
rounded to a double, then scaled by a power of ten. `none` where the literal is out of range. -/
def scaled? (n : Numeral) : Option Double :=
  let (high, dropped) := leadingDigits 0 n.whole
  let (digits, unread) := leadingDigits high n.fraction
  let place := n.exponent + dropped.length - (n.fraction.length - unread.length : Nat)
  (Double.ofRatio? n.negative digits 1).bind fun d => scaleByTen? d place

end Numeral

/-- The number that a whole text stands for: an optional sign, then digits or one of the words
`inf`, `infinity` and `nan` in any case. -/
def ExtendedDouble.ofText? (s : String) : Option ExtendedDouble :=
  let (negative, body) : Bool × List Char :=
    match s.toList with
    | '-' :: r => (true, r)
    | '+' :: r => (false, r)
    | r => (false, r)
  match (Numeral.unsigned? negative body).map Numeral.nearest with
  | some x => some x
  | none =>
    let word := String.ofList (body.map Char.toLower)
    if word = "inf" ∨ word = "infinity" then some (.infinity negative)
    else if word = "nan" then some .notANumber
    else none

end RowFilter
