/-! # Tables of code points

A set of code points is written as a text of hexadecimal numbers and ranges of them, in increasing
order, and looked up by halving. White space is few enough to be listed. Case mappings of single
characters come in runs: every `step`-th code point from `first` to `last` is moved by the same
distance. -/

namespace RowFilter.Unicode

/-- Disjoint ranges of code points in increasing order. -/
structure CodePoints where
  ranges : Array (Nat × Nat)

def hexValue? (c : Char) : Option Nat :=
  if '0' ≤ c ∧ c ≤ '9' then some (c.toNat - 48)
  else if 'a' ≤ c ∧ c ≤ 'f' then some (c.toNat - 87)
  else if 'A' ≤ c ∧ c ≤ 'F' then some (c.toNat - 55)
  else none

namespace CodePoints

/-- The range being read: its first end, once passed, and the digits so far. -/
structure Pending where
  low : Option Nat
  digits : Option Nat

def Pending.close (p : Pending) (ranges : Array (Nat × Nat)) : Array (Nat × Nat) :=
  match p.low, p.digits with
  | some low, some high => ranges.push (low, high)
  | none, some n => ranges.push (n, n)
  | _, none => ranges

def readRanges (ranges : Array (Nat × Nat)) (p : Pending) : List Char → Array (Nat × Nat)
  | [] => p.close ranges
  | c :: rest =>
    match hexValue? c with
    | some d => readRanges ranges { p with digits := some (16 * p.digits.getD 0 + d) } rest
    | none =>
      if c = '-' then readRanges ranges ⟨p.digits, none⟩ rest
      else readRanges (p.close ranges) ⟨none, none⟩ rest

def ofText (s : String) : CodePoints := ⟨readRanges #[] ⟨none, none⟩ s.toList⟩

/-- Looks for `n` in the ranges from position `low` up to, not including, `high`. -/
def searchBetween (ranges : Array (Nat × Nat)) (n low high : Nat) : Bool :=
  if low < high then
    let middle := (low + high) / 2
    match ranges[middle]? with
    | none => false
    | some (first, last) =>
      if n < first then searchBetween ranges n low middle
      else if last < n then searchBetween ranges n (middle + 1) high
      else true
  else false
termination_by high - low

def contains (s : CodePoints) (c : Char) : Bool :=
  searchBetween s.ranges c.toNat 0 s.ranges.size

end CodePoints

/-- The characters of the property `White_Space`. -/
def isSpace (c : Char) : Bool :=
  let n := c.toNat
  (9 ≤ n && n ≤ 13) || n == 0x20 || n == 0x85 || n == 0xa0 || n == 0x1680 ||
    (0x2000 ≤ n && n ≤ 0x200a) || n == 0x2028 || n == 0x2029 || n == 0x202f || n == 0x205f ||
    n == 0x3000

def trimSpace (cs : List Char) : List Char :=
  ((cs.dropWhile isSpace).reverse.dropWhile isSpace).reverse

/-- A text without the white space at its ends. -/
def trim (s : String) : String := String.ofList (trimSpace s.toList)

structure CaseRun where
  first : Nat
  last : Nat
  step : Nat
  distance : Int

def CaseRun.maps (r : CaseRun) (n : Nat) : Bool :=
  r.first ≤ n && n ≤ r.last && (n - r.first) % r.step == 0

def CaseRun.target (r : CaseRun) (n : Nat) : Nat := (n + r.distance).toNat

/-- The image of a code point, itself where no run maps it. -/
def applyRuns (runs : List CaseRun) (n : Nat) : Nat :=
  match runs.find? fun r => r.maps n with
  | some r => r.target n
  | none => n

/-- The code points mapped onto `n`. -/
def sourcesOf (runs : List CaseRun) (n : Nat) : List Nat :=
  runs.filterMap fun r =>
    let source := ((n : Int) - r.distance).toNat
    if r.maps source && r.target source == n then some source else none

end RowFilter.Unicode
