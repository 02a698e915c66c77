import RowFilter.Operator
import RowFilter.Pattern.Reader

/-! # Matching patterns

A set of positions of a text is a number whose bit `i` stands for position `i`. A pattern sends
the set of positions where a match may start to the set of positions where it may end; a text
contains a match where the set reached from all its positions is not empty. -/

namespace RowFilter

/-- A pattern prepared for one text: every test is replaced by the set of positions that pass. -/
inductive MatchPlan where
  | empty
  | consume (positions : Nat)
  | check (positions : Nat)
  | seq (a b : MatchPlan)
  | alt (a b : MatchPlan)
  | times (p : MatchPlan) (min : Nat) (max : Option Nat)

/-- Neighbours of each position of a text, the first position first. -/
def neighbours (before : Option Char) : List Char → List (Option Char × Option Char)
  | [] => [(before, none)]
  | c :: rest => (before, some c) :: neighbours (some c) rest

/-- The positions whose neighbours pass a test. -/
def positionsWhere (test : Option Char → Option Char → Bool)
    (places : List (Option Char × Option Char)) : Nat :=
  places.foldr (fun p set => 2 * set + (if test p.1 p.2 then 1 else 0)) 0

def Pattern.plan (places : List (Option Char × Option Char)) : Pattern → MatchPlan
  | empty => .empty
  | one s => .consume (positionsWhere (fun _ after => after.any s.contains) places)
  | look a => .check (positionsWhere a.holds places)
  | seq a b => .seq (plan places a) (plan places b)
  | alt a b => .alt (plan places a) (plan places b)
  | times p min max => .times (plan places p) min max

namespace MatchPlan

/-- The members of `a` that are not in `b`. -/
def without (a b : Nat) : Nat := a ^^^ (a &&& b)

/-- Adds what a step reaches from the positions added last, `count` times or until nothing is
added. -/
def spread (step : Nat → Nat) : Nat → Nat → Nat → Nat
  | 0, seen, _ => seen
  | count + 1, seen, fresh =>
    if fresh = 0 then seen
    else
      let added := without (step fresh) seen
      spread step count (seen ||| added) added

/-- Takes a step `count` times, or until no position is left. -/
def iterate (step : Nat → Nat) : Nat → Nat → Nat
  | 0, set => set
  | count + 1, set => if set = 0 then 0 else iterate step count (step set)

/-- Where a match may end that starts in `set`; `bound` is the number of positions. -/
def run (bound : Nat) : MatchPlan → Nat → Nat
  | empty, set => set
  | consume positions, set => 2 * (set &&& positions)
  | check positions, set => set &&& positions
  | seq a b, set => run bound b (run bound a set)
  | alt a b, set => run bound a set ||| run bound b set
  | times p min max, set =>
    let start := iterate (run bound p) min set
    match max with
    | some max => spread (run bound p) (max - min) start start
    | none => spread (run bound p) bound start start

end MatchPlan

/-- Whether a text contains a match. -/
def Pattern.isMatch (p : Pattern) (text : String) : Bool :=
  let places := neighbours none text.toList
  let bound := places.length
  (p.plan places).run bound (Nat.pow 2 bound - 1) != 0

/-- The engine that this library brings along. -/
instance : PatternEngine where
  compile text :=
    match Pattern.parse text with
    | .ok p => .ok p.isMatch
    | .error fault => .error fault.message

end RowFilter
