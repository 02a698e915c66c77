import RowFilter.Unicode.Named

/-! # Patterns

Regular expressions after reading: sets of characters, assertions about a position, and their
combinations. Only whether a text contains a match is asked of them, so greed and captures have
no place here. -/

namespace RowFilter

/-- A set of characters. -/
inductive CharSet where
  | none
  | range (low high : Nat)
  | digitChar
  | spaceChar
  | wordChar
  | named (cls : Unicode.NamedClass)
  | union (a b : CharSet)
  | inter (a b : CharSet)
  | diff (a b : CharSet)
  | symmDiff (a b : CharSet)
  | complement (a : CharSet)
  /-- All characters that differ from a member only in case. -/
  | anyCase (a : CharSet)
  /-- The same for the letters of ASCII alone. -/
  | anyAsciiCase (a : CharSet)

namespace CharSet

def contains : CharSet → Char → Bool
  | none, _ => false
  | range low high, c => low ≤ c.toNat && c.toNat ≤ high
  | digitChar, c => Unicode.isDigit c
  | spaceChar, c => Unicode.isSpace c
  | wordChar, c => Unicode.isWord c
  | named cls, c => cls.contains c
  | union a b, c => a.contains c || b.contains c
  | inter a b, c => a.contains c && b.contains c
  | diff a b, c => a.contains c && !b.contains c
  | symmDiff a b, c => a.contains c != b.contains c
  | complement a, c => !a.contains c
  | anyCase a, c => (Unicode.caseVariants c).any a.contains
  | anyAsciiCase a, c => [c, c.toLower, c.toUpper].any a.contains

def char (c : Char) : CharSet := range c.toNat c.toNat

def any : CharSet := range 0 0x10ffff

def ofRanges (ranges : List (Nat × Nat)) : CharSet :=
  ranges.foldl (fun s r => union s (range r.1 r.2)) none

def asciiDigit : CharSet := range 0x30 0x39

def asciiSpace : CharSet := ofRanges [(9, 13), (32, 32)]

def asciiWord : CharSet := ofRanges [(0x30, 0x39), (0x41, 0x5a), (0x5f, 0x5f), (0x61, 0x7a)]

/-- The room that a set takes as a table of bytes to step over: ranges of ASCII are single bytes,
all others are sequences. -/
def room : CharSet → Nat
  | none => 0
  | range _ high => if high < 128 then 8 else 64
  | digitChar => 64 * Unicode.decimalNumber.ranges.size
  | spaceChar => 64 * Unicode.whiteSpace.ranges.size
  | wordChar => 64 * Unicode.alphabetic.ranges.size
  | named cls => 64 * cls.rangeCount
  | union a b | inter a b | diff a b | symmDiff a b => room a + room b
  | complement a => room a + 128
  | anyCase a | anyAsciiCase a => 2 * room a

end CharSet

/-- A condition on a position in a text. -/
inductive Assertion where
  | textStart
  | textEnd
  | lineStart
  | lineEnd
  /-- Line bounds where a carriage return ends a line too, but not within a pair with a line
  feed. -/
  | returnLineStart
  | returnLineEnd
  | wordBoundary (word : CharSet)
  | notWordBoundary (word : CharSet)
  | wordStart (word : CharSet)
  | wordEnd (word : CharSet)
  /-- No word character before. -/
  | wordStartHalf (word : CharSet)
  /-- No word character after. -/
  | wordEndHalf (word : CharSet)

/-- Whether an assertion holds between two neighbours; at an end of the text there is none. -/
def Assertion.holds (a : Assertion) (before after : Option Char) : Bool :=
  let isWord (word : CharSet) (c : Option Char) : Bool := c.any word.contains
  match a with
  | textStart => before.isNone
  | textEnd => after.isNone
  | lineStart => before.isNone || before == some '\n'
  | lineEnd => after.isNone || after == some '\n'
  | returnLineStart =>
    before.isNone || before == some '\n' || (before == some '\r' && after != some '\n')
  | returnLineEnd =>
    after.isNone || after == some '\r' || (after == some '\n' && before != some '\r')
  | wordBoundary word => isWord word before != isWord word after
  | notWordBoundary word => isWord word before == isWord word after
  | wordStart word => !isWord word before && isWord word after
  | wordEnd word => isWord word before && !isWord word after
  | wordStartHalf word => !isWord word before
  | wordEndHalf word => !isWord word after

inductive Pattern where
  | empty
  | one (set : CharSet)
  | look (a : Assertion)
  | seq (a b : Pattern)
  | alt (a b : Pattern)
  /-- From `min` up to `max` times, without an upper bound where `max` is absent. -/
  | times (p : Pattern) (min : Nat) (max : Option Nat)

namespace Pattern

/-- The room that a pattern takes as a table of steps, in bytes and with its bounded repetitions
written out. -/
def room : Pattern → Nat
  | empty => 32
  | one s => 24 + s.room
  | look _ => 32
  | seq a b => room a + room b
  | alt a b => room a + room b + 36
  | times p min none => room p * Nat.max 1 min + 40
  | times p min (some max) => room p * min + (room p + 40) * (max - min) + 32

end Pattern

end RowFilter
