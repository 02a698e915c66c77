import RowFilter.Pattern.Syntax

/-! # Reading patterns

The written form of patterns: literals and escapes, classes in brackets with set operations,
groups with names and flags, alternatives and repetitions. There are no back references and no
look-around. `Pattern.parse` says why a text is no pattern. -/

namespace RowFilter.PatternText

structure Flags where
  anyCase : Bool := false
  multiLine : Bool := false
  dotAll : Bool := false
  unicode : Bool := true
  /-- Whether a carriage return ends a line. -/
  returns : Bool := false
  /-- Whether white space and comments are skipped. -/
  verbose : Bool := false

structure State where
  rest : List Char
  flags : Flags := {}
  /-- The group names given so far. -/
  names : List String := []

abbrev Reader := StateT State Option

def fail : Reader α := fun _ => none

def ensure (b : Bool) : Reader Unit := if b then pure () else fail

def rest : Reader (List Char) := do return (← get).rest

def flags : Reader Flags := do return (← get).flags

def setRest (cs : List Char) : Reader Unit := modify fun s => { s with rest := cs }

def setFlags (f : Flags) : Reader Unit := modify fun s => { s with flags := f }

/-- The text after white space and comments, each of which runs to the end of its line. -/
def afterSpace (inComment : Bool) : List Char → List Char
  | [] => []
  | c :: cs =>
    if inComment then afterSpace (c != '\n') cs
    else if Unicode.isSpace c then afterSpace false cs
    else if c = '#' then afterSpace true cs
    else c :: cs

/-- Skips white space and comments where the flags say so. -/
def skipSpace : Reader Unit := do
  if (← flags).verbose then setRest (afterSpace false (← rest))

def next? : Reader (Option Char) := do return (← rest).head?

/-- The next character; there has to be one. -/
def next : Reader Char := do
  match ← next? with
  | some c => return c
  | none => fail

/-- Passes the next character. -/
def pass : Reader Unit := do setRest ((← rest).drop 1)

/-- Passes the next character and the space after it; something has to follow. -/
def passToNext : Reader Unit := do
  pass
  skipSpace
  ensure (!(← rest).isEmpty)

def passIf (word : List Char) : Reader Bool := do
  let cs ← rest
  if word.isPrefixOf cs then
    setRest (cs.drop word.length)
    return true
  else return false

/-- A piece of a pattern and how deep it is nested. -/
structure Piece where
  pattern : Pattern
  height : Nat := 0
  /-- Whether a repetition may follow. -/
  repeatable : Bool := true

/-- What an escape stands for. -/
inductive Escaped where
  /-- A character; a byte escape names it by two hexadecimal digits. -/
  | char (c : Char) (isByte : Bool)
  | look (a : Assertion)
  | set (s : CharSet)

def isMeta (c : Char) : Bool := "\\.+*?()|[]\x7b\x7d^$#&-~".toList.contains c

def isHex (c : Char) : Bool := (Unicode.hexValue? c).isSome

def hexNumber (ds : List Char) : Nat :=
  ds.foldl (fun n d => 16 * n + (Unicode.hexValue? d).getD 0) 0

def scalar? (n : Nat) : Option Char :=
  if n < 0xd800 ∨ (0xdfff < n ∧ n < 0x110000) then some (Char.ofNat n) else none

/-- The next characters up to a stop, which is passed with the space after it. -/
def readUntil (stop : Char) (ok : Char → Bool) : Nat → List Char → Reader (List Char)
  | 0, _ => fail
  | fuel + 1, read => do
    skipSpace
    let c ← next
    pass
    if c = stop then
      skipSpace
      return read.reverse
    else
      ensure (ok c)
      readUntil stop ok fuel (c :: read)

/-- A fixed number of hexadecimal digits. -/
def hexDigits : Nat → List Char → Reader (List Char)
  | 0, read => return read.reverse
  | count + 1, read => do
    let c ← next
    ensure (isHex c)
    pass
    skipSpace
    hexDigits count (c :: read)

/-- A character by its number, after the letter that says how many digits there are. -/
def hexEscape (digits : Nat) : Reader Escaped := do
  passToNext
  if (← next) = '\x7b' then
    pass
    let ds ← readUntil '\x7d' isHex ((← rest).length + 1) []
    ensure (!ds.isEmpty)
    match scalar? (hexNumber ds) with
    | some c => return .char c false
    | none => fail
  else
    let ds ← hexDigits digits []
    match scalar? (hexNumber ds) with
    | some c => return .char c (digits == 2)
    | none => fail

def splitAtFirst (marks : List Char) : List Char → Option (List Char × List Char)
  | [] => none
  | c :: cs =>
    if marks.isPrefixOf (c :: cs) then some ([], (c :: cs).drop marks.length)
    else (splitAtFirst marks cs).map fun (a, b) => (c :: a, b)

/-- The class that the text between the braces of a property names, and whether it is negated
there. -/
def namedClass? (name : List Char) : Option (Unicode.NamedClass × Bool) :=
  match splitAtFirst ['!', '='] name with
  | some (p, v) => (Unicode.valuedClass? (String.ofList p) (String.ofList v)).map (·, true)
  | none =>
    match (splitAtFirst [':'] name).or (splitAtFirst ['='] name) with
    | some (p, v) => (Unicode.valuedClass? (String.ofList p) (String.ofList v)).map (·, false)
    | none => (Unicode.namedClass? (String.ofList name)).map (·, false)

def foldIf (anyCase unicode : Bool) (s : CharSet) : CharSet :=
  if anyCase then (if unicode then .anyCase s else .anyAsciiCase s) else s

def complementIf (negated : Bool) (s : CharSet) : CharSet := if negated then .complement s else s

/-- A class by its property, after the letter that introduces it. -/
def propertyClass (negated : Bool) : Reader Escaped := do
  passToNext
  let c ← next
  let name ← (do
    if c = '\x7b' then
      pass
      readUntil '\x7d' (fun _ => true) ((← rest).length + 1) []
    else
      ensure (c != '\\')
      pass
      skipSpace
      return [c])
  let f ← flags
  ensure f.unicode
  match namedClass? name with
  | some (cls, inverse) =>
    return .set (complementIf (negated != inverse) (foldIf f.anyCase true (.named cls)))
  | none => fail

/-- The classes of digits, spaces and word characters; without Unicode their complements would
match half characters. -/
def letterClass (c : Char) : Reader Escaped := do
  pass
  skipSpace
  let f ← flags
  let negated := c.isUpper
  ensure (f.unicode || !negated)
  let s : CharSet :=
    match c.toLower, f.unicode with
    | 'd', true => .digitChar
    | 'd', false => .asciiDigit
    | 's', true => .spaceChar
    | 's', false => .asciiSpace
    | _, true => .wordChar
    | _, false => .asciiWord
  return .set (complementIf negated s)

def wordSet : Reader CharSet := do return if (← flags).unicode then .wordChar else .asciiWord

/-- The named bound in braces after a word boundary. Braces that cannot hold a name are left to
a repetition. -/
def wordBound (word : CharSet) : Reader Assertion := do
  let start ← rest
  if start.head? != some '\x7b' then return .wordBoundary word
  passToNext
  let isNameChar (c : Char) : Bool := c.isAlpha || c == '-'
  if !isNameChar (← next) then
    setRest start
    return .wordBoundary word
  let name ← readUntil '\x7d' isNameChar ((← rest).length + 1) []
  match String.ofList name with
  | "start" => return .wordStart word
  | "end" => return .wordEnd word
  | "start-half" => return .wordStartHalf word
  | "end-half" => return .wordEndHalf word
  | _ => fail

/-- An escape, its backslash included. -/
def escape : Reader Escaped := do
  pass
  let c ← next
  match c with
  | 'x' => hexEscape 2
  | 'u' => hexEscape 4
  | 'U' => hexEscape 8
  | 'p' => propertyClass false
  | 'P' => propertyClass true
  | 'd' | 's' | 'w' | 'D' | 'S' | 'W' => letterClass c
  | _ =>
    pass
    if isMeta c then return .char c false
    else if c.toNat < 128 && !c.isAlphanum && c != '<' && c != '>' then return .char c false
    else
      let word ← wordSet
      match c with
      | 'a' => return .char (Char.ofNat 7) false
      | 'f' => return .char (Char.ofNat 12) false
      | 't' => return .char '\t' false
      | 'n' => return .char '\n' false
      | 'r' => return .char '\r' false
      | 'v' => return .char (Char.ofNat 11) false
      | 'A' => return .look .textStart
      | 'z' => return .look .textEnd
      | 'b' => return .look (← wordBound word)
      | 'B' => return .look (.notWordBoundary word)
      | '<' => return .look (.wordStart word)
      | '>' => return .look (.wordEnd word)
      | _ => fail

/-- The names of classes between `[:` and `:]`. -/
def asciiClass? (name : String) : Option CharSet :=
  match name with
  | "alnum" => some (.ofRanges [(0x30, 0x39), (0x41, 0x5a), (0x61, 0x7a)])
  | "alpha" => some (.ofRanges [(0x41, 0x5a), (0x61, 0x7a)])
  | "ascii" => some (.range 0 0x7f)
  | "blank" => some (.ofRanges [(9, 9), (32, 32)])
  | "cntrl" => some (.ofRanges [(0, 0x1f), (0x7f, 0x7f)])
  | "digit" => some .asciiDigit
  | "graph" => some (.range 0x21 0x7e)
  | "lower" => some (.range 0x61 0x7a)
  | "print" => some (.range 0x20 0x7e)
  | "punct" => some (.ofRanges [(0x21, 0x2f), (0x3a, 0x40), (0x5b, 0x60), (0x7b, 0x7e)])
  | "space" => some .asciiSpace
  | "upper" => some (.range 0x41 0x5a)
  | "word" => some .asciiWord
  | "xdigit" => some (.ofRanges [(0x30, 0x39), (0x41, 0x46), (0x61, 0x66)])
  | _ => none

/-- A class between `[:` and `:]`, or nothing where the text is no such class. -/
def asciiClass : Reader (Option CharSet) := do
  let f ← flags
  match ← rest with
  | '[' :: ':' :: cs =>
    let (negated, cs) := match cs with
      | '^' :: cs => (true, cs)
      | cs => (false, cs)
    match splitAtFirst [':'] cs with
    | some (name, ']' :: after) =>
      match asciiClass? (String.ofList name) with
      | some s =>
        setRest after
        ensure (!negated || f.unicode)
        return some (complementIf negated (foldIf f.anyCase f.unicode s))
      | none => return none
    | _ => return none
  | _ => return none

/-- A member of a bracketed class before it is known to begin a range. -/
inductive ClassItem where
  | char (c : Char)
  | set (s : CharSet)

def classItem : Reader ClassItem := do
  let c ← next
  if c = '\\' then
    match ← escape with
    | .char c _ => return .char c
    | .set s => return .set s
    | .look _ => fail
  else
    pass
    return .char c

/-- A literal in a class; without Unicode it has to be of ASCII. -/
def classLiteral (item : ClassItem) : Reader Char := do
  match item with
  | .char c =>
    ensure ((← flags).unicode || c.toNat < 128)
    return c
  | .set _ => fail

/-- A member or a range of a bracketed class. -/
def classRange : Reader CharSet := do
  let first ← classItem
  skipSpace
  let cs ← rest
  ensure (!cs.isEmpty)
  let single : Reader CharSet := do
    match first with
    | .char c => return .char (← classLiteral (.char c))
    | .set s => return s
  if cs.head? != some '-' then single
  else
    let after := cs.drop 1
    let after := if (← flags).verbose then afterSpace false after else after
    if after.head? == some ']' || after.head? == some '-' then single
    else
      passToNext
      let last ← classItem
      let low ← classLiteral first
      let high ← classLiteral last
      ensure (low.toNat ≤ high.toNat)
      return .range low.toNat high.toNat

inductive SetOperation where
  | inter
  | diff
  | symmDiff

def SetOperation.apply : SetOperation → CharSet → CharSet → CharSet
  | inter => .inter
  | diff => .diff
  | symmDiff => .symmDiff

/-- A class being read: the finished left operand of a pending operation, and the union since. -/
structure ClassProgress where
  pending : Option (SetOperation × CharSet) := none
  members : CharSet := .none
  height : Nat := 0

/-- Applies the pending operation to the union read since. -/
def ClassProgress.close (p : ClassProgress) (fold : CharSet → CharSet) : CharSet :=
  match p.pending with
  | none => p.members
  | some (op, left) => op.apply (fold left) (fold p.members)

/-- Hyphens at the head of a class are members, and so is a closing bracket before any other. -/
def classHead : Nat → CharSet → Bool → Reader CharSet
  | 0, _, _ => fail
  | fuel + 1, members, isFirst => do
    let c ← next
    if c = '-' then
      passToNext
      classHead fuel (.union members (.char '-')) false
    else if c = ']' && isFirst then
      passToNext
      return .union members (.char ']')
    else return members

/-- A bracketed class from its opening bracket to its closing one, and its nesting height. -/
def bracketClass (fuel : Nat) : Reader (CharSet × Nat) :=
  match fuel with
  | 0 => fail
  | fuel + 1 => do
    passToNext
    let negated := (← next) == '^'
    if negated then passToNext
    let members ← classHead ((← rest).length + 1) .none true
    let f ← flags
    let fold := foldIf f.anyCase f.unicode
    let done ← classBody fuel { members }
    ensure (f.unicode || !negated)
    return (complementIf negated (fold (done.close fold)), done.height + 1)
where
  classBody (fuel : Nat) (p : ClassProgress) : Reader ClassProgress :=
    match fuel with
    | 0 => fail
    | fuel + 1 => do
      skipSpace
      let f ← flags
      let operation (op : SetOperation) : Reader ClassProgress := do
        pass
        pass
        let left := p.close (foldIf f.anyCase f.unicode)
        classBody fuel { pending := some (op, left), height := p.height }
      match ← rest with
      | [] => fail
      | ']' :: _ =>
        pass
        return p
      | '[' :: _ =>
        match ← asciiClass with
        | some s => classBody fuel { p with members := .union p.members s }
        | none =>
          let (s, height) ← bracketClass fuel
          classBody fuel { p with members := .union p.members s, height := max p.height height }
      | '&' :: '&' :: _ => operation .inter
      | '-' :: '-' :: _ => operation .diff
      | '~' :: '~' :: _ => operation .symmDiff
      | _ =>
        let s ← classRange
        classBody fuel { p with members := .union p.members s }

def literalPiece (c : Char) : Reader Piece := do
  let f ← flags
  return { pattern := .one (foldIf f.anyCase f.unicode (.char c)) }

def escapePiece : Reader Piece := do
  match ← escape with
  | .char c isByte =>
    ensure ((← flags).unicode || !isByte || c.toNat < 128)
    literalPiece c
  | .look a => return { pattern := .look a }
  | .set s => return { pattern := .one s }

/-- Any character but those that end a line, unless the flags say otherwise. -/
def dotPiece : Reader Piece := do
  pass
  let f ← flags
  ensure f.unicode
  let s : CharSet :=
    if f.dotAll then .any
    else if f.returns then .complement (.union (.char '\n') (.char '\r'))
    else .complement (.char '\n')
  return { pattern := .one s }

def startPiece : Reader Piece := do
  pass
  let f ← flags
  return { pattern := .look (if !f.multiLine then .textStart
    else if f.returns then .returnLineStart else .lineStart) }

def endPiece : Reader Piece := do
  pass
  let f ← flags
  return { pattern := .look (if !f.multiLine then .textEnd
    else if f.returns then .returnLineEnd else .lineEnd) }

def blanks : Nat → Reader Unit
  | 0 => return ()
  | fuel + 1 => do
    match ← next? with
    | some c =>
      if Unicode.isSpace c then
        pass
        skipSpace
        blanks fuel
    | none => return ()

/-- The digits at the head of the text. -/
def countDigits : Nat → List Char → Reader (List Char)
  | 0, read => return read.reverse
  | fuel + 1, read => do
    match ← next? with
    | some c =>
      if c.isDigit then
        pass
        skipSpace
        countDigits fuel (c :: read)
      else return read.reverse
    | none => return read.reverse

/-- A repetition count of 32 bits, with blanks around it. -/
def repetitionCount : Reader Nat := do
  let fuel := (← rest).length
  blanks fuel
  let ds ← countDigits fuel []
  blanks fuel
  let n := ds.foldl (fun n d => 10 * n + (d.toNat - 48)) 0
  ensure (!ds.isEmpty && n < Nat.pow 2 32)
  return n

/-- The bounds of a counted repetition from its opening brace to its closing one. -/
def repetitionBounds : Reader (Nat × Option Nat) := do
  passToNext
  let min ← repetitionCount
  let c ← next
  let bounds ← (do
    if c = ',' then
      passToNext
      if (← next) = '\x7d' then return (min, none)
      else
        let max ← repetitionCount
        ensure (min ≤ max)
        return (min, some max)
    else return (min, some min))
  ensure ((← next) = '\x7d')
  pass
  return bounds

/-- Repeats the last piece read; a repetition with nothing before it is an error. -/
def repeatLast (done : List Piece) (min : Nat) (max : Option Nat) : Reader (List Piece) := do
  match done with
  | [] => fail
  | p :: before =>
    ensure p.repeatable
    if (← next?) == some '?' then pass
    return { pattern := .times p.pattern min max, height := p.height + 1 } :: before

/-- One flag letter, switched on or off. -/
def Flags.set? (f : Flags) (letter : Char) (on : Bool) : Option Flags :=
  match letter with
  | 'i' => some { f with anyCase := on }
  | 'm' => some { f with multiLine := on }
  | 's' => some { f with dotAll := on }
  | 'U' => some f
  | 'u' => some { f with unicode := on }
  | 'R' => some { f with returns := on }
  | 'x' => some { f with verbose := on }
  | _ => none

/-- Flag letters up to a colon or a closing parenthesis; a letter may stand once, and a hyphen
once with letters after it. -/
def flagLetters : Nat → List Char → Flags → Reader (List Char × Flags)
  | 0, _, _ => fail
  | fuel + 1, seen, f => do
    let c ← next
    if c = ':' || c = ')' then
      ensure (seen.head? != some '-')
      return (seen, f)
    else
      ensure (!seen.contains c)
      pass
      if c = '-' then flagLetters fuel (c :: seen) f
      else
        match f.set? c (!seen.contains '-') with
        | some f => flagLetters fuel (c :: seen) f
        | none => fail

def isNameChar (isFirst : Bool) (c : Char) : Bool :=
  if isFirst then c == '_' || Unicode.isAlphabetic c
  else c == '_' || c == '.' || c == '[' || c == ']' || Unicode.isAlphabetic c || Unicode.isNumeric c

/-- A group name up to its closing angle bracket; names differ. -/
def groupName : Nat → List Char → Reader Unit
  | 0, _ => fail
  | fuel + 1, read => do
    let c ← next
    pass
    if c = '>' then
      let name := String.ofList read.reverse
      ensure (!read.isEmpty && !(← get).names.contains name)
      modify fun s => { s with names := name :: s.names }
    else
      ensure (isNameChar read.isEmpty c)
      groupName fuel (c :: read)

def sequence (pieces : List Piece) : Piece :=
  match pieces with
  | [] => { pattern := .empty, repeatable := false }
  | [p] => p
  | p :: ps =>
    { pattern := ps.foldl (fun later earlier => .seq earlier.pattern later) p.pattern
      height := 1 + (p :: ps).foldl (fun h q => max h q.height) 0 }

/-- Joins alternatives, the last one first. -/
def alternatives (branches : List Piece) : Piece :=
  match branches with
  | [] => { pattern := .empty, repeatable := false }
  | [p] => p
  | p :: ps =>
    { pattern := ps.foldl (fun later earlier => .alt earlier.pattern later) p.pattern
      height := 1 + (p :: ps).foldl (fun h q => max h q.height) 0 }

mutual

/-- Alternatives up to the end of the text or of the group. -/
def choice (fuel : Nat) (done : List Piece) : Reader Piece :=
  match fuel with
  | 0 => fail
  | fuel + 1 => do
    let branch := sequence (← items fuel [])
    if (← next?) == some '|' then
      pass
      choice fuel (branch :: done)
    else return alternatives (branch :: done)

/-- The pieces of one alternative, the last one first. -/
def items (fuel : Nat) (done : List Piece) : Reader (List Piece) :=
  match fuel with
  | 0 => fail
  | fuel + 1 => do
    skipSpace
    match ← rest with
    | [] | ')' :: _ | '|' :: _ => return done
    | '(' :: _ => items fuel ((← group fuel) :: done)
    | '[' :: _ =>
      let (s, height) ← bracketClass fuel
      items fuel ({ pattern := .one s, height } :: done)
    | '*' :: _ =>
      pass
      items fuel (← repeatLast done 0 none)
    | '+' :: _ =>
      pass
      items fuel (← repeatLast done 1 none)
    | '?' :: _ =>
      pass
      items fuel (← repeatLast done 0 (some 1))
    | '\x7b' :: _ =>
      ensure (done.head?.any fun p => p.repeatable)
      let (min, max) ← repetitionBounds
      skipSpace
      items fuel (← repeatLast done min max)
    | '\\' :: _ => items fuel ((← escapePiece) :: done)
    | '.' :: _ => items fuel ((← dotPiece) :: done)
    | '^' :: _ => items fuel ((← startPiece) :: done)
    | '$' :: _ => items fuel ((← endPiece) :: done)
    | c :: _ =>
      pass
      items fuel ((← literalPiece c) :: done)

/-- A group from its opening parenthesis, or a setting of flags for what follows it. -/
def group (fuel : Nat) : Reader Piece :=
  match fuel with
  | 0 => fail
  | fuel + 1 => do
    pass
    skipSpace
    let cs ← rest
    ensure (!([['?', '='], ['?', '!'], ['?', '<', '='], ['?', '<', '!']].any (·.isPrefixOf cs)))
    let outer ← flags
    let body : Reader Piece := do
      let p ← choice fuel []
      ensure ((← next?) == some ')')
      pass
      setFlags outer
      return { pattern := p.pattern, height := p.height + 1 }
    if (← passIf ['?', 'P', '<']) || (← passIf ['?', '<']) then
      groupName ((← rest).length + 1) []
      body
    else if ← passIf ['?'] then
      let (seen, f) ← flagLetters ((← rest).length + 1) [] outer
      let stop ← next
      pass
      setFlags f
      if stop = ')' then
        ensure (!seen.isEmpty)
        return { pattern := .empty, repeatable := false }
      else body
    else body

end

/-- The deepest nesting of a pattern. -/
def heightLimit : Nat := 250

/-- The most bytes that a pattern may take as a table of steps. -/
def roomLimit : Nat := 10485760

end PatternText

/-- Why a text is not taken as a pattern. -/
inductive PatternFault where
  | malformed
  /-- Its repetitions take too much room once they are written out. -/
  | tooLarge

def PatternFault.message : PatternFault → String
  | malformed => "regex parse error: malformed pattern"
  | tooLarge => s!"Compiled regex exceeds size limit of {PatternText.roomLimit} bytes."

/-- The pattern that a text writes. -/
def Pattern.parse (text : String) : Except PatternFault Pattern :=
  let cs := text.toList
  match (PatternText.choice (3 * cs.length + 3) []).run { rest := cs } with
  | none => .error .malformed
  | some (p, s) =>
    if !s.rest.isEmpty || PatternText.heightLimit < p.height then .error .malformed
    else if PatternText.roomLimit < p.pattern.room then .error .tooLarge
    else .ok p.pattern

end RowFilter
