import RowFilter.Unicode.CharClass

/-! # Screening of raw text

Raw text is searched for four signs of an injected statement, and for the placeholders that its
parameters fill. Keywords are compared letter case aside and end at a word boundary. -/

namespace RowFilter

inductive DangerousPattern where
  /-- A semicolon and a statement after it. -/
  | stackedStatement
  | unionSelect
  /-- A line comment on the last line. -/
  | trailingLineComment
  | blockComment
  deriving DecidableEq, Repr

namespace RawText

/-- A capital letter of a keyword in any case; the long s is a case of S. -/
def isLetter (capital c : Char) : Bool :=
  c == capital || c == capital.toLower || (capital == 'S' && c == 'ſ')

/-- The text after a keyword. -/
def afterKeyword? : List Char → List Char → Option (List Char)
  | [], cs => some cs
  | _ :: _, [] => none
  | k :: ks, c :: cs => if isLetter k c then afterKeyword? ks cs else none

def endsWord (after : List Char) : Bool :=
  match after with
  | [] => true
  | c :: _ => !Unicode.isWord c

def skipSpace (cs : List Char) : List Char := cs.dropWhile Unicode.isSpace

/-- The text after a keyword and at least one space. -/
def afterSpacedKeyword? (keyword : String) (cs : List Char) : Option (List Char) :=
  match afterKeyword? keyword.toList cs with
  | some (c :: rest) => if Unicode.isSpace c then some (skipSpace rest) else none
  | _ => none

def startsKeyword (keyword : String) (cs : List Char) : Bool :=
  match afterKeyword? keyword.toList cs with
  | some after => endsWord after
  | none => false

/-- The keywords that begin a statement which changes something. -/
def changingKeywords : List String :=
  ["DROP", "DELETE", "UPDATE", "INSERT", "ALTER", "CREATE", "TRUNCATE"]

def startsStackedStatement : List Char → Bool
  | ';' :: rest => changingKeywords.any fun k => startsKeyword k (skipSpace rest)
  | _ => false

def startsUnionSelect (cs : List Char) : Bool :=
  match afterSpacedKeyword? "UNION" cs with
  | none => false
  | some rest =>
    startsKeyword "SELECT" rest ||
      match afterSpacedKeyword? "ALL" rest with
      | some rest => startsKeyword "SELECT" rest
      | none => false

def startsTrailingComment : List Char → Bool
  | '-' :: '-' :: rest => rest.all fun c => c != '\r' && c != '\n'
  | _ => false

def startsBlockComment : List Char → Bool
  | '/' :: '*' :: _ => true
  | _ => false

/-- Whether some suffix passes a test. -/
def anySuffix (test : List Char → Bool) : List Char → Bool
  | [] => test []
  | c :: cs => test (c :: cs) || anySuffix test cs

/-- Whether some suffix that begins a word passes a test; `inWord` says whether the character
before is a word character. -/
def anyWordStart (test : List Char → Bool) (inWord : Bool) : List Char → Bool
  | [] => false
  | c :: cs =>
    (!inWord && Unicode.isWord c && test (c :: cs)) || anyWordStart test (Unicode.isWord c) cs

end RawText

namespace DangerousPattern

def name : DangerousPattern → String
  | stackedStatement => "stacked statement"
  | unionSelect => "union select"
  | trailingLineComment => "trailing line comment"
  | blockComment => "block comment"

def occursIn (p : DangerousPattern) (text : List Char) : Bool :=
  match p with
  | stackedStatement => RawText.anySuffix RawText.startsStackedStatement text
  | unionSelect => RawText.anyWordStart RawText.startsUnionSelect false text
  | trailingLineComment => RawText.anySuffix RawText.startsTrailingComment text
  | blockComment => RawText.anySuffix RawText.startsBlockComment text

/-- The first pattern that a text contains. -/
def find? (text : String) : Option DangerousPattern :=
  [stackedStatement, unionSelect, trailingLineComment, blockComment].find? fun p =>
    p.occursIn text.toList

end DangerousPattern

namespace RawText

/-- The numbers after dollar signs, and how many question marks there are. `number` holds the
digits after the last dollar sign, the last one first. -/
def scanPlaceholders (number : Option (List Char)) : List Char → List (List Char) × Nat
  | [] => (closed number, 0)
  | c :: cs =>
    let digit := Unicode.isDigit c
    match number, digit with
    | some ds, true => scanPlaceholders (some (c :: ds)) cs
    | _, _ =>
      let (numbers, marks) := scanPlaceholders (if c = '$' then some [] else none) cs
      (closed number ++ numbers, marks + if c = '?' then 1 else 0)
where
  closed : Option (List Char) → List (List Char)
    | none => []
    | some [] => []
    | some ds => [ds]

/-- How many parameters a text expects: a numbered placeholder counts once for its number,
every question mark by itself. -/
def placeholderCount (text : String) : Nat :=
  let (numbers, marks) := scanPlaceholders none text.toList
  numbers.eraseDups.length + marks

end RawText

end RowFilter
