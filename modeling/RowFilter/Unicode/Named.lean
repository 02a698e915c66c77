import RowFilter.Unicode.Age
import RowFilter.Unicode.CharClass
import RowFilter.Unicode.Lowercase
import RowFilter.Unicode.Script

/-! # Sets of characters by name

The sets that a pattern can name by a property. Few have a table of their own: most are put
together from the general categories and what a table adds to them or takes away. -/

namespace RowFilter.Unicode

/-- A set of characters given by a property. -/
inductive NamedClass where
  /-- The characters of any of the tables. -/
  | tables (parts : List CodePoints)
  /-- The characters that a case mapping moves. -/
  | moved (runs : List CaseRun)
  /-- The characters that a case mapping moves others to. -/
  | reached (runs : List CaseRun)
  | union (a b : NamedClass)
  | without (a b : NamedClass)

namespace NamedClass

def contains : NamedClass → Char → Bool
  | tables parts, c => parts.any fun t => t.contains c
  | moved runs, c => applyRuns runs c.toNat != c.toNat
  | reached runs, c => !(sourcesOf runs c.toNat).isEmpty
  | union a b, c => a.contains c || b.contains c
  | without a b, c => a.contains c && !b.contains c

/-- About how many ranges of code points make up the set; those of its parts touch one another,
so the largest part gives the measure. -/
def rangeCount : NamedClass → Nat
  | tables parts => parts.foldl (fun n t => max n t.ranges.size) 1
  | moved runs | reached runs => runs.length
  | union a b => max a.rangeCount b.rangeCount
  | without a _ => a.rangeCount

def ofText (s : String) : NamedClass := tables [.ofText s]

instance : Union NamedClass := ⟨union⟩

instance : SDiff NamedClass := ⟨without⟩

end NamedClass

/-! ## General categories -/

def assigned : NamedClass := .tables (categoryTables.map Prod.snd)

def anyCharacter : NamedClass := .ofText "0-10ffff"

def letter : NamedClass :=
  .tables [uppercaseLetter, lowercaseLetter, titlecaseLetter, modifierLetter, otherLetter]

/-- The categories that are made up of others. -/
def majorCategories : List (String × NamedClass) :=
  [("any", anyCharacter), ("ascii", .ofText "0-7f"), ("assigned", assigned),
   ("cn", anyCharacter \ assigned),
   ("c", anyCharacter \ assigned ∪ .tables [control, format, privateUse]),
   ("lc", .tables [uppercaseLetter, lowercaseLetter, titlecaseLetter]),
   ("l", letter),
   ("m", .tables [nonspacingMark, spacingMark, enclosingMark]),
   ("n", .tables [decimalNumber, letterNumber, otherNumber]),
   ("p", .tables [connectorPunctuation, dashPunctuation, openPunctuation, closePunctuation,
      initialPunctuation, finalPunctuation, otherPunctuation]),
   ("s", .tables [mathSymbol, currencySymbol, modifierSymbol, otherSymbol]),
   ("z", .tables [spaceSeparator, lineSeparator, paragraphSeparator])]

/-! ## Properties -/

def lowercase : NamedClass := .tables [lowercaseLetter, otherLowercase]

def uppercase : NamedClass := .tables [uppercaseLetter, otherUppercase]

def changesWhenLowercased : NamedClass := .moved lowercaseRuns ∪ .ofText "130"

/-- Besides the images of lower-casing, the letters whose upper-case form is several characters, or
the upper-case form of another letter too. -/
def changesWhenUppercased : NamedClass := .reached lowercaseRuns ∪ .ofText
  "b5 131 149 17f 1c5 1c8 1cb 1f0 1f2 345 390 3b0 3c2 3d0-3d1 3d5-3d6 3f0-3f1 3f5 587 1c80-1c88
    1e96-1e9b 1f50 1f52 1f54 1f56 1f88-1f8f 1f98-1f9f 1fa8-1faf 1fb2 1fb4 1fb6-1fb7 1fbc 1fbe 1fc2
    1fc4 1fc6-1fc7 1fcc 1fd2-1fd3 1fd6-1fd7 1fe2-1fe4 1fe6-1fe7 1ff2 1ff4 1ff6-1ff7 1ffc fb00-fb06
    fb13-fb17"

def changesWhenTitlecased : NamedClass :=
  changesWhenUppercased \
      .ofText "1c5 1c8 1cb 1f2 10d0-10fa 10fd-10ff 1f88-1f8f 1f98-1f9f 1fa8-1faf 1fbc 1fcc 1ffc" ∪
    .ofText "1c4 1c7 1ca 1f1"

def changesWhenCasefolded : NamedClass :=
  .moved foldingRuns \ .ofText "1fbe" ∪ .ofText
    "df 130 149 587 1e9a 1f80-1f87 1f90-1f97 1fa0-1fa7 1fb2-1fb4 1fb7 1fc2-1fc4 1fc7 1ff2-1ff4
      1ff7 fb00-fb06 fb13-fb17"

def graphemeExtend : NamedClass := .tables [nonspacingMark, enclosingMark, otherGraphemeExtend]

def graphemeBase : NamedClass :=
  assigned \ (graphemeExtend ∪
    .tables [control, format, privateUse, lineSeparator, paragraphSeparator])

/-- What a name may begin with. -/
def idStart : NamedClass :=
  (letter ∪ .tables [letterNumber, otherIdStart]) \ .tables [patternSyntax, patternWhiteSpace]

/-- What a name may go on with besides. -/
def idFurther : NamedClass :=
  .tables [nonspacingMark, spacingMark, decimalNumber, connectorPunctuation, otherIdContinue]

/-- The same as `idStart`, but for the letters whose normal form begins otherwise. -/
def xidStart : NamedClass :=
  idStart \ .ofText
    "37a e33 eb3 309b-309c fc5e-fc63 fdfa-fdfb fe70 fe72 fe74 fe76 fe78 fe7a fe7c fe7e ff9e-ff9f"

/-- The properties under their names, without case, blanks, hyphens and underscores. -/
def properties : List (List String × NamedClass) :=
  [(["alphabetic", "alpha"], .tables [alphabetic]),
   (["lowercase", "lower"], lowercase),
   (["uppercase", "upper"], uppercase),
   (["cased"], .tables [cased]),
   (["caseignorable", "ci"], .tables [caseIgnorable]),
   (["changeswhenlowercased", "cwl"], changesWhenLowercased),
   (["changeswhenuppercased", "cwu"], changesWhenUppercased),
   (["changeswhentitlecased", "cwt"], changesWhenTitlecased),
   (["changeswhencasefolded", "cwcf"], changesWhenCasefolded),
   (["changeswhencasemapped", "cwcm"],
    changesWhenLowercased ∪ changesWhenUppercased ∪ changesWhenTitlecased),
   (["whitespace", "wspace", "space"], .tables [whiteSpace]),
   (["math"], .tables [mathSymbol, otherMath]),
   (["dash"], .tables [dash]),
   (["hyphen"], .tables [hyphen]),
   (["quotationmark", "qmark"], .tables [quotationMark]),
   (["sentenceterminal", "sterm"], .tables [sentenceTerminal]),
   (["terminalpunctuation", "term"], .tables [terminalPunctuation]),
   (["hexdigit", "hex"], .tables [hexDigit]),
   (["asciihexdigit", "ahex"], .tables [asciiHexDigit]),
   (["bidicontrol", "bidic"], .tables [bidiControl]),
   (["bidimirrored", "bidim"], .tables [bidiMirrored]),
   (["joincontrol", "joinc"], .tables [joinControl]),
   (["defaultignorablecodepoint", "di"], .tables [defaultIgnorableCodePoint]),
   (["deprecated", "dep"], .tables [deprecated]),
   (["noncharactercodepoint", "nchar"], .tables [noncharacterCodePoint]),
   (["variationselector", "vs"], .tables [variationSelector]),
   (["prependedconcatenationmark", "pcm"], .tables [prependedConcatenationMark]),
   (["diacritic", "dia"], .tables [diacritic]),
   (["extender", "ext"], .tables [extender]),
   (["softdotted", "sd"], .tables [softDotted]),
   (["logicalorderexception", "loe"], .tables [logicalOrderException]),
   (["modifiercombiningmark", "mcm"], .tables [modifierCombiningMark]),
   (["graphemeextend", "grext"], graphemeExtend),
   (["graphemebase", "grbase"], graphemeBase),
   (["graphemelink", "grlink"], .tables [graphemeLink]),
   (["emoji"], .tables [emoji]),
   (["emojicomponent", "ecomp"], .tables [emojiComponent]),
   (["emojimodifier", "emod"], .tables [emojiModifier]),
   (["emojimodifierbase", "ebase"], .tables [emojiModifierBase]),
   (["emojipresentation", "epres"], .tables [emojiPresentation]),
   (["extendedpictographic", "extpict"], .tables [extendedPictographic]),
   (["regionalindicator", "ri"], .tables [regionalIndicator]),
   (["ideographic", "ideo"], .tables [ideographic]),
   (["unifiedideograph", "uideo"], .tables [unifiedIdeograph]),
   (["radical"], .tables [radical]),
   (["idsbinaryoperator", "idsb"], .tables [idsBinaryOperator]),
   (["idstrinaryoperator", "idst"], .tables [idsTrinaryOperator]),
   (["idsunaryoperator", "idsu"], .tables [idsUnaryOperator]),
   (["idstart", "ids"], idStart),
   (["idcontinue", "idc"], idStart ∪ idFurther),
   (["xidstart", "xids"], xidStart),
   (["xidcontinue", "xidc"], xidStart ∪ idFurther ∪ .ofText "e33 eb3 ff9e-ff9f"),
   (["idcompatmathstart"], .tables [idCompatMathStart]),
   (["idcompatmathcontinue"], .tables [idCompatMathContinue]),
   (["patternsyntax", "patsyn"], .tables [patternSyntax]),
   (["patternwhitespace", "patws"], .tables [patternWhiteSpace]),
   (["otheralphabetic", "oalpha"], .tables [otherAlphabetic]),
   (["otherlowercase", "olower"], .tables [otherLowercase]),
   (["otheruppercase", "oupper"], .tables [otherUppercase]),
   (["othermath", "omath"], .tables [otherMath]),
   (["othergraphemeextend", "ogrext"], .tables [otherGraphemeExtend]),
   (["otheridstart", "oids"], .tables [otherIdStart]),
   (["otheridcontinue", "oidc"], .tables [otherIdContinue]),
   (["otherdefaultignorablecodepoint", "odi"], .tables [otherDefaultIgnorableCodePoint])]

/-! ## Bounds of what is read as one -/

/-- The marks that go with what stands before them. -/
def breakExtend : NamedClass := graphemeExtend ∪ .tables [spacingMark]

def breakControl : NamedClass :=
  .tables [control, format, lineSeparator, paragraphSeparator, otherDefaultIgnorableCodePoint] \
    (graphemeExtend ∪ .tables [prependedConcatenationMark] ∪
      .ofText "a d 115f-1160 200d 3164 ffa0")

def prepend : NamedClass := .ofText
  "600-605 6dd 70f 890-891 8e2 d4e 110bd 110cd 111c2-111c3 113d1 1193f 11941 11a3a 11a84-11a89
    11d46 11f02"

def spacingBreak : NamedClass :=
  (.tables [spacingMark] ∪ .ofText "e33 eb3") \
    (graphemeExtend ∪ .ofText
      "102b-102c 1038 1062-1064 1067-106d 1083 1087-108c 108f 109a-109c 1a61 1a63-1a64 aa7b aa7d
        11720-11721")

/-- The Hangul syllables without a final consonant. -/
def openSyllable : NamedClass :=
  .tables [⟨(Array.range 399).map fun i => (0xac00 + 28 * i, 0xac00 + 28 * i)⟩]

def graphemeBreaks : List (List String × NamedClass) :=
  [(["cr"], .ofText "d"),
   (["lf"], .ofText "a"),
   (["zwj"], .ofText "200d"),
   (["regionalindicator", "ri"], .tables [regionalIndicator]),
   (["control", "cn"], breakControl),
   (["extend", "ex"], graphemeExtend ∪ .tables [emojiModifier]),
   (["prepend", "pp"], prepend),
   (["spacingmark", "sm"], spacingBreak),
   (["l"], .ofText "1100-115f a960-a97c"),
   (["v"], .ofText "1160-11a7 d7b0-d7c6 16d63 16d67-16d6a"),
   (["t"], .ofText "11a8-11ff d7cb-d7fb"),
   (["lv"], openSyllable),
   (["lvt"], .ofText "ac00-d7a3" \ openSyllable)]

def katakanaWord : NamedClass := .ofText
  "3031-3035 309b-309c 30a0-30fa 30fc-30ff 31f0-31ff 32d0-32fe 3300-3357 ff66-ff9d 1aff0-1aff3
    1aff5-1affb 1affd-1affe 1b000 1b120-1b122 1b155 1b164-1b167"

def hebrewLetter : NamedClass := .ofText
  "5d0-5ea 5ef-5f2 fb1d fb1f-fb28 fb2a-fb36 fb38-fb3c fb3e fb40-fb41 fb43-fb44 fb46-fb4f"

/-- Signs that count as letters of words. -/
def wordSign : NamedClass := .ofText
  "2c2-2c5 2d2-2d7 2de-2df 2e5-2eb 2ed 2ef-2ff 55a-55c 55e 58a 5f3 a708-a716 a720-a721 a789-a78a
    ab5b"

/-- Letters of scripts that put no blanks between words. -/
def unspacedLetter : NamedClass := .ofText
  "e01-e30 e32-e33 e40-e46 e81-e82 e84 e86-e8a e8c-ea3 ea5 ea7-eb0 eb2-eb3 ebd ec0-ec4 ec6
    edc-edf 1000-102a 103f 1050-1055 105a-105d 1061 1065-1066 106e-1070 1075-1081 108e 1780-17b3
    17d7 17dc 1950-196d 1970-1974 1980-19ab 19b0-19c9 1a20-1a54 1aa7 a9e0-a9e4 a9e6-a9ef a9fa-a9fe
    aa60-aa76 aa7a aa7e-aaaf aab1 aab5-aab6 aab9-aabd aac0 aac2 aadb-aadd 11700-1171a 11740-11746"

def wordLetter : NamedClass :=
  .tables [alphabetic] \ (.tables [ideographic] ∪ breakExtend ∪ katakanaWord ∪ hebrewLetter ∪
    unspacedLetter ∪ .ofText "3041-3096 309d-309f 1b001-1b11f 1b132 1b150-1b152") ∪ wordSign

def wordBreaks : List (List String × NamedClass) :=
  [(["cr"], .ofText "d"),
   (["lf"], .ofText "a"),
   (["newline", "nl"], .ofText "b-c 85 2028-2029"),
   (["zwj"], .ofText "200d"),
   (["regionalindicator", "ri"], .tables [regionalIndicator]),
   (["extend"], breakExtend ∪ .tables [emojiModifier]),
   (["format", "fo"], .tables [format] \ (breakExtend ∪ .ofText "200b 200d")),
   (["katakana", "ka"], katakanaWord),
   (["hebrewletter", "hl"], hebrewLetter),
   (["aletter", "le"], wordLetter),
   (["numeric", "nu"], .tables [decimalNumber] ∪ .ofText "66b"),
   (["extendnumlet", "ex"], .tables [connectorPunctuation] ∪ .ofText "202f"),
   (["singlequote", "sq"], .ofText "27"),
   (["doublequote", "dq"], .ofText "22"),
   (["midletter", "ml"], .ofText "3a b7 387 55f 5f4 2027 fe13 fe55 ff1a"),
   (["midnumlet", "mb"], .ofText "2e 2018-2019 2024 fe52 ff07 ff0e"),
   (["midnum", "mn"], .ofText "2c 3b 37e 589 60c-60d 66c 7f8 2044 fe10 fe14 fe50 fe54 ff0c ff1b"),
   (["wsegspace"], .ofText "20 1680 2000-2006 2008-200a 205f 3000")]

def sentenceLower : NamedClass := lowercase \ (breakExtend ∪ .ofText "10d0-10fa 10fd-10ff")

def sentenceUpper : NamedClass :=
  (uppercase ∪ .tables [titlecaseLetter]) \ .ofText "1c90-1cba 1cbd-1cbf"

def sentenceContinue : NamedClass := .ofText
  "2c-2d 3a-3b 37e 55d 60c-60d 7f8 1802 1808 2013-2014 3001 fe10-fe11 fe13-fe14 fe31-fe32
    fe50-fe51 fe54-fe55 fe58 fe63 ff0c-ff0d ff1a-ff1b ff64"

def sentenceClose : NamedClass :=
  .tables [openPunctuation, closePunctuation, initialPunctuation, finalPunctuation,
      quotationMark] \ .ofText "ff02 ff07" ∪
    .ofText "275b-2760 2e00-2e01 2e06-2e08 2e0b 1f676-1f678"

def sentenceBreaks : List (List String × NamedClass) :=
  [(["cr"], .ofText "d"),
   (["lf"], .ofText "a"),
   (["sep", "se"], .ofText "85 2028-2029"),
   (["sp"], .tables [whiteSpace] \ .ofText "a d 85 2028-2029"),
   (["extend", "ex"], breakExtend ∪ .ofText "200d"),
   (["format", "fo"], .tables [format] \ (breakExtend ∪ .ofText "200d")),
   (["lower", "lo"], sentenceLower),
   (["upper", "up"], sentenceUpper),
   (["oletter", "le"],
    (.tables [alphabetic] ∪ .ofText "5f3") \ (sentenceLower ∪ sentenceUpper ∪ breakExtend)),
   (["numeric", "nu"], .tables [decimalNumber] ∪ .ofText "66b-66c"),
   (["aterm", "at"], .ofText "2e 2024 fe52 ff0e"),
   (["sterm", "st"], .tables [sentenceTerminal] \ .ofText "2e 2024 fe52 ff0e"),
   (["scontinue", "sc"], sentenceContinue),
   (["close", "cl"], sentenceClose)]

/-! ## Looking up -/

/-- A property name as it is compared: without case, blanks, hyphens, underscores and a
leading `is`. -/
def normalizeName (name : String) : String :=
  let kept (cs : List Char) : List Char :=
    (cs.filter fun c => c.toNat < 128 && !(c == ' ' || c == '_' || c == '-')).map Char.toLower
  match name.toList with
  | i :: s :: rest =>
    if i.toLower = 'i' ∧ s.toLower = 's' then
      if kept rest = ['c'] then "isc" else String.ofList (kept rest)
    else String.ofList (kept (i :: s :: rest))
  | cs => String.ofList (kept cs)

def canonicalName (names : List (String × String)) (name : String) : String :=
  (names.lookup name).getD name

def findNamed (classes : List (List String × NamedClass)) (name : String) : Option NamedClass :=
  (classes.find? fun e => e.1.contains name).map Prod.snd

/-- A general category: one table, or all those of a major class. -/
def category? (name : String) : Option NamedClass :=
  let key := canonicalName categoryNames name
  (majorCategories.lookup key).or ((categoryTables.lookup key).map fun t => .tables [t])

def script? (name : String) : Option NamedClass :=
  (scriptTables.lookup (canonicalName scriptNames name)).map fun t => .tables [t]

/-- The characters that a script uses; those of no script that few scripts use are left to them. -/
def scriptExtension? (name : String) : Option NamedClass :=
  let key := canonicalName scriptNames name
  (scriptTables.lookup key).map fun t =>
    if key = "common" ∨ key = "inherited" then .tables [t] \ .tables [lentTable]
    else .tables (t :: (borrowedTables.lookup key).toList)

/-- The tables up to that of a version. -/
def agesUpTo (version : String) : List (List String × CodePoints) → Option (List CodePoints)
  | [] => none
  | (names, t) :: rest =>
    if names.contains version then some [t] else (agesUpTo version rest).map (t :: ·)

/-- The characters that a version has. -/
def age? (version : String) : Option NamedClass := (agesUpTo version ageTables).map .tables

/-- The class that a bare name stands for: a property, else a category, else a script. -/
def namedClass? (name : String) : Option NamedClass :=
  let key := normalizeName name
  ((findNamed properties key).or (category? key)).or (script? key)

/-- The class of a property's value, for the properties that have several. -/
def valuedClass? (property value : String) : Option NamedClass :=
  let key := normalizeName value
  match normalizeName property with
  | "gc" | "generalcategory" => category? key
  | "sc" | "script" => script? key
  | "scx" | "scriptextensions" => scriptExtension? key
  | "age" => age? key
  | "gcb" | "graphemeclusterbreak" => findNamed graphemeBreaks key
  | "wb" | "wordbreak" => findNamed wordBreaks key
  | "sb" | "sentencebreak" => findNamed sentenceBreaks key
  | _ => none

end RowFilter.Unicode
