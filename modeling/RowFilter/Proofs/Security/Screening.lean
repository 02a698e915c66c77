import Mathlib.Data.List.TakeWhile
import RowFilter.Compilation.Compiler
import RowFilter.Pattern.Matching
import RowFilter.Proofs.Unicode.WhiteSpace
import RowFilter.Validation

/-! # Screening whatever the layout

Raw text is searched for what begins somewhere in it. None of the four searches looks at the case
of ASCII letters, none finds anything at white space, and white space behind a text changes what
is found in one case only: a line comment is on the last line no more once a line break follows.
So a dangerous text laid out anew is refused for the same pattern, but for a line comment with a
line break put behind it.
-/

namespace RowFilter

open Unicode (isSpace isWord)

/-- White space only. -/
def Blank (cs : List Char) : Prop := ∀ c ∈ cs, isSpace c = true

instance : DecidablePred Blank := fun cs => List.decidableBAll _ cs

theorem blank_cons {c : Char} {cs : List Char} :
    Blank (c :: cs) ↔ isSpace c = true ∧ Blank cs := List.forall_mem_cons

namespace RawText

section Letters

/-- The code points of the capital letters. -/
def capitals : List Nat := List.range' 65 26

/-- What holds of the code points of all capitals holds of every capital. -/
theorem of_isUpper {P : Char → Prop} (all : ∀ n ∈ capitals, P (Char.ofNat n)) {c : Char}
    (capital : c.isUpper = true) : P c := by
  have inside : c.toNat ∈ capitals := by
    unfold Char.isUpper at capital
    simp only [decide_eq_true_eq, ge_iff_le, UInt32.le_iff_toNat_le] at capital
    simp only [capitals, List.mem_range'_1]
    exact ⟨capital.1, Nat.lt_succ_of_le capital.2⟩
  have holds := all c.toNat inside
  rwa [Char.ofNat_toNat] at holds

/-- What tells no capital from its small letter does not look at the case of ASCII letters. -/
theorem apply_toLower {α : Type} {f : Char → α}
    (all : ∀ n ∈ capitals, f (Char.ofNat n).toLower = f (Char.ofNat n)) (c : Char) :
    f c.toLower = f c := by
  cases capital : c.isUpper with
  | true => exact of_isUpper (P := fun c => f c.toLower = f c) all capital
  | false =>
      have small : c.toLower = c := by
        unfold Char.isUpper at capital
        unfold Char.toLower
        rw [dif_neg (decide_eq_false_iff_not.mp capital)]
      rw [small]

theorem isSpace_toLower (c : Char) : isSpace c.toLower = isSpace c :=
  apply_toLower (by decide) c

theorem isWord_toLower (c : Char) : isWord c.toLower = isWord c :=
  apply_toLower (by decide) c

variable {k : Char} (capital : k.isUpper = true)

include capital

theorem isLetter_toLower (c : Char) : isLetter k c.toLower = isLetter k c := by
  have all : ∀ n ∈ capitals, ∀ m ∈ capitals,
      isLetter (Char.ofNat m) (Char.ofNat n).toLower = isLetter (Char.ofNat m) (Char.ofNat n) := by
    decide +kernel
  refine of_isUpper (P := fun k => isLetter k c.toLower = isLetter k c) (fun m inside => ?_) capital
  exact apply_toLower (fun n listed => all n listed m inside) c

/-- No letter of a keyword is white space. -/
theorem isLetter_of_isSpace {c : Char} (space : isSpace c = true) : isLetter k c = false := by
  have all : ∀ m ∈ capitals, isSpace (Char.ofNat m) = false ∧
      isSpace (Char.ofNat m).toLower = false := by
    decide
  have apart := of_isUpper (P := fun k => isSpace k = false ∧ isSpace k.toLower = false) all capital
  rw [Bool.eq_false_iff]
  intro letter
  simp only [isLetter, Bool.or_eq_true, Bool.and_eq_true, beq_iff_eq] at letter
  rcases letter with (rfl | rfl) | ⟨_, rfl⟩
  · rw [apart.1] at space
    cases space
  · rw [apart.2] at space
    cases space
  · exact absurd space (by decide)

end Letters

/-- What a test of a text makes of its layout: the case of ASCII letters does not count, and neither
does white space behind the text, unless one of its characters ends what was found. -/
structure ReadsOn (ends : Char → Bool) (test : List Char → Bool) : Prop where
  recased : ∀ cs, test (cs.map Char.toLower) = test cs
  padded : ∀ cs after, Blank after → test (cs ++ after) = (test cs && after.all fun c => !ends c)

/-- A test of what a text begins with, where nothing begins at white space or at the end. -/
structure Begins (ends : Char → Bool) (test : List Char → Bool) : Prop extends
    ReadsOn ends test where
  nil : test [] = false
  space : ∀ c cs, isSpace c = true → test (c :: cs) = false

/-- What white space behind the text does not end. -/
abbrev Lasting : (List Char → Bool) → Prop := Begins fun _ => false

theorem skipSpace_recased (cs : List Char) :
    skipSpace (cs.map Char.toLower) = (skipSpace cs).map Char.toLower := by
  rw [skipSpace, List.dropWhile_map]
  exact congrArg (fun p => (cs.dropWhile p).map Char.toLower) (funext isSpace_toLower)

theorem skipSpace_blank {cs : List Char} (blank : Blank cs) : skipSpace cs = [] :=
  List.dropWhile_eq_nil_iff.mpr blank

namespace Begins

variable {ends : Char → Bool} {test other : List Char → Bool}

theorem lasting (begins : Lasting test) {cs after : List Char} (blank : Blank after) :
    test (cs ++ after) = test cs := by
  simp [begins.padded cs after blank]

theorem either (first : Lasting test) (second : Lasting other) :
    Lasting fun cs => test cs || other cs where
  nil := by rw [first.nil, second.nil]; rfl
  space c cs space := by rw [first.space c cs space, second.space c cs space]; rfl
  recased cs := by rw [first.recased, second.recased]
  padded cs after blank := by simp [first.lasting blank, second.lasting blank]

theorem anyOf {α : Type} {tests : α → List Char → Bool} {choices : List α}
    (all : ∀ a ∈ choices, Lasting (tests a)) : Lasting fun cs => choices.any fun a => tests a cs := by
  induction choices with
  | nil => exact ⟨⟨fun _ => rfl, fun _ _ _ => rfl⟩, rfl, fun _ _ _ => rfl⟩
  | cons a rest ih =>
      rw [List.forall_mem_cons] at all
      simp only [List.any_cons]
      exact all.1.either (ih all.2)

/-- White space that is skipped may stand before the text as well. -/
theorem skipping (begins : Lasting test) :
    ReadsOn (fun _ => false) fun cs => test (skipSpace cs) where
  recased cs := by rw [skipSpace_recased, begins.recased]
  padded cs after blank := by
    have kept : test (skipSpace (cs ++ after)) = test (skipSpace cs) := by
      rw [skipSpace, List.dropWhile_append]
      split
      · rename_i nothing
        rw [skipSpace, List.isEmpty_iff.mp nothing]
        exact congrArg test (skipSpace_blank blank)
      · exact begins.lasting blank
    simp [kept]

end Begins

section Keywords

theorem afterKeyword?_recased {keyword : List Char} (capital : ∀ k ∈ keyword, k.isUpper = true)
    (cs : List Char) :
    afterKeyword? keyword (cs.map Char.toLower) =
      (afterKeyword? keyword cs).map (List.map Char.toLower) := by
  induction keyword generalizing cs with
  | nil => rfl
  | cons k ks ih =>
      rw [List.forall_mem_cons] at capital
      cases cs with
      | nil => rfl
      | cons c rest =>
          rw [List.map_cons, afterKeyword?, afterKeyword?, isLetter_toLower capital.1]
          split
          · exact ih capital.2 rest
          · rfl

theorem afterKeyword?_padded {keyword : List Char} (capital : ∀ k ∈ keyword, k.isUpper = true)
    (cs : List Char) {after : List Char} (blank : Blank after) :
    afterKeyword? keyword (cs ++ after) = (afterKeyword? keyword cs).map (· ++ after) := by
  induction keyword generalizing cs with
  | nil => rfl
  | cons k ks ih =>
      rw [List.forall_mem_cons] at capital
      cases cs with
      | cons c rest =>
          rw [List.cons_append, afterKeyword?, afterKeyword?]
          split
          · exact ih capital.2 rest
          · rfl
      | nil =>
          cases after with
          | nil => rfl
          | cons c rest =>
              have none := isLetter_of_isSpace capital.1 (blank_cons.mp blank).1
              simp [afterKeyword?, none]

theorem endsWord_recased (cs : List Char) : endsWord (cs.map Char.toLower) = endsWord cs := by
  cases cs with
  | nil => rfl
  | cons c rest => simp only [List.map_cons, endsWord, isWord_toLower]

theorem endsWord_padded (cs : List Char) {after : List Char} (blank : Blank after) :
    endsWord (cs ++ after) = endsWord cs := by
  cases cs with
  | cons c rest => rfl
  | nil =>
      cases after with
      | nil => rfl
      | cons c rest =>
          simp [endsWord, Unicode.isWord_of_isSpace (blank_cons.mp blank).1]

/-- A keyword is written in capitals. -/
structure Keyword (keyword : String) : Prop where
  filled : keyword.toList ≠ []
  capital : ∀ k ∈ keyword.toList, k.isUpper = true

variable {keyword : String}

instance : Decidable (Keyword keyword) :=
  have : Decidable (∀ k ∈ keyword.toList, k.isUpper = true) := List.decidableBAll _ _
  decidable_of_iff (keyword.toList ≠ [] ∧ ∀ k ∈ keyword.toList, k.isUpper = true)
    ⟨fun h => ⟨h.1, h.2⟩, fun h => ⟨h.filled, h.capital⟩⟩

theorem startsKeyword_eq (cs : List Char) :
    startsKeyword keyword cs = (afterKeyword? keyword.toList cs).any endsWord := by
  unfold startsKeyword
  cases afterKeyword? keyword.toList cs <;> rfl

namespace Keyword

theorem none_at_nil (word : Keyword keyword) : afterKeyword? keyword.toList [] = none := by
  cases letters : keyword.toList with
  | nil => exact absurd letters word.filled
  | cons k ks => rfl

theorem none_at_space (word : Keyword keyword) {c : Char} (space : isSpace c = true)
    (cs : List Char) : afterKeyword? keyword.toList (c :: cs) = none := by
  have capital := word.capital
  cases letters : keyword.toList with
  | nil => exact absurd letters word.filled
  | cons k ks =>
      rw [letters, List.forall_mem_cons] at capital
      simp [afterKeyword?, isLetter_of_isSpace capital.1 space]

theorem begins (word : Keyword keyword) : Lasting (startsKeyword keyword) where
  nil := by rw [startsKeyword_eq, word.none_at_nil]; rfl
  space c cs space := by rw [startsKeyword_eq, word.none_at_space space]; rfl
  recased cs := by
    rw [startsKeyword_eq, startsKeyword_eq, afterKeyword?_recased word.capital, Option.any_map]
    exact congrArg (fun p => (afterKeyword? keyword.toList cs).any p) (funext endsWord_recased)
  padded cs after blank := by
    rw [startsKeyword_eq, startsKeyword_eq, afterKeyword?_padded word.capital cs blank,
      Option.any_map]
    simp [endsWord_padded _ blank]

/-- A keyword, white space and something else. -/
theorem spaced {test : List Char → Bool} (word : Keyword keyword) (begins : Lasting test) :
    Lasting fun cs => (afterSpacedKeyword? keyword cs).any test where
  nil := by rw [afterSpacedKeyword?, word.none_at_nil]; rfl
  space c cs space := by rw [afterSpacedKeyword?, word.none_at_space space]; rfl
  recased cs := by
    unfold afterSpacedKeyword?
    rw [afterKeyword?_recased word.capital]
    rcases afterKeyword? keyword.toList cs with _ | _ | ⟨c, rest⟩
    · rfl
    · rfl
    · simp only [Option.map_some, List.map_cons, isSpace_toLower]
      split
      · exact begins.skipping.recased rest
      · rfl
  padded cs after blank := by
    unfold afterSpacedKeyword?
    rw [afterKeyword?_padded word.capital cs blank]
    rcases afterKeyword? keyword.toList cs with _ | _ | ⟨c, rest⟩
    · rfl
    · -- The keyword stood at the end, so the white space after it is followed by nothing.
      cases after with
      | nil => rfl
      | cons c rest =>
          obtain ⟨space, blank⟩ := blank_cons.mp blank
          simp [space, skipSpace_blank blank, begins.nil]
    · simp only [Option.map_some, List.cons_append]
      split
      · exact begins.skipping.padded rest after blank
      · rfl

end Keyword

end Keywords

section Marks

/-- Whether a text begins with a mark and goes on as a test asks. -/
def marked (mark : Char) (test : List Char → Bool) : List Char → Bool
  | [] => false
  | c :: rest => c == mark && test rest

theorem begins_marked {ends : Char → Bool} {mark : Char} {test : List Char → Bool}
    (visible : isSpace mark = false)
    (caseless : ∀ n ∈ capitals, ((Char.ofNat n).toLower == mark) = (Char.ofNat n == mark))
    (goesOn : ReadsOn ends test) : Begins ends (marked mark test) := by
  have space (c : Char) (cs : List Char) (space : isSpace c = true) :
      marked mark test (c :: cs) = false := by
    have other : c ≠ mark := by
      rintro rfl
      rw [space] at visible
      cases visible
    rw [marked, beq_false_of_ne other, Bool.false_and]
  refine { nil := rfl, space, recased := fun cs => ?_, padded := fun cs after blank => ?_ }
  · cases cs with
    | nil => rfl
    | cons c rest =>
        rw [List.map_cons, marked, marked, goesOn.recased,
          apply_toLower (f := fun c => c == mark) caseless]
  · cases cs with
    | nil =>
        cases after with
        | nil => rfl
        | cons c rest => exact space c rest (blank_cons.mp blank).1
    | cons c rest => rw [List.cons_append, marked, marked, goesOn.padded rest after blank,
        Bool.and_assoc]

/-- A line break, which ends a line comment. -/
def breaksLine (c : Char) : Bool := c == '\r' || c == '\n'

theorem startsStackedStatement_eq :
    startsStackedStatement =
      marked ';' fun rest => changingKeywords.any fun k => startsKeyword k (skipSpace rest) := by
  funext cs
  unfold startsStackedStatement marked
  split
  · rfl
  · rename_i other
    cases cs with
    | nil => rfl
    | cons c rest =>
        have unmarked : c ≠ ';' := fun same => other rest (by rw [same])
        simp [unmarked]

theorem startsTrailingComment_eq :
    startsTrailingComment = marked '-' (marked '-' fun rest => rest.all fun c => !breaksLine c) := by
  have unbroken (c : Char) : (c != '\r' && c != '\n') = !breaksLine c := (Bool.not_or _ _).symm
  funext cs
  unfold startsTrailingComment
  split
  · rename_i rest
    exact congrArg rest.all (funext unbroken)
  · rename_i other
    rcases cs with _ | ⟨c, _ | ⟨d, rest⟩⟩
    · rfl
    · simp [marked]
    · have unmarked : ¬ (c = '-' ∧ d = '-') := fun same => other rest (by rw [same.1, same.2])
      simp only [not_and] at unmarked
      simpa [marked] using fun first second => absurd second (unmarked first)

theorem startsBlockComment_eq :
    startsBlockComment = marked '/' (marked '*' fun _ => true) := by
  funext cs
  unfold startsBlockComment
  split
  · rfl
  · rename_i other
    rcases cs with _ | ⟨c, _ | ⟨d, rest⟩⟩
    · rfl
    · simp [marked]
    · have unmarked : ¬ (c = '/' ∧ d = '*') := fun same => other rest (by rw [same.1, same.2])
      simp only [not_and] at unmarked
      simpa [marked] using unmarked

end Marks

theorem begins_stackedStatement : Lasting startsStackedStatement := by
  have keywords : ∀ k ∈ changingKeywords, Lasting (startsKeyword k) := by
    have words : ∀ k ∈ changingKeywords, Keyword k := by decide
    exact fun k listed => (words k listed).begins
  rw [startsStackedStatement_eq]
  exact begins_marked (by decide) (by decide) (Begins.anyOf keywords).skipping

theorem startsUnionSelect_eq :
    startsUnionSelect = fun cs => (afterSpacedKeyword? "UNION" cs).any fun rest =>
      startsKeyword "SELECT" rest ||
        (afterSpacedKeyword? "ALL" rest).any (startsKeyword "SELECT") := by
  funext cs
  unfold startsUnionSelect
  cases afterSpacedKeyword? "UNION" cs with
  | none => rfl
  | some rest =>
      dsimp only [Option.any_some]
      cases afterSpacedKeyword? "ALL" rest <;> rfl

theorem begins_unionSelect : Lasting startsUnionSelect := by
  have select : Keyword "SELECT" := by decide
  have all : Keyword "ALL" := by decide
  have union : Keyword "UNION" := by decide
  rw [startsUnionSelect_eq]
  exact union.spaced (select.begins.either (all.spaced select.begins))

theorem begins_trailingComment : Begins breaksLine startsTrailingComment := by
  have line : ReadsOn breaksLine fun rest => rest.all fun c => !breaksLine c := by
    refine ⟨fun cs => ?_, fun cs after _ => List.all_append⟩
    rw [List.all_map]
    exact congrArg cs.all (funext fun c => apply_toLower (f := fun c => !breaksLine c) (by decide) c)
  rw [startsTrailingComment_eq]
  exact begins_marked (by decide) (by decide)
    (begins_marked (by decide) (by decide) line).toReadsOn

theorem begins_blockComment : Lasting startsBlockComment := by
  have anything : ReadsOn (fun _ => false) fun _ => true := ⟨fun _ => rfl, fun _ _ _ => by simp⟩
  rw [startsBlockComment_eq]
  exact begins_marked (by decide) (by decide)
    (begins_marked (by decide) (by decide) anything).toReadsOn

section Searches

variable {ends : Char → Bool} {test : List Char → Bool} (begins : Begins ends test)

include begins

theorem anySuffix_blank {cs : List Char} (blank : Blank cs) : anySuffix test cs = false := by
  induction cs with
  | nil => exact begins.nil
  | cons c rest ih =>
      obtain ⟨space, blank⟩ := blank_cons.mp blank
      rw [anySuffix, begins.space c rest space, ih blank]
      rfl

theorem anySuffix_led {before : List Char} (blank : Blank before) (cs : List Char) :
    anySuffix test (before ++ cs) = anySuffix test cs := by
  induction before with
  | nil => rfl
  | cons c rest ih =>
      obtain ⟨space, blank⟩ := blank_cons.mp blank
      rw [List.cons_append, anySuffix, begins.space c _ space, Bool.false_or, ih blank]

theorem readsOn_anySuffix : ReadsOn ends (anySuffix test) where
  recased cs := by
    induction cs with
    | nil => rfl
    | cons c rest ih =>
        have first := begins.recased (c :: rest)
        rw [List.map_cons] at first ⊢
        rw [anySuffix, anySuffix, first, ih]
  padded cs after blank := by
    induction cs with
    | nil => rw [List.nil_append, anySuffix_blank begins blank, anySuffix, begins.nil, Bool.false_and]
    | cons c rest ih =>
        have first := begins.padded (c :: rest) after blank
        rw [List.cons_append] at first ⊢
        rw [anySuffix, anySuffix, first, ih, Bool.and_or_distrib_right]

theorem anyWordStart_blank {cs : List Char} (blank : Blank cs) (inWord : Bool) :
    anyWordStart test inWord cs = false := by
  induction cs generalizing inWord with
  | nil => rfl
  | cons c rest ih =>
      obtain ⟨space, blank⟩ := blank_cons.mp blank
      rw [anyWordStart, begins.space c rest space, ih blank, Bool.and_false]
      rfl

omit begins in
/-- A word may begin behind white space as it does at the beginning. -/
theorem anyWordStart_led {before : List Char} (blank : Blank before) (cs : List Char) :
    anyWordStart test false (before ++ cs) = anyWordStart test false cs := by
  induction before with
  | nil => rfl
  | cons c rest ih =>
      obtain ⟨space, blank⟩ := blank_cons.mp blank
      rw [List.cons_append, anyWordStart, Unicode.isWord_of_isSpace space, Bool.and_false,
        Bool.false_and, Bool.false_or, ih blank]

theorem readsOn_anyWordStart (inWord : Bool) : ReadsOn ends (anyWordStart test inWord) where
  recased cs := by
    induction cs generalizing inWord with
    | nil => rfl
    | cons c rest ih =>
        have first := begins.recased (c :: rest)
        rw [List.map_cons] at first ⊢
        rw [anyWordStart, anyWordStart, first, isWord_toLower, ih]
  padded cs after blank := by
    induction cs generalizing inWord with
    | nil => rw [List.nil_append, anyWordStart_blank begins blank, anyWordStart, Bool.false_and]
    | cons c rest ih =>
        have first := begins.padded (c :: rest) after blank
        rw [List.cons_append] at first ⊢
        rw [anyWordStart, anyWordStart, first, ih, Bool.and_or_distrib_right, Bool.and_assoc,
          Bool.and_assoc, Bool.and_assoc]

end Searches

end RawText

namespace DangerousPattern

open RawText

/-- The white space that ends what a pattern finds, where it follows. -/
def endedBy : DangerousPattern → Char → Bool
  | trailingLineComment => breaksLine
  | stackedStatement | unionSelect | blockComment => fun _ => false

theorem readsOn_occursIn (p : DangerousPattern) : ReadsOn p.endedBy p.occursIn := by
  cases p with
  | stackedStatement => exact readsOn_anySuffix begins_stackedStatement
  | unionSelect => exact readsOn_anyWordStart begins_unionSelect false
  | trailingLineComment => exact readsOn_anySuffix begins_trailingComment
  | blockComment => exact readsOn_anySuffix begins_blockComment

theorem occursIn_led (p : DangerousPattern) {before : List Char} (blank : Blank before)
    (cs : List Char) : p.occursIn (before ++ cs) = p.occursIn cs := by
  cases p with
  | stackedStatement => exact anySuffix_led begins_stackedStatement blank cs
  | unionSelect => exact anyWordStart_led blank cs
  | trailingLineComment => exact anySuffix_led begins_trailingComment blank cs
  | blockComment => exact anySuffix_led begins_blockComment blank cs

end DangerousPattern

/-- A text laid out anew: with some of its ASCII letters in the other case, and with white space
before and after it. -/
structure LaidOut (text before other after : String) : Prop where
  recased : other.toList.map Char.toLower = text.toList.map Char.toLower
  before : Blank before.toList
  after : Blank after.toList

namespace LaidOut

variable {text before other after : String} (laid : LaidOut text before other after)

include laid

/-- A pattern occurs in a text however it is laid out, unless what follows ends it. -/
theorem occursIn (p : DangerousPattern) :
    p.occursIn (before ++ other ++ after).toList =
      (p.occursIn text.toList && after.toList.all fun c => !p.endedBy c) := by
  have same : p.occursIn other.toList = p.occursIn text.toList := by
    rw [← p.readsOn_occursIn.recased other.toList, laid.recased, p.readsOn_occursIn.recased]
  rw [String.toList_append, String.toList_append, List.append_assoc, p.occursIn_led laid.before,
    p.readsOn_occursIn.padded _ _ laid.after, same]

theorem occursIn_of_ne {p : DangerousPattern} (lasting : p ≠ .trailingLineComment) :
    p.occursIn (before ++ other ++ after).toList = p.occursIn text.toList := by
  rw [laid.occursIn]
  cases p with
  | trailingLineComment => exact absurd rfl lasting
  | stackedStatement | unionSelect | blockComment => simp [DangerousPattern.endedBy]

theorem find?_of_unbroken (unbroken : ∀ c ∈ after.toList, RawText.breaksLine c = false) :
    DangerousPattern.find? (before ++ other ++ after) = DangerousPattern.find? text := by
  have same (p : DangerousPattern) :
      p.occursIn (before ++ other ++ after).toList = p.occursIn text.toList := by
    by_cases lasting : p = .trailingLineComment
    · subst lasting
      have kept : (after.toList.all fun c => !RawText.breaksLine c) = true := by
        simpa using unbroken
      rw [laid.occursIn, DangerousPattern.endedBy, kept, Bool.and_true]
    · exact laid.occursIn_of_ne lasting
  simp only [DangerousPattern.find?, same]

/-- A line break behind the text leaves the other three patterns to be found. -/
theorem find?_of_broken (broken : ∃ c ∈ after.toList, RawText.breaksLine c = true) :
    DangerousPattern.find? (before ++ other ++ after) =
      [.stackedStatement, .unionSelect, .blockComment].find? fun p => p.occursIn text.toList := by
  have gone : DangerousPattern.occursIn .trailingLineComment (before ++ other ++ after).toList =
      false := by
    rw [laid.occursIn, DangerousPattern.endedBy, Bool.and_eq_false_iff]
    refine .inr (List.all_eq_false.mpr ?_)
    simpa using broken
  simp only [DangerousPattern.find?, List.find?_cons, List.find?_nil, gone,
    laid.occursIn_of_ne (p := .stackedStatement) (by decide),
    laid.occursIn_of_ne (p := .unionSelect) (by decide),
    laid.occursIn_of_ne (p := .blockComment) (by decide)]

end LaidOut

/-- Of the patterns tried in turn the line comment is left out. -/
theorem find?_without_comment {text : String} {p : DangerousPattern}
    (flagged : DangerousPattern.find? text = some p) :
    ([.stackedStatement, .unionSelect, .blockComment].find? fun q =>
        DangerousPattern.occursIn q text.toList) =
      if p = .trailingLineComment then
        if DangerousPattern.occursIn .blockComment text.toList then some .blockComment else none
      else some p := by
  simp only [DangerousPattern.find?, List.find?_cons, List.find?_nil] at flagged ⊢
  split at flagged
  · cases flagged
    rfl
  · split at flagged
    · cases flagged
      rfl
    · split at flagged
      · cases flagged
        cases DangerousPattern.occursIn .blockComment text.toList <;> rfl
      · split at flagged
        · cases flagged
          rfl
        · cases flagged

section

variable [PatternEngine]

/-- Wherever a raw text stands in a forest, the validator reports a pattern and the compiler fails
for it, unless it stands too deep for either. -/
structure RefusedAs (p : DangerousPattern) (text : String) : Prop where
  reported : ∀ (v : Validator) depth clause params, clause.predicate = .raw text params →
    (v.inspect depth (.leaf clause)).1.map Finding.fault =
      some (if v.limits.maxDepth < depth then .tooDeep v.limits.maxDepth else .dangerousText p)
  uncompiled : ∀ (k : Compiler) depth clause params, clause.predicate = .raw text params →
    k.criteriaOfNode depth (.leaf clause) =
      .error (if k.config.limits.maxDepth < depth then
        .maxDepthExceeded clause.id k.config.limits.maxDepth else .dangerousSql clause.id p)

theorem refusedAs_of_find? {text : String} {p : DangerousPattern}
    (found : DangerousPattern.find? text = some p) : RefusedAs p text where
  reported v depth clause params raw := by
    unfold Validator.inspect
    split
    · rfl
    · simp [raw, Validator.leafFault?, Validator.rawFault?, found]
  uncompiled k depth clause params raw := by
    rw [Compiler.criteriaOfNode]
    split
    · rfl
    · simp [raw, Compiler.criteriaOfPredicate, found]

/-- A dangerous raw text is refused for the same pattern in other letter case and with white space
around it, by the validator and the compiler alike, unless the pattern is the line comment and a
line break was put behind it. Then only a block comment in the text is still noticed. -/
theorem laidOut_refused {text before other after : String} {p : DangerousPattern}
    (laid : LaidOut text before other after) (flagged : DangerousPattern.find? text = some p) :
    (p ≠ .trailingLineComment ∨ (∀ c ∈ after.toList, RawText.breaksLine c = false) →
      DangerousPattern.find? (before ++ other ++ after) = some p ∧
        RefusedAs p (before ++ other ++ after)) ∧
    (p = .trailingLineComment → (∃ c ∈ after.toList, RawText.breaksLine c = true) →
      DangerousPattern.find? (before ++ other ++ after) =
        if DangerousPattern.occursIn .blockComment text.toList then some .blockComment
        else none) := by
  constructor
  · intro kept
    have found : DangerousPattern.find? (before ++ other ++ after) = some p := by
      by_cases unbroken : ∀ c ∈ after.toList, RawText.breaksLine c = false
      · rw [laid.find?_of_unbroken unbroken, flagged]
      · have broken : ∃ c ∈ after.toList, RawText.breaksLine c = true := by
          simpa using unbroken
        rw [laid.find?_of_broken broken, find?_without_comment flagged,
          if_neg (kept.resolve_right unbroken)]
    exact ⟨found, refusedAs_of_find? found⟩
  · intro comment broken
    rw [laid.find?_of_broken broken, find?_without_comment flagged, if_pos comment]

end

/-- A second statement in small letters between a tab and a line break. -/
theorem laidOut_refused_statement :
    DangerousPattern.find? "id = 1; DROP TABLE t" = some .stackedStatement ∧
      LaidOut "id = 1; DROP TABLE t" "\t" "ID = 1; Drop table T" " \r\n" ∧
      RefusedAs .stackedStatement ("\t" ++ "ID = 1; Drop table T" ++ " \r\n") := by
  have flagged : DangerousPattern.find? "id = 1; DROP TABLE t" = some .stackedStatement := by decide
  have laid : LaidOut "id = 1; DROP TABLE t" "\t" "ID = 1; Drop table T" " \r\n" :=
    ⟨by decide, by decide, by decide⟩
  exact ⟨flagged, laid, ((laidOut_refused laid flagged).1 (.inl (by decide))).2⟩

/-- A line comment is noticed, but not before a line break, and then the text is accepted. -/
theorem comment_unnoticed :
    DangerousPattern.find? "a = 1 --" = some .trailingLineComment ∧
      LaidOut "a = 1 --" "" "a = 1 --" "\n" ∧
      DangerousPattern.find? ("" ++ "a = 1 --" ++ "\n") = none ∧
      Validator.rawFault? "a = 1 --\n" none = none ∧
      ∀ k id, Compiler.criteriaOfPredicate k id (.raw "a = 1 --\n" none) =
        .ok (.raw "a = 1 --\n" []) := by
  refine ⟨by decide, ⟨rfl, by decide, by decide⟩, by decide, by decide, fun k id => rfl⟩

end RowFilter
