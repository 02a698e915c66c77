import RowFilter.Json.Parser
import RowFilter.Proofs.Number.DecimalText

/-! # Strings and numbers in JSON texts

A string is read back from the text that is written for it, character by character: each is
written as itself or behind a backslash that gives it back. A number is taken off the front of a
text as far as it goes, so it is read the same in a larger text if what follows does not go on
with it. Nearly all doubles are read back from their texts but not all are, so that is assumed of
the numbers where it is needed.
-/

namespace RowFilter

namespace Json

/-- White space between the parts of a text. -/
def Blank (c : Char) : Prop := c = ' ' ∨ c = '\n' ∨ c = '\t' ∨ c = '\r'

instance (c : Char) : Decidable (Blank c) :=
  inferInstanceAs (Decidable (c = ' ' ∨ c = '\n' ∨ c = '\t' ∨ c = '\r'))

/-- What no value begins with: white space, and what ends a container. -/
def isBlankOrEnd (c : Char) : Bool := [' ', '\n', '\t', '\r', ']', '\x7d'].contains c

theorem not_blank_of_isBlankOrEnd {c : Char} (other : isBlankOrEnd c = false) : ¬ Blank c := by
  rintro (rfl | rfl | rfl | rfl) <;> cases other

theorem skipBlank_append {blanks : List Char} (blank : ∀ c ∈ blanks, Blank c) (cs : List Char) :
    skipBlank (blanks ++ cs) = skipBlank cs := by
  induction blanks with
  | nil => rfl
  | cons c rest ih =>
      obtain ⟨here, others⟩ := List.forall_mem_cons.mp blank
      exact (if_pos here).trans (ih others)

theorem skipBlank_cons {c : Char} (visible : ¬ Blank c) (cs : List Char) :
    skipBlank (c :: cs) = c :: cs := if_neg visible

theorem skipBlank_lineBreak (depth : Nat) (cs : List Char) :
    skipBlank ((lineBreak depth).toList ++ cs) = skipBlank cs := by
  refine skipBlank_append (fun c stands => ?_) cs
  rw [lineBreak, String.toList_append, @String.toList_ofList (List.replicate (2 * depth) ' '),
    List.mem_append] at stands
  rcases stands with mark | space
  · exact .inr (.inl (List.mem_singleton.mp mark))
  · exact .inl (List.eq_of_mem_replicate space)

/-! ## Strings -/

theorem hexDigit?_hexDigit : ∀ n < 16, hexDigit? (hexDigit n) = some n := by decide

/-- The escape of a control character stands for it. -/
theorem escape?_control {c : Char} (control : c.toNat < 32) (cs : List Char) :
    escape? ('u' :: '0' :: '0' :: hexDigit (c.toNat / 16) :: hexDigit (c.toNat % 16) :: cs) =
      some (c, cs) := by
  have high := hexDigit?_hexDigit (c.toNat / 16) (by omega)
  have low := hexDigit?_hexDigit (c.toNat % 16) (by omega)
  have zero : hexDigit? '0' = some 0 := rfl
  have code : 4096 * 0 + 256 * 0 + 16 * (c.toNat / 16) + c.toNat % 16 = c.toNat := by omega
  have noHigh : ¬ (0xd800 ≤ c.toNat ∧ c.toNat < 0xdc00) := by omega
  have noLow : ¬ (0xdc00 ≤ c.toNat ∧ c.toNat < 0xe000) := by omega
  simp only [escape?, escapedUnit?, codeUnit?, high, low, zero, Option.bind_eq_bind,
    Option.bind_some, code, if_neg noHigh, if_neg noLow, Char.ofNat_toNat]

/-- A character is written as itself, or behind a backslash that gives it back. -/
theorem escapeChar_cases (c : Char) :
    (∃ tail, escapeChar c = '\\' :: tail ∧ ∀ cs, escape? (tail ++ cs) = some (c, cs)) ∨
      escapeChar c = [c] ∧ c ≠ '"' ∧ c ≠ '\\' ∧ ¬ c.toNat < 32 := by
  unfold escapeChar
  split
  · exact .inl ⟨['"'], rfl, fun _ => rfl⟩
  · exact .inl ⟨['\\'], rfl, fun _ => rfl⟩
  · exact .inl ⟨['n'], rfl, fun _ => rfl⟩
  · exact .inl ⟨['r'], rfl, fun _ => rfl⟩
  · exact .inl ⟨['t'], rfl, fun _ => rfl⟩
  next quote backslash _ _ _ =>
    split
    next code =>
      refine .inl ⟨['b'], rfl, fun _ => ?_⟩
      rw [← Char.ofNat_toNat c, code]
      rfl
    split
    next code =>
      refine .inl ⟨['f'], rfl, fun _ => ?_⟩
      rw [← Char.ofNat_toNat c, code]
      rfl
    split
    next control => exact .inl ⟨_, rfl, escape?_control control⟩
    next plain => exact .inr ⟨rfl, quote, backslash, plain⟩

theorem length_le_flatMap_escapeChar (cs : List Char) :
    cs.length ≤ (cs.flatMap escapeChar).length := by
  induction cs with
  | nil => exact Nat.le_refl 0
  | cons c rest ih =>
      have written : 0 < (escapeChar c).length := by
        rcases escapeChar_cases c with ⟨tail, same, -⟩ | ⟨same, -⟩ <;> simp [same]
      rw [List.flatMap_cons, List.length_append, List.length_cons]
      omega

/-- A character is read back from the way it is written in a string. -/
theorem stringBody?_escapeChar (fuel : Nat) (read : List Char) (c : Char) (cs : List Char) :
    stringBody? (fuel + 1) read (escapeChar c ++ cs) = stringBody? fuel (c :: read) cs := by
  rcases escapeChar_cases c with ⟨tail, same, back⟩ | ⟨same, quote, backslash, plain⟩
  · rw [same, List.cons_append, stringBody?, back]
  · rw [same, List.singleton_append, stringBody?, if_neg plain]
    · exact fun h => quote h
    · exact fun h => backslash h

/-- So is a string, up to its closing quote. -/
theorem stringBody?_flatMap {fuel : Nat} (read cs rest : List Char) (enough : cs.length < fuel) :
    stringBody? fuel read (cs.flatMap escapeChar ++ '"' :: rest) =
      some (String.ofList (read.reverse ++ cs), rest) := by
  induction cs generalizing fuel read with
  | nil =>
      obtain ⟨fuel, rfl⟩ := Nat.exists_eq_add_one.mpr enough
      rw [List.flatMap_nil, List.nil_append, stringBody?, List.append_nil]
  | cons c others ih =>
      obtain ⟨fuel, rfl⟩ := Nat.exists_eq_add_one.mpr (Nat.lt_of_le_of_lt (Nat.zero_le _) enough)
      rw [List.flatMap_cons, List.append_assoc, stringBody?_escapeChar,
        ih (c :: read) (Nat.lt_of_succ_lt_succ enough), List.reverse_cons, List.append_assoc,
        List.singleton_append]

theorem toList_quote (s : String) :
    (quote s).toList = '"' :: (s.toList.flatMap escapeChar ++ ['"']) := by
  rw [quote, String.toList_append, String.toList_append,
    @String.toList_ofList (s.toList.flatMap escapeChar), List.append_assoc]
  rfl

/-- What follows the opening quote of a string that is written out is read as the string. -/
theorem stringBody?_quote {fuel : Nat} (s : String) (rest : List Char)
    (enough : (quote s).toList.length ≤ fuel) :
    stringBody? fuel [] (s.toList.flatMap escapeChar ++ '"' :: rest) = some (s, rest) := by
  have short := length_le_flatMap_escapeChar s.toList
  rw [toList_quote, List.length_cons, List.length_append] at enough
  rw [stringBody?_flatMap [] s.toList rest (by omega), List.reverse_nil, List.nil_append,
    String.ofList_toList]

/-! ## Numbers -/

/-- What follows does not go on with a number. -/
def Stops (rest : List Char) : Prop :=
  ∀ c ∈ rest.head?, Numeral.digitValue? c = none ∧ c ≠ '.' ∧ c ≠ 'e' ∧ c ≠ 'E'

/-- A reader takes the front of a text, and the same where something else follows. -/
def ReadsFront (read : List Char → Option (α × List Char)) : Prop :=
  ∀ cs a left, read cs = some (a, left) →
    left <:+ cs ∧ ∀ rest, Stops rest → read (cs ++ rest) = some (a, left ++ rest)

theorem takeDigits_front {cs left : List Char} {ds : List Nat}
    (taken : Numeral.takeDigits cs = (ds, left)) :
    left <:+ cs ∧ ∀ rest, Stops rest → Numeral.takeDigits (cs ++ rest) = (ds, left ++ rest) := by
  induction cs generalizing ds with
  | nil =>
      cases taken
      refine ⟨List.suffix_rfl, fun rest stops => ?_⟩
      cases rest with
      | nil => rfl
      | cons c others => rw [List.nil_append, Numeral.takeDigits, (stops c rfl).1]
  | cons c others ih =>
      rw [Numeral.takeDigits] at taken
      cases known : Numeral.digitValue? c with
      | none =>
          rw [known] at taken
          cases taken
          refine ⟨List.suffix_rfl, fun rest _ => ?_⟩
          rw [List.cons_append, Numeral.takeDigits, known]
      | some d =>
          obtain ⟨more, after, parted⟩ : ∃ more after, Numeral.takeDigits others = (more, after) :=
            ⟨_, _, rfl⟩
          rw [known, parted] at taken
          cases taken
          obtain ⟨behind, longer⟩ := ih parted
          refine ⟨behind.trans (List.suffix_cons c others), fun rest stops => ?_⟩
          rw [List.cons_append, Numeral.takeDigits, known, longer rest stops]

theorem fraction?_front : ReadsFront fraction? := by
  intro cs fraction left read
  unfold fraction? at read
  split at read
  next others =>
    cases taken : Numeral.takeDigits others with
    | mk ds after =>
      rw [taken] at read
      cases ds with
      | nil => cases read
      | cons d more =>
        cases read
        obtain ⟨behind, longer⟩ := takeDigits_front taken
        refine ⟨behind.trans (List.suffix_cons '.' others), fun rest stops => ?_⟩
        rw [List.cons_append, fraction?, longer rest stops]
  next noPoint =>
    cases read
    refine ⟨List.suffix_rfl, fun rest stops => ?_⟩
    unfold fraction?
    split
    next others same =>
      cases cs with
      | nil =>
        rw [List.nil_append] at same
        rw [same] at stops
        exact absurd rfl (stops '.' rfl).2.1
      | cons c more =>
        cases same
        exact absurd rfl (noPoint more)
    next => rfl

/-- What an exponent reads behind its mark and its sign. -/
def exponentDigits? (sign : Int) (body : List Char) : Option (Option Int × List Char) :=
  match Numeral.takeDigits body with
  | ([], _) => none
  | (ds, after) => some (some (sign * Numeral.ofDigits ds), after)

theorem exponentDigits?_front (sign : Int) : ReadsFront (exponentDigits? sign) := by
  intro cs exponent left read
  unfold exponentDigits? at read
  cases taken : Numeral.takeDigits cs with
  | mk ds after =>
      rw [taken] at read
      cases ds with
      | nil => cases read
      | cons d more =>
          cases read
          obtain ⟨behind, longer⟩ := takeDigits_front taken
          refine ⟨behind, fun rest stops => ?_⟩
          rw [exponentDigits?, longer rest stops]

/-- The sign of an exponent, and what stands behind it. -/
def exponentSign : List Char → Int × List Char
  | '-' :: rest => (-1, rest)
  | '+' :: rest => (1, rest)
  | text => (1, text)

theorem exponentSign_of_ne {c : Char} (minus : c ≠ '-') (plus : c ≠ '+') (text : List Char) :
    exponentSign (c :: text) = (1, c :: text) := by
  unfold exponentSign
  split
  next given => exact absurd (List.cons.inj given).1 minus
  next given => exact absurd (List.cons.inj given).1 plus
  next => rfl

theorem exponent?_of_mark {mark : Char} (marked : mark = 'e' ∨ mark = 'E') (text : List Char) :
    exponent? (mark :: text) =
      exponentDigits? (exponentSign text).1 (exponentSign text).2 := if_pos marked

/-- Where an exponent follows, it is the digits behind the mark and a sign, if there is one. -/
theorem exponent?_mark {mark : Char} (marked : mark = 'e' ∨ mark = 'E') (cs : List Char) :
    ∃ sign body, exponent? (mark :: cs) = exponentDigits? sign body ∧ body <:+ cs ∧
      ∀ c more, body = c :: more → ∀ rest,
        exponent? (mark :: (cs ++ rest)) = exponentDigits? sign (body ++ rest) := by
  have opened := exponent?_of_mark marked
  cases cs with
  | nil => exact ⟨1, [], opened [], List.suffix_rfl, fun c more same => nomatch same⟩
  | cons c others =>
      by_cases minus : c = '-'
      · subst minus
        exact ⟨-1, others, opened _, List.suffix_cons _ _, fun _ _ _ rest => opened _⟩
      by_cases plus : c = '+'
      · subst plus
        exact ⟨1, others, opened _, List.suffix_cons _ _, fun _ _ _ rest => opened _⟩
      · have unsigned (text : List Char) :
            exponent? (mark :: c :: text) = exponentDigits? 1 (c :: text) := by
          rw [opened, exponentSign_of_ne minus plus]
        exact ⟨1, c :: others, unsigned others, List.suffix_rfl, fun _ _ _ rest => unsigned _⟩

theorem exponent?_front : ReadsFront exponent? := by
  intro cs exponent left read
  cases cs with
  | nil =>
      cases read
      refine ⟨List.suffix_rfl, fun rest stops => ?_⟩
      cases rest with
      | nil => rfl
      | cons c others =>
          have none := stops c rfl
          exact if_neg (not_or.mpr none.2.2)
  | cons mark others =>
      by_cases marked : mark = 'e' ∨ mark = 'E'
      · obtain ⟨sign, body, same, behind, longer⟩ := exponent?_mark marked others
        rw [same] at read
        obtain ⟨left_behind, more⟩ := exponentDigits?_front sign body exponent left read
        refine ⟨(left_behind.trans behind).trans (List.suffix_cons mark others), fun rest stops => ?_⟩
        cases body with
        | nil => cases read
        | cons c tail =>
            rw [List.cons_append, longer c tail rfl rest]
            exact more rest stops
      · have none (text : List Char) : exponent? (mark :: text) = some (none, mark :: text) :=
          if_neg marked
        rw [none] at read
        cases read
        exact ⟨List.suffix_rfl, fun rest _ => none _⟩

theorem number?_front (negative : Bool) : ReadsFront (number? negative) := by
  intro cs v left read
  cases taken : Numeral.takeDigits cs with
  | mk whole after =>
      obtain ⟨behind, longer⟩ := takeDigits_front taken
      simp only [number?, taken] at read
      split at read
      · cases read
      next proper =>
        simp only [Option.bind_eq_bind, Option.bind_eq_some_iff] at read
        obtain ⟨⟨fraction, beyond⟩, point, ⟨exponent, last⟩, mark, same⟩ := read
        obtain ⟨rfl, rfl⟩ := Prod.mk.inj (Option.some.inj same)
        obtain ⟨behind', longer'⟩ := fraction?_front after fraction beyond point
        obtain ⟨behind'', longer''⟩ := exponent?_front beyond exponent last mark
        refine ⟨(behind''.trans behind').trans behind, fun rest stops => ?_⟩
        simp only [number?, longer rest stops, if_neg proper, Option.bind_eq_bind,
          longer' rest stops, longer'' rest stops, Option.bind_some]

/-- What a number reads, its sign included. -/
def signedNumber? : List Char → Option (Json × List Char)
  | '-' :: rest => number? true rest
  | cs => number? false cs

theorem signedNumber?_front : ReadsFront signedNumber? := by
  intro cs v left read
  unfold signedNumber? at read
  split at read
  next others =>
    obtain ⟨behind, longer⟩ := number?_front true others v left read
    exact ⟨behind.trans (List.suffix_cons '-' others), longer⟩
  next positive =>
    obtain ⟨behind, longer⟩ := number?_front false cs v left read
    refine ⟨behind, fun rest stops => ?_⟩
    rw [signedNumber?, longer rest stops]
    intro others same
    cases cs with
    | nil => cases read
    | cons c more =>
        cases same
        exact positive more rfl

/-- The characters that the text of a number is made of. -/
def isNumeral (c : Char) : Bool := c.isDigit || ['-', '+', '.', 'e'].contains c

theorem isNumeral_digits (n : Nat) : ∀ c ∈ Nat.toDigits 10 n, isNumeral c = true := by
  intro c stands
  rw [isNumeral, Nat.isDigit_of_mem_toDigits (by decide) (by decide) stands, Bool.true_or]

theorem isNumeral_layOut (x : DecimalDigits) :
    ∀ c ∈ Double.layOut x ['.', '0'], isNumeral c = true := by
  have zeros (count : Nat) : ∀ c ∈ List.replicate count '0', isNumeral c = true := by
    intro c stands
    rw [List.eq_of_mem_replicate stands]
    rfl
  have written := isNumeral_digits x.digits
  unfold Double.layOut Double.decimalText
  dsimp only
  split
  · simp only [List.forall_mem_append]
    exact ⟨⟨written, zeros _⟩, List.forall_mem_cons.mpr ⟨rfl, List.forall_mem_singleton.mpr rfl⟩⟩
  · have padded (count : Nat) :
        ∀ c ∈ List.replicate count '0' ++ Nat.toDigits 10 x.digits, isNumeral c = true :=
      List.forall_mem_append.mpr ⟨zeros count, written⟩
    rw [List.forall_mem_append, List.forall_mem_cons]
    exact ⟨fun c front => padded _ c (List.mem_of_mem_take front), rfl,
      fun c back => padded _ c (List.mem_of_mem_drop back)⟩

theorem isNumeral_signed {cs : List Char} (negative : Bool)
    (written : ∀ c ∈ cs, isNumeral c = true) :
    ∀ c ∈ (Double.signed negative cs).toList, isNumeral c = true := by
  rw [Double.signed, String.toList_ofList]
  cases negative with
  | false => exact written
  | true => exact List.forall_mem_cons.mpr ⟨rfl, written⟩

theorem isNumeral_literal (d : Double) : ∀ c ∈ d.literal.toList, isNumeral c = true := by
  unfold Double.literal
  dsimp only
  split
  · exact isNumeral_signed _ (isNumeral_layOut _)
  · refine isNumeral_signed _ (List.forall_mem_append.mpr ⟨?_, ?_⟩)
    · have written := isNumeral_digits d.shortestDigits.digits
      unfold Double.decimalText
      split
      next => exact fun c stands => nomatch stands
      next c single => rwa [single] at written
      next c rest several =>
        rw [several, List.forall_mem_cons] at written
        exact List.forall_mem_cons.mpr
          ⟨written.1, List.forall_mem_cons.mpr ⟨rfl, written.2⟩⟩
    · refine List.forall_mem_cons.mpr ⟨rfl, List.forall_mem_cons.mpr ⟨?_, isNumeral_digits _⟩⟩
      split <;> rfl

theorem isNumeral_text (n : JsonNumber) : ∀ c ∈ n.text.toList, isNumeral c = true := by
  cases n with
  | int i =>
      rw [JsonNumber.text, toList_intText, List.forall_mem_append]
      refine ⟨?_, isNumeral_digits _⟩
      split <;> simp [isNumeral]
  | double d => exact isNumeral_literal d
  | huge negative => exact List.all_eq_true.mp (by cases negative <;> rfl)

theorem isBlankOrEnd_of_isNumeral {c : Char} (numeral : isNumeral c = true) :
    isBlankOrEnd c = false := by
  rw [Bool.eq_false_iff]
  intro other
  rw [isBlankOrEnd, List.contains_eq_mem, decide_eq_true_eq] at other
  simp only [List.mem_cons, List.not_mem_nil, or_false] at other
  rcases other with rfl | rfl | rfl | rfl | rfl | rfl <;> cases numeral

theorem not_blank_of_isNumeral {c : Char} (numeral : isNumeral c = true) : ¬ Blank c :=
  not_blank_of_isBlankOrEnd (isBlankOrEnd_of_isNumeral numeral)

/-- A value that begins like a number is read as one. -/
theorem value?_signedNumber {c : Char} (numeral : isNumeral c = true) (fuel depth : Nat)
    (cs : List Char) : value? (fuel + 1) depth (c :: cs) = signedNumber? (c :: cs) := by
  rw [value?, skipBlank_cons (not_blank_of_isNumeral numeral)]
  split <;> try (next same => cases same <;> cases numeral)
  next rest same =>
    cases same
    rfl
  next noSign _ _ => exact (signedNumber?.eq_2 (c :: cs) noSign).symm

end Json

/-- A number that is read back from its text. -/
def JsonNumber.Returns (n : JsonNumber) : Prop := Json.ofText? n.text = some (.number n)

namespace Json

theorem signedNumber?_text {n : JsonNumber} (returns : n.Returns) :
    ∃ c cs, n.text.toList = c :: cs ∧ isNumeral c = true ∧
      signedNumber? (c :: cs) = some (.number n, []) := by
  have written := isNumeral_text n
  unfold JsonNumber.Returns ofText? at returns
  dsimp only at returns
  cases text : n.text.toList with
  | nil =>
      rw [text] at returns
      cases returns
  | cons c cs =>
      rw [text] at written returns
      have first := written c List.mem_cons_self
      rw [value?_signedNumber first] at returns
      split at returns
      next v left read =>
        have behind := (signedNumber?_front _ _ _ read).1
        cases left with
        | nil =>
            cases returns
            exact ⟨c, cs, rfl, first, read⟩
        | cons d more =>
            have visible := not_blank_of_isNumeral (written d (behind.mem List.mem_cons_self))
            rw [skipBlank_cons visible] at returns
            cases returns
      next => cases returns

theorem value?_number {n : JsonNumber} (returns : n.Returns) (fuel depth : Nat) {rest : List Char}
    (stops : Stops rest) :
    value? (fuel + 1) depth (n.text.toList ++ rest) = some (.number n, rest) := by
  obtain ⟨c, cs, text, first, read⟩ := signedNumber?_text returns
  rw [text, List.cons_append, value?_signedNumber first, ← List.cons_append]
  exact (signedNumber?_front _ _ _ read).2 rest stops

end Json

end RowFilter
