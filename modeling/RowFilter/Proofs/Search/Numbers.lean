import RowFilter.Criteria.Evaluation
import RowFilter.Pattern.Matching
import RowFilter.Proofs.Number.DecimalText
import RowFilter.Proofs.Number.Integers
import RowFilter.Proofs.Search.Scope

/-! # Searching for a number that is shown

Both the text that is searched for and the values of a row go through doubles. Up to `2 ^ 53` in
magnitude nothing is lost on either way, so the search of an integer field for the text of an
integer finds the rows that hold this integer and no others. From there on the search takes the
number for one with a fraction, which no integer field can hold, and tests nothing.
-/

namespace RowFilter

namespace Json

theorem numeralKey?_ofInt (i : Int) :
    (ofInt i).numeralKey? = (JsonNumber.int i).toExtended.key? := by
  rw [ofInt, numeralKey?, numeral?, Option.bind_some]

/-- As a number, an integer below `2 ^ 53` in magnitude is equal to no other integer. -/
theorem agrees_ofInt {i : Int} (fits : i.natAbs < Nat.pow 2 53) (j : Int) :
    (ofInt j).agrees (ofInt i) = decide (j = i) := by
  have numerals : (ofInt j).agrees (ofInt i) = numerallyEqual (ofInt j) (ofInt i) := by
    rw [ofInt, ofInt, agrees]
  have same := JsonNumber.key?_int_inj (j := j) fits
  rw [numerals, numerallyEqual, numeralKey?_ofInt, numeralKey?_ofInt]
  rw [JsonNumber.key?_int, JsonNumber.key?_int] at same ⊢
  simp only [← same, Option.some.injEq]
  exact beq_eq_decide _ _

theorem evaluate_eq_ofInt [PatternEngine] {i j : Int} (fits : i.natAbs < Nat.pow 2 53) {row : Row}
    {name : String} (shown : member? row name = some (ofInt j)) :
    (Criteria.field name (.eq (ofInt i))).evaluate row = .ok (decide (j = i)) := by
  rw [← agrees_ofInt fits, Criteria.evaluate, shown]
  rfl

end Json

namespace GlobalSearch

/-- What is read of the text of an integer is the double nearest to it, if there is one. -/
theorem number?_intText (i : Int) :
    number? (Json.intText i) =
      if (Nat.toDigits 10 i.natAbs).length ≤ 400 then Double.ofInt? i else none := by
  rw [number?, Json.ofText?_intText, Option.bind_some]
  by_cases zero : i = 0
  · subst zero
    decide +kernel
  · have positive : i.natAbs ≠ 0 := Int.natAbs_ne_zero.mpr zero
    split
    · rename_i short
      rw [Numeral.nearestTo_whole _ positive short, Numeral.finite?_ofRounded, Double.ofInt?]
    · rename_i long
      rw [Numeral.nearestTo_long _ positive (Nat.not_le.mp long)]
      rfl

section IntegerField

variable {i : Int} {d : Double}

theorem exactNumber?_of_lt (whole : d.toInt? = some i) (fits : i.natAbs < Nat.pow 2 53)
    (kind : FieldKind) : exactNumber? d kind = some (.ofInt i) := by
  rw [exactNumber?, whole]
  exact if_pos fits

theorem exactNumber?_of_ge (beyond : ∀ j, d.toInt? = some j → Nat.pow 2 53 ≤ j.natAbs) :
    exactNumber? d .integer = none := by
  rw [exactNumber?]
  cases whole : d.toInt? with
  | none => rfl
  | some j => exact if_neg (Nat.not_lt.mpr (beyond j whole))

theorem test?_intText_of_lt (fits : i.natAbs < Nat.pow 2 53) :
    test? (Json.intText i) .integer = some (.eq (.ofInt i)) := by
  have short : (Nat.toDigits 10 i.natAbs).length ≤ 16 :=
    (Nat.length_toDigits_le_iff (by decide) (by decide)).mpr (Nat.lt_trans fits (by decide))
  obtain ⟨d, rounded, whole⟩ := Double.exists_ofInt? fits
  rw [test?, if_neg (by decide), if_pos (by decide), number?_intText,
    if_pos (Nat.le_trans short (by decide)), rounded, Option.bind_some,
    exactNumber?_of_lt whole fits]
  rfl

/-- Of an integer from `2 ^ 53` on, the double nearest to it is no exact number. -/
theorem test?_intText_of_ge (beyond : Nat.pow 2 53 ≤ i.natAbs) :
    test? (Json.intText i) .integer = none := by
  have inexact : ((number? (Json.intText i)).bind fun d => exactNumber? d .integer) = none := by
    rw [number?_intText]
    split
    · cases rounded : Double.ofInt? i with
      | none => rfl
      | some d =>
          apply exactNumber?_of_ge
          intro j whole
          exact Double.natAbs_of_toInt?_ofInt? beyond rounded whole
    · rfl
  rw [test?, if_neg (by decide), if_pos (by decide), inexact]
  rfl

end IntegerField

section Search

variable {schema : Schema} {name : String} {config : FieldConfig} {limits : Limits}

/-- The search of an integer field for the text of an integer is one test or none. -/
theorem build_intText (known : schema.fields.get? name = some config)
    (whole : config.kind = .integer) {i : Int}
    (fits : (Json.intText i).length ≤ limits.maxStringLength) :
    build schema (Json.intText i) (some [name]) limits =
      .ok ((test? (Json.intText i) .integer).map (.field name)) := by
  have trimmed := Json.trim_intText i
  have filled : (Unicode.trim (Json.intText i)).isEmpty = false := by
    rw [trimmed, Json.isEmpty_intText]
  rw [build_one filled (trimmed.symm ▸ fits), trimmed, part?, testOf?, known, Option.bind_some,
    whole]

/-- Below `2 ^ 53` in magnitude, the search of an integer field for the text of an integer gives
criteria, and they hold of exactly the rows that have this integer in the field. From there on it
gives none, and rows that have the integer are not told from others. -/
theorem shown_integer_found [PatternEngine] (known : schema.fields.get? name = some config)
    (whole : config.kind = .integer) (i : Int)
    (fits : (Json.intText i).length ≤ limits.maxStringLength) :
    (i.natAbs < Nat.pow 2 53 →
      ∃ c, build schema (Json.intText i) (some [name]) limits = .ok (some c) ∧
        ∀ row j, Json.member? row name = some (.ofInt j) →
          c.evaluate row = .ok (decide (j = i))) ∧
    (Nat.pow 2 53 ≤ i.natAbs →
      build schema (Json.intText i) (some [name]) limits = .ok none) := by
  rw [build_intText known whole fits]
  constructor
  · intro exact
    rw [test?_intText_of_lt exact]
    exact ⟨_, rfl, fun row j shown => Json.evaluate_eq_ofInt exact shown⟩
  · intro beyond
    rw [test?_intText_of_ge beyond]
    rfl

end Search

/-- The greatest integer that is found, under limits that its text just fits. -/
theorem shown_integer_found_greatest :
    let config : FieldConfig := { kind := .integer }
    let schema : Schema := { name := "Item", fields := .ofList [("n", config)] }
    let limits : Limits := { maxStringLength := 16 }
    let i : Int := 9007199254740991
    schema.fields.get? "n" = some config ∧ (Json.intText i).length ≤ limits.maxStringLength ∧
      ∃ c, build schema (Json.intText i) (some ["n"]) limits = .ok (some c) ∧
        c.evaluate [("n", .ofInt i)] = .ok true ∧
        c.evaluate [("n", .ofInt (i + 1))] = .ok false := by
  intro config schema limits i
  have known : schema.fields.get? "n" = some config := rfl
  have fits : (Json.intText i).length ≤ limits.maxStringLength := by decide
  obtain ⟨c, found, holds⟩ := (shown_integer_found known rfl i fits).1 (by decide)
  exact ⟨known, fits, c, found, holds _ i rfl, holds _ (i + 1) rfl⟩

/-- The next integer is shown and can be filtered for, but the search for it tests nothing and is
left out of the request. -/
theorem shown_integer_not_found :
    let schema : Schema := { name := "Item", fields := .ofList [("n", { kind := .integer })] }
    let i : Int := 9007199254740992
    let row : Row := [("n", .ofInt i)]
    Json.intText i = "9007199254740992" ∧
      build schema (Json.intText i) (some ["n"]) {} = .ok none ∧
      (Criteria.field "n" (.eq (.ofInt i))).evaluate row = .ok true ∧
      ({ schema : Compiler }).criteriaOfRequest
        { globalSearch := some (Json.intText i), searchFields := some ["n"] } = .ok .empty := by
  intro schema i row
  have beyond : Nat.pow 2 53 ≤ i.natAbs := by decide
  have nothing : build schema (Json.intText i) (some ["n"]) {} = .ok none := by
    have known : schema.fields.get? "n" = some { kind := .integer } := rfl
    rw [build_intText known rfl (by decide), test?_intText_of_ge beyond]
    rfl
  have equal : (Json.ofInt i).agrees (.ofInt i) = true := by decide +kernel
  refine ⟨by decide, nothing, congrArg Except.ok equal, ?_⟩
  exact Compiler.criteriaOfRequest_eq_ok.mpr ⟨.empty, none, rfl, nothing, rfl⟩

end GlobalSearch

end RowFilter
