import Mathlib.Data.List.Nodup
import RowFilter.Compilation.Search
import RowFilter.Proofs.Criteria.Names
import RowFilter.Proofs.Criteria.Nodes

/-! # Which fields a search tests

A search is made of one test for each name it is asked to look into, where the catalogue has a
field of that name which can match: any field of text, and a numeric field where the text is a
number that it can hold. It asks for nothing else. The names come from the client and are taken
as they are, so a field that is named twice is tested twice, and the tests are no more than the
fields of the catalogue only as long as none is.
-/

namespace RowFilter.GlobalSearch

open Criteria

/-- The number that a text stands for, if it is finite. -/
def number? (text : String) : Option Double :=
  (ExtendedDouble.ofText? text).bind ExtendedDouble.finite?

/-- The test of a field of some kind, if it can match. -/
def test? (text : String) (kind : FieldKind) : Option Constraint :=
  if kind.isText then some (.contains text)
  else if kind.isNumeric then
    ((number? text).bind fun d => exactNumber? d kind).map .eq
  else none

/-- The names to look into: those asked for, or all. -/
def asked (schema : Schema) (fields : Option (List String)) : List String :=
  fields.getD schema.fields.names

/-- The test of the field of this name, if there is one and it can match. -/
def testOf? (schema : Schema) (text name : String) : Option Constraint :=
  (schema.fields.get? name).bind fun config => test? text config.kind

/-- The names to look into that are tested, as often as they are asked for. -/
def searched (schema : Schema) (text : String) (fields : Option (List String)) : List String :=
  (asked schema fields).filter fun name => (testOf? schema text name).isSome

def part? (schema : Schema) (text name : String) : Option Criteria :=
  (testOf? schema text name).map (.field name)

def parts (schema : Schema) (text : String) (fields : Option (List String)) : List Criteria :=
  (asked schema fields).filterMap (part? schema text)

section Parts

variable {schema : Schema} {text : String} {fields : Option (List String)}

theorem fragment?_eq (text name : String) (kind : FieldKind) :
    fragment? text (number? text) (name, kind) = (test? text kind).map (.field name) := by
  unfold fragment? test?
  dsimp only
  split
  · rfl
  · split
    · cases (number? text).bind fun d => exactNumber? d kind <;> rfl
    · rfl

/-- The whole catalogue is searched as if all its names were asked for. -/
theorem parts_eq :
    (candidates schema fields).filterMap (fragment? text (number? text)) =
      parts schema text fields := by
  unfold parts asked candidates
  cases fields with
  | some names =>
      rw [List.filterMap_filterMap]
      apply List.filterMap_congr
      intro name _
      unfold part? testOf?
      cases schema.fields.get? name with
      | none => rfl
      | some config => exact fragment?_eq text name config.kind
  | none =>
      rw [Option.getD_none, NameMap.names, List.filterMap_map, List.filterMap_map]
      apply List.filterMap_congr
      rintro ⟨name, config⟩ stands
      simp only [Function.comp_apply, part?, testOf?, NameMap.get?_of_mem stands,
        Option.bind_some, fragment?_eq]

theorem mem_parts {part : Criteria} :
    part ∈ parts schema text fields ↔
      ∃ name ∈ asked schema fields, ∃ test, testOf? schema text name = some test ∧
        part = .field name test := by
  simp only [parts, List.mem_filterMap, part?, Option.map_eq_some_iff, eq_comm (b := part)]

theorem leaves_parts : (parts schema text fields).flatMap leaves = parts schema text fields := by
  apply flatMap_leaves_of_isLeaf
  intro part stands
  obtain ⟨_, _, _, _, rfl⟩ := mem_parts.mp stands
  rfl

theorem namesIn_parts : namesIn (parts schema text fields) = searched schema text fields := by
  unfold parts searched
  induction asked schema fields with
  | nil => rfl
  | cons name rest ih =>
      cases found : testOf? schema text name with
      | none =>
          rw [List.filterMap_cons_none (by rw [part?, found]; rfl), ih,
            List.filter_cons_of_neg (by simp [found])]
      | some test =>
          rw [List.filterMap_cons_some (by rw [part?, found]; rfl), namesIn, ih,
            List.filter_cons_of_pos (by simp [found])]
          rfl

theorem length_parts :
    (parts schema text fields).length = (searched schema text fields).length := by
  simp only [parts, searched, List.length_filterMap_eq_countP, List.countP_eq_length_filter,
    part?, Option.isSome_map]

theorem parts_eq_nil : parts schema text fields = [] ↔ searched schema text fields = [] := by
  rw [← List.length_eq_zero_iff, length_parts, List.length_eq_zero_iff]

/-- Every test says something. -/
theorem substantive_parts :
    substantive (parts schema text fields) = parts schema text fields := by
  apply List.filter_eq_self.mpr
  intro part stands
  obtain ⟨_, _, _, _, rfl⟩ := mem_parts.mp stands
  rfl

theorem leaves_or_parts :
    (Criteria.or (parts schema text fields)).leaves = parts schema text fields := by
  rw [Criteria.or, (joined_combine Joined.any _).leaves_eq, substantive_parts, leaves_parts]

theorem testedNames_or_parts :
    (Criteria.or (parts schema text fields)).testedNames = searched schema text fields := by
  rw [Criteria.or, testedNames_combine fun _ => rfl, namesIn_parts]

theorem isEmpty_or_parts :
    (Criteria.or (parts schema text fields)).isEmpty = (parts schema text fields).isEmpty := by
  rw [Criteria.or, isEmpty_combine fun _ => rfl, substantive_parts]

end Parts

section Build

variable {schema : Schema} {search : String} {fields : Option (List String)} {limits : Limits}

theorem build_eq :
    build schema search fields limits =
      if (Unicode.trim search).isEmpty then .ok none
      else if limits.maxStringLength < (Unicode.trim search).length then
        .error (.stringTooLong conditionId (Unicode.trim search).length limits.maxStringLength)
      else if (parts schema (Unicode.trim search) fields).isEmpty then .ok none
      else .ok (some (.or (parts schema (Unicode.trim search) fields))) := by
  unfold build
  dsimp only
  rw [← number?, parts_eq, isEmpty_or_parts]
  split
  · rfl
  · split
    · rfl
    · split <;> rfl

/-- A search of a text within the limits gives criteria if there is a field to test. -/
theorem build_eq_ok_some {c : Criteria} :
    build schema search fields limits = .ok (some c) ↔
      (Unicode.trim search).isEmpty = false ∧
        (Unicode.trim search).length ≤ limits.maxStringLength ∧
        searched schema (Unicode.trim search) fields ≠ [] ∧
        c = .or (parts schema (Unicode.trim search) fields) := by
  rw [build_eq, Ne, ← parts_eq_nil, ← List.isEmpty_iff, ← Nat.not_lt]
  split
  · simp [*]
  · split
    · simp [*]
    · split
      · simp [*]
      · simp [*, eq_comm]

theorem build_eq_ok_none :
    build schema search fields limits = .ok none ↔
      (Unicode.trim search).isEmpty = true ∨
        (Unicode.trim search).length ≤ limits.maxStringLength ∧
          searched schema (Unicode.trim search) fields = [] := by
  rw [build_eq, ← parts_eq_nil, ← List.isEmpty_iff, ← Nat.not_lt]
  split
  · simp [*]
  · split
    · simp [*]
    · split <;> simp [*]

/-- The search of one field is the test of that field. -/
theorem build_one (filled : (Unicode.trim search).isEmpty = false)
    (fits : (Unicode.trim search).length ≤ limits.maxStringLength) (name : String) :
    build schema search (some [name]) limits =
      .ok (part? schema (Unicode.trim search) name) := by
  have alone : parts schema (Unicode.trim search) (some [name]) =
      (part? schema (Unicode.trim search) name).toList := by
    rw [parts, asked, Option.getD_some, List.filterMap_eq_flatMap_toList, List.flatMap_singleton]
  rw [build_eq, if_neg (by simp [filled]), if_neg (Nat.not_lt.mpr fits), alone, part?]
  cases testOf? schema (Unicode.trim search) name <;> rfl

/-- A text field can match any text, and a numeric field a number. -/
theorem searchable_of_test? {text : String} {kind : FieldKind} {test : Constraint}
    (found : test? text kind = some test) : kind.isText = true ∨ kind.isNumeric = true := by
  unfold test? at found
  split at found
  · exact .inl ‹_›
  · split at found
    · exact .inr ‹_›
    · cases found

theorem mem_names_of_searched {text name : String} (tested : name ∈ searched schema text fields) :
    name ∈ schema.fields.names := by
  obtain ⟨test, found⟩ := Option.isSome_iff_exists.mp (List.mem_filter.mp tested).2
  obtain ⟨config, known, -⟩ := Option.bind_eq_some_iff.mp found
  exact NameMap.mem_names_of_get? known

/-- A name is tested as often as it is asked for. -/
theorem nodup_searched_iff {text : String} :
    (searched schema text fields).Nodup ↔
      ∀ name ∈ searched schema text fields, (asked schema fields).count name = 1 := by
  rw [List.nodup_iff_count_eq_one]
  apply forall₂_congr
  intro name tested
  rw [searched, List.count_filter]
  exact (List.mem_filter.mp tested).2

/-- The criteria of a search are the disjunction of one test for each field that can match, as
often as its name is asked for. They are about no other fields; none is tested twice exactly if
none of them is named twice, and only then are there surely no more tests than fields. A search of
the whole catalogue names none twice. -/
theorem build_scope {c : Criteria} (found : build schema search fields limits = .ok (some c)) :
    c.testedNames = searched schema (Unicode.trim search) fields ∧
    c = .or c.leaves ∧
    c.leaves.length = c.testedNames.length ∧
    (∀ part ∈ c.leaves, ∃ name config test, part = .field name test ∧
      name ∈ asked schema fields ∧ schema.fields.get? name = some config ∧
      test? (Unicode.trim search) config.kind = some test ∧
      (config.kind.isText = true ∨ config.kind.isNumeric = true)) ∧
    (c.testedNames.Nodup ↔ ∀ name ∈ c.testedNames, (asked schema fields).count name = 1) ∧
    (c.testedNames.Nodup → c.leaves.length ≤ schema.fields.size) ∧
    (fields = none → c.testedNames.Nodup) := by
  obtain ⟨-, -, -, rfl⟩ := build_eq_ok_some.mp found
  rw [testedNames_or_parts, leaves_or_parts]
  refine ⟨rfl, rfl, length_parts, ?_, nodup_searched_iff, ?_, ?_⟩
  · intro part stands
    obtain ⟨name, named, test, tested, rfl⟩ := mem_parts.mp stands
    obtain ⟨config, known, suits⟩ := Option.bind_eq_some_iff.mp tested
    exact ⟨name, config, test, rfl, named, known, suits, searchable_of_test? suits⟩
  · intro once
    rw [length_parts]
    have within := once.length_le_of_subset fun name => mem_names_of_searched
    rwa [NameMap.names, List.length_map] at within
  · rintro rfl
    exact schema.fields.nodup_names.filter _

/-- Of five names one is unknown, one is of a kind that is not searched, and one is of a numeric
field where the text is no number. -/
theorem build_scope_named :
    let schema : Schema :=
      { name := "User", fields := .ofList [("name", {}), ("stock", { kind := .integer }),
        ("active", { kind := .boolean }), ("note", { kind := .text })] }
    let fields := ["stock", "ghost", "active", "note", "name"]
    let c : Criteria := .anyOf [.field "note" (.contains "x"), .field "name" (.contains "x")]
    build schema " x " (some fields) {} = .ok (some c) ∧ c.testedNames = ["note", "name"] ∧
      c.testedNames.Nodup ∧ c.leaves.length ≤ schema.fields.size := by
  intro schema fields c
  have found : build schema " x " (some fields) {} = .ok (some c) := rfl
  obtain ⟨-, -, -, -, once, few, -⟩ := build_scope found
  have distinct : c.testedNames.Nodup := once.mpr (by decide)
  exact ⟨found, rfl, distinct, few distinct⟩

/-- A field that is named twice is tested twice, in a catalogue of one field. -/
theorem field_named_twice :
    let schema : Schema := { name := "User", fields := .ofList [("name", {})] }
    let part : Criteria := .field "name" (.contains "x")
    build schema "x" (some ["name", "name"]) {} = .ok (some (.anyOf [part, part])) ∧
      (Criteria.anyOf [part, part]).testedNames.count "name" = 2 ∧
      schema.fields.size < (Criteria.anyOf [part, part]).leaves.length := by
  intro schema part
  exact ⟨rfl, rfl, by decide⟩

end Build

end RowFilter.GlobalSearch
