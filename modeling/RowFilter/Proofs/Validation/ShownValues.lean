import RowFilter.Pattern.Matching
import RowFilter.Proofs.Number.DecimalText
import RowFilter.Proofs.Validation.Events

/-! # What security events show

An event keeps a short form of the value that raised it, and a short form leaves objects and other
values as they are. Still what an event shows is a short string: the only values that raise one are
a raw text and an oversized operand, and what is oversized is a string or a list.
-/

namespace RowFilter

namespace SecurityEvent

/-- A short string, of which the short form is the string itself. -/
structure Short (s : String) : Prop where
  length_le : s.length ≤ shownLength + 3
  shortened_eq : shortened (.string s) = .string s

theorem shortened_of_le {s : String} (short : s.length ≤ shownLength) :
    shortened (.string s) = .string s := by
  rw [shortened, if_neg (Nat.not_lt.mpr short)]

theorem short_of_le {s : String} (short : s.length ≤ shownLength) : Short s :=
  ⟨Nat.le_add_right_of_le short, shortened_of_le short⟩

/-- What is left of a string that is cut short is cut at the same place again. -/
theorem short_cut {chars : List Char} (long : shownLength < chars.length) :
    Short (String.ofList (chars.take shownLength) ++ "...") := by
  have cut : (chars.take shownLength).length = shownLength :=
    List.length_take_of_le (Nat.le_of_lt long)
  have length : (String.ofList (chars.take shownLength) ++ "...").length = shownLength + 3 := by
    rw [String.length_append, String.length_ofList, cut]
    rfl
  refine ⟨Nat.le_of_eq length, ?_⟩
  rw [shortened, if_pos (by omega), String.toList_append, String.toList_ofList,
    List.take_append_of_le_length (Nat.le_of_eq cut.symm), List.take_take, Nat.min_self]

theorem shortened_string (text : String) : ∃ s, shortened (.string text) = .string s ∧ Short s := by
  by_cases long : shownLength < text.length
  · exact ⟨_, by rw [shortened, if_pos long], short_cut long⟩
  · have short := Nat.not_lt.mp long
    exact ⟨text, shortened_of_le short, short_of_le short⟩

/-- A count that a machine word holds has at most twenty digits. -/
theorem shortened_array {items : List Json} (counted : items.length < UInt64.size) :
    ∃ s, shortened (.array items) = .string s ∧ Short s := by
  refine ⟨_, rfl, short_of_le ?_⟩
  have digits : (Nat.toDigits 10 items.length).length ≤ 20 :=
    (Nat.length_toDigits_le_iff (by decide) (by decide)).mpr (Nat.lt_trans counted (by decide))
  have count : (Json.intText items.length).length = (Nat.toDigits 10 items.length).length := by
    rw [← String.length_toList, Json.toList_intText, if_neg (by omega), List.nil_append,
      Int.natAbs_natCast]
  calc ("[" ++ Json.intText items.length ++ " values]").length
      = 1 + (Nat.toDigits 10 items.length).length + 8 := by
        rw [String.length_append, String.length_append, count]
        rfl
    _ ≤ 1 + 20 + 8 := by omega
    _ ≤ shownLength := by decide

end SecurityEvent

namespace Operand

/-- A value is a string or a list. -/
def IsTextOrList (v : Json) : Prop := (∃ text, v = .string text) ∨ ∃ items, v = .array items

theorem isTextOrList_of_isOversized {op : Operator} {v : Json} {limits : Limits}
    (oversized : isOversized op v limits = true) : IsTextOrList v := by
  cases v with
  | string text => exact .inl ⟨text, rfl⟩
  | array items => exact .inr ⟨items, rfl⟩
  | null | bool | number | object => simp [isOversized, valueCount, longestText] at oversized

end Operand

namespace Validator

open Operand SecurityEvent

variable {v : Validator} {forest : List Condition}

section

variable [PatternEngine]

theorem isTextOrList_of_testFault? {tag : Option String} {value : Option Json}
    {config : Option FieldConfig} {fault : Fault}
    (found : v.testFault? tag value config = some fault) (loud : fault.eventKind?.isSome = true) :
    ∃ shown, value = some shown ∧ IsTextOrList shown := by
  rcases testFault?_eq_some found with rfl | ⟨_, _, rfl⟩ | ⟨op, refusal, _, refused, rfl⟩
  · cases loud
  · cases loud
  · have oversized := (Operand.eventKind?_of_check refused).symm.trans loud
    cases value with
    | none => cases oversized
    | some shown => exact ⟨shown, rfl, isTextOrList_of_isOversized oversized⟩

/-- A leaf raises an event by its text, or by an operand that is a string or a list. -/
theorem isTextOrList_of_leafFault? {p : Predicate} {field : Option String} {fault : Fault}
    (found : v.leafFault? p = some (field, fault)) (loud : fault.eventKind?.isSome = true) :
    ∃ shown, shownValue p = some shown ∧ IsTextOrList shown := by
  cases p with
  | raw text params => exact ⟨.string text, rfl, .inl ⟨text, rfl⟩⟩
  | custom handler tag value params =>
      obtain ⟨_, found, ⟨⟩⟩ := Option.map_eq_some_iff.mp found
      obtain ⟨_, rfl⟩ := customFault?_eq_some found
      cases loud
  | relation relation field tag value =>
      rcases leafFault?_relation_eq_some found with rfl | rfl | rfl | tested
      · cases loud
      · cases loud
      · cases loud
      · exact isTextOrList_of_testFault? tested loud
  | field field tag value =>
      rcases leafFault?_field_eq_some found with rfl | ⟨_, rfl⟩ | ⟨_, rfl⟩ | ⟨_, tested⟩
      · cases loud
      · cases loud
      · cases loud
      · exact isTextOrList_of_testFault? tested loud

/-- What a finding shows that raises an event: nothing, or the text or operand of its leaf. -/
theorem shown_of_event? {depth : Nat} {c : Condition} {f : Finding}
    (found : (v.inspect depth c).1 = some f) (loud : f.fault.eventKind?.isSome = true) :
    f.shown = none ∨ ∃ p ∈ c.predicate?, ∃ shown, f.shown = some shown ∧
      shownValue p = some shown ∧ IsTextOrList shown := by
  unfold inspect at found
  split at found
  · cases found
    exact .inl rfl
  · cases c with
    | leaf clause =>
        obtain ⟨⟨field, fault⟩, blamed, rfl⟩ := Option.map_eq_some_iff.mp found
        obtain ⟨shown, given, shape⟩ := isTextOrList_of_leafFault? blamed loud
        exact .inr ⟨clause.predicate, rfl, shown, given, given, shape⟩
    | group clause children =>
        obtain ⟨fault, _, rfl⟩ := Option.map_eq_some_iff.mp found
        exact .inl rfl

theorem exists_node_of_mem_findingsIn {depth : Nat} {f : Finding}
    (found : f ∈ v.findingsIn depth forest) :
    ∃ c ∈ Condition.nodes forest, ∃ depth, (v.inspect depth c).1 = some f := by
  obtain ⟨placed, h⟩ := v.exists_placed depth forest
  rw [← h.findings] at found
  obtain ⟨t, member, rfl⟩ := List.mem_map.mp found
  exact ⟨t.1, h.nodes.subset (List.mem_map_of_mem member), h.inspected t member⟩

/-- Whatever a forest holds, its security events show short strings and nothing else, and showing
what an event shows changes nothing. The lists shown have lengths that a machine word holds. -/
theorem events_show_little (v : Validator) (forest : List Condition) (log : List SecurityEvent)
    (counted : ∀ p ∈ Condition.predicates forest, ∀ items,
      shownValue p = some (.array items) → items.length < UInt64.size) :
    ∀ e ∈ (v.validate forest log).1.events, e.value = none ∨
      ∃ s, e.value = some (.string s) ∧ s.length ≤ 203 ∧ e.showing (.string s) = e := by
  intro e raised
  obtain ⟨f, found, event⟩ := mem_validate_events.mp raised
  obtain ⟨c, inside, depth, inspected⟩ := exists_node_of_mem_findingsIn found
  obtain ⟨kind, loud, rfl⟩ := Option.map_eq_some_iff.mp event
  rcases shown_of_event? inspected (Option.isSome_of_eq_some loud) with
    none | ⟨p, here, shown, given, own, shape⟩
  · exact .inl (by rw [none]; rfl)
  · have short : ∃ s, shortened shown = .string s ∧ Short s := by
      rcases shape with ⟨text, rfl⟩ | ⟨items, rfl⟩
      · exact shortened_string text
      · exact shortened_array (counted p (List.mem_filterMap.mpr ⟨c, inside, here⟩) items own)
    obtain ⟨s, shows, short⟩ := short
    refine .inr ⟨s, by rw [given, Option.map_some, shows], short.length_le, ?_⟩
    rw [showing, short.shortened_eq, given, Option.map_some, shows]

end

/-- A forest with a string that is too long and a list that has too many values. -/
theorem events_show_little_list :
    let v : Validator :=
      { fields := .ofList [("name", {})], limits := { maxStringLength := 1, maxInValues := 1 } }
    let forest : List Condition :=
      [.onField "a" "name" .eq (.string "xy"),
       .onField "b" "name" .isIn (.array [.string "x", .string "y"])]
    (v.validate forest []).1.events.map SecurityEvent.value =
      [some (.string "xy"), some (.string "[2 values]")] ∧
    ∀ e ∈ (v.validate forest []).1.events, e.value = none ∨
      ∃ s, e.value = some (.string s) ∧ s.length ≤ 203 ∧ e.showing (.string s) = e := by
  intro v forest
  refine ⟨?_, events_show_little v forest [] ?_⟩
  · rw [validate_eq]
    rfl
  · intro p inside items shows
    have tested : Condition.predicates forest =
        [.field (some "name") (some "eq") (some (.string "xy")),
         .field (some "name") (some "in") (some (.array [.string "x", .string "y"]))] := by
      simp only [forest, Condition.onField, Condition.predicates_leaf_cons,
        Condition.predicates_nil]
      rfl
    simp only [tested, List.mem_cons, List.not_mem_nil, or_false] at inside
    rcases inside with rfl | rfl
    · cases shows
    · cases shows
      decide

end Validator

end RowFilter
