import RowFilter.Proofs.Json.Settled
import RowFilter.Proofs.Json.Tokens

/-! # Values are read back from their indented texts

The reader keeps count of the containers that may still be opened, the printer does not. So a value
that is written out is read back if it is nested within the limit, and otherwise refused. This is
shown for the text of a value at the head of a larger one, by induction over values; the fuel of
the reader is enough as long as it is twice what is left of the text. The lines of a container are
read one after the other, each up to the comma or the end that stands behind it.
-/

namespace RowFilter.Json

mutual

/-- How many containers are open at once where a value is deepest. -/
def nesting : Json → Nat
  | array items => nestingItems items + 1
  | object members => nestingMembers members + 1
  | null | bool _ | number _ | string _ => 0

def nestingItems : List Json → Nat
  | [] => 0
  | v :: rest => max (nesting v) (nestingItems rest)

def nestingMembers : List (String × Json) → Nat
  | [] => 0
  | (_, v) :: rest => max (nesting v) (nestingMembers rest)

end

mutual

/-- The numbers that stand in a value. -/
def numbers : Json → List JsonNumber
  | number n => [n]
  | array items => numbersInItems items
  | object members => numbersInMembers members
  | null | bool _ | string _ => []

def numbersInItems : List Json → List JsonNumber
  | [] => []
  | v :: rest => numbers v ++ numbersInItems rest

def numbersInMembers : List (String × Json) → List JsonNumber
  | [] => []
  | (_, v) :: rest => numbers v ++ numbersInMembers rest

end

theorem forall_mem_numbersInItems {p : JsonNumber → Prop} {items : List Json} :
    (∀ n ∈ numbersInItems items, p n) ↔ ∀ v ∈ items, ∀ n ∈ v.numbers, p n := by
  induction items with
  | nil => simp [numbersInItems]
  | cons v rest ih => rw [numbersInItems, List.forall_mem_append, ih, List.forall_mem_cons]

theorem forall_mem_numbersInMembers {p : JsonNumber → Prop} {members : List (String × Json)} :
    (∀ n ∈ numbersInMembers members, p n) ↔ ∀ m ∈ members, ∀ n ∈ m.2.numbers, p n := by
  induction members with
  | nil => simp [numbersInMembers]
  | cons m rest ih => rw [numbersInMembers, List.forall_mem_append, ih, List.forall_mem_cons]

/-- White space before a value does not matter. -/
theorem value?_congr {cs cs' : List Char} (same : skipBlank cs = skipBlank cs') (fuel depth : Nat) :
    value? fuel depth cs = value? fuel depth cs' := by
  cases fuel with
  | zero => rfl
  | succ fuel => rw [value?, value?, same]

theorem items?_congr {cs cs' : List Char} (same : skipBlank cs = skipBlank cs') (fuel depth : Nat) :
    items? fuel depth cs = items? fuel depth cs' := by
  cases fuel with
  | zero => rfl
  | succ fuel => rw [items?, items?, value?_congr same]

theorem members?_congr {cs cs' : List Char} (same : skipBlank cs = skipBlank cs')
    (fuel depth : Nat) : members? fuel depth cs = members? fuel depth cs' := by
  cases fuel with
  | zero => rfl
  | succ fuel => rw [members?, members?, same]

theorem stops_lineBreak (place : Nat) (cs : List Char) : Stops ((lineBreak place).toList ++ cs) := by
  rw [lineBreak, String.toList_append]
  rintro c ⟨⟩
  decide

theorem stops_comma (cs : List Char) : Stops (',' :: cs) := by
  rintro c ⟨⟩
  decide

/-- The text of a value at the head of another text: it is read as the value, unless more
containers are open in it than may be. -/
def ReadBack (v : Json) : Prop :=
  ∀ place fuel depth rest, Stops rest → 2 * ((v.indentedAt place).toList ++ rest).length ≤ fuel →
    value? (fuel + 1) depth ((v.indentedAt place).toList ++ rest) =
      if v.nesting ≤ depth then some (v, rest) else none

theorem ite_map_ite {α β : Type} {p q : Prop} [Decidable p] [Decidable q] (a : α) (f : α → β) :
    (if p then (if q then some a else none).map f else none) =
      if p ∧ q then some (f a) else none := by
  by_cases first : p <;> by_cases second : q <;> simp [first, second]

/-- Texts one after the other, each on a line of its own. -/
def lines (place : Nat) (texts : List String) : List Char :=
  (("," ++ lineBreak place).intercalate texts).toList

theorem lines_singleton (place : Nat) (text : String) : lines place [text] = text.toList := by
  rw [lines, String.intercalate_singleton]

theorem lines_cons_cons (place : Nat) (first second : String) (others : List String) :
    lines place (first :: second :: others) =
      first.toList ++ ',' :: ((lineBreak place).toList ++ lines place (second :: others)) := by
  have comma : ",".toList = [','] := rfl
  simp only [lines, String.intercalate_cons_cons, String.toList_append, comma, List.append_assoc,
    List.cons_append, List.nil_append]

/-- What is read behind an item: others, or the end of the array. -/
def itemsAfter? (fuel depth : Nat) (v : Json) : List Char → Option (List Json × List Char)
  | ',' :: rest => (items? fuel depth rest).map fun (vs, rest) => (v :: vs, rest)
  | ']' :: rest => some ([v], rest)
  | _ => none

/-- What is read behind a member: others, or the end of the object. -/
def membersAfter? (fuel depth : Nat) (name : String) (v : Json) :
    List Char → Option (List (String × Json) × List Char)
  | ',' :: rest => (members? fuel depth rest).map fun (ms, rest) => ((name, v) :: ms, rest)
  | '\x7d' :: rest => some ([(name, v)], rest)
  | _ => none

section Lines

variable {place fuel depth : Nat} {tail : List Char}

theorem items?_item {v : Json} (back : ReadBack v) (stops : Stops tail)
    (enough : 2 * ((v.indentedAt place).toList ++ tail).length < fuel) :
    items? (fuel + 1) depth ((v.indentedAt place).toList ++ tail) =
      if v.nesting ≤ depth then itemsAfter? fuel depth v (skipBlank tail) else none := by
  obtain ⟨fuel, rfl⟩ := Nat.exists_eq_add_one.mpr (Nat.lt_of_le_of_lt (Nat.zero_le _) enough)
  rw [items?, back place fuel depth tail stops (Nat.le_of_lt_succ enough)]
  by_cases fits : v.nesting ≤ depth
  · rw [if_pos fits, if_pos fits]
    rfl
  · rw [if_neg fits, if_neg fits]

theorem toList_member (name : String) (v : Json) :
    (quote name ++ ": " ++ v.indentedAt place).toList ++ tail =
      '"' :: (name.toList.flatMap escapeChar ++
        '"' :: ':' :: ' ' :: ((v.indentedAt place).toList ++ tail)) := by
  have colon : ": ".toList = [':', ' '] := rfl
  simp only [String.toList_append, toList_quote, colon, List.append_assoc, List.cons_append,
    List.nil_append]

theorem members?_member {name : String} {v : Json} (back : ReadBack v) (stops : Stops tail)
    (enough : 2 * ((quote name ++ ": " ++ v.indentedAt place).toList ++ tail).length < fuel) :
    members? (fuel + 1) depth ((quote name ++ ": " ++ v.indentedAt place).toList ++ tail) =
      if v.nesting ≤ depth then membersAfter? fuel depth name v (skipBlank tail) else none := by
  obtain ⟨fuel, rfl⟩ := Nat.exists_eq_add_one.mpr (Nat.lt_of_le_of_lt (Nat.zero_le _) enough)
  rw [toList_member] at enough ⊢
  simp only [List.length_append, List.length_cons] at enough
  have long : (quote name).toList.length ≤ fuel + 1 := by
    simp only [toList_quote, List.length_append, List.length_cons, List.length_nil]
    omega
  have afterColon : skipBlank (' ' :: ((v.indentedAt place).toList ++ tail)) =
      skipBlank ((v.indentedAt place).toList ++ tail) := rfl
  rw [members?, @skipBlank_cons '"' (by decide)]
  simp only [stringBody?_quote name _ long, @skipBlank_cons ':' (by decide),
    value?_congr afterColon]
  rw [back place fuel depth tail stops (by rw [List.length_append]; omega)]
  by_cases fits : v.nesting ≤ depth
  · rw [if_pos fits, if_pos fits]
    rfl
  · rw [if_neg fits, if_neg fits]

end Lines

/-- The lines of some items up to the closing bracket are read as the items. -/
theorem items?_lines {items : List Json} (back : ∀ v ∈ items, ReadBack v) (filled : items ≠ [])
    (place out depth : Nat) (rest : List Char) {fuel : Nat}
    (enough : 2 * (lines place (indentedItems place items) ++
      ((lineBreak out).toList ++ ']' :: rest)).length + 1 < fuel) :
    items? fuel depth (lines place (indentedItems place items) ++
      ((lineBreak out).toList ++ ']' :: rest)) =
      if nestingItems items ≤ depth then some (items, rest) else none := by
  induction items generalizing fuel with
  | nil => exact absurd rfl filled
  | cons v others ih =>
      obtain ⟨here, later⟩ := List.forall_mem_cons.mp back
      obtain ⟨fuel, rfl⟩ := Nat.exists_eq_add_one.mpr (Nat.lt_of_le_of_lt (Nat.zero_le _) enough)
      cases others with
      | nil =>
          rw [indentedItems, indentedItems, lines_singleton] at enough ⊢
          rw [items?_item here (stops_lineBreak _ _) (by omega), nestingItems, nestingItems,
            Nat.max_zero, skipBlank_lineBreak]
          rfl
      | cons w more =>
          rw [indentedItems, indentedItems, lines_cons_cons, ← indentedItems, List.append_assoc,
            List.cons_append, List.append_assoc] at enough ⊢
          rw [List.length_append, List.length_cons, List.length_append] at enough
          have next := @ih later (List.cons_ne_nil w more) fuel (by omega)
          rw [items?_item here (stops_comma _) (by
            rw [List.length_append, List.length_cons, List.length_append]
            omega), @skipBlank_cons ',' (by decide), nestingItems]
          simp only [itemsAfter?, items?_congr (skipBlank_lineBreak place _) fuel depth, next,
            Nat.max_le, ite_map_ite]

/-- The lines of some members up to the closing brace are read as the members. -/
theorem members?_lines {members : List (String × Json)} (back : ∀ m ∈ members, ReadBack m.2)
    (filled : members ≠ []) (place out depth : Nat) (rest : List Char) {fuel : Nat}
    (enough : 2 * (lines place (indentedMembers place members) ++
      ((lineBreak out).toList ++ '\x7d' :: rest)).length + 1 < fuel) :
    members? fuel depth (lines place (indentedMembers place members) ++
      ((lineBreak out).toList ++ '\x7d' :: rest)) =
      if nestingMembers members ≤ depth then some (members, rest) else none := by
  induction members generalizing fuel with
  | nil => exact absurd rfl filled
  | cons m others ih =>
      obtain ⟨name, v⟩ := m
      obtain ⟨(here : ReadBack v), later⟩ := List.forall_mem_cons.mp back
      obtain ⟨fuel, rfl⟩ := Nat.exists_eq_add_one.mpr (Nat.lt_of_le_of_lt (Nat.zero_le _) enough)
      cases others with
      | nil =>
          rw [indentedMembers, indentedMembers, lines_singleton] at enough ⊢
          rw [members?_member here (stops_lineBreak _ _) (by omega), nestingMembers, nestingMembers,
            Nat.max_zero, skipBlank_lineBreak]
          rfl
      | cons second more =>
          obtain ⟨other, w⟩ := second
          rw [indentedMembers, indentedMembers, lines_cons_cons, ← indentedMembers,
            List.append_assoc, List.cons_append, List.append_assoc] at enough ⊢
          rw [List.length_append, List.length_cons, List.length_append] at enough
          have next := @ih later (List.cons_ne_nil (other, w) more) fuel (by omega)
          rw [members?_member here (stops_comma _) (by
            rw [List.length_append, List.length_cons, List.length_append]
            omega), @skipBlank_cons ',' (by decide), nestingMembers]
          simp only [membersAfter?, members?_congr (skipBlank_lineBreak place _) fuel depth, next,
            Nat.max_le, ite_map_ite]

theorem toList_block_nil (place : Nat) (opening closing : Char) :
    (block place (String.singleton opening) (String.singleton closing) []).toList =
      [opening, closing] := by
  rw [block, String.toList_append, String.toList_singleton, String.toList_singleton]
  rfl

theorem toList_block (place : Nat) (opening closing : Char) {texts : List String}
    (filled : texts ≠ []) :
    (block place (String.singleton opening) (String.singleton closing) texts).toList =
      opening :: ((lineBreak (place + 1)).toList ++
        (lines (place + 1) texts ++ ((lineBreak place).toList ++ [closing]))) := by
  cases texts with
  | nil => exact absurd rfl filled
  | cons first others =>
      simp only [block, lines, String.toList_append, String.toList_singleton, List.append_assoc,
        List.cons_append, List.nil_append]

/-- A text that begins with neither white space nor the end of a container. -/
def Opens (cs : List Char) : Prop :=
  ∃ c rest, cs = c :: rest ∧ isBlankOrEnd c = false

namespace Opens

variable {cs : List Char}

theorem append (opens : Opens cs) (tail : List Char) : Opens (cs ++ tail) := by
  obtain ⟨c, rest, rfl, other⟩ := opens
  exact ⟨c, rest ++ tail, rfl, other⟩

theorem skipBlank_eq (opens : Opens cs) : skipBlank cs = cs := by
  obtain ⟨c, rest, rfl, other⟩ := opens
  exact skipBlank_cons (not_blank_of_isBlankOrEnd other) rest

theorem ne_cons (opens : Opens cs) {c : Char} (ends : isBlankOrEnd c = true) (rest : List Char) :
    cs ≠ c :: rest := by
  rintro rfl
  obtain ⟨d, others, same, other⟩ := opens
  cases same
  cases ends.symm.trans other

end Opens

theorem opens_indentedAt {v : Json} (returns : ∀ n ∈ v.numbers, n.Returns) (place : Nat) :
    Opens (v.indentedAt place).toList := by
  have container (opening closing : Char) (texts : List String) :
      ∃ cs, (block place (String.singleton opening) (String.singleton closing) texts).toList =
        opening :: cs := by
    cases texts with
    | nil => exact ⟨_, toList_block_nil place opening closing⟩
    | cons first others => exact ⟨_, toList_block place opening closing (List.cons_ne_nil _ _)⟩
  cases v with
  | null =>
      rw [indentedAt]
      exact ⟨'n', _, rfl, rfl⟩
  | bool b =>
      rw [indentedAt]
      cases b with
      | true => exact ⟨'t', _, rfl, rfl⟩
      | false => exact ⟨'f', _, rfl, rfl⟩
  | number n =>
      rw [numbers] at returns
      obtain ⟨c, cs, text, numeral, -⟩ := signedNumber?_text (returns n (List.mem_singleton.mpr rfl))
      rw [indentedAt]
      exact ⟨c, cs, text, isBlankOrEnd_of_isNumeral numeral⟩
  | string s =>
      rw [indentedAt]
      exact ⟨'"', _, toList_quote s, rfl⟩
  | array items =>
      obtain ⟨cs, text⟩ := container '[' ']' (indentedItems (place + 1) items)
      rw [indentedAt]
      exact ⟨'[', cs, text, rfl⟩
  | object members =>
      obtain ⟨cs, text⟩ := container '\x7b' '\x7d' (indentedMembers (place + 1) members)
      rw [indentedAt]
      exact ⟨'\x7b', cs, text, rfl⟩

theorem opens_lines {first : String} (opens : Opens first.toList) (place : Nat)
    (others : List String) : Opens (lines place (first :: others)) := by
  cases others with
  | nil => rwa [lines_singleton]
  | cons second more =>
      rw [lines_cons_cons]
      exact opens.append _

/-- What stands behind an opening bracket is the items, unless it closes at once. -/
theorem value?_array {fuel depth : Nat} {body text : List Char} (shown : skipBlank body = text)
    (opens : Opens text) :
    value? (fuel + 1) depth ('[' :: body) =
      if depth = 0 then none
      else (items? fuel (depth - 1) text).map fun (vs, rest) => (array vs, rest) := by
  have bracket : skipBlank ('[' :: body) = '[' :: body := rfl
  rw [value?, bracket]
  simp only [shown]
  split
  · rfl
  · split
    next rest => exact absurd rfl (opens.ne_cons rfl rest)
    next => rfl

theorem value?_object {fuel depth : Nat} {body text : List Char} (shown : skipBlank body = text)
    (opens : Opens text) :
    value? (fuel + 1) depth ('\x7b' :: body) =
      if depth = 0 then none
      else (members? fuel (depth - 1) text).map fun (ms, rest) => (object ms, rest) := by
  have brace : skipBlank ('\x7b' :: body) = '\x7b' :: body := rfl
  rw [value?, brace]
  simp only [shown]
  split
  · rfl
  · split
    next rest => exact absurd rfl (opens.ne_cons rfl rest)
    next => rfl

/-- One container more is open around the items than inside them. -/
theorem opened_map {α β : Type} (depth inside : Nat) (a : α) (f : α → β) :
    (if depth = 0 then none else (if inside ≤ depth - 1 then some a else none).map f) =
      if inside + 1 ≤ depth then some (f a) else none := by
  cases depth with
  | zero => rfl
  | succ depth =>
      rw [if_neg (Nat.succ_ne_zero depth), Nat.add_sub_cancel]
      by_cases fits : inside ≤ depth
      · rw [if_pos fits, if_pos (Nat.succ_le_succ fits)]
        rfl
      · rw [if_neg fits, if_neg fun more => fits (Nat.le_of_succ_le_succ more)]
        rfl

theorem readBack_array {items : List Json} (returns : ∀ v ∈ items, ∀ n ∈ v.numbers, n.Returns)
    (back : ∀ v ∈ items, ReadBack v) : ReadBack (array items) := by
  intro place fuel depth rest _ enough
  rw [indentedAt] at enough ⊢
  rw [nesting]
  cases items with
  | nil =>
      have text : (block place "[" "]" (indentedItems (place + 1) [])).toList = ['[', ']'] := by
        rw [indentedItems]
        exact toList_block_nil place '[' ']'
      rw [text, nestingItems]
      cases depth <;> rfl
  | cons v others =>
      have opens : Opens (lines (place + 1) (indentedItems (place + 1) (v :: others))) := by
        rw [indentedItems]
        exact opens_lines (opens_indentedAt (returns v List.mem_cons_self) _) _ _
      have filled : indentedItems (place + 1) (v :: others) ≠ [] := by
        rw [indentedItems]
        exact List.cons_ne_nil _ _
      have text : (block place "[" "]" (indentedItems (place + 1) (v :: others))).toList = _ :=
        toList_block place '[' ']' filled
      rw [text, List.cons_append, List.append_assoc, List.append_assoc, List.append_assoc,
        List.singleton_append] at enough ⊢
      rw [List.length_cons, List.length_append] at enough
      rw [value?_array ((skipBlank_lineBreak _ _).trans (opens.append _).skipBlank_eq)
        (opens.append _), items?_lines back (List.cons_ne_nil v others) _ _ _ rest (by omega),
        opened_map]

theorem readBack_object {members : List (String × Json)}
    (back : ∀ m ∈ members, ReadBack m.2) : ReadBack (object members) := by
  intro place fuel depth rest _ enough
  rw [indentedAt] at enough ⊢
  rw [nesting]
  cases members with
  | nil =>
      have text : (block place "\x7b" "\x7d" (indentedMembers (place + 1) [])).toList =
          ['\x7b', '\x7d'] := by
        rw [indentedMembers]
        exact toList_block_nil place '\x7b' '\x7d'
      rw [text, nestingMembers]
      cases depth <;> rfl
  | cons m others =>
      have opens : Opens (lines (place + 1) (indentedMembers (place + 1) (m :: others))) := by
        rw [indentedMembers]
        refine opens_lines ?_ _ _
        simp only [String.toList_append, toList_quote]
        exact ⟨'"', _, rfl, rfl⟩
      have filled : indentedMembers (place + 1) (m :: others) ≠ [] := by
        rw [indentedMembers]
        exact List.cons_ne_nil _ _
      have text : (block place "\x7b" "\x7d" (indentedMembers (place + 1) (m :: others))).toList =
          _ := toList_block place '\x7b' '\x7d' filled
      rw [text, List.cons_append, List.append_assoc, List.append_assoc, List.append_assoc,
        List.singleton_append] at enough ⊢
      rw [List.length_cons, List.length_append] at enough
      rw [value?_object ((skipBlank_lineBreak _ _).trans (opens.append _).skipBlank_eq)
        (opens.append _), members?_lines back (List.cons_ne_nil m others) _ _ _ rest (by omega),
        opened_map]

/-- A value of which all numbers are read back is read back from its text. -/
theorem readBack {v : Json} (returns : ∀ n ∈ v.numbers, n.Returns) : ReadBack v := by
  induction v using value_induction with
  | null =>
      intro place fuel depth rest _ enough
      rw [indentedAt, nesting, if_pos (Nat.zero_le _)]
      rfl
  | bool b =>
      intro place fuel depth rest _ enough
      rw [indentedAt, nesting, if_pos (Nat.zero_le _)]
      cases b <;> rfl
  | number n =>
      intro place fuel depth rest stops enough
      rw [numbers] at returns
      rw [indentedAt, nesting, if_pos (Nat.zero_le _)]
      exact value?_number (returns n (List.mem_singleton.mpr rfl)) fuel depth stops
  | string s =>
      intro place fuel depth rest _ enough
      rw [indentedAt] at enough ⊢
      rw [List.length_append] at enough
      rw [toList_quote, nesting, if_pos (Nat.zero_le _), List.cons_append, List.append_assoc, value?,
        @skipBlank_cons '"' (by decide)]
      simp only [List.singleton_append, @stringBody?_quote fuel s rest (by omega),
        Option.map_some]
  | array items ih =>
      rw [numbers, forall_mem_numbersInItems] at returns
      exact readBack_array returns fun v stands => ih v stands (returns v stands)
  | object members ih =>
      rw [numbers, forall_mem_numbersInMembers] at returns
      exact readBack_object fun m stands => ih m stands (returns m stands)

/-- A value that is written out is read back from the text, unless it is nested too deep. -/
theorem ofText?_indented {v : Json} (returns : ∀ n ∈ v.numbers, n.Returns) :
    ofText? (v.indented ++ "\n") = if v.nesting ≤ nestingLimit then some v else none := by
  have text : (v.indented ++ "\n").toList = (v.indentedAt 0).toList ++ ['\n'] := by
    rw [String.toList_append]
    rfl
  have read := readBack returns 0 (2 * ((v.indentedAt 0).toList ++ ['\n']).length + 1) nestingLimit
    ['\n'] (by rintro c ⟨⟩; decide) (Nat.le_succ _)
  rw [ofText?, text, read]
  by_cases fits : v.nesting ≤ nestingLimit
  · rw [if_pos fits, if_pos fits]
    rfl
  · rw [if_neg fits, if_neg fits]

end RowFilter.Json
