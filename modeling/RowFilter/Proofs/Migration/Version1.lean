import Mathlib.Data.List.Forall2
import RowFilter.Proofs.Condition.Editing
import RowFilter.Proofs.Migration.FormerTags

/-! # What version 1 wrote otherwise

Version 1 has two forms of its own: a list that is one text, and a range that is an object. The
transform to version 2 rewrites both wherever they stand and leaves all else. Only a range without
one of its ends cannot be rewritten. Nothing of either form is left, so the transform finds nothing
to do in what it gives.
-/

namespace RowFilter

namespace Unicode

/-- The core of a text is what is left without the white space at its ends. -/
structure Trims (text core : List Char) : Prop where
  framed : ∃ before after, text = before ++ core ++ after ∧
    (∀ c ∈ before, isSpace c = true) ∧ ∀ c ∈ after, isSpace c = true
  first : ∀ c ∈ core.head?, isSpace c = false
  last : ∀ c ∈ core.getLast?, isSpace c = false

theorem isSpace_of_mem_takeWhile {text : List Char} :
    ∀ c ∈ text.takeWhile isSpace, isSpace c = true :=
  List.all_eq_true.mp List.all_takeWhile

theorem isSpace_head?_dropWhile (text : List Char) :
    ∀ c ∈ (text.dropWhile isSpace).head?, isSpace c = false := by
  intro c first
  have stops := List.head?_dropWhile_not isSpace text
  rwa [Option.mem_def.mp first] at stops

theorem trims_trimSpace (text : List Char) : Trims text (trimSpace text) := by
  let rest := text.dropWhile isSpace
  have front : text.takeWhile isSpace ++ rest = text := List.takeWhile_append_dropWhile
  have back : trimSpace text ++ (rest.reverse.takeWhile isSpace).reverse = rest := by
    rw [trimSpace, ← List.reverse_append, List.takeWhile_append_dropWhile, List.reverse_reverse]
  refine ⟨⟨text.takeWhile isSpace, (rest.reverse.takeWhile isSpace).reverse, ?_,
    isSpace_of_mem_takeWhile, ?_⟩, ?_, ?_⟩
  · rw [List.append_assoc, back, front]
  · intro c member
    exact isSpace_of_mem_takeWhile c (List.mem_reverse.mp member)
  · -- What the core begins with, the text without its leading blanks begins with.
    intro c first
    refine isSpace_head?_dropWhile text c ?_
    change rest.head? = some c
    rw [← back, List.head?_append, Option.mem_def.mp first, Option.some_or]
  · intro c last
    rw [trimSpace, List.getLast?_reverse] at last
    exact isSpace_head?_dropWhile _ c last

end Unicode

theorem splitAtCommas_eq_splitOn (text : List Char) : splitAtCommas text = text.splitOn ',' := by
  rw [List.splitOn_eq_splitOnP]
  induction text with
  | nil => rfl
  | cons c rest ih =>
      rw [splitAtCommas, List.splitOnP_cons_eq_if_modifyHead, ← ih]
      by_cases comma : c = ','
      · simp [comma]
      · have pieces : splitAtCommas rest ≠ [] := ih ▸ List.splitOnP_ne_nil _ _
        cases split : splitAtCommas rest with
        | nil => exact absurd split pieces
        | cons piece pieces => simp [comma]

theorem Json.hasMember_eq_isSome (members : Row) (name : String) :
    hasMember members name = (member? members name).isSome := by
  rw [hasMember, member?, Option.isSome_map, List.isSome_find?]

namespace Operator

theorem ofTag?_tag (op : Operator) : ofTag? op.tag = some op := by
  cases op <;> rfl

theorem bind_ofTag?_eq_some_iff {tag : Option String} {op : Operator} :
    tag.bind ofTag? = some op ↔ tag = some op.tag := by
  constructor
  · intro known
    obtain ⟨tag, rfl, found⟩ := Option.bind_eq_some_iff.mp known
    rw [tag_of_ofTag? found]
  · rintro rfl
    exact ofTag?_tag op

end Operator

namespace Clause

/-- The list of a membership test, written as one text. -/
def ListsText (c : Clause) (text : String) : Prop :=
  (c.operator = some Operator.isIn.tag ∨ c.operator = some Operator.notIn.tag) ∧
    c.value = some (.string text)

/-- A range, written as an object. -/
def NamesRange (c : Clause) (range : Row) : Prop :=
  c.operator = some Operator.between.tag ∧ c.value = some (.object range)

/-- A range, written as an object, without one of its ends. -/
def LacksEnd (c : Clause) : Prop :=
  ∃ range, c.NamesRange range ∧
    (Json.member? range "from" = none ∨ Json.member? range "to" = none)

/-- Nothing in a clause is in a form of version 1. -/
def InVersion2 (c : Clause) : Prop :=
  (∀ text, ¬ c.ListsText text) ∧ ∀ range, ¬ c.NamesRange range

/-- What becomes of a clause of version 1. Only the operand may be another one. -/
inductive Upgrades : Clause → Clause → Prop where
  /-- The pieces between the commas become the items, without blanks at their ends and without
  those that are empty. -/
  | list {c : Clause} {text : String} {pieces : List (List Char)} :
    c.ListsText text → List.Forall₂ Unicode.Trims (text.toList.splitOn ',') pieces →
    Upgrades c { c with value := some (.array
      ((pieces.filter fun piece => !piece.isEmpty).map fun piece =>
        .string (String.ofList piece))) }
  | range {c : Clause} {range : Row} {low high : Json} :
    c.NamesRange range → Json.member? range "from" = some low →
    Json.member? range "to" = some high →
    Upgrades c { c with value := some (.array [low, high]) }
  | kept {c : Clause} : c.InVersion2 → Upgrades c c

theorem InVersion2.not_lacksEnd {c : Clause} (settled : c.InVersion2) : ¬ c.LacksEnd :=
  fun ⟨range, named, _⟩ => settled.2 range named

/-- An operand that is an array is in no form of version 1. -/
theorem inVersion2_of_array {c : Clause} {items : List Json}
    (value : c.value = some (.array items)) : c.InVersion2 := by
  constructor
  · rintro text ⟨_, found⟩
    cases value.symm.trans found
  · rintro range ⟨_, found⟩
    cases value.symm.trans found

theorem Upgrades.inVersion2 {c upgraded : Clause} (h : Upgrades c upgraded) :
    upgraded.InVersion2 := by
  cases h with
  | list listed trimmed => exact inVersion2_of_array rfl
  | range named low high => exact inVersion2_of_array rfl
  | kept settled => exact settled

theorem hasIncompleteRange_iff {c : Clause} : c.hasIncompleteRange = true ↔ c.LacksEnd := by
  unfold hasIncompleteRange
  constructor
  · intro incomplete
    split at incomplete
    · next range between value =>
        refine ⟨range, ⟨Operator.bind_ofTag?_eq_some_iff.mp between, value⟩, ?_⟩
        simpa [Json.hasMember_eq_isSome, imp_iff_not_or] using incomplete
    · cases incomplete
  · rintro ⟨range, ⟨between, value⟩, missing⟩
    rw [Operator.bind_ofTag?_eq_some_iff.mpr between, value]
    simpa [Json.hasMember_eq_isSome, imp_iff_not_or] using missing

theorem upgraded_of_listsText {c : Clause} {text : String} (listed : c.ListsText text) :
    c.upgraded = { c with value := some (.array (listItems text)) } := by
  obtain ⟨member | member, value⟩ := listed
  all_goals
    rw [upgraded, upgradedValue, Operator.bind_ofTag?_eq_some_iff.mpr member, value]

theorem upgraded_of_namesRange {c : Clause} {range : Row} {low high : Json}
    (named : c.NamesRange range) (first : Json.member? range "from" = some low)
    (last : Json.member? range "to" = some high) :
    c.upgraded = { c with value := some (.array [low, high]) } := by
  rw [upgraded, upgradedValue, Operator.bind_ofTag?_eq_some_iff.mpr named.1, named.2]
  dsimp only
  rw [first, last]

theorem upgraded_eq_self {c : Clause} (settled : c.InVersion2) : c.upgraded = c := by
  have same : c.upgradedValue = c.value := by
    unfold upgradedValue
    split
    · next member value =>
        exact absurd ⟨.inl (Operator.bind_ofTag?_eq_some_iff.mp member), value⟩ (settled.1 _)
    · next member value =>
        exact absurd ⟨.inr (Operator.bind_ofTag?_eq_some_iff.mp member), value⟩ (settled.1 _)
    · next between value =>
        exact absurd ⟨Operator.bind_ofTag?_eq_some_iff.mp between, value⟩ (settled.2 _)
    · rfl
  rw [upgraded, same]

theorem upgrades_upgraded {c : Clause} (complete : ¬ c.LacksEnd) : c.Upgrades c.upgraded := by
  by_cases settled : c.InVersion2
  · rw [upgraded_eq_self settled]
    exact .kept settled
  · rw [InVersion2, not_and_or] at settled
    push Not at settled
    rcases settled with ⟨text, listed⟩ | ⟨range, named⟩
    · rw [upgraded_of_listsText listed, listItems, splitAtCommas_eq_splitOn]
      refine .list listed ?_
      rw [List.forall₂_map_right_iff, List.forall₂_same]
      exact fun piece _ => Unicode.trims_trimSpace piece
    · have ends : Json.member? range "from" ≠ none ∧ Json.member? range "to" ≠ none := by
        rw [← not_or]
        exact fun missing => complete ⟨range, named, missing⟩
      obtain ⟨low, first⟩ := Option.ne_none_iff_exists'.mp ends.1
      obtain ⟨high, last⟩ := Option.ne_none_iff_exists'.mp ends.2
      rw [upgraded_of_namesRange named first last]
      exact .range named first last

end Clause

/-- What the walk notes about a clause. -/
def Clause.rangeFault? (c : Clause) : Option String :=
  if c.hasIncompleteRange then some s!"condition {c.id} has an incomplete between range" else none

/-- The first fault that is noted decides, whatever has been rewritten before or after it. -/
theorem upgradeFromVersion1_eq (forest : List Condition) :
    upgradeFromVersion1 forest =
      ((Condition.nodes forest).filterMap fun c => c.clause.rangeFault?).head?.elim
        (.ok (Condition.mapForest Clause.upgraded forest))
        fun reason => .error (.transformFailed 1 reason) := by
  have noted : (fun c : Condition => c.clause.rangeFault?) =
      Option.map (fun c => s!"condition {c.id} has an incomplete between range") ∘
        Option.guard fun c : Condition => c.clause.hasIncompleteRange := by
    funext c
    cases incomplete : c.clause.hasIncompleteRange <;>
      simp [Clause.rangeFault?, Option.guard, incomplete, Condition.id]
  rw [List.head?_filterMap, noted, ← List.map_findSome?, List.findSome?_guard, upgradeFromVersion1]
  cases (Condition.nodes forest).find? fun c => c.clause.hasIncompleteRange <;> rfl

variable {forest result : List Condition}

theorem upgradeFromVersion1_eq_ok_iff :
    upgradeFromVersion1 forest = .ok result ↔
      (∀ c ∈ Condition.nodes forest, ¬ c.clause.LacksEnd) ∧
        result = Condition.mapForest Clause.upgraded forest := by
  simp only [← Clause.hasIncompleteRange_iff]
  rw [← List.find?_eq_none, upgradeFromVersion1]
  constructor
  · intro applied
    split at applied
    · cases applied
    · next none =>
        cases applied
        exact ⟨none, rfl⟩
  · rintro ⟨none, rfl⟩
    rw [none]

theorem upgradeFromVersion1_eq_error_iff {e : MigrationError} :
    upgradeFromVersion1 forest = .error e ↔
      ∃ before c after, Condition.nodes forest = before ++ c :: after ∧
        (∀ b ∈ before, ¬ b.clause.LacksEnd) ∧ c.clause.LacksEnd ∧
        e = .transformFailed 1 s!"condition {c.id} has an incomplete between range" := by
  simp only [← Clause.hasIncompleteRange_iff]
  rw [upgradeFromVersion1]
  constructor
  · intro failed
    split at failed
    · next c first =>
        cases failed
        obtain ⟨incomplete, before, after, split, complete⟩ :=
          List.find?_eq_some_iff_append.mp first
        exact ⟨before, c, after, split, fun b member => by simpa using complete b member,
          incomplete, rfl⟩
    · cases failed
  · rintro ⟨before, c, after, split, complete, incomplete, rfl⟩
    have first : (Condition.nodes forest).find? (fun c => c.clause.hasIncompleteRange) = some c :=
      List.find?_eq_some_iff_append.mpr
        ⟨incomplete, before, after, split, fun b member => by simpa using complete b member⟩
    rw [first]

/-- Going over the nodes where they stand, the transform rewrites each operand and notes each range
without one of its ends; the first fault noted decides. It fails exactly at the first such range.
Otherwise it rewrites the forms of version 1 on nodes of every kind and nothing else, leaves none of
them, and leaves what it gives as it is. -/
theorem upgradeFromVersion1_rewrites (forest : List Condition) :
    let walked := Condition.mapForest Clause.upgraded forest
    let faults := (Condition.nodes forest).filterMap fun c => c.clause.rangeFault?
    (Condition.Walk.pass Clause.upgraded Clause.rangeFault?)^[Condition.forestSize forest]
        (Condition.Walk.start forest) = ⟨.group {} walked, [], faults⟩ ∧
    upgradeFromVersion1 forest =
      faults.head?.elim (.ok walked) (fun reason => .error (.transformFailed 1 reason)) ∧
    ((∃ result, upgradeFromVersion1 forest = .ok result) ↔
      ∀ c ∈ Condition.nodes forest, ¬ c.clause.LacksEnd) ∧
    (∀ e, upgradeFromVersion1 forest = .error e ↔
      ∃ before c after, Condition.nodes forest = before ++ c :: after ∧
        (∀ b ∈ before, ¬ b.clause.LacksEnd) ∧ c.clause.LacksEnd ∧
        e = .transformFailed 1 s!"condition {c.id} has an incomplete between range") ∧
    ∀ result, upgradeFromVersion1 forest = .ok result →
      Condition.NodeByNode Clause.Upgrades forest result ∧
        (∀ c ∈ Condition.nodes result, c.clause.InVersion2) ∧
        upgradeFromVersion1 result = .ok result := by
  intro walked faults
  refine ⟨Condition.Walk.iterate_pass forest, upgradeFromVersion1_eq forest, ?_,
    fun e => upgradeFromVersion1_eq_error_iff, fun result applied => ?_⟩
  · simp only [upgradeFromVersion1_eq_ok_iff, exists_and_left, exists_eq, and_true]
  · obtain ⟨complete, rfl⟩ := upgradeFromVersion1_eq_ok_iff.mp applied
    have alike : Condition.NodeByNode Clause.Upgrades forest
        (Condition.mapForest Clause.upgraded forest) :=
      Condition.nodeByNode_mapForest fun c member => Clause.upgrades_upgraded (complete c member)
    have settled : ∀ c ∈ Condition.nodes (Condition.mapForest Clause.upgraded forest),
        c.clause.InVersion2 := alike.forall_nodes fun _ _ => Clause.Upgrades.inVersion2
    refine ⟨alike, settled, upgradeFromVersion1_eq_ok_iff.mpr ⟨?_, ?_⟩⟩
    · exact fun c member => (settled c member).not_lacksEnd
    · exact (Condition.mapForest_eq_self fun c member =>
        Clause.upgraded_eq_self (settled c member)).symm

-- Groups count: the operand of one is rewritten although nothing reads it.
example :
    upgradeFromVersion1 [.group { id := "g", operator := some "in",
                                  value := some (.string " a,b c, ,") } []] =
      .ok [.group { id := "g", operator := some "in",
                    value := some (.array [.string "a", .string "b c"]) } []] := by
  cbv

end RowFilter
