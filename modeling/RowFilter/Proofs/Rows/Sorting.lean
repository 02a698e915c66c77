import Mathlib.Data.Set.Subsingleton
import RowFilter.Pattern.Matching
import RowFilter.Proofs.Rows.Selection

/-! # When rows have an order

Every row is level with itself, and two rows compare alike from both sides. Whether the comparison
is transitive depends on the values. Texts, truth values and numbers each have an order of their
own, but a value of one kind is level with values of another that are not level with each other.
So rows are in order exactly where the values that order them are of one kind, and only there does
sorting leave no row behind one that it comes before.
-/

namespace RowFilter

/-- What a value is compared as. -/
inductive ValueKind where
  | text
  | truth
  | number
  /-- Lists and records, which are all level. -/
  | compound
  deriving DecidableEq

namespace ValueKind

/-- A value of this kind. -/
def sample : ValueKind → Json
  | text => .string "a"
  | truth => .bool false
  | number => .ofInt 1
  | compound => .array []

/-- A value of this kind that comes later, if there is one. -/
def later : ValueKind → Json
  | text => .string "b"
  | truth => .bool true
  | number => .ofInt 2
  | compound => .array []

end ValueKind

namespace Json

/-- The kind of a value that is not null. -/
def kind? : Json → Option ValueKind
  | null => none
  | bool _ => some .truth
  | number _ => some .number
  | string _ => some .text
  | array _ | object _ => some .compound

theorem exists_kind {v : Json} (present : v.isNull = false) : ∃ kind, v.kind? = some kind := by
  cases v with
  | null => cases present
  | bool | number | string | array | object => exact ⟨_, rfl⟩

theorem numeralKey?_number (n : JsonNumber) : ∃ key, (number n).numeralKey? = some key := by
  cases n with
  | int i =>
      rw [numeralKey?, numeral?, Option.bind_some, JsonNumber.toExtended]
      cases Double.ofInt? i <;> exact ⟨_, rfl⟩
  | double d => exact ⟨_, rfl⟩
  | huge negative => exact ⟨_, rfl⟩

/-- Values of one kind compare as their keys do, which have a lawful order. -/
theorem exists_key (kind : ValueKind) :
    ∃ (α : Type) (_ : Ord α) (_ : Std.TransOrd α) (key : Json → α),
      ∀ v w, v.kind? = some kind → w.kind? = some kind →
        (v.order? w).getD .eq = compare (key v) (key w) := by
  cases kind with
  | text =>
      refine ⟨String, inferInstance, inferInstance, fun v => v.asString?.getD "", ?_⟩
      intro v w hv hw
      cases v <;> cases hv
      cases w <;> cases hw
      rfl
  | truth =>
      refine ⟨Bool, inferInstance, inferInstance, fun v => v.asBool?.getD false, ?_⟩
      intro v w hv hw
      cases v <;> cases hv
      cases w <;> cases hw
      rfl
  | number =>
      refine ⟨Int, inferInstance, inferInstance, fun v => v.numeralKey?.getD 0, ?_⟩
      intro v w hv hw
      cases v <;> cases hv
      cases w <;> cases hw
      rename_i n m
      obtain ⟨x, hx⟩ := numeralKey?_number n
      obtain ⟨y, hy⟩ := numeralKey?_number m
      simp only [order?, hx, hy, Option.getD_some]
  | compound =>
      refine ⟨Int, inferInstance, inferInstance, fun _ => 0, ?_⟩
      intro v w hv hw
      cases v <;> cases hv
      all_goals cases w <;> cases hw
      all_goals rfl

/-- Neither of the three comparisons depends on the side it is made from. -/
theorem order?_swap (v w : Json) : w.order? v = (v.order? w).map Ordering.swap := by
  fun_cases order? v w with
  | case1 x y => exact congrArg some Std.OrientedCmp.eq_swap
  | case2 x y => exact congrArg some Std.OrientedCmp.eq_swap
  | case3 _ _ x y right left texts truths =>
      rw [order?, left, right]
      · exact congrArg some Std.OrientedCmp.eq_swap
      · exact fun a b here there => texts b a there here
      · exact fun a b here there => truths b a there here
  | case4 _ _ texts truths unknown =>
      rw [order?]
      · cases left : v.numeralKey? with
        | none => cases w.numeralKey? <;> rfl
        | some x =>
            cases right : w.numeralKey? with
            | none => rfl
            | some y => exact (unknown x y left right).elim
      · exact fun a b here there => texts b a there here
      · exact fun a b here there => truths b a there here

end Json

namespace ValueKind

variable {kind other : ValueKind}

theorem kind?_sample (kind : ValueKind) : kind.sample.kind? = some kind := by
  cases kind <;> rfl

theorem kind?_later (kind : ValueKind) : kind.later.kind? = some kind := by
  cases kind <;> rfl

theorem order?_later (ordered : kind ≠ .compound) :
    kind.later.order? kind.sample = some .gt := by
  cases kind with
  | text => rfl
  | truth => rfl
  | number => decide +kernel
  | compound => exact absurd rfl ordered

/-- Samples of different kinds are not comparable. -/
theorem order?_sample (distinct : kind ≠ other) :
    kind.sample.order? other.sample = none ∧ kind.sample.order? other.later = none := by
  cases kind <;> cases other
  all_goals first | exact absurd rfl distinct | exact ⟨by decide +kernel, by decide +kernel⟩

end ValueKind

namespace RowOrder

variable {s : RowOrder} {kinds : Set ValueKind}

/-- The kind of the value that a row is ordered by, if it has one. -/
def kind? (s : RowOrder) (row : Row) : Option ValueKind :=
  (Row.value? row s.field).bind Json.kind?

/-- The rows that are ordered by a value of one of these kinds, or have none. -/
def within (s : RowOrder) (kinds : Set ValueKind) : Set Row :=
  {row | ∀ kind ∈ s.kind? row, kind ∈ kinds}

/-- Not coming later, and being level, carry over from one row to the next. -/
structure Transitive (s : RowOrder) (rows : Set Row) : Prop where
  notLater : ∀ a ∈ rows, ∀ b ∈ rows, ∀ c ∈ rows,
    (s.ordering a b).isLE → (s.ordering b c).isLE → (s.ordering a c).isLE
  level : ∀ a ∈ rows, ∀ b ∈ rows, ∀ c ∈ rows,
    s.ordering a b = .eq → s.ordering b c = .eq → s.ordering a c = .eq

/-- Rows of which none stands behind one that it comes before. -/
def InOrder (s : RowOrder) (rows : List Row) : Prop :=
  rows.Pairwise fun earlier later => s.ordering later earlier ≠ .lt

section Comparison

theorem comparePresent_swap (x y : Option Json) :
    comparePresent y x = (comparePresent x y).swap := by
  cases x with
  | none => cases y <;> rfl
  | some v =>
      cases y with
      | none => rfl
      | some w =>
          rw [comparePresent, comparePresent, Json.order?_swap v w]
          cases v.order? w <;> rfl

theorem ordering_swap (a b : Row) : s.ordering b a = (s.ordering a b).swap := by
  unfold ordering
  dsimp only
  rw [comparePresent_swap (Row.value? a s.field)]
  cases s.direction <;> rfl

theorem ordering_self (row : Row) : s.ordering row row = .eq := by
  have same := s.ordering_swap row row
  cases ordered : s.ordering row row <;> simp_all

theorem isLE_iff_ne_lt {a b : Row} : (s.ordering a b).isLE ↔ s.ordering b a ≠ .lt := by
  rw [ordering_swap a b]
  cases s.ordering a b <;> decide

theorem level_iff_isLE {a b : Row} :
    s.ordering a b = .eq ↔ (s.ordering a b).isLE ∧ (s.ordering b a).isLE := by
  rw [ordering_swap a b]
  cases s.ordering a b <;> decide

end Comparison

section OneKind

/-- Rows without a value come last, and values of one kind compare as their keys do. -/
theorem comparePresent_isLE_trans {kind : ValueKind} {x y z : Option Json}
    (hx : ∀ v ∈ x, v.kind? = some kind) (hy : ∀ v ∈ y, v.kind? = some kind)
    (hz : ∀ v ∈ z, v.kind? = some kind) (first : (comparePresent x y).isLE)
    (second : (comparePresent y z).isLE) : (comparePresent x z).isLE := by
  obtain ⟨_, _, _, key, compares⟩ := Json.exists_key kind
  cases x with
  | none =>
      cases y with
      | none => exact second
      | some v => cases first
  | some u =>
      cases z with
      | none => rfl
      | some w =>
          cases y with
          | none => cases second
          | some v =>
              rw [comparePresent, compares _ _ (hx u rfl) (hy v rfl)] at first
              rw [comparePresent, compares _ _ (hy v rfl) (hz w rfl)] at second
              rw [comparePresent, compares _ _ (hx u rfl) (hz w rfl)]
              exact Std.TransCmp.isLE_trans first second

/-- A value that is looked up is not null, so it has a kind. -/
theorem exists_kind?_of_value? {row : Row} {v : Json} (stands : Row.value? row s.field = some v) :
    ∃ kind, v.kind? = some kind ∧ s.kind? row = some kind := by
  have present : v.isNull = false := by
    have kept := (Option.filter_eq_some_iff.mp stands).2
    simpa using kept
  obtain ⟨kind, known⟩ := Json.exists_kind present
  exact ⟨kind, known, by rw [RowOrder.kind?, stands, Option.bind_some, known]⟩

theorem exists_common_kind (single : kinds.Subsingleton) :
    ∃ kind, ∀ row ∈ s.within kinds, ∀ v ∈ Row.value? row s.field, v.kind? = some kind := by
  rcases single.eq_empty_or_singleton with rfl | ⟨kind, rfl⟩
  · refine ⟨.compound, fun row inside v stands => ?_⟩
    obtain ⟨kind, -, found⟩ := exists_kind?_of_value? stands
    exact (inside kind found).elim
  · refine ⟨kind, fun row inside v stands => ?_⟩
    obtain ⟨other, known, found⟩ := exists_kind?_of_value? stands
    rw [known, inside other found]

theorem ordering_isLE_trans (single : kinds.Subsingleton) {a b c : Row}
    (ha : a ∈ s.within kinds) (hb : b ∈ s.within kinds) (hc : c ∈ s.within kinds)
    (first : (s.ordering a b).isLE) (second : (s.ordering b c).isLE) :
    (s.ordering a c).isLE := by
  obtain ⟨kind, common⟩ := exists_common_kind (s := s) single
  unfold ordering at first second ⊢
  cases ordered : s.direction with
  | ascending =>
      rw [ordered] at first second
      exact comparePresent_isLE_trans (common a ha) (common b hb) (common c hc) first second
  | descending =>
      rw [ordered] at first second
      dsimp only at first second ⊢
      rw [← comparePresent_swap] at first second ⊢
      exact comparePresent_isLE_trans (common c hc) (common b hb) (common a ha) second first

theorem transitive_of_subsingleton (single : kinds.Subsingleton) :
    s.Transitive (s.within kinds) := by
  constructor
  · exact fun a ha b hb c hc => ordering_isLE_trans single ha hb hc
  · intro a ha b hb c hc first second
    rw [level_iff_isLE] at first second ⊢
    exact ⟨ordering_isLE_trans single ha hb hc first.1 second.1,
      ordering_isLE_trans single hc hb ha second.2 first.2⟩

end OneKind

section Sorting

variable {rows : Set Row}

/-- Inserting a row keeps rows sorted. -/
theorem insertRow_sorted (lawful : s.Transitive rows) {row : Row} {sorted : List Row}
    (inside : row ∈ rows) (all : ∀ r ∈ sorted, r ∈ rows)
    (before : sorted.Pairwise fun later earlier => (s.ordering earlier later).isLE) :
    (s.insertRow row sorted).Pairwise fun later earlier => (s.ordering earlier later).isLE := by
  induction sorted with
  | nil => exact List.pairwise_singleton _ _
  | cons last rest ih =>
      rw [List.forall_mem_cons] at all
      obtain ⟨upToLast, others⟩ := List.pairwise_cons.mp before
      rw [insertRow]
      split
      next sooner =>
        refine List.pairwise_cons.mpr ⟨fun r stands => ?_, ih all.2 others⟩
        rcases List.mem_cons.mp ((s.insertRow_perm row rest).mem_iff.mp stands) with rfl | old
        · rw [sooner]
          rfl
        · exact upToLast r old
      next notSooner =>
        -- The row stays behind the last one, and so behind all that are not later than that.
        have next : (s.ordering last row).isLE := isLE_iff_ne_lt.mpr notSooner
        refine List.pairwise_cons.mpr ⟨?_, before⟩
        rw [List.forall_mem_cons]
        refine ⟨next, fun r stands => ?_⟩
        exact lawful.notLater r (all.2 r stands) last all.1 row inside (upToLast r stands) next

theorem sortRows_inOrder (lawful : s.Transitive rows) {list : List Row}
    (all : ∀ row ∈ list, row ∈ rows) : s.InOrder (s.sortRows list) := by
  have inserted (sorted : List Row) (inside : ∀ row ∈ sorted, row ∈ rows)
      (before : sorted.Pairwise fun later earlier => (s.ordering earlier later).isLE) :
      (list.foldl (fun sorted row => s.insertRow row sorted) sorted).Pairwise
        fun later earlier => (s.ordering earlier later).isLE := by
    induction list generalizing sorted with
    | nil => exact before
    | cons row rest ih =>
        rw [List.forall_mem_cons] at all
        refine ih all.2 _ ?_ (insertRow_sorted lawful all.1 inside before)
        intro r stands
        rcases List.mem_cons.mp ((s.insertRow_perm row sorted).mem_iff.mp stands) with rfl | old
        · exact all.1
        · exact inside r old
  refine List.pairwise_reverse.mpr ((inserted [] (by simp) .nil).imp ?_)
  exact isLE_iff_ne_lt.mp

/-- What a store finds is a part of the sorted rows. -/
theorem find_inOrder [PatternEngine] (lawful : s.Transitive rows) {store : Store} {r : RowQuery}
    {found : List Row} (sorted : r.sort = s) (all : ∀ row ∈ store.rows, row ∈ rows)
    (answered : store.find r = .ok found) : s.InOrder found := by
  obtain ⟨-, rfl⟩ := Store.find_eq_ok.mp answered
  subst sorted
  have inOrder : r.sort.InOrder (r.sort.sortRows (store.rows.filter r.criteria.holds)) :=
    sortRows_inOrder lawful fun row kept => all row (List.mem_of_mem_filter kept)
  exact inOrder.sublist ((List.take_sublist _ _).trans (List.drop_sublist _ _))

end Sorting

section MixedKinds

/-- The row whose only value is this one. -/
def rowOf (s : RowOrder) (v : Json) : Row := [(s.field, v)]

variable {v w : Json} {kind other : ValueKind}

theorem value?_rowOf (known : v.kind? = some kind) :
    Row.value? (s.rowOf v) s.field = some v := by
  have present : v.isNull = false := by
    cases v with
    | null => cases known
    | bool | number | string | array | object => rfl
  simp [Row.value?, rowOf, Json.member?, present]

theorem rowOf_mem_within (known : v.kind? = some kind) (stands : kind ∈ kinds) :
    s.rowOf v ∈ s.within kinds := by
  intro found same
  rw [RowOrder.kind?, value?_rowOf known, Option.bind_some, known] at same
  cases same
  exact stands

theorem ordering_rowOf (hv : v.kind? = some kind) (hw : w.kind? = some other) :
    s.ordering (s.rowOf v) (s.rowOf w) =
      match s.direction with
      | .ascending => (v.order? w).getD .eq
      | .descending => ((v.order? w).getD .eq).swap := by
  rw [ordering, value?_rowOf hv, value?_rowOf hw]
  rfl

/-- Rows that have no order: one is level with two others that are not level. -/
structure Clash (s : RowOrder) (a b c : Row) : Prop where
  left : s.ordering b a = .eq
  right : s.ordering b c = .eq
  across : s.ordering c a = .lt

/-- A value of one kind is level with all values of another. -/
theorem exists_clash_of_ordered (ordered : kind ≠ .compound) (distinct : other ≠ kind) :
    ∃ v w, v.kind? = some kind ∧ w.kind? = some kind ∧
      s.Clash (s.rowOf v) (s.rowOf other.sample) (s.rowOf w) := by
  obtain ⟨early, late⟩ := ValueKind.order?_sample distinct
  have across := ValueKind.order?_later ordered
  have middle := other.kind?_sample
  have first := kind.kind?_sample
  have last := kind.kind?_later
  cases direction : s.direction with
  | ascending =>
      refine ⟨kind.later, kind.sample, last, first, ?_, ?_, ?_⟩
      · rw [ordering_rowOf middle last, direction, late]
        rfl
      · rw [ordering_rowOf middle first, direction, early]
        rfl
      · rw [ordering_swap, ordering_rowOf last first, direction, across]
        rfl
  | descending =>
      refine ⟨kind.sample, kind.later, first, last, ?_, ?_, ?_⟩
      · rw [ordering_rowOf middle first, direction, early]
        rfl
      · rw [ordering_rowOf middle last, direction, late]
        rfl
      · rw [ordering_rowOf last first, direction, across]
        rfl

/-- Of two kinds one has values that are not level. -/
theorem exists_clash (several : ¬ kinds.Subsingleton) :
    ∃ a ∈ s.within kinds, ∃ b ∈ s.within kinds, ∃ c ∈ s.within kinds, s.Clash a b c := by
  have twoKinds : ∃ kind ∈ kinds, ∃ other ∈ kinds, kind ≠ .compound ∧ other ≠ kind := by
    obtain ⟨kind, stands, other, stands', distinct⟩ := Set.not_subsingleton_iff.mp several
    by_cases level : kind = .compound
    · exact ⟨other, stands', kind, stands, level ▸ distinct.symm, distinct⟩
    · exact ⟨kind, stands, other, stands', level, distinct.symm⟩
  obtain ⟨kind, stands, other, stands', ordered, distinct⟩ := twoKinds
  obtain ⟨v, w, hv, hw, clash⟩ := exists_clash_of_ordered (s := s) ordered distinct
  exact ⟨_, rowOf_mem_within hv stands, _, rowOf_mem_within other.kind?_sample stands', _,
    rowOf_mem_within hw stands, clash⟩

section Clash

variable {a b c : Row}

theorem Clash.not_transitive (clash : s.Clash a b c) {rows : Set Row} (ha : a ∈ rows)
    (hb : b ∈ rows) (hc : c ∈ rows) : ¬ s.Transitive rows := by
  intro lawful
  have left : s.ordering a b = .eq := by rw [ordering_swap, clash.left, Ordering.swap_eq]
  have level := lawful.level a ha b hb c hc left clash.right
  rw [ordering_swap, clash.across] at level
  cases level

/-- Neither neighbour is moved past the other. -/
theorem Clash.sortRows (clash : s.Clash a b c) : s.sortRows [a, b, c] = [a, b, c] := by
  have right : s.ordering c b = .eq := by rw [ordering_swap, clash.right, Ordering.swap_eq]
  simp [RowOrder.sortRows, insertRow, clash.left, right]

theorem Clash.not_inOrder (clash : s.Clash a b c) : ¬ s.InOrder [a, b, c] := by
  intro inOrder
  exact (List.pairwise_cons.mp inOrder).1 c (by simp) clash.across

theorem Clash.find [PatternEngine] (clash : s.Clash a b c) :
    Store.find ⟨[a, b, c]⟩ { criteria := .empty, sort := s, limit := 3 } = .ok [a, b, c] := by
  have every : Store.select .empty [a, b, c] = .ok [a, b, c] := rfl
  rw [Store.find, every]
  exact congrArg (fun rows => Except.ok ((rows.drop 0).take 3)) clash.sortRows

end Clash

end MixedKinds

/-- Every row is level with itself and rows compare alike from both sides. That the comparison is
transitive, and that a store leaves no row behind one that it comes before, takes values of one
kind, and these are enough for both. -/
theorem ordering_lawful_iff [PatternEngine] (s : RowOrder) (kinds : Set ValueKind) :
    (∀ row, s.ordering row row = .eq) ∧
    (∀ a b, s.ordering b a = (s.ordering a b).swap) ∧
    (s.Transitive (s.within kinds) ↔ kinds.Subsingleton) ∧
    ((∀ (store : Store) (r : RowQuery) found, r.sort = s →
        (∀ row ∈ store.rows, row ∈ s.within kinds) → store.find r = .ok found →
        s.InOrder found) ↔ kinds.Subsingleton) := by
  refine ⟨ordering_self, ordering_swap, ⟨fun lawful => ?_, transitive_of_subsingleton⟩,
    ⟨fun found => ?_, fun single store r found sorted all answered => ?_⟩⟩
  · by_contra several
    obtain ⟨a, ha, b, hb, c, hc, clash⟩ := exists_clash (s := s) several
    exact clash.not_transitive ha hb hc lawful
  · by_contra several
    obtain ⟨a, ha, b, hb, c, hc, clash⟩ := exists_clash (s := s) several
    refine clash.not_inOrder (found ⟨[a, b, c]⟩ _ _ rfl ?_ clash.find)
    simp [ha, hb, hc]
  · exact find_inOrder (transitive_of_subsingleton single) sorted all answered

/-- The number is level with both texts, so the texts stay as they were; and among texts of numbers
and a number three can come one behind the other in a circle. -/
theorem mixed_values_out_of_order :
    let s : RowOrder := ⟨"v", .ascending⟩
    let b : Row := [("v", .string "b")]
    let one : Row := [("v", .ofInt 1)]
    let a : Row := [("v", .string "a")]
    let ten : Row := [("v", .string "10")]
    let nine : Row := [("v", .string "9")]
    let number : Row := [("v", .ofInt 9)]
    (s.ordering b one = .eq ∧ s.ordering one a = .eq ∧ s.ordering b a = .gt) ∧
    (s.ordering ten nine = .lt ∧ s.ordering nine number = .eq ∧ s.ordering ten number = .gt) ∧
    Store.find ⟨[b, one, a]⟩ { criteria := .empty, sort := s, limit := 3 } = .ok [b, one, a] ∧
    ¬ s.InOrder [b, one, a] := by
  intro s b one a ten nine number
  have clash : s.Clash b one a := by
    constructor <;> decide +kernel
  refine ⟨⟨?_, ?_, ?_⟩, ⟨?_, ?_, ?_⟩, clash.find, clash.not_inOrder⟩
  all_goals decide +kernel

end RowOrder

end RowFilter
