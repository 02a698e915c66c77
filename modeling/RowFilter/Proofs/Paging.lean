import Mathlib.Algebra.Order.Floor.Div
import RowFilter.Pattern.Matching
import RowFilter.Proofs.Rows.Selection
import RowFilter.Store

/-! # Paging loses and repeats nothing

Every page of a request is a slice of one list of rows: the rows that match, in the order of the
request. The slices stand one behind the other, so the pages from the first to the last that is
counted hold that list once and in order, all but the last of them are full, and there is
nothing behind them.
-/

namespace RowFilter

open Outcome

namespace Config

theorem toNat_max (a b : UInt32) : (max a b).toNat = max a.toNat b.toNat := by
  change (if a ≤ b then b else a).toNat = _
  split
  all_goals rename_i order
  all_goals rw [UInt32.le_iff_toNat_le] at order
  all_goals omega

theorem toNat_min (a b : UInt32) : (min a b).toNat = min a.toNat b.toNat := by
  change (if a ≤ b then a else b).toNat = _
  split
  all_goals rename_i order
  all_goals rw [UInt32.le_iff_toNat_le] at order
  all_goals omega

variable (c : Config) (page limit : UInt32)

/-- No page is served with room for no row, whatever sizes are configured. -/
theorem window_limit_pos : 0 < (c.window page limit).limit.toNat := by
  rw [window, toNat_min, toNat_max, toNat_max, UInt32.toNat_one]
  omega

/-- Page numbers and sizes have 32 bits, so their product has room in 64. -/
theorem window_offset_lt :
    ((c.window page limit).page.toNat - 1) * (c.window page limit).limit.toNat <
      Nat.pow 2 64 - 1 := by
  have pageBound := (c.window page limit).page.toNat_lt
  have limitBound := (c.window page limit).limit.toNat_lt
  calc
    _ ≤ (2 ^ 32 - 1) * (2 ^ 32 - 1) := Nat.mul_le_mul (by omega) (by omega)
    _ < Nat.pow 2 64 - 1 := by decide

theorem window_offset :
    (c.window page limit).offset =
      ((c.window page limit).page.toNat - 1) * (c.window page limit).limit.toNat :=
  Nat.min_eq_left (Nat.le_of_lt (c.window_offset_lt page limit))

end Config

namespace Page

variable {α : Type} {rows : List α} {size page : Nat}

/-- The rows of a page; pages are numbered from one. -/
def slice (rows : List α) (size page : Nat) : List α := (rows.drop ((page - 1) * size)).take size

theorem pageCount_eq_ceilDiv (filtered : Nat) (positive : 0 < size) :
    pageCount filtered size = filtered ⌈/⌉ size := by
  rw [pageCount, if_neg (Nat.ne_of_gt positive), Nat.ceilDiv_eq_add_pred_div]

/-- A number of pages is enough if there is room for all rows on them. -/
theorem pageCount_le_iff (positive : 0 < size) {filtered pages : Nat} :
    pageCount filtered size ≤ pages ↔ filtered ≤ pages * size := by
  rw [pageCount_eq_ceilDiv filtered positive, Nat.mul_comm]
  exact ceilDiv_le_iff_le_mul positive

theorem flatMap_slice (rows : List α) (size count : Nat) :
    (List.range' 1 count).flatMap (slice rows size) = rows.take (count * size) := by
  induction count with
  | zero => rw [List.range'_zero, List.flatMap_nil, Nat.zero_mul, List.take_zero]
  | succ count ih =>
      rw [List.range'_1_concat, List.flatMap_append, ih, Nat.succ_mul, List.take_add]
      simp [slice]

/-- The pages that are counted hold all rows, in their order. -/
theorem flatMap_slice_pageCount (positive : 0 < size) (rows : List α) :
    (List.range' 1 (pageCount rows.length size)).flatMap (slice rows size) = rows := by
  rw [flatMap_slice]
  exact List.take_of_length_le ((pageCount_le_iff positive).mp (Nat.le_refl _))

theorem length_slice :
    (slice rows size page).length = min size (rows.length - (page - 1) * size) := by
  rw [slice, List.length_take, List.length_drop]

/-- A page before the last is full. -/
theorem length_slice_of_lt (positive : 0 < size) (first : 1 ≤ page)
    (before : page < pageCount rows.length size) : (slice rows size page).length = size := by
  have beyond : page * size < rows.length :=
    Nat.not_le.mp fun enough => Nat.not_le.mpr before ((pageCount_le_iff positive).mpr enough)
  have upTo : (page - 1) * size + size = page * size := by
    rw [← Nat.succ_mul, Nat.succ_eq_add_one, Nat.sub_add_cancel first]
  rw [length_slice]
  omega

/-- The last page that is counted is not empty. -/
theorem length_slice_last (positive : 0 < size) (first : 1 ≤ page)
    (counted : page ≤ pageCount rows.length size) :
    0 < (slice rows size page).length ∧ (slice rows size page).length ≤ size := by
  have beyond : (page - 1) * size < rows.length := by
    refine Nat.not_le.mp fun enough => ?_
    have fewer := (pageCount_le_iff positive).mpr enough
    omega
  rw [length_slice]
  omega

theorem slice_eq_nil (positive : 0 < size) (behind : pageCount rows.length size < page) :
    slice rows size page = [] := by
  have enough : rows.length ≤ (page - 1) * size :=
    (pageCount_le_iff positive).mp (Nat.le_sub_one_of_lt behind)
  rw [slice, List.drop_of_length_le enough, List.take_nil]

end Page

/-- The same request for another page. -/
def PageRequest.atPage (p : PageRequest) (n : UInt32) : PageRequest := { p with page := n }

namespace Compiler

variable (k : Compiler) (store : Store) (p : PageRequest)

/-- The rows that criteria hold of, in the order of a request. -/
def matching [PatternEngine] (c : Criteria) : List Row :=
  (rowOrder k.schema p.sort p.sortDirection).sortRows (store.rows.filter c.holds)

/-- Rows as a request shows them. -/
def shown (rows : List Row) : List Row :=
  rows.map fun row => displayRow k.schema row p.selectFields k.formatter

/-- The page of a request whose criteria hold of `rows`. -/
def pageOf (rows : List Row) : Page :=
  let window := k.config.window p.page p.limit
  .new (k.shown p (Page.slice rows window.limit.toNat window.page.toNat)) store.size rows.length
    window.page window.limit

variable {k store p} {c : Criteria} {q : Page}

section

variable [PatternEngine]

theorem matching_perm : (k.matching store p c).Perm (store.rows.filter c.holds) :=
  RowOrder.sortRows_perm _ _

/-- A request is answered if it compiles to criteria that fail on no row of the store. -/
theorem answer_eq_ok :
    k.answer store p = .ok q ↔
      ∃ c, k.criteriaOfRequest p = .ok c ∧ Store.Decides c store.rows ∧
        q = k.pageOf store p (k.matching store p c) := by
  have everyRow : store.count .empty = .ok store.size := rfl
  have counted (c : Criteria) :
      (k.matching store p c).length = (store.rows.filter c.holds).length :=
    matching_perm.length_eq
  rw [answer]
  simp only [bind_eq_ok, mapError_eq_ok, Store.find_eq_ok, everyRow, pure, Except.pure,
    Except.ok.injEq, Config.window_offset]
  constructor
  · rintro ⟨c, compiled, _, rfl, filtered, count, rows, ⟨decides, rfl⟩, rfl⟩
    rw [Store.count_of_decides decides, Except.ok.injEq, ← counted] at count
    subst count
    exact ⟨c, compiled, decides, rfl⟩
  · rintro ⟨c, compiled, decides, rfl⟩
    exact ⟨c, compiled, _, rfl, _, (Store.count_of_decides decides).trans (by rw [← counted]), _,
      ⟨decides, rfl⟩, rfl⟩

/-- Whether a request is answered does not depend on the page it asks for. -/
theorem answer_atPage (compiled : k.criteriaOfRequest p = .ok c)
    (decides : Store.Decides c store.rows) (n : UInt32) :
    k.answer store (p.atPage n) = .ok (k.pageOf store (p.atPage n) (k.matching store p c)) :=
  answer_eq_ok.mpr ⟨c, compiled, decides, rfl⟩

end

/-- The number of rows for which a page of the request has room. -/
def pageSize (k : Compiler) (p : PageRequest) : Nat := (k.config.window p.page p.limit).limit.toNat

/-- The pages of a request that are counted, from the first to the last. -/
def allPages (k : Compiler) (store : Store) (p : PageRequest) (rows : List Row) : List Page :=
  (List.range' 1 (Page.pageCount rows.length (k.pageSize p))).map fun n =>
    k.pageOf store (p.atPage (.ofNat n)) rows

section AllPages

variable {rows : List Row}

theorem pageSize_pos : 0 < k.pageSize p := k.config.window_limit_pos p.page p.limit

theorem pageOf_limit : (k.pageOf store p rows).limit.toNat = k.pageSize p := rfl

theorem pageOf_filtered : (k.pageOf store p rows).filtered = rows.length := rfl

theorem pageOf_pages :
    (k.pageOf store p rows).pages = Page.pageCount rows.length (k.pageSize p) := rfl

/-- The pages of a request differ in their number and in their rows alone. -/
theorem pageOf_atPage (n : UInt32) :
    k.pageOf store (p.atPage n) rows =
      { k.pageOf store p rows with
        page := max n 1
        data := k.shown p (Page.slice rows (k.pageSize p) (max n 1).toNat) } :=
  rfl

theorem pageOf_data {n : Nat} (first : 1 ≤ n) (fits : n < 2 ^ 32) :
    (k.pageOf store (p.atPage (.ofNat n)) rows).data =
      k.shown p (Page.slice rows (k.pageSize p) n) := by
  have number : (max (UInt32.ofNat n) 1).toNat = n := by
    rw [Config.toNat_max, UInt32.toNat_ofNat_of_lt' fits, UInt32.toNat_one]
    omega
  rw [pageOf_atPage, number]

theorem flatMap_allPages (fits : Page.pageCount rows.length (k.pageSize p) < 2 ^ 32) :
    (k.allPages store p rows).flatMap Page.data = k.shown p rows := by
  calc
    _ = (List.range' 1 (Page.pageCount rows.length (k.pageSize p))).flatMap fun n =>
          k.shown p (Page.slice rows (k.pageSize p) n) := by
        rw [allPages, List.flatMap_map]
        apply List.flatMap_congr
        intro n counted
        rw [List.mem_range'_1] at counted
        exact pageOf_data counted.1 (by omega)
    _ = k.shown p ((List.range' 1 (Page.pageCount rows.length (k.pageSize p))).flatMap
          (Page.slice rows (k.pageSize p))) :=
        List.map_flatMap.symm
    _ = k.shown p rows := congrArg (k.shown p) (Page.flatMap_slice_pageCount pageSize_pos rows)

theorem length_of_mem_dropLast_allPages
    (fits : Page.pageCount rows.length (k.pageSize p) < 2 ^ 32)
    (before : q ∈ (k.allPages store p rows).dropLast) : q.data.length = k.pageSize p := by
  rw [allPages, ← List.map_dropLast, List.mem_map] at before
  obtain ⟨n, member, rfl⟩ := before
  have bounds : 1 ≤ n ∧ n < Page.pageCount rows.length (k.pageSize p) := by
    cases count : Page.pageCount rows.length (k.pageSize p) with
    | zero => simp [count] at member
    | succ pages =>
        rw [count, List.range'_1_concat, List.dropLast_concat, List.mem_range'_1] at member
        omega
  rw [pageOf_data bounds.1 (by omega), shown, List.length_map]
  exact Page.length_slice_of_lt pageSize_pos bounds.1 bounds.2

theorem length_of_mem_getLast?_allPages
    (fits : Page.pageCount rows.length (k.pageSize p) < 2 ^ 32)
    (last : q ∈ (k.allPages store p rows).getLast?) :
    0 < q.data.length ∧ q.data.length ≤ k.pageSize p := by
  rw [allPages, List.getLast?_map, List.getLast?_range', Option.mem_map] at last
  obtain ⟨n, number, rfl⟩ := last
  split at number
  · cases number
  · rename_i some
    have same : n = Page.pageCount rows.length (k.pageSize p) := by
      simp only [Option.mem_def, Option.some.injEq] at number
      omega
    have first : 1 ≤ n := by omega
    rw [pageOf_data first (by omega), shown, List.length_map]
    exact Page.length_slice_last pageSize_pos first (Nat.le_of_eq same)

/-- Behind the last page there is nothing. -/
theorem pageOf_behind {n : UInt32}
    (behind : Page.pageCount rows.length (k.pageSize p) < n.toNat) :
    k.pageOf store (p.atPage n) rows = { k.pageOf store p rows with page := n, data := [] } := by
  have number : max n 1 = n := by
    apply UInt32.toNat_inj.mp
    rw [Config.toNat_max, UInt32.toNat_one]
    omega
  rw [pageOf_atPage, number, Page.slice_eq_nil pageSize_pos behind]
  rfl

end AllPages

/-- How the pages of a request, one of which is `q`, share out the rows that match it. -/
structure Paged [PatternEngine] (k : Compiler) (store : Store) (p : PageRequest) (q : Page)
    (c : Criteria) (rows : List Row) : Prop where
  compiled : k.criteriaOfRequest p = .ok c
  decides : Store.Decides c store.rows
  perm : rows.Perm (store.rows.filter c.holds)
  /-- The rows stand in the order in which they are found without a page. -/
  found : ∀ limit, store.size ≤ limit →
    store.find { criteria := c, sort := rowOrder k.schema p.sort p.sortDirection, limit } = .ok rows
  total : q.total = store.size
  filtered : q.filtered = store.rows.countP c.holds
  limit_pos : 0 < q.limit.toNat
  pages : q.pages = q.filtered ⌈/⌉ q.limit.toNat
  window : k.config.window p.page p.limit =
    { page := q.page, limit := q.limit, offset := (q.page.toNat - 1) * q.limit.toNat }
  /-- The offset stays below the number at which it would be cut off. -/
  offset_lt : (q.page.toNat - 1) * q.limit.toNat < 2 ^ 64 - 1
  /-- Every page is served, with the same counts. -/
  served : ∀ n, ∃ data, k.answer store (p.atPage n) = .ok { q with page := max n 1, data }
  zero : k.answer store (p.atPage 0) = k.answer store (p.atPage 1)
  behind : ∀ n : UInt32, q.pages < n.toNat →
    k.answer store (p.atPage n) = .ok { q with page := n, data := [] }
  /-- The pages one behind the other are the rows that match, and all but the last are full. -/
  shared : q.pages < 2 ^ 32 → ∃ pages,
    (List.range' 1 q.pages).mapM (fun n => k.answer store (p.atPage (.ofNat n))) = .ok pages ∧
      pages.flatMap Page.data = k.shown p rows ∧
      (∀ page ∈ pages.dropLast, page.data.length = q.limit.toNat) ∧
      ∀ page ∈ pages.getLast?, 0 < page.data.length ∧ page.data.length ≤ q.limit.toNat

/-- Wherever a request is answered, its pages share out the rows that match it. -/
theorem answer_paged [PatternEngine] (answered : k.answer store p = .ok q) :
    ∃ c rows, k.Paged store p q c rows := by
  obtain ⟨c, compiled, decides, rfl⟩ := answer_eq_ok.mp answered
  have anyPage := answer_atPage compiled decides
  refine ⟨c, k.matching store p c, ?_⟩
  constructor
  case compiled => exact compiled
  case decides => exact decides
  case perm => exact matching_perm
  case found =>
    intro limit unbounded
    have few : (k.matching store p c).length ≤ limit := by
      rw [matching_perm.length_eq]
      exact (List.length_filter_le _ _).trans unbounded
    exact Store.find_eq_ok.mpr ⟨decides, (List.take_of_length_le few).symm⟩
  case total => rfl
  case filtered => rw [pageOf_filtered, matching_perm.length_eq, List.countP_eq_length_filter]
  case limit_pos => exact pageSize_pos
  case pages =>
    rw [pageOf_pages, pageOf_filtered, pageOf_limit]
    exact Page.pageCount_eq_ceilDiv _ pageSize_pos
  case window => exact congrArg (Window.mk _ _) (k.config.window_offset p.page p.limit)
  case offset_lt => exact k.config.window_offset_lt p.page p.limit
  case served =>
    intro n
    exact ⟨_, (anyPage n).trans (congrArg Except.ok (pageOf_atPage n))⟩
  case zero => rfl
  case behind =>
    intro n behind
    rw [anyPage n, pageOf_behind behind]
  case shared =>
    rw [pageOf_pages, pageOf_limit]
    intro fits
    refine ⟨k.allPages store p (k.matching store p c), ?_, flatMap_allPages fits, ?_, ?_⟩
    · exact mapM_eq_ok fun n _ => anyPage (.ofNat n)
    · intro page before
      exact length_of_mem_dropLast_allPages fits before
    · intro page last
      exact length_of_mem_getLast?_allPages fits last

/-- No standard size is configured, the size asked for is too great, and a row without a name is
left out: the second and last page holds the last name. -/
theorem answer_paged_clamped :
    let k : Compiler :=
      { schema := { name := "User", fields := .ofList [("name", {})] }
        config := { defaultPageSize := 0, maxPageSize := 2 } }
    let store : Store := ⟨[[("id", .string "a"), ("name", .string "Cid")], [("id", .string "b")],
      [("id", .string "c"), ("name", .string "Ann")],
      [("id", .string "d"), ("name", .string "Bob")]]⟩
    let p : PageRequest :=
      { page := 2, limit := 9, sort := some "name", selectFields := some [],
        filters := [.leaf { id := "t", field := some "name", operator := some "isNotNull" }] }
    let q : Page :=
      { data := [[("id", .string "a")]], total := 4, filtered := 3, page := 2, limit := 2,
        pages := 2 }
    k.answer store p = .ok q ∧ ∃ c rows, k.Paged store p q c rows := by
  intro k store p q
  have answered : k.answer store p = .ok q := by
    subst k store p q
    rfl
  exact ⟨answered, answer_paged answered⟩

end Compiler

end RowFilter
