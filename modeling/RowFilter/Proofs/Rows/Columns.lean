import Mathlib.Data.List.Induction
import RowFilter.Proofs.Condition.Mentions
import RowFilter.Proofs.Json.Records
import RowFilter.Rows.Display

/-! # Columns of output rows

An output row is built by a loop over the names asked for, which passes over the names that have a
column by then. So it has a column for each name, at the first place where that is asked for, and
every column is a function of the value under its name: what a row holds under other names does not
show.
-/

namespace RowFilter

namespace Display

/-- What a row is shown with under a name. -/
def shown (schema : Schema) (row : Row) (formatter : Option CellFormatter) (name : String) : Json :=
  (formatter.bind fun f => f name ((Json.member? row name).getD .null) row).getD
    (cell (schema.fields.get? name) ((Json.member? row name).getD .null))

/-- A pass of the loop over the names asked for: one that has no column yet gets one. -/
def addColumn (schema : Schema) (row : Row) (formatter : Option CellFormatter) (out : Row)
    (name : String) : Row :=
  if name == schema.primaryKey || Json.hasMember out name then out
  else out ++ [(name, shown schema row formatter name)]

/-- The names of a request that are shown beside the primary key. -/
def columns (key : String) (names : List String) : List String :=
  names.eraseDups.filter fun name => name != key

/-- Two rows have the same values under some names. -/
def Agree (names : List String) (row row' : Row) : Prop :=
  ∀ name ∈ names, Json.member? row name = Json.member? row' name

variable {schema : Schema} {row row' : Row}
  {formatter : Option CellFormatter} {key name : String} {names : List String}

/-- What is shown under a name depends on the value there, and on the rest of the row only as far as
the formatter does. -/
theorem shown_congr (agree : Json.member? row name = Json.member? row' name)
    (alike : ∀ f ∈ formatter, ∀ name v, f name v row = f name v row') :
    shown schema row formatter name = shown schema row' formatter name := by
  cases formatter with
  | none => rw [shown, shown, agree]; rfl
  | some f =>
      rw [shown, shown, agree, Option.bind_some, Option.bind_some, alike f rfl]

theorem mem_columns : name ∈ columns key names ↔ name ∈ names ∧ name ≠ key := by
  rw [columns, List.mem_filter, List.mem_eraseDups, bne_iff_ne]

theorem columns_concat :
    columns key (names ++ [name]) =
      columns key names ++ if name = key ∨ name ∈ names then [] else [name] := by
  rw [columns, List.eraseDups_append, List.filter_append, ← columns]
  by_cases known : name ∈ names
  · simp [List.removeAll, known]
  · by_cases same : name = key <;> simp [List.removeAll, List.eraseDups_cons, known, same]

theorem columns_first (key : String) (names : List String) :
    FirstOccurrences (columns key names) (names.filter fun name => name != key) :=
  (firstOccurrences_eraseDups names).filter _

/-- An output row with columns for the names that a request has so far. -/
def shownRow (schema : Schema) (row : Row) (formatter : Option CellFormatter)
    (names : List String) : Row :=
  (schema.primaryKey, (Json.member? row schema.primaryKey).getD .null) ::
    (columns schema.primaryKey names).map fun name => (name, shown schema row formatter name)

theorem displayRow_eq (schema : Schema) (row : Row) (select : Option (List String))
    (formatter : Option CellFormatter) :
    displayRow schema row select formatter =
      shownRow schema row formatter (select.getD schema.fields.names) := rfl

theorem shownRow_concat :
    shownRow schema row formatter (names ++ [name]) = shownRow schema row formatter names ++
      if name = schema.primaryKey ∨ name ∈ names then []
      else [(name, shown schema row formatter name)] := by
  rw [shownRow, columns_concat, List.map_append, ← List.cons_append, ← shownRow]
  split <;> rfl

theorem keys_shownRow :
    (shownRow schema row formatter names).map Prod.fst =
      schema.primaryKey :: columns schema.primaryKey names := by
  rw [shownRow, List.map_cons, List.map_map]
  exact congrArg (List.cons _) (List.map_id _)

theorem nodup_keys_shownRow : ((shownRow schema row formatter names).map Prod.fst).Nodup := by
  rw [keys_shownRow, List.nodup_cons]
  exact ⟨fun inside => (mem_columns.mp inside).2 rfl, (columns_first _ _).nodup⟩

theorem hasMember_shownRow :
    Json.hasMember (shownRow schema row formatter names) name = true ↔
      name = schema.primaryKey ∨ name ∈ columns schema.primaryKey names := by
  rw [Json.hasMember_iff, keys_shownRow, List.mem_cons]

/-- A pass over one more name. -/
theorem addColumn_shownRow :
    addColumn schema row formatter (shownRow schema row formatter names) name =
      shownRow schema row formatter (names ++ [name]) := by
  have taken : (name == schema.primaryKey ||
        Json.hasMember (shownRow schema row formatter names) name) = true ↔
      name = schema.primaryKey ∨ name ∈ names := by
    rw [Bool.or_eq_true, beq_iff_eq, hasMember_shownRow, mem_columns]
    tauto
  rw [addColumn, shownRow_concat]
  by_cases present : name = schema.primaryKey ∨ name ∈ names
  · rw [if_pos present, if_pos (taken.mpr present), List.append_nil]
  · rw [if_neg present, if_neg (mt taken.mp present)]

theorem foldl_addColumn :
    names.foldl (addColumn schema row formatter) (shownRow schema row formatter []) =
      shownRow schema row formatter names := by
  -- By induction from the end, where a pass adds its column.
  induction names using List.reverseRecOn with
  | nil => rfl
  | append_singleton before name ih =>
      rw [List.foldl_concat, ih, addColumn_shownRow]

theorem member?_shownRow_key :
    Json.member? (shownRow schema row formatter names) schema.primaryKey =
      some ((Json.member? row schema.primaryKey).getD .null) :=
  Json.member?_eq_some_of_mem nodup_keys_shownRow List.mem_cons_self

theorem member?_shownRow (inside : name ∈ names) (other : name ≠ schema.primaryKey) :
    Json.member? (shownRow schema row formatter names) name =
      some (shown schema row formatter name) := by
  have listed := mem_columns.mpr ⟨inside, other⟩
  exact Json.member?_eq_some_of_mem nodup_keys_shownRow
    (List.mem_cons_of_mem _ (List.mem_map_of_mem listed))

/-- Rows that agree on the names asked for are shown alike, if the formatter does not tell them
apart. -/
theorem shownRow_congr (agree : Agree (schema.primaryKey :: names) row row')
    (alike : ∀ f ∈ formatter, ∀ name v, f name v row = f name v row') :
    shownRow schema row formatter names = shownRow schema row' formatter names := by
  obtain ⟨sameKey, others⟩ := List.forall_mem_cons.mp agree
  rw [shownRow, shownRow, sameKey]
  congr 1
  refine List.map_congr_left fun name inside => ?_
  rw [shown_congr (others name (mem_columns.mp inside).1) alike]

/-- An output row for a request. -/
structure Shows (schema : Schema) (row : Row) (select : Option (List String))
    (formatter : Option CellFormatter) (out : Row) : Prop where
  /-- The primary key has the first column, and each other name one, where it is first asked for. -/
  keys : ∃ others, out.map Prod.fst = schema.primaryKey :: others ∧
    FirstOccurrences others
      ((select.getD schema.fields.names).filter fun name => name != schema.primaryKey)
  /-- Without a request the names of the schema are asked for, in their order. -/
  inOrder : schema.fields.names.Pairwise (· < ·)
  /-- The primary key is shown as it stands in the row. -/
  key : Json.member? out schema.primaryKey = some ((Json.member? row schema.primaryKey).getD .null)
  column : ∀ name ∈ select.getD schema.fields.names, name ≠ schema.primaryKey →
    Json.member? out name = some (shown schema row formatter name)
  loop : out = (select.getD schema.fields.names).foldl (addColumn schema row formatter)
    [(schema.primaryKey, (Json.member? row schema.primaryKey).getD .null)]

end Display

open Display

/-- An output row has the columns asked for and no others, and rows that agree on these and on the
primary key give the same one. -/
theorem displayRow_columns (schema : Schema) (row : Row) (select : Option (List String))
    (formatter : Option CellFormatter) :
    Shows schema row select formatter (displayRow schema row select formatter) ∧
    ∀ row', Agree (schema.primaryKey :: select.getD schema.fields.names) row row' →
      displayRow schema row select none = displayRow schema row' select none := by
  simp only [displayRow_eq]
  refine ⟨?_, fun row' agree => shownRow_congr agree (by rintro f ⟨⟩)⟩
  exact
    { keys := ⟨_, keys_shownRow, columns_first _ _⟩
      inOrder := schema.fields.sorted
      key := member?_shownRow_key
      column := fun name inside other => member?_shownRow inside other
      loop := foldl_addColumn.symm }

/-- A request with a name twice, the primary key and an unknown name, for two rows that differ where
nothing is asked for. -/
theorem displayRow_columns_secret :
    let schema : Schema := { name := "User", fields := .ofList [("name", {}), ("secret", {})] }
    let select := some ["name", "id", "ghost", "name"]
    let row (secret : String) : Row :=
      [("secret", .string secret), ("name", .string "Ann"), ("id", .bool true)]
    displayRow schema (row "a") select none = displayRow schema (row "b") select none ∧
    displayRow schema (row "a") select none =
      [("id", .bool true), ("name", .string "Ann"), ("ghost", .null)] := by
  intro schema select row
  refine ⟨(displayRow_columns schema (row "a") select none).2 (row "b") ?_, rfl⟩
  intro name asked
  simp only [select, schema, Option.getD_some, List.mem_cons, List.not_mem_nil, or_false] at asked
  rcases asked with rfl | rfl | rfl | rfl | rfl <;> rfl

end RowFilter
