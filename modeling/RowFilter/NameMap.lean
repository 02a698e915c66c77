/-! # Maps from names, in name order -/

namespace RowFilter

/-- Entries under distinct names, in increasing order of the names. -/
structure NameMap (α : Type) where
  entries : List (String × α)
  sorted : (entries.map Prod.fst).Pairwise (· < ·)

namespace NameMap

variable {α : Type}

def empty : NameMap α := ⟨[], .nil⟩

instance : Inhabited (NameMap α) := ⟨empty⟩

/-- Adds an entry at its place, over one of the same name. -/
def insertEntry (name : String) (v : α) : List (String × α) → List (String × α)
  | [] => [(name, v)]
  | (other, w) :: rest =>
    if name < other then (name, v) :: (other, w) :: rest
    else if other < name then (other, w) :: insertEntry name v rest
    else (name, v) :: rest

theorem mem_insertEntry {name other : String} {v : α} {entries : List (String × α)}
    (h : other ∈ (insertEntry name v entries).map Prod.fst) :
    other = name ∨ other ∈ entries.map Prod.fst := by
  induction entries with
  | nil => simpa [insertEntry] using h
  | cons e rest ih =>
    obtain ⟨n, w⟩ := e
    simp only [insertEntry] at h
    split at h
    · simpa using h
    · split at h
      · simp only [List.map_cons, List.mem_cons] at h ⊢
        rcases h with h | h
        · exact .inr (.inl h)
        · exact (ih h).imp id .inr
      · simp only [List.map_cons, List.mem_cons] at h ⊢
        exact h.imp id .inr

theorem sorted_insertEntry (name : String) (v : α) {entries : List (String × α)}
    (h : (entries.map Prod.fst).Pairwise (· < ·)) :
    ((insertEntry name v entries).map Prod.fst).Pairwise (· < ·) := by
  induction entries with
  | nil => simp [insertEntry]
  | cons e rest ih =>
    obtain ⟨n, w⟩ := e
    simp only [List.map_cons, List.pairwise_cons] at h
    simp only [insertEntry]
    split
    next lt =>
      simp only [List.map_cons, List.pairwise_cons, List.mem_cons]
      refine ⟨?_, h⟩
      rintro m (rfl | hm)
      · exact lt
      · exact String.lt_trans lt (h.1 m hm)
    next nlt =>
      split
      next lt =>
        simp only [List.map_cons, List.pairwise_cons]
        refine ⟨fun m hm => ?_, ih h.2⟩
        rcases mem_insertEntry hm with rfl | hm
        · exact lt
        · exact h.1 m hm
      next nlt' =>
        have same : name = n := String.le_antisymm nlt' nlt
        subst same
        exact List.pairwise_cons.2 h

def insert (m : NameMap α) (name : String) (v : α) : NameMap α :=
  ⟨insertEntry name v m.entries, sorted_insertEntry name v m.sorted⟩

def filter (m : NameMap α) (keep : String → Bool) : NameMap α :=
  ⟨m.entries.filter fun e => keep e.1,
    m.sorted.sublist ((List.filter_sublist (p := fun e => keep e.1)).map Prod.fst)⟩

def erase (m : NameMap α) (name : String) : NameMap α := m.filter fun n => n != name

/-- Of entries with one name the last counts. -/
def ofList (entries : List (String × α)) : NameMap α :=
  entries.foldl (fun m e => m.insert e.1 e.2) empty

def get? (m : NameMap α) (name : String) : Option α := m.entries.lookup name

/-- Under the name of an entry stands what is in it. -/
theorem get?_of_mem {m : NameMap α} {name : String} {v : α} (stands : (name, v) ∈ m.entries) :
    m.get? name = some v := by
  obtain ⟨entries, sorted⟩ := m
  simp only [get?] at stands ⊢
  induction entries with
  | nil => cases stands
  | cons e rest ih =>
    obtain ⟨before, others⟩ := List.pairwise_cons.mp sorted
    rcases List.mem_cons.mp stands with rfl | later
    · exact List.lookup_cons_self
    · have distinct : name ≠ e.1 :=
        (String.ne_of_lt (before name (List.mem_map_of_mem later))).symm
      rw [List.lookup_cons, beq_false_of_ne distinct]
      exact ih others later

theorem mem_entries {m : NameMap α} {name : String} {v : α} :
    (name, v) ∈ m.entries ↔ m.get? name = some v := by
  refine ⟨get?_of_mem, fun found => ?_⟩
  obtain ⟨before, after, parts, -⟩ := List.lookup_eq_some_iff.mp found
  simp [parts]

@[simp] theorem get?_empty (name : String) : (empty : NameMap α).get? name = none := rfl

private theorem lookup_cons_if (name other : String) (v : α) (rest : List (String × α)) :
    ((name, v) :: rest).lookup other = if other = name then some v else rest.lookup other := by
  rw [List.lookup_cons]
  by_cases same : other = name
  · rw [if_pos same, same, beq_self_eq_true]
  · rw [if_neg same, beq_false_of_ne same]

theorem lookup_insertEntry (name other : String) (v : α) (entries : List (String × α)) :
    (insertEntry name v entries).lookup other =
      if other = name then some v else entries.lookup other := by
  induction entries with
  | nil => rw [insertEntry, lookup_cons_if]
  | cons e rest ih =>
    obtain ⟨n, w⟩ := e
    rw [insertEntry]
    split
    · rw [lookup_cons_if]
    next nlt =>
      split
      next lt =>
        have distinct : n ≠ name := String.ne_of_lt lt
        rw [lookup_cons_if, lookup_cons_if, ih]
        by_cases same : other = n
        · rw [if_pos same, if_pos same, if_neg (same ▸ distinct)]
        · rw [if_neg same, if_neg same]
      next nlt' =>
        rw [← String.le_antisymm nlt' nlt, lookup_cons_if, lookup_cons_if]
        by_cases same : other = name
        · rw [if_pos same, if_pos same]
        · rw [if_neg same, if_neg same, if_neg same]

theorem lookup_filter (keep : String → Bool) (name : String) (entries : List (String × α)) :
    (entries.filter fun e => keep e.1).lookup name =
      if keep name then entries.lookup name else none := by
  induction entries with
  | nil => simp
  | cons e rest ih =>
    obtain ⟨n, w⟩ := e
    rw [List.filter_cons, lookup_cons_if]
    by_cases same : name = n
    · subst same
      cases kept : keep name <;> simp [kept, ih]
    · rw [if_neg same, ← ih]
      split
      · rw [lookup_cons_if, if_neg same]
      · rfl

theorem get?_insert (m : NameMap α) (name other : String) (v : α) :
    (m.insert name v).get? other = if other = name then some v else m.get? other :=
  lookup_insertEntry name other v m.entries

theorem get?_filter (m : NameMap α) (keep : String → Bool) (name : String) :
    (m.filter keep).get? name = if keep name then m.get? name else none :=
  lookup_filter keep name m.entries

theorem get?_erase (m : NameMap α) (name other : String) :
    (m.erase name).get? other = if other = name then none else m.get? other := by
  rw [erase, get?_filter]
  by_cases same : other = name <;> simp [same]

def contains (m : NameMap α) (name : String) : Bool := (m.get? name).isSome

def names (m : NameMap α) : List String := m.entries.map Prod.fst

theorem nodup_names (m : NameMap α) : m.names.Nodup := m.sorted.imp String.ne_of_lt

theorem mem_names_of_get? {m : NameMap α} {name : String} {v : α} (found : m.get? name = some v) :
    name ∈ m.names :=
  List.mem_map_of_mem (mem_entries.mpr found)

theorem mem_names {m : NameMap α} {name : String} : name ∈ m.names ↔ m.contains name = true := by
  rw [contains, Option.isSome_iff_exists]
  constructor
  · intro stands
    obtain ⟨⟨_, v⟩, entry, rfl⟩ := List.mem_map.mp stands
    exact ⟨v, get?_of_mem entry⟩
  · rintro ⟨v, found⟩
    exact mem_names_of_get? found

def size (m : NameMap α) : Nat := m.entries.length

def isEmpty (m : NameMap α) : Bool := m.entries.isEmpty

/-- The size is the number of distinct names. -/
theorem size_eq (m : NameMap α) {names : List String} (distinct : names.Nodup)
    (these : ∀ name, name ∈ names ↔ m.contains name = true) : m.size = names.length := by
  have same : names.Perm m.names :=
    (List.perm_ext_iff_of_nodup distinct m.nodup_names).mpr fun name =>
      (these name).trans mem_names.symm
  rw [same.length_eq, NameMap.names, List.length_map, size]

theorem isEmpty_iff {m : NameMap α} : m.isEmpty = true ↔ ∀ name, m.get? name = none := by
  rw [isEmpty, List.isEmpty_iff]
  constructor
  · intro none name
    rw [get?, none, List.lookup_nil]
  · intro none
    rw [List.eq_nil_iff_forall_not_mem]
    rintro ⟨name, v⟩ entry
    rw [mem_entries, none] at entry
    cases entry

end NameMap

end RowFilter
