import RowFilter.Json.Record

/-! # Settled values

A JSON text may repeat a name in an object and may hold literals that stand for no number. A value
that has been read has neither. Reading gives settled values only, and reads a settled value as
itself.
-/

namespace RowFilter.Json

/-- Induction over values: what holds of all items, or of all members, holds of their array or
object. -/
@[elab_as_elim]
theorem value_induction {motive : Json → Prop} (null : motive null) (bool : ∀ b, motive (bool b))
    (number : ∀ n, motive (number n)) (string : ∀ s, motive (string s))
    (array : ∀ items, (∀ v ∈ items, motive v) → motive (array items))
    (object : ∀ members, (∀ m ∈ members, motive m.2) → motive (object members)) (v : Json) :
    motive v := by
  match v with
  | .null => exact null
  | .bool b => exact bool b
  | .number n => exact number n
  | .string s => exact string s
  | .array items =>
      exact array items fun v inside => value_induction null bool number string array object v
  | .object members =>
      exact object members fun m inside => value_induction null bool number string array object m.2
termination_by sizeOf v
decreasing_by
  · have smaller := List.sizeOf_lt_of_mem inside
    simp only [Json.array.sizeOf_spec]
    omega
  · have smaller := List.sizeOf_lt_of_mem inside
    obtain ⟨name, v⟩ := m
    simp only [Json.object.sizeOf_spec, Prod.mk.sizeOf_spec] at smaller ⊢
    omega

mutual

/-- Every number stands for a value, and no object repeats a name. -/
def Settled : Json → Prop
  | number (.huge _) => False
  | array items => SettledItems items
  | object members => (members.map Prod.fst).Nodup ∧ SettledMembers members
  | _ => True

def SettledItems : List Json → Prop
  | [] => True
  | v :: rest => Settled v ∧ SettledItems rest

def SettledMembers : List (String × Json) → Prop
  | [] => True
  | (_, v) :: rest => Settled v ∧ SettledMembers rest

end

theorem settledItems_iff {items : List Json} :
    SettledItems items ↔ ∀ v ∈ items, v.Settled := by
  induction items with
  | nil => simp [SettledItems]
  | cons v rest ih => rw [SettledItems, ih, List.forall_mem_cons]

theorem settledMembers_iff {members : Row} :
    SettledMembers members ↔ ∀ m ∈ members, m.2.Settled := by
  induction members with
  | nil => simp [SettledMembers]
  | cons m rest ih => rw [SettledMembers, ih, List.forall_mem_cons]

theorem settled_array {items : List Json} : (array items).Settled ↔ ∀ v ∈ items, v.Settled := by
  rw [Settled, settledItems_iff]

theorem settled_object {members : Row} :
    (object members).Settled ↔ (members.map Prod.fst).Nodup ∧ ∀ m ∈ members, m.2.Settled := by
  rw [Settled, settledMembers_iff]

theorem itemsReadable_iff {items : List Json} :
    itemsReadable items = true ↔ ∀ v ∈ items, v.isReadable = true := by
  induction items with
  | nil => simp [itemsReadable]
  | cons v rest ih => rw [itemsReadable, Bool.and_eq_true, ih, List.forall_mem_cons]

theorem membersReadable_iff {members : Row} :
    membersReadable members = true ↔ ∀ m ∈ members, m.2.isReadable = true := by
  induction members with
  | nil => simp [membersReadable]
  | cons m rest ih => rw [membersReadable, Bool.and_eq_true, ih, List.forall_mem_cons]

theorem Settled.isReadable {v : Json} (settled : v.Settled) : v.isReadable = true := by
  induction v using value_induction with
  | null | bool b | string s => rfl
  | number n =>
      cases n with
      | int i | double d => rfl
      | huge negative => cases settled
  | array items ih =>
      rw [Json.isReadable, itemsReadable_iff]
      exact fun v inside => ih v inside (settled_array.mp settled v inside)
  | object members ih =>
      rw [Json.isReadable, membersReadable_iff]
      exact fun m inside => ih m inside ((settled_object.mp settled).2 m inside)

section Insertion

variable {members : Row} {name : String} {v : Json}

theorem hasMember_iff : hasMember members name = true ↔ name ∈ members.map Prod.fst := by
  rw [hasMember, List.any_eq_true, List.mem_map]
  simp only [beq_iff_eq]

theorem insertMember_of_new (new : name ∉ members.map Prod.fst) :
    insertMember members name v = members ++ [(name, v)] := by
  rw [insertMember, if_neg (mt hasMember_iff.mp new)]

theorem names_insertMember_of_old (old : name ∈ members.map Prod.fst) :
    (insertMember members name v).map Prod.fst = members.map Prod.fst := by
  rw [insertMember, if_pos (hasMember_iff.mpr old), List.map_map]
  refine List.map_congr_left fun m _ => ?_
  by_cases same : m.1 = name <;> simp [same]

theorem nodup_insertMember (distinct : (members.map Prod.fst).Nodup) :
    ((insertMember members name v).map Prod.fst).Nodup := by
  by_cases old : name ∈ members.map Prod.fst
  · rw [names_insertMember_of_old old]
    exact distinct
  · rw [insertMember_of_new old, List.map_append, List.nodup_append]
    refine ⟨distinct, by simp, fun other stands new last => ?_⟩
    rw [List.mem_singleton.mp last]
    rintro rfl
    exact old stands

theorem settled_insertMember (settled : ∀ m ∈ members, m.2.Settled) (new : v.Settled) :
    ∀ m ∈ insertMember members name v, m.2.Settled := by
  unfold insertMember
  split
  · rw [List.forall_mem_map]
    intro m inside
    split
    · exact new
    · exact settled m inside
  · rw [List.forall_mem_append]
    exact ⟨settled, List.forall_mem_singleton.mpr new⟩

end Insertion

theorem collapseItems_eq_map (items : List Json) : collapseItems items = items.map collapse := by
  induction items with
  | nil => rfl
  | cons v rest ih => rw [collapseItems, ih, List.map_cons]

/-- Where no name is repeated, members are collapsed one by one. -/
theorem collapseMembers_of_nodup {done members : Row}
    (distinct : ((done ++ members).map Prod.fst).Nodup)
    (still : ∀ m ∈ members, m.2.collapse = m.2) :
    collapseMembers done members = done ++ members := by
  induction members generalizing done with
  | nil => rw [collapseMembers, List.append_nil]
  | cons m rest ih =>
      obtain ⟨name, v⟩ := m
      rw [List.forall_mem_cons] at still
      have new : name ∉ done.map Prod.fst := by
        intro old
        rw [List.map_append, List.nodup_append] at distinct
        exact distinct.2.2 name old name List.mem_cons_self rfl
      rw [collapseMembers, still.1, insertMember_of_new new, ih (by simpa using distinct) still.2,
        List.append_assoc]
      rfl

/-- What is settled has nothing left to collapse. -/
theorem Settled.collapse {v : Json} (settled : v.Settled) : v.collapse = v := by
  induction v using value_induction with
  | null | bool b | number n | string s => rfl
  | array items ih =>
      have same : items.map Json.collapse = items.map id :=
        List.map_congr_left fun v inside => ih v inside (settled_array.mp settled v inside)
      rw [Json.collapse, collapseItems_eq_map, same, List.map_id]
  | object members ih =>
      obtain ⟨distinct, inside⟩ := settled_object.mp settled
      have still := fun m stands => ih m stands (inside m stands)
      exact congrArg object (collapseMembers_of_nodup distinct still)

theorem settled_collapseMembers {done members : Row} (distinct : (done.map Prod.fst).Nodup)
    (settled : ∀ m ∈ done, m.2.Settled) (settles : ∀ m ∈ members, m.2.collapse.Settled) :
    (object (collapseMembers done members)).Settled := by
  induction members generalizing done with
  | nil => exact settled_object.mpr ⟨distinct, settled⟩
  | cons m rest ih =>
      rw [List.forall_mem_cons] at settles
      exact ih (nodup_insertMember distinct) (settled_insertMember settled settles.1) settles.2

/-- Collapsing a value that can be read settles it. -/
theorem settled_collapse {v : Json} (readable : v.isReadable = true) : v.collapse.Settled := by
  induction v using value_induction with
  | null | bool b | string s => trivial
  | number n =>
      cases n with
      | int i | double d => trivial
      | huge negative => cases readable
  | array items ih =>
      rw [Json.isReadable, itemsReadable_iff] at readable
      rw [Json.collapse, collapseItems_eq_map, settled_array, List.forall_mem_map]
      exact fun v inside => ih v inside (readable v inside)
  | object members ih =>
      rw [Json.isReadable, membersReadable_iff] at readable
      refine settled_collapseMembers List.nodup_nil (List.forall_mem_nil _) fun m inside => ?_
      exact ih m inside (readable m inside)

/-- A settled value is read as itself. -/
theorem asValue?_of_settled {v : Json} (settled : v.Settled) : asValue? v = some v := by
  rw [asValue?, if_pos settled.isReadable, settled.collapse]

/-- What is read is settled, and it is null only if null was given. -/
theorem asValue?_eq_some {v w : Json} (read : asValue? v = some w) :
    w.Settled ∧ (w = null → v = null) := by
  unfold asValue? at read
  split at read
  · rename_i readable
    cases read
    refine ⟨settled_collapse readable, fun absent => ?_⟩
    cases v <;> simp_all [Json.collapse]
  · cases read

end RowFilter.Json
