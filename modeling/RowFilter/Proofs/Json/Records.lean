import Mathlib.Data.List.Nodup
import RowFilter.Proofs.Json.Settled

/-! # Writing and reading records

A record is written without its absent members and read member by member. Where the names are
distinct, each reader finds what was written under its name.
-/

namespace RowFilter.Json

/-- The members that are written. -/
def present (fields : List (String × Option Json)) : Row :=
  fields.filterMap fun m => m.2.map fun v => (m.1, v)

theorem objectOf_eq (fields : List (String × Option Json)) :
    objectOf fields = object (present fields) := rfl

theorem mem_present {fields : List (String × Option Json)} {name : String} {v : Json} :
    (name, v) ∈ present fields ↔ (name, some v) ∈ fields := by
  rw [present, List.mem_filterMap]
  constructor
  · rintro ⟨⟨other, x⟩, stands, written⟩
    obtain ⟨w, rfl, same⟩ := Option.map_eq_some_iff.mp written
    cases same
    exact stands
  · exact fun stands => ⟨(name, some v), stands, rfl⟩

theorem names_present (fields : List (String × Option Json)) :
    ((present fields).map Prod.fst).Sublist (fields.map Prod.fst) := by
  induction fields with
  | nil => exact List.Sublist.slnil
  | cons m rest ih =>
      obtain ⟨name, x⟩ := m
      cases x with
      | none => exact ih.cons name
      | some v => exact ih.cons_cons name

theorem member?_eq_some_of_mem {members : Row} (distinct : (members.map Prod.fst).Nodup)
    {name : String} {v : Json} (stands : (name, v) ∈ members) : member? members name = some v := by
  induction members with
  | nil => cases stands
  | cons m rest ih =>
      rw [List.map_cons, List.nodup_cons] at distinct
      cases List.mem_cons.mp stands with
      | inl first =>
          simp only [← first, member?, List.find?_cons, beq_self_eq_true, Option.map_some]
      | inr later =>
          have other : (m.1 == name) = false := by
            rw [beq_eq_false_iff_ne]
            rintro rfl
            exact distinct.1 (List.mem_map.mpr ⟨_, later, rfl⟩)
          rw [member?, List.find?_cons, other]
          exact ih distinct.2 later

theorem member?_eq_none {members : Row} {name : String} (absent : name ∉ members.map Prod.fst) :
    member? members name = none := by
  rw [member?, Option.map_eq_none_iff, List.find?_eq_none]
  intro m inside same
  exact absent (eq_of_beq same ▸ List.mem_map_of_mem inside)

section Fields

variable {fields : List (String × Option Json)} (distinct : (fields.map Prod.fst).Nodup)

include distinct

/-- What stands under a name is what was to be written there. -/
theorem member?_present {name : String} {x : Option Json} (stands : (name, x) ∈ fields) :
    member? (present fields) name = x := by
  have written := distinct.sublist (names_present fields)
  cases x with
  | some v => exact member?_eq_some_of_mem written (mem_present.mpr stands)
  | none =>
      refine member?_eq_none fun inside => ?_
      obtain ⟨⟨_, v⟩, other, rfl⟩ := List.mem_map.mp inside
      have same := List.inj_on_of_nodup_map distinct stands (mem_present.mp other) rfl
      cases same

theorem record?_object_present {names : List String}
    (known : ∀ name ∈ fields.map Prod.fst, name ∈ names) :
    (object (present fields)).record? names = some (present fields) := by
  have written := names_present fields
  have all : (present fields).filter (fun m => names.contains m.1) = present fields := by
    rw [List.filter_eq_self]
    intro m inside
    exact List.contains_iff_mem.mpr (known m.1 (written.subset (List.mem_map_of_mem inside)))
  rw [record?, all, if_pos (distinct.sublist written)]

/-- A written record is found again, each member under its name. -/
theorem record?_objectOf {names : List String}
    (known : ∀ name ∈ fields.map Prod.fst, name ∈ names) :
    ∃ r, (objectOf fields).record? names = some r ∧ ∀ m ∈ fields, member? r m.1 = m.2 :=
  ⟨present fields, record?_object_present distinct known,
    fun _ stands => member?_present distinct stands⟩

theorem settled_objectOf (settled : ∀ m ∈ fields, ∀ v, m.2 = some v → v.Settled) :
    (objectOf fields).Settled := by
  refine settled_object.mpr ⟨distinct.sublist (names_present fields), fun m inside => ?_⟩
  exact settled (m.1, some m.2) (mem_present.mp inside) m.2 rfl

end Fields

section Readers

variable {r : Row} {name : String} {read : Json → Option α} {write : α → Json}

theorem defaulted?_of_member {default : α} {v : Json} (stands : member? r name = some v) :
    defaulted? r name default read = read v := by
  rw [defaulted?, stands]

theorem of_defaulted? {default a : α} (found : defaulted? r name default read = some a) :
    a = default ∨ ∃ v, read v = some a := by
  unfold defaulted? at found
  split at found
  · exact .inl (Option.some.inj found).symm
  · next v _ => exact .inr ⟨v, found⟩

/-- An optional member is read as it was written, unless it was written as null. -/
theorem optional?_of_member {x : Option α} (stands : member? r name = x.map write)
    (reads : ∀ a ∈ x, write a ≠ null ∧ read (write a) = some a) :
    optional? r name read = some x := by
  rw [optional?, stands]
  cases x with
  | none => rfl
  | some a =>
      obtain ⟨something, back⟩ := reads a rfl
      rw [Option.map_some]
      split
      · next missing => cases missing
      · next absent => exact absurd (Option.some.inj absent) something
      · next v written => rw [← Option.some.inj written, back, Option.map_some]

/-- An optional member that is read is read from a member that is not null. -/
theorem exists_of_optional? {a : α} (found : optional? r name read = some (some a)) :
    ∃ v, v ≠ null ∧ read v = some a := by
  unfold optional? at found
  split at found
  · cases found
  · cases found
  · next v something _ =>
      obtain ⟨b, back, same⟩ := Option.map_eq_some_iff.mp found
      cases same
      refine ⟨v, ?_, back⟩
      rintro rfl
      exact something rfl

theorem mapM_map_some {read : Json → Option α} {write : α → Json} {xs : List α}
    (reads : ∀ a ∈ xs, read (write a) = some a) : (xs.map write).mapM read = some xs := by
  induction xs with
  | nil => rfl
  | cons a rest ih =>
      rw [List.forall_mem_cons] at reads
      simp only [List.map_cons, List.mapM_cons, reads.1, ih reads.2, Option.bind_eq_bind,
        Option.bind_some, Option.pure_def]

theorem exists_of_mem_mapM {read : Json → Option α} {vs : List Json} {xs : List α}
    (found : vs.mapM read = some xs) : ∀ a ∈ xs, ∃ v, read v = some a := by
  induction vs generalizing xs with
  | nil =>
      cases found
      exact List.forall_mem_nil _
  | cons v rest ih =>
      simp only [List.mapM_cons, Option.bind_eq_bind, Option.bind_eq_some_iff, Option.pure_def,
        Option.some.injEq] at found
      obtain ⟨a, first, others, later, rfl⟩ := found
      exact List.forall_mem_cons.mpr ⟨⟨v, first⟩, ih later⟩

end Readers

@[simp] theorem asString?_string (s : String) : asString? (string s) = some s := rfl

@[simp] theorem asUInt32?_ofUInt32 (n : UInt32) : asUInt32? (ofUInt32 n) = some n := by
  have small : n.toNat < Nat.pow 2 32 := n.toNat_lt
  have bounds : (0 : Int) ≤ n.toNat ∧ (n.toNat : Int) < (Nat.pow 2 32 : Nat) := by omega
  rw [asUInt32?, ofUInt32, asNat?, if_pos bounds, Option.map_some, Int.toNat_natCast,
    UInt32.ofNat_toNat]

theorem asArray?_ofStrings (names : List String) :
    asArray? asString? (ofStrings names) = some names :=
  mapM_map_some fun name _ => asString?_string name

theorem asArray?_asValue? {items : List Json} (settled : ∀ v ∈ items, v.Settled) :
    asArray? asValue? (array items) = some items := by
  have same : (items.map id).mapM asValue? = some items :=
    mapM_map_some fun v inside => asValue?_of_settled (settled v inside)
  rwa [List.map_id] at same

/-- What is read as a list of values is settled. -/
theorem settled_of_asArray? {v : Json} {items : List Json}
    (found : asArray? asValue? v = some items) : ∀ w ∈ items, w.Settled := by
  unfold asArray? at found
  split at found
  · intro w inside
    obtain ⟨v, read⟩ := exists_of_mem_mapM found w inside
    exact (asValue?_eq_some read).1
  · cases found

section Optional

variable {r : Row} {name : String}

theorem optional?_text {x : Option String} (stands : member? r name = x.map string) :
    optional? r name asString? = some x :=
  optional?_of_member stands fun s _ => ⟨Json.noConfusion, asString?_string s⟩

theorem optional?_value {x : Option Json} (stands : member? r name = x)
    (settled : ∀ v ∈ x, v ≠ null ∧ v.Settled) : optional? r name asValue? = some x := by
  have same : member? r name = x.map id := by rw [stands, Option.map_id, id]
  exact optional?_of_member same fun v given =>
    ⟨(settled v given).1, asValue?_of_settled (settled v given).2⟩

theorem optional?_values {x : Option (List Json)} (stands : member? r name = x.map array)
    (settled : ∀ items ∈ x, ∀ v ∈ items, v.Settled) :
    optional? r name (asArray? asValue?) = some x :=
  optional?_of_member stands fun items given =>
    ⟨Json.noConfusion, asArray?_asValue? (settled items given)⟩

theorem optional?_texts {x : Option (List String)} (stands : member? r name = x.map ofStrings) :
    optional? r name (asArray? asString?) = some x :=
  optional?_of_member stands fun names _ => ⟨Json.noConfusion, asArray?_ofStrings names⟩

/-- An optional value is settled and never null. -/
theorem settled_of_optional? {x : Option Json} (found : optional? r name asValue? = some x) :
    ∀ v ∈ x, v ≠ null ∧ v.Settled := by
  rintro v rfl
  obtain ⟨w, something, read⟩ := exists_of_optional? found
  obtain ⟨settled, absent⟩ := asValue?_eq_some read
  exact ⟨mt absent something, settled⟩

theorem settled_of_optional?_values {x : Option (List Json)}
    (found : optional? r name (asArray? asValue?) = some x) :
    ∀ items ∈ x, ∀ v ∈ items, v.Settled := by
  rintro items rfl
  obtain ⟨w, -, read⟩ := exists_of_optional? found
  exact settled_of_asArray? read

end Optional

end RowFilter.Json
