import RowFilter.Condition.Record
import RowFilter.Proofs.Condition.Forest
import RowFilter.Proofs.Json.Records

/-! # Conditions are read as they were written

A member that is null counts as absent, so a node that holds null as its operand or as its
handler's parameters cannot be told from a node without them once it is written. Every other node
is read as itself, and reading gives no such node.
-/

namespace RowFilter

namespace Clause

/-- A clause that its record tells apart from all others: it holds no null where null counts as
absence, and its values are such as reading gives. -/
structure Storable (c : Clause) : Prop where
  value : ∀ v ∈ c.value, v ≠ .null ∧ v.Settled
  handlerParams : ∀ v ∈ c.handlerParams, v ≠ .null ∧ v.Settled
  rawParams : ∀ items ∈ c.rawParams, ∀ v ∈ items, v.Settled

variable {c : Clause} {children : Option Json}

theorem names_members (c : Clause) (children : Option Json) :
    (c.members children).map Prod.fst = memberNames := rfl

theorem distinct_members (c : Clause) (children : Option Json) :
    ((c.members children).map Prod.fst).Nodup := by
  rw [names_members]
  decide

theorem member?_members {name : String} {x : Option Json}
    (stands : (name, x) ∈ c.members children) :
    Json.member? (Json.present (c.members children)) name = x :=
  Json.member?_present (distinct_members c children) stands

theorem Storable.settled_objectOf (storable : c.Storable) (below : ∀ v ∈ children, v.Settled) :
    (Json.objectOf (c.members children)).Settled := by
  have text : ∀ (x : Option String) (v : Json), x.map Json.string = some v → v.Settled := by
    intro x v written
    obtain ⟨s, -, rfl⟩ := Option.map_eq_some_iff.mp written
    trivial
  have id : ∀ v, some (Json.string c.id) = some v → v.Settled := text (some c.id)
  have params : ∀ v, c.rawParams.map Json.array = some v → v.Settled := by
    intro v written
    obtain ⟨items, given, rfl⟩ := Option.map_eq_some_iff.mp written
    exact Json.settled_array.mpr (storable.rawParams items given)
  refine Json.settled_objectOf (distinct_members c children) ?_
  simp only [members, List.forall_mem_cons]
  exact ⟨id, text c.logic, below, text c.field, text c.operator,
    fun v given => (storable.value v given).2, text c.relation, text c.relationField,
    text c.handler, fun v given => (storable.handlerParams v given).2, text c.rawText, params,
    List.forall_mem_nil _⟩

/-- The attributes of a node are read as they were written, whatever its children. -/
theorem Storable.ofJson?_objectOf (storable : c.Storable) :
    ofJson? (Json.objectOf (c.members children)) = some c := by
  obtain ⟨r, found, stands⟩ := Json.record?_objectOf (distinct_members c children)
    fun name inside => names_members c children ▸ inside
  rw [ofJson?, found]
  simp only [members, List.forall_mem_cons] at stands
  obtain ⟨id, logic, -, field, operator, value, relation, relationField, handler, handlerParams,
    rawText, rawParams, -⟩ := stands
  simp only [Option.bind_eq_bind, Option.bind_some, Json.defaulted?_of_member id,
    Json.asString?_string, Json.optional?_text logic, Json.optional?_text field,
    Json.optional?_text operator, Json.optional?_value value storable.value,
    Json.optional?_text relation, Json.optional?_text relationField, Json.optional?_text handler,
    Json.optional?_value handlerParams storable.handlerParams, Json.optional?_text rawText,
    Json.optional?_values rawParams storable.rawParams]

/-- Reading gives storable clauses only. -/
theorem storable_of_ofJson? {v : Json} (read : ofJson? v = some c) : c.Storable := by
  simp only [ofJson?, Option.bind_eq_bind, Option.bind_eq_some_iff] at read
  obtain ⟨r, -, id, -, logic, -, field, -, operator, -, value, readValue, relation, -,
    relationField, -, handler, -, handlerParams, readParams, rawText, -, rawParams, readRaw,
    same⟩ := read
  cases same
  exact { value := Json.settled_of_optional? readValue
          handlerParams := Json.settled_of_optional? readParams
          rawParams := Json.settled_of_optional?_values readRaw }

end Clause

namespace Condition

/-- A forest whose nodes all keep their attributes in storage. -/
def Storable (forest : List Condition) : Prop := ∀ c ∈ nodes forest, c.clause.Storable

theorem storable_nil : Storable [] := by
  rw [Storable, nodes_nil]
  exact List.forall_mem_nil _

theorem storable_leaf_cons {clause : Clause} {rest : List Condition} :
    Storable (leaf clause :: rest) ↔ clause.Storable ∧ Storable rest := by
  simp only [Storable, nodes_cons, children, nodes_nil, List.nil_append, List.forall_mem_cons]
  rfl

/-- In a leaf without parameters of its own, only the operand can be lost in storage. -/
theorem storable_singleton {clause : Clause} (value : ∀ v ∈ clause.value, v ≠ .null ∧ v.Settled)
    (handlerParams : clause.handlerParams = none) (rawParams : clause.rawParams = none) :
    Storable [leaf clause] := by
  refine storable_leaf_cons.mpr ⟨?_, storable_nil⟩
  exact { value, handlerParams := by simp [handlerParams], rawParams := by simp [rawParams] }

theorem storable_group_cons {clause : Clause} {children rest : List Condition} :
    Storable (group clause children :: rest) ↔
      clause.Storable ∧ Storable children ∧ Storable rest := by
  simp only [Storable, nodes_cons, Condition.children, List.forall_mem_cons,
    List.forall_mem_append]
  rfl

/-- The children of a named record are its member of that name. -/
theorem namedChildren?_eq (members : Row) :
    namedChildren? members = ((Json.member? members "children").elim (some none) childList?) := by
  induction members with
  | nil => rfl
  | cons m rest ih =>
      obtain ⟨name, v⟩ := m
      rw [namedChildren?, Json.member?, List.find?_cons]
      split
      · next same => rw [same]; rfl
      · next other =>
          rw [Bool.not_eq_true] at other
          rw [other, ih, Json.member?]

theorem ofJson?_objectOf {clause : Clause} {written : Option Json} (storable : clause.Storable) :
    ofJson? (Json.objectOf (clause.members written)) =
      assemble (some clause) (written.elim (some none) childList?) := by
  have below : Json.member? (Json.present (clause.members written)) "children" = written :=
    Clause.member?_members (by simp [Clause.members])
  rw [Json.objectOf_eq, ofJson?, ← Json.objectOf_eq, storable.ofJson?_objectOf, namedChildren?_eq,
    below]

theorem forestOfJson?_forestToJson {forest : List Condition} (storable : Storable forest) :
    forestOfJson? (forestToJson forest) = some forest := by
  induction forest using forest_induction with
  | nil => rfl
  | leaf clause rest ih =>
      obtain ⟨node, beside⟩ := storable_leaf_cons.mp storable
      rw [forestToJson, toJson, forestOfJson?, ofJson?_objectOf node, ih beside]
      rfl
  | group clause children rest ihc ihr =>
      obtain ⟨node, below, beside⟩ := storable_group_cons.mp storable
      rw [forestToJson, toJson, forestOfJson?, ofJson?_objectOf node, Option.elim_some, childList?,
        ihc below, ihr beside]
      rfl

theorem settled_forestToJson {forest : List Condition} (storable : Storable forest) :
    ∀ v ∈ forestToJson forest, v.Settled := by
  induction forest using forest_induction with
  | nil => exact List.forall_mem_nil _
  | leaf clause rest ih =>
      obtain ⟨node, beside⟩ := storable_leaf_cons.mp storable
      rw [forestToJson, toJson, List.forall_mem_cons]
      exact ⟨node.settled_objectOf (by simp), ih beside⟩
  | group clause children rest ihc ihr =>
      obtain ⟨node, below, beside⟩ := storable_group_cons.mp storable
      rw [forestToJson, toJson, List.forall_mem_cons]
      refine ⟨node.settled_objectOf ?_, ihr beside⟩
      rintro v ⟨⟩
      exact Json.settled_array.mpr (ihc below)

/-- What is assembled is made of the attributes and the children that were read. -/
theorem assemble_eq_some {clause : Option Clause} {children : Option (Option (List Condition))}
    {c : Condition} (found : assemble clause children = some c) :
    clause = some c.clause ∧
      ∃ below, children = some below ∧ below.getD [] = c.children := by
  obtain ⟨attributes, rfl, found⟩ := Option.bind_eq_some_iff.mp found
  obtain ⟨below, rfl, found⟩ := Option.bind_eq_some_iff.mp found
  cases below <;> cases found <;> exact ⟨rfl, _, rfl, rfl⟩

/-- Children that are read are read from a list of values. -/
theorem forestOfJson?_of_childList? {v : Json} {below : Option (List Condition)}
    (found : childList? v = some below) : ∃ items, forestOfJson? items = some (below.getD []) := by
  unfold childList? at found
  split at found
  · cases found
    exact ⟨[], rfl⟩
  · next items =>
      obtain ⟨children, read, same⟩ := Option.map_eq_some_iff.mp found
      cases same
      exact ⟨items, read⟩
  · cases found

/-- What a node is read from holds its attributes, and a list that its children are read from. -/
theorem ofJson?_eq_some {v : Json} {c : Condition} (read : ofJson? v = some c) :
    Clause.ofJson? v = some c.clause ∧ ∃ items, forestOfJson? items = some c.children := by
  unfold ofJson? at read
  split at read
  · next members =>
      obtain ⟨clause, below, children, same⟩ := assemble_eq_some read
      rw [namedChildren?_eq] at children
      refine ⟨clause, same ▸ ?_⟩
      cases stands : Json.member? members "children" with
      | none =>
          rw [stands, Option.elim_none] at children
          cases children
          exact ⟨[], rfl⟩
      | some v =>
          rw [stands, Option.elim_some] at children
          exact forestOfJson?_of_childList? children
  · next items =>
      obtain ⟨clause, below, children, same⟩ := assemble_eq_some read
      refine ⟨clause, same ▸ ?_⟩
      unfold placedChildren? at children
      split at children
      · exact forestOfJson?_of_childList? children
      · cases children
        exact ⟨[], rfl⟩
  · cases read

theorem forestOfJson?_eq_cons {items : List Json} {c : Condition} {rest : List Condition}
    (read : forestOfJson? items = some (c :: rest)) :
    ∃ v others, ofJson? v = some c ∧ forestOfJson? others = some rest := by
  cases items with
  | nil => cases read
  | cons v others =>
      obtain ⟨first, readFirst, later⟩ := Option.bind_eq_some_iff.mp read
      obtain ⟨remaining, readRest, same⟩ := Option.bind_eq_some_iff.mp later
      cases same
      exact ⟨v, others, readFirst, readRest⟩

/-- Reading gives storable forests only. -/
theorem storable_of_forestOfJson? {items : List Json} {forest : List Condition}
    (read : forestOfJson? items = some forest) : Storable forest := by
  induction forest using forest_induction generalizing items with
  | nil => exact storable_nil
  | leaf clause rest ih =>
      obtain ⟨v, others, first, later⟩ := forestOfJson?_eq_cons read
      obtain ⟨node, -⟩ := ofJson?_eq_some first
      exact storable_leaf_cons.mpr ⟨Clause.storable_of_ofJson? node, ih later⟩
  | group clause children rest ihc ihr =>
      obtain ⟨v, others, first, later⟩ := forestOfJson?_eq_cons read
      obtain ⟨node, inside, below⟩ := ofJson?_eq_some first
      exact storable_group_cons.mpr ⟨Clause.storable_of_ofJson? node, ihc below, ihr later⟩

theorem storable_of_listOfJson? {v : Json} {forest : List Condition}
    (read : listOfJson? v = some forest) : Storable forest := by
  cases v with
  | array items => exact storable_of_forestOfJson? read
  | null | bool b | number n | string s | object members => cases read

theorem listOfJson?_listToJson {forest : List Condition} (storable : Storable forest) :
    listOfJson? (listToJson forest) = some forest :=
  forestOfJson?_forestToJson storable

theorem isReadable_listToJson {forest : List Condition} (storable : Storable forest) :
    (listToJson forest).isReadable = true :=
  (Json.settled_array.mpr (settled_forestToJson storable)).isReadable

/-- A list of conditions that may be missing is storable if it is read. -/
theorem storable_of_defaulted? {r : Row} {name : String} {forest : List Condition}
    (read : Json.defaulted? r name [] listOfJson? = some forest) : Storable forest := by
  obtain rfl | ⟨v, found⟩ := Json.of_defaulted? read
  · exact storable_nil
  · exact storable_of_listOfJson? found

/-- A single node is read as it was written. -/
theorem ofJson?_toJson {c : Condition} (storable : Storable [c]) : ofJson? c.toJson = some c := by
  have alone := forestOfJson?_forestToJson storable
  obtain ⟨first, read, later⟩ := Option.bind_eq_some_iff.mp alone
  cases later
  exact read

theorem storable_of_ofJson? {v : Json} {c : Condition} (read : ofJson? v = some c) :
    Storable [c] := by
  have alone : forestOfJson? [v] = some [c] := by
    rw [forestOfJson?, read]
    rfl
  exact storable_of_forestOfJson? alone

end Condition

end RowFilter
