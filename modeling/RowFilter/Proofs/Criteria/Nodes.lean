import RowFilter.Proofs.Reading

/-! # The shape of criteria

Criteria are a tree: its nodes are listed from the root down and from left to right, its leaves are
the nodes that constrain rows by themselves, and its height counts the connectives on a way down.
Joining the parts of a group can do five things and no more. What joined criteria look like is
read off these, for any property of their nodes.
-/

namespace RowFilter.Criteria

mutual

/-- Criteria and all that they are made of, a connective before its parts. -/
def nodes : Criteria → List Criteria
  | allOf parts => allOf parts :: nodesIn parts
  | anyOf parts => anyOf parts :: nodesIn parts
  | complement part => complement part :: nodes part
  | c => [c]

def nodesIn : List Criteria → List Criteria
  | [] => []
  | c :: rest => nodes c ++ nodesIn rest

end

/-- Whether criteria constrain rows by themselves. -/
def isLeaf : Criteria → Bool
  | field .. | relation .. | raw .. | inMemory _ => true
  | empty | allOf _ | anyOf _ | complement _ => false

/-- The leaves of criteria from left to right. -/
def leaves (c : Criteria) : List Criteria := c.nodes.filter isLeaf

mutual

/-- The most connectives that stand on one way from the root down. -/
def height : Criteria → Nat
  | allOf parts | anyOf parts => heightIn parts + 1
  | complement part => height part + 1
  | empty | field .. | relation .. | raw .. | inMemory _ => 0

def heightIn : List Criteria → Nat
  | [] => 0
  | c :: rest => max (height c) (heightIn rest)

end

theorem nodesIn_eq_flatMap (parts : List Criteria) : nodesIn parts = parts.flatMap nodes := by
  induction parts with
  | nil => rfl
  | cons c rest ih => rw [nodesIn, List.flatMap_cons, ih]

theorem leaves_nodesIn (parts : List Criteria) :
    (nodesIn parts).filter isLeaf = parts.flatMap leaves := by
  induction parts with
  | nil => rfl
  | cons c rest ih => rw [nodesIn, List.filter_append, List.flatMap_cons, ih, leaves]

@[simp] theorem leaves_empty : empty.leaves = [] := rfl

@[simp] theorem leaves_allOf (parts : List Criteria) :
    (allOf parts).leaves = parts.flatMap leaves := by
  rw [← leaves_nodesIn]
  rfl

@[simp] theorem leaves_anyOf (parts : List Criteria) :
    (anyOf parts).leaves = parts.flatMap leaves := by
  rw [← leaves_nodesIn]
  rfl

@[simp] theorem leaves_complement (part : Criteria) : (complement part).leaves = part.leaves := rfl

theorem nodes_of_isLeaf {c : Criteria} (single : c.isLeaf = true) : c.nodes = [c] := by
  cases c with
  | field | relation | raw | inMemory => rfl
  | empty | allOf | anyOf | complement => cases single

theorem leaves_of_isLeaf {c : Criteria} (single : c.isLeaf = true) : c.leaves = [c] := by
  simp [leaves, nodes_of_isLeaf single, single]

theorem flatMap_leaves_of_isLeaf {parts : List Criteria}
    (single : ∀ part ∈ parts, part.isLeaf = true) : parts.flatMap leaves = parts := by
  induction parts with
  | nil => rfl
  | cons part rest ih =>
      rw [List.forall_mem_cons] at single
      rw [List.flatMap_cons, leaves_of_isLeaf single.1, ih single.2, List.singleton_append]

theorem height_of_isLeaf {c : Criteria} (single : c.isLeaf = true) : c.height = 0 := by
  cases c with
  | field | relation | raw | inMemory => rfl
  | empty | allOf | anyOf | complement => cases single

theorem mem_leaves {c node : Criteria} : node ∈ c.leaves ↔ node ∈ c.nodes ∧ node.isLeaf = true :=
  List.mem_filter

/-- A part that says nothing has no leaves. -/
theorem flatMap_leaves_substantive (parts : List Criteria) :
    (substantive parts).flatMap leaves = parts.flatMap leaves := by
  induction parts with
  | nil => rfl
  | cons c rest ih =>
      cases said : c.isEmpty with
      | true =>
          rw [substantive_cons_of_empty said, eq_empty_of_isEmpty said, List.flatMap_cons, ih]
          rfl
      | false =>
          rw [substantive_cons_of_said said, List.flatMap_cons, List.flatMap_cons, ih]

theorem mem_substantive {c : Criteria} {parts : List Criteria} :
    c ∈ substantive parts ↔ c ∈ parts ∧ c ≠ empty := by
  rw [substantive, List.mem_filter]
  cases c <;> simp [isEmpty]

theorem heightIn_lt {parts : List Criteria} {n : Nat} (positive : 0 < n)
    (below : ∀ part ∈ parts, part.height < n) : heightIn parts < n := by
  induction parts with
  | nil => exact positive
  | cons c rest ih =>
      rw [List.forall_mem_cons] at below
      have here := below.1
      have beside := ih below.2
      rw [heightIn]
      omega

mutual

theorem usesRaw_iff (c : Criteria) :
    c.usesRaw = true ↔ ∃ text params, raw text params ∈ c.nodes := by
  cases c with
  | allOf parts => simp [usesRaw, nodes, anyRaw_iff parts]
  | anyOf parts => simp [usesRaw, nodes, anyRaw_iff parts]
  | complement part => simp [usesRaw, nodes, usesRaw_iff part]
  | raw text params => simp [usesRaw, nodes]
  | empty | field | relation | inMemory => simp [usesRaw, nodes]
termination_by sizeOf c

theorem anyRaw_iff (parts : List Criteria) :
    anyRaw parts = true ↔ ∃ text params, raw text params ∈ nodesIn parts := by
  cases parts with
  | nil => simp [anyRaw, nodesIn]
  | cons c rest => simp [anyRaw, nodesIn, usesRaw_iff c, anyRaw_iff rest, exists_or]
termination_by sizeOf parts

end

/-- What parts that all say something are joined to: nothing, the one part or its negation, or a
connective over several. -/
inductive Joined : List Criteria → Criteria → Prop where
  | nothing : Joined [] empty
  | alone (part : Criteria) : Joined [part] part
  | negated (part : Criteria) : Joined [part] (complement part)
  | all {parts : List Criteria} : 2 ≤ parts.length → Joined parts (allOf parts)
  | any {parts : List Criteria} : 2 ≤ parts.length → Joined parts (anyOf parts)

theorem joined_combine {wrap : List Criteria → Criteria}
    (wraps : ∀ {kept}, 2 ≤ kept.length → Joined kept (wrap kept)) (parts : List Criteria) :
    Joined (substantive parts) (combine wrap parts) := by
  rw [combine_eq]
  cases substantive parts with
  | nil => exact .nothing
  | cons c rest =>
      cases rest with
      | nil => exact .alone c
      | cons d others =>
          apply wraps
          simp

/-- The parts of a group that say something are what is joined. -/
theorem joined_of_join {id : String} {logic : Logic} {parts : List Criteria} {c : Criteria}
    (joined : Compiler.join id logic parts = .ok c) : Joined (substantive parts) c := by
  cases logic with
  | and =>
      cases joined
      exact joined_combine Joined.all parts
  | or =>
      cases joined
      exact joined_combine Joined.any parts
  | not =>
      rcases join_not joined with ⟨none, rfl⟩ | ⟨part, single, rfl⟩
      · rw [none]
        exact .nothing
      · have said : part ∈ substantive parts := by simp [single]
        have kept : part.isEmpty = false := by simpa using (List.mem_filter.mp said).2
        rw [single, negate, kept, if_neg Bool.false_ne_true]
        exact .negated part

section Joined

variable {parts : List Criteria} {c : Criteria}

/-- Joining keeps the leaves and their order. -/
theorem Joined.leaves_eq (joined : Joined parts c) : c.leaves = parts.flatMap leaves := by
  cases joined with
  | nothing => rfl
  | alone part => simp
  | negated part => simp
  | all several => simp
  | any several => simp

/-- Joining adds one connective at most. -/
theorem Joined.height_le (joined : Joined parts c) {n : Nat}
    (below : ∀ part ∈ parts, part.height < n) : c.height ≤ n := by
  have positive (several : 2 ≤ parts.length) : 0 < n := by
    cases parts with
    | nil => simp at several
    | cons part rest => exact Nat.zero_lt_of_lt (below part List.mem_cons_self)
  cases joined with
  | nothing => exact Nat.zero_le n
  | alone part => exact Nat.le_of_lt (below _ List.mem_cons_self)
  | negated part => exact below part List.mem_cons_self
  | all several => exact heightIn_lt (positive several) below
  | any several => exact heightIn_lt (positive several) below

/-- Joining adds one node at most, the new root. -/
theorem Joined.mem_nodes (joined : Joined parts c) {node : Criteria} (stands : node ∈ c.nodes) :
    node = c ∨ ∃ part ∈ parts, node ∈ part.nodes := by
  cases joined with
  | nothing => exact .inl (List.mem_singleton.mp stands)
  | alone => exact .inr ⟨c, List.mem_cons_self, stands⟩
  | negated part =>
      rcases List.mem_cons.mp stands with root | below
      · exact .inl root
      · exact .inr ⟨part, List.mem_cons_self, below⟩
  | all several | any several =>
      rcases List.mem_cons.mp stands with root | below
      · exact .inl root
      · rw [nodesIn_eq_flatMap] at below
        exact .inr (List.mem_flatMap.mp below)

end Joined

/-- Whether a node says something and, if it is a connective over parts, has several of them and
no more than so many. -/
def Shaped (most : Nat) : Criteria → Prop
  | empty => False
  | allOf parts | anyOf parts => 2 ≤ parts.length ∧ parts.length ≤ most
  | field .. | relation .. | raw .. | inMemory _ | complement _ => True

/-- Normal form: nothing at all, or criteria all of whose nodes are shaped as they should be. -/
def Normal (most : Nat) (c : Criteria) : Prop := c = empty ∨ ∀ node ∈ c.nodes, node.Shaped most

/-- Nothing at all has no connectives, and in normal form those of other criteria are shaped. -/
theorem Normal.connective {most : Nat} {c : Criteria} (normal : c.Normal most)
    {parts : List Criteria} (stands : allOf parts ∈ c.nodes ∨ anyOf parts ∈ c.nodes) :
    2 ≤ parts.length ∧ parts.length ≤ most := by
  rcases normal with rfl | shaped
  · simp [nodes] at stands
  · rcases stands with all | any
    · exact shaped _ all
    · exact shaped _ any

theorem normal_of_isLeaf {most : Nat} {c : Criteria} (single : c.isLeaf = true) :
    c.Normal most := by
  right
  intro node stands
  rw [nodes_of_isLeaf single] at stands
  cases List.mem_singleton.mp stands
  cases c with
  | field | relation | raw | inMemory => trivial
  | empty | allOf | anyOf | complement => cases single

/-- Normal form is kept where parts are joined, and what is joined is in normal form. -/
theorem Joined.normal {most : Nat} {parts : List Criteria} {c : Criteria}
    (joined : Joined (substantive parts) c) (fits : parts.length ≤ most)
    (normal : ∀ part ∈ parts, part.Normal most) : c.Normal most := by
  have kept : ∀ part ∈ substantive parts, ∀ node ∈ part.nodes, node.Shaped most := by
    intro part said
    obtain ⟨stands, filled⟩ := mem_substantive.mp said
    exact (normal part stands).resolve_left filled
  have count : (substantive parts).length ≤ most := by
    have fewer : (substantive parts).length ≤ parts.length := List.length_filter_le _ parts
    omega
  generalize substantive parts = few at joined kept count
  by_cases blank : c = empty
  · exact .inl blank
  · right
    intro node stands
    rcases joined.mem_nodes stands with rfl | ⟨part, said, below⟩
    · cases joined with
      | nothing => exact absurd rfl blank
      | alone => exact kept node List.mem_cons_self node stands
      | negated => trivial
      | all several => exact ⟨several, count⟩
      | any several => exact ⟨several, count⟩
    · exact kept part said node below

end RowFilter.Criteria
