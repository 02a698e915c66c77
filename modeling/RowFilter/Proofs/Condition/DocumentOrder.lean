import Mathlib.Order.Lattice
import RowFilter.Proofs.Condition.Depths
import RowFilter.Proofs.Condition.Editing
import RowFilter.Proofs.Condition.Mentions

/-! # Walks in document order

A walk keeps the trees that are still to be visited on a stack, the next one last. It takes that
one off, visits its node, and puts its children in its place, in reverse. The invariant is about
the whole stack: a forest that lies on top of it in reverse is done after as many passes as it has
nodes, and what was below is left as it was. So the walk is the recursion that visits a node, then
its children, then the trees beside it.

Nodes are told apart by their addresses. The order of the walk is the lexicographic order of these:
a node stands before what is below it, and that before the trees beside it.
-/

namespace RowFilter

namespace Condition

/-- Induction over forests: a node, whose children are a forest of their own, in front of a
forest. -/
@[elab_as_elim]
theorem node_induction {motive : List Condition → Prop} (nil : motive [])
    (cons : ∀ c rest, motive c.children → motive rest → motive (c :: rest))
    (forest : List Condition) : motive forest := by
  induction forest using forest_induction with
  | nil => exact nil
  | leaf clause rest ih => exact cons (.leaf clause) rest nil ih
  | group clause children rest ihc ihr => exact cons (.group clause children) rest ihc ihr

theorem forestSize_cons (c : Condition) (rest : List Condition) :
    forestSize (c :: rest) = forestSize rest + (forestSize c.children + 1) := by
  cases c <;> simp only [forestSize, size, children] <;> omega

/-- A pass of the walk over the nodes visited so far and the stack. -/
def visitNext (s : List Condition × List Condition) : List Condition × List Condition :=
  match s.2.getLast? with
  | none => s
  | some c => (s.1 ++ [c], s.2.dropLast ++ c.children.reverse)

theorem visitNext_concat (visited rest : List Condition) (c : Condition) :
    visitNext (visited, rest ++ [c]) = (visited ++ [c], rest ++ c.children.reverse) := by
  simp [visitNext]

/-- A forest on top of the stack is visited before what lies under it. -/
theorem iterate_visitNext_append (forest visited rest : List Condition) :
    visitNext^[forestSize forest] (visited, rest ++ forest.reverse) =
      (visited ++ nodes forest, rest) := by
  induction forest using node_induction generalizing visited rest with
  | nil => simp [forestSize, nodes_nil]
  | cons c others below beside =>
      rw [forestSize_cons, Function.iterate_add_apply, Function.iterate_succ_apply,
        List.reverse_cons, ← List.append_assoc, visitNext_concat, below, beside, nodes_cons]
      simp

/-- The walk over a forest ends after as many passes as there are nodes. -/
theorem iterate_visitNext (forest : List Condition) :
    visitNext^[forestSize forest] ([], forest.reverse) = (nodes forest, []) := by
  have done := iterate_visitNext_append forest [] []
  rwa [List.nil_append, List.nil_append] at done

/-- A pass of the loop that measures a forest, over the greatest depth so far and the stack. The
children of a node come on the stack as they stand, so the last of them is measured first. -/
def measureNext (s : Nat × List (Nat × Condition)) : Nat × List (Nat × Condition) :=
  match s.2.getLast? with
  | none => s
  | some (depth, c) =>
    (max s.1 depth, s.2.dropLast ++ c.children.map fun child => (depth + 1, child))

theorem measureNext_concat (found depth : Nat) (rest : List (Nat × Condition)) (c : Condition) :
    measureNext (found, rest ++ [(depth, c)]) =
      (max found depth, rest ++ c.children.map fun child => (depth + 1, child)) := by
  simp [measureNext]

/-- A forest on top of the stack is measured before what lies under it. -/
theorem iterate_measureNext_append (forest : List Condition) (found depth : Nat)
    (rest : List (Nat × Condition)) :
    ∃ deepest, measureNext^[forestSize forest] (found, rest ++ forest.map fun c => (depth, c)) =
        (deepest, rest) ∧
      ∀ d, deepest ≤ d ↔ found ≤ d ∧ ∀ t ∈ nodesFrom depth forest, t.1 ≤ d := by
  induction forest using node_induction generalizing found depth rest with
  | nil => exact ⟨found, by simp [forestSize], by simp⟩
  | cons c others below beside =>
      obtain ⟨later, measured, bound⟩ := beside found depth (rest ++ [(depth, c)])
      obtain ⟨deepest, done, most⟩ := below (max later depth) (depth + 1) rest
      -- The trees beside lie above the first one, so they are measured before it.
      have count : forestSize (c :: others) =
          forestSize c.children + (1 + forestSize others) := by
        rw [forestSize_cons]
        omega
      refine ⟨deepest, ?_, fun d => ?_⟩
      · rw [count, Function.iterate_add_apply, Function.iterate_add_apply, List.map_cons,
          List.append_cons, measured, Function.iterate_one, measureNext_concat, done]
      · rw [most, Nat.max_le, bound, nodesFrom_cons, List.forall_mem_cons, List.forall_mem_append]
        tauto

mutual

/-- The addresses of all that is below a node, from there on. -/
def addressesBelow : Condition → List Address
  | leaf _ => []
  | group _ children => addressesFrom 0 children

/-- The addresses of neighbouring trees and of all that is below them, where the first of the
trees is the child of the given index. -/
def addressesFrom (first : Nat) : List Condition → List Address
  | [] => []
  | c :: rest => [first] :: ((addressesBelow c).map (first :: ·) ++ addressesFrom (first + 1) rest)

end

/-- The addresses of the nodes of a forest. -/
def addresses (forest : List Condition) : List Address := addressesFrom 0 forest

/-- The node of a forest at an address. The root that the trees hang on is none of its nodes. -/
def nodeIn? (forest : List Condition) : Address → Option Condition
  | [] => none
  | i :: path => (group {} forest).nodeAt? (i :: path)

section Addresses

variable {forest : List Condition} {first : Nat}

theorem addressesFrom_cons (c : Condition) (rest : List Condition) :
    addressesFrom first (c :: rest) =
      [first] :: ((addresses c.children).map (first :: ·) ++ addressesFrom (first + 1) rest) := by
  rw [addressesFrom]
  cases c <;> rfl

/-- The addresses of neighbouring trees begin with the indices of these. -/
theorem exists_cons_of_mem {place : Address} (stands : place ∈ addressesFrom first forest) :
    ∃ i path, place = i :: path ∧ first ≤ i := by
  induction forest generalizing first with
  | nil => cases stands
  | cons c rest ih =>
      rw [addressesFrom_cons, List.mem_cons, List.mem_append, List.mem_map] at stands
      rcases stands with rfl | ⟨path, -, rfl⟩ | beside
      · exact ⟨first, [], rfl, Nat.le_refl first⟩
      · exact ⟨first, path, rfl, Nat.le_refl first⟩
      · obtain ⟨i, path, rfl, later⟩ := ih beside
        exact ⟨i, path, rfl, Nat.le_of_succ_le later⟩

/-- An address is listed if there is a node. -/
theorem mem_addressesFrom {i : Nat} {path : Address} :
    i :: path ∈ addressesFrom first forest ↔
      ∃ k d, forest[k]? = some d ∧ i = first + k ∧ (d.nodeAt? path).isSome := by
  induction forest using node_induction generalizing first i path with
  | nil => simp [addressesFrom]
  | cons c rest below beside =>
      -- A node has an address within the first tree if that is empty or listed for the children.
      have here : (c.nodeAt? path).isSome ↔ path = [] ∨ path ∈ addresses c.children := by
        cases path with
        | nil => simp [nodeAt?]
        | cons j deeper =>
            rw [addresses, below, nodeAt?, Option.isSome_bind, Option.any_eq_true]
            simp
      have head : i :: path = [first] ∨ (∃ p ∈ addresses c.children, first :: p = i :: path) ↔
          i = first ∧ (c.nodeAt? path).isSome := by
        rw [here]
        constructor
        · rintro (same | ⟨p, stands, same⟩)
          · cases same
            exact ⟨rfl, .inl rfl⟩
          · cases same
            exact ⟨rfl, .inr stands⟩
        · rintro ⟨rfl, rfl | stands⟩
          · exact .inl rfl
          · exact .inr ⟨path, stands, rfl⟩
      rw [addressesFrom_cons, List.mem_cons, List.mem_append, List.mem_map, ← or_assoc, head,
        beside]
      constructor
      · rintro (⟨rfl, stands⟩ | ⟨k, d, found, rfl, stands⟩)
        · exact ⟨0, c, rfl, rfl, stands⟩
        · exact ⟨k + 1, d, found, by omega, stands⟩
      · rintro ⟨k, d, found, rfl, stands⟩
        cases k with
        | zero =>
            cases found
            exact .inl ⟨rfl, stands⟩
        | succ k => exact .inr ⟨k, d, found, by omega, stands⟩

theorem mem_addresses {place : Address} :
    place ∈ addresses forest ↔ (nodeIn? forest place).isSome := by
  cases place with
  | nil =>
      refine iff_of_false (fun stands => ?_) Bool.false_ne_true
      obtain ⟨i, path, ⟨⟩, -⟩ := exists_cons_of_mem stands
  | cons i path =>
      rw [addresses, mem_addressesFrom, nodeIn?, nodeAt?, Option.isSome_bind, Option.any_eq_true]
      simp [children]

/-- Addresses are listed in lexicographic order, so none of them twice. -/
theorem pairwise_addressesFrom (first : Nat) (forest : List Condition) :
    (addressesFrom first forest).Pairwise (· < ·) := by
  induction forest using node_induction generalizing first with
  | nil => exact .nil
  | cons c rest below beside =>
      rw [addressesFrom_cons, List.pairwise_cons, List.pairwise_append]
      refine ⟨?_, (below 0).map _ fun a b before => List.cons_lt_cons_self.mpr before,
        beside (first + 1), ?_⟩
      · intro place stands
        rcases List.mem_append.mp stands with inside | later
        · obtain ⟨path, listed, rfl⟩ := List.mem_map.mp inside
          obtain ⟨i, deeper, rfl, -⟩ := exists_cons_of_mem listed
          exact List.cons_lt_cons_self.mpr (List.nil_lt_cons i deeper)
        · obtain ⟨i, path, rfl, after⟩ := exists_cons_of_mem later
          exact List.cons_lt_cons_iff.mpr (.inl after)
      · intro place inside other later
        obtain ⟨path, -, rfl⟩ := List.mem_map.mp inside
        obtain ⟨i, deeper, rfl, after⟩ := exists_cons_of_mem later
        exact List.cons_lt_cons_iff.mpr (.inl after)

theorem nodup_addresses (forest : List Condition) : (addresses forest).Nodup := by
  refine (pairwise_addressesFrom 0 forest).imp ?_
  rintro place _ before rfl
  exact List.lt_irrefl place before

/-- The nodes at the listed addresses are those of the walk, in its order. -/
theorem map_nodeAt?_addressesFrom (g : Clause) (before forest : List Condition) :
    (addressesFrom before.length forest).map (group g (before ++ forest)).nodeAt? =
      (nodes forest).map some := by
  induction forest using node_induction generalizing g before with
  | nil => rw [nodes_nil, addressesFrom, List.map_nil, List.map_nil]
  | cons c rest below beside =>
      have into (path : Address) :
          (group g (before ++ c :: rest)).nodeAt? (before.length :: path) = c.nodeAt? path := by
        simp [nodeAt?, children]
      have within : (addresses c.children).map c.nodeAt? = (nodes c.children).map some := by
        cases c with
        | leaf clause => rw [children, nodes_nil]; rfl
        | group clause children => exact below clause []
      have inner : (addresses c.children).map
          ((group g (before ++ c :: rest)).nodeAt? ∘ (before.length :: ·)) =
            (nodes c.children).map some := by
        rw [← within]
        exact List.map_congr_left fun path _ => into path
      have later := beside g (before ++ [c])
      rw [List.length_append, List.length_singleton, List.append_assoc, List.singleton_append]
        at later
      rw [addressesFrom_cons, List.map_cons, List.map_append, List.map_map, into, inner, later,
        nodes_cons, List.map_cons, List.map_append]
      rfl

theorem map_nodeIn?_addresses (forest : List Condition) :
    (addresses forest).map (nodeIn? forest) = (nodes forest).map some := by
  have same : (addresses forest).map (nodeIn? forest) =
      (addresses forest).map (group {} forest).nodeAt? := by
    refine List.map_congr_left fun place stands => ?_
    obtain ⟨i, path, rfl, -⟩ := exists_cons_of_mem stands
    rfl
  rw [same]
  exact map_nodeAt?_addressesFrom {} [] forest

theorem isSome_nodeIn?_firstChild {place : Address} {c : Condition}
    (stands : nodeIn? forest place = some c) (parent : c.children ≠ []) :
    (nodeIn? forest (place ++ [0])).isSome := by
  cases place with
  | nil => cases stands
  | cons i path =>
      rw [List.cons_append, nodeIn?, ← List.cons_append, nodeAt?_append]
      rw [nodeIn?] at stands
      rw [stands, Option.bind_some]
      cases first : c.children with
      | nil => exact absurd first parent
      | cons child others => simp [nodeAt?, first]

/-- Nothing stands between a node and its first child. -/
theorem not_between_first {place other : Address} :
    ¬ (place < other ∧ other < place ++ [0]) := by
  rintro ⟨after, before⟩
  induction place generalizing other with
  | nil =>
      cases other with
      | nil => exact List.not_lt_nil [] after
      | cons i path =>
          rcases List.cons_lt_cons_iff.mp before with smaller | ⟨-, shorter⟩
          · exact Nat.not_lt_zero i smaller
          · exact List.not_lt_nil path shorter
  | cons j rest ih =>
      cases other with
      | nil => exact List.not_lt_nil (j :: rest) after
      | cons i path =>
          rw [List.cons_append] at before
          rw [List.cons_lt_cons_iff] at after before
          rcases after with higher | ⟨rfl, after⟩ <;> rcases before with lower | ⟨same, before⟩
          · omega
          · omega
          · omega
          · exact ih after before

end Addresses

section Sorted

variable {places : List Address} {a b : Address}

/-- In an ordered list the lesser of two members comes first. -/
theorem pair_sublist (ordered : places.Pairwise (· < ·)) (hereA : a ∈ places) (hereB : b ∈ places)
    (less : a < b) : [a, b].Sublist places := by
  induction ordered with
  | nil => cases hereA
  | @cons x rest first _ ih =>
      rcases List.mem_cons.mp hereA with rfl | laterA <;>
        rcases List.mem_cons.mp hereB with rfl | laterB
      · exact absurd less (List.lt_irrefl _)
      · exact (List.singleton_sublist.mpr laterB).cons_cons _
      · exact absurd (List.lt_trans less (first a laterA)) (List.lt_irrefl _)
      · exact (ih laterA laterB).cons x

/-- In an ordered list two members with nothing between them are neighbours. -/
theorem pair_infix (ordered : places.Pairwise (· < ·)) (hereA : a ∈ places) (hereB : b ∈ places)
    (less : a < b) (next : ∀ c, ¬ (a < c ∧ c < b)) : [a, b] <:+: places := by
  induction ordered with
  | nil => cases hereA
  | @cons x rest first others ih =>
      rcases List.mem_cons.mp hereA with rfl | laterA <;>
        rcases List.mem_cons.mp hereB with rfl | laterB
      · exact absurd less (List.lt_irrefl _)
      · cases others with
        | nil => cases laterB
        | @cons y more second _ =>
            rcases List.mem_cons.mp laterB with rfl | beyond
            · exact ⟨[], more, rfl⟩
            · exact absurd ⟨first y List.mem_cons_self, second b beyond⟩ (next y)
      · exact absurd (List.lt_trans less (first a laterA)) (List.lt_irrefl _)
      · exact List.infix_cons (ih laterA laterB)

end Sorted

mutual

/-- How far below a node others stand, at most. -/
def nesting : Condition → Nat
  | leaf _ => 0
  | group _ children => if children.isEmpty then 0 else nestingIn children + 1

/-- How deep a forest is nested. -/
def nestingIn : List Condition → Nat
  | [] => 0
  | c :: rest => max (nesting c) (nestingIn rest)

end

theorem nesting_le_iff {depth most : Nat} {c : Condition}
    (below : ∀ depth most, (∀ t ∈ nodesFrom depth c.children, t.1 ≤ depth + most) ↔
      nestingIn c.children ≤ most) :
    (∀ t ∈ nodesFrom (depth + 1) c.children, t.1 ≤ depth + most) ↔ nesting c ≤ most := by
  cases c with
  | leaf clause => simp [children, nesting]
  | group clause children =>
      cases children with
      | nil => simp [Condition.children, nesting]
      | cons d rest =>
          rw [nesting, if_neg (by simp)]
          cases most with
          | zero =>
              refine iff_of_false (fun shallow => ?_) (Nat.not_succ_le_zero _)
              have child : (depth + 1, d) ∈ nodesFrom (depth + 1) (d :: rest) := by
                rw [nodesFrom_cons]
                exact List.mem_cons_self
              exact Nat.not_succ_le_self depth (shallow _ child)
          | succ most =>
              rw [← Nat.add_assoc, Nat.add_right_comm]
              exact (below (depth + 1) most).trans Nat.succ_le_succ_iff.symm

theorem nestingIn_le_iff {depth most : Nat} {forest : List Condition} :
    (∀ t ∈ nodesFrom depth forest, t.1 ≤ depth + most) ↔ nestingIn forest ≤ most := by
  induction forest using node_induction generalizing depth most with
  | nil => simp [nestingIn]
  | cons c rest below beside =>
      rw [nodesFrom_cons, List.forall_mem_cons, List.forall_mem_append, beside,
        nesting_le_iff fun _ _ => below, nestingIn, Nat.max_le]
      exact and_iff_right (Nat.le_add_right depth most)

theorem forestDepth_eq (forest : List Condition) : forestDepth forest = nestingIn forest := by
  refine eq_of_forall_ge_iff fun most => ?_
  have fits := @nestingIn_le_iff 0 most forest
  rw [Nat.zero_add] at fits
  rw [forestDepth_le_iff, fits]

/-- A forest is flat if none of its nodes has children. -/
theorem forestDepth_eq_zero_iff {forest : List Condition} :
    forestDepth forest = 0 ↔ ∀ c ∈ forest, c.children = [] := by
  rw [forestDepth_eq]
  induction forest with
  | nil => simp [nestingIn]
  | cons c rest ih =>
      have here : nesting c = 0 ↔ c.children = [] := by
        cases c with
        | leaf clause => simp [nesting, children]
        | group clause children => cases children <;> simp [nesting, Condition.children]
      rw [nestingIn, Nat.max_eq_zero_iff, here, ih, List.forall_mem_cons]

theorem iterate_measureNext (forest : List Condition) :
    measureNext^[forestSize forest] (0, forest.map fun c => (0, c)) = (forestDepth forest, []) := by
  obtain ⟨deepest, measured, most⟩ := iterate_measureNext_append forest 0 0 []
  have same : deepest = forestDepth forest := by
    refine eq_of_forall_ge_iff fun d => ?_
    rw [most, forestDepth_le_iff]
    exact and_iff_right (Nat.zero_le d)
  rw [List.nil_append] at measured
  rw [measured, same]

/-- The operator tags of a forest, in document order. -/
def mentionedTags (forest : List Condition) : List String :=
  (nodes forest).filterMap fun c => c.clause.operator

theorem mem_testedFields {forest : List Condition} {name : String} :
    name ∈ testedFields forest ↔
      ∃ clause tag v, leaf clause ∈ nodes forest ∧ clause.predicate = .field (some name) tag v := by
  rw [(testedFields_first forest).mem_iff, mentionedFields, List.mem_filterMap]
  constructor
  · rintro ⟨p, stands, named⟩
    obtain ⟨clause, inside, rfl⟩ := mem_predicates.mp stands
    cases reading : clause.predicate with
    | field given tag v =>
        rw [reading] at named
        cases named
        exact ⟨clause, tag, v, inside, reading⟩
    | raw | custom | relation =>
        rw [reading] at named
        cases named
  · rintro ⟨clause, tag, v, inside, reading⟩
    exact ⟨_, mem_predicates.mpr ⟨clause, inside, reading⟩, rfl⟩

/-- What the walks over a forest find, and in which order. -/
structure Walked (forest : List Condition) : Prop where
  /-- The walk ends after one pass for each node. -/
  ends : visitNext^[forestSize forest] ([], forest.reverse) = (nodes forest, [])
  /-- Every address is visited where there is a node, and none of them twice. -/
  listed : ∀ place, place ∈ addresses forest ↔ (nodeIn? forest place).isSome
  once : (addresses forest).Nodup
  /-- The nodes visited are those at the addresses, one after the other. -/
  visits : (nodes forest).map some = (addresses forest).map (nodeIn? forest)
  /-- A group stands right before its first child. -/
  firstChild : ∀ place c, nodeIn? forest place = some c → c.children ≠ [] →
    [place, place ++ [0]] <:+: addresses forest
  /-- All of a subtree stands before the next tree beside it. -/
  siblings : ∀ place i below, place ++ i :: below ∈ addresses forest →
    place ++ [i + 1] ∈ addresses forest →
    [place ++ i :: below, place ++ [i + 1]].Sublist (addresses forest)
  fields : FirstOccurrences (testedFields forest) (mentionedFields forest) ∧
    (testedFields forest).Nodup ∧
    ∀ name, name ∈ testedFields forest ↔ ∃ clause tag v,
      leaf clause ∈ nodes forest ∧ clause.predicate = .field (some name) tag v
  tags : FirstOccurrences (operatorTags forest) (mentionedTags forest) ∧
    (operatorTags forest).Nodup ∧
    ∀ tag, tag ∈ operatorTags forest ↔ ∃ c ∈ nodes forest, c.clause.operator = some tag
  /-- The loop that measures a forest ends too, with the maximum that a recursion gives. -/
  measured : measureNext^[forestSize forest] (0, forest.map fun c => (0, c)) =
    (forestDepth forest, [])
  depth : forestDepth forest = nestingIn forest
  flat : forestDepth forest = 0 ↔ ∀ c ∈ forest, c.children = []

/-- Every walk over a forest goes through it in document order. -/
theorem walked_in_document_order (forest : List Condition) : Walked forest where
  ends := iterate_visitNext forest
  listed _ := mem_addresses
  once := nodup_addresses forest
  visits := (map_nodeIn?_addresses forest).symm
  firstChild := by
    intro place c stands parent
    refine pair_infix (pairwise_addressesFrom 0 forest) (mem_addresses.mpr ?_)
      (mem_addresses.mpr (isSome_nodeIn?_firstChild stands parent)) ?_ fun _ => not_between_first
    · rw [stands, Option.isSome_some]
    · have later : place ++ [] < place ++ [0] := List.append_left_lt (List.nil_lt_cons 0 [])
      rwa [List.append_nil] at later
  siblings := by
    intro place i below here beside
    refine pair_sublist (pairwise_addressesFrom 0 forest) here beside (List.append_left_lt ?_)
    exact List.cons_lt_cons_iff.mpr (.inl (Nat.lt_succ_self i))
  fields := ⟨testedFields_first forest, (testedFields_first forest).nodup, fun _ => mem_testedFields⟩
  tags :=
    have first := firstOccurrences_eraseDups (mentionedTags forest)
    ⟨first, first.nodup, fun _ => mem_operatorTags⟩
  measured := iterate_measureNext forest
  depth := forestDepth_eq forest
  flat := forestDepth_eq_zero_iff

end Condition

end RowFilter
