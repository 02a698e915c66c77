import Mathlib.Logic.Function.Iterate
import RowFilter.Proofs.Condition.Forest

/-! # Editing a forest in place

A walk that edits nodes where they stand keeps the places it has still to go to on a stack. It
takes the last of them, edits the node there, notes something about it if need be, and puts the
places of its children on the stack in reverse. A place is an address from the root down, and stays
good as long as nothing above it changes its shape. What the walk leaves is what rewriting every
clause by recursion gives, and its notes are in document order.
-/

namespace RowFilter.Condition

/-- The way from the root down to a node: at every step the index of a child. -/
abbrev Address := List Nat

/-- The tree at an address. -/
def nodeAt? : Condition → Address → Option Condition
  | root, [] => some root
  | root, i :: path => root.children[i]?.bind fun c => nodeAt? c path

/-- Puts another tree in the place of a child. -/
def setChild (root : Condition) (i : Nat) (new : Condition) : Condition :=
  match root with
  | leaf clause => leaf clause
  | group clause children => group clause (children.set i new)

/-- Puts another tree at an address, if there is one. -/
def put : Condition → Address → Condition → Condition
  | _, [], new => new
  | root, i :: path, new =>
    match root.children[i]? with
    | none => root
    | some c => root.setChild i (put c path new)

/-- Rewrites the clause of one node. -/
def mapClause (f : Clause → Clause) : Condition → Condition
  | leaf clause => leaf (f clause)
  | group clause children => group (f clause) children

section Addresses

variable {root c : Condition} {place path : Address}

theorem nodeAt?_append (root : Condition) (place path : Address) :
    root.nodeAt? (place ++ path) = (root.nodeAt? place).bind fun c => c.nodeAt? path := by
  induction place generalizing root with
  | nil => rfl
  | cons i rest ih =>
      simp only [List.cons_append, nodeAt?]
      cases root.children[i]? with
      | none => rfl
      | some c => exact ih c

theorem children_setChild {i : Nat} {old : Condition} (stands : root.children[i]? = some old)
    (new : Condition) : (root.setChild i new).children[i]? = some new := by
  cases root with
  | leaf clause => simp [children] at stands
  | group clause below =>
      simp only [children] at stands
      simp [setChild, children, (List.getElem?_eq_some_iff.mp stands).1]

theorem setChild_setChild (i : Nat) (a b : Condition) :
    (root.setChild i a).setChild i b = root.setChild i b := by
  cases root <;> simp [setChild]

theorem setChild_self {i : Nat} (stands : root.children[i]? = some c) : root.setChild i c = root := by
  cases root with
  | leaf clause => rfl
  | group clause below =>
      simp only [children] at stands
      obtain ⟨inside, rfl⟩ := List.getElem?_eq_some_iff.mp stands
      simp [setChild]

theorem put_self (stands : root.nodeAt? place = some c) : root.put place c = root := by
  induction place generalizing root with
  | nil =>
      cases stands
      rfl
  | cons i rest ih =>
      obtain ⟨child, found, below⟩ := Option.bind_eq_some_iff.mp stands
      simp only [put, found, ih below]
      exact setChild_self found

theorem put_put (a b : Condition) : (root.put place a).put place b = root.put place b := by
  induction place generalizing root with
  | nil => rfl
  | cons i rest ih =>
      cases found : root.children[i]? with
      | none => simp [put, found]
      | some child =>
          simp only [put, found, children_setChild found]
          rw [setChild_setChild, ih]

theorem nodeAt?_put (stands : root.nodeAt? place = some c) (new : Condition) :
    (root.put place new).nodeAt? place = some new := by
  induction place generalizing root with
  | nil => rfl
  | cons i rest ih =>
      obtain ⟨child, found, below⟩ := Option.bind_eq_some_iff.mp stands
      simp only [put, found, nodeAt?, children_setChild found]
      exact ih below

/-- What is put below a place is put into what stands there. -/
theorem put_append (stands : root.nodeAt? place = some c) (path : Address) (new : Condition) :
    root.put (place ++ path) new = root.put place (c.put path new) := by
  induction place generalizing root with
  | nil =>
      cases stands
      rfl
  | cons i rest ih =>
      obtain ⟨child, found, below⟩ := Option.bind_eq_some_iff.mp stands
      simp only [List.cons_append, put, found, ih below]

end Addresses

section Child

variable {root c : Condition} {place : Address} {g : Clause} {before after : List Condition}

theorem nodeAt?_child (stands : root.nodeAt? place = some (group g (before ++ c :: after))) :
    root.nodeAt? (place ++ [before.length]) = some c := by
  simp [nodeAt?_append, stands, nodeAt?, children]

/-- A child is put in its place among the others. -/
theorem put_child (stands : root.nodeAt? place = some (group g (before ++ c :: after)))
    (new : Condition) :
    root.put (place ++ [before.length]) new =
      root.put place (group g (before ++ new :: after)) := by
  rw [put_append stands]
  simp [put, children, setChild]

end Child

theorem filterMap_nodes_cons {α : Type} (f : Condition → Option α) (c : Condition)
    (rest : List Condition) :
    (nodes (c :: rest)).filterMap f =
      (f c).toList ++ ((nodes c.children).filterMap f ++ (nodes rest).filterMap f) := by
  rw [nodes_cons, List.filterMap_cons, List.filterMap_append]
  cases f c <;> rfl

/-- A walk under way: the tree as it is by now, the places still to go to, the next one last, and
what has been noted. -/
structure Walk (α : Type) where
  root : Condition
  pending : List Address
  log : List α

/-- The places of some neighbouring children. -/
def childPlaces (place : Address) (first count : Nat) : List Address :=
  (List.range' first count).map fun i => place ++ [i]

namespace Walk

variable {α : Type} (edit : Clause → Clause) (note? : Clause → Option α)

/-- A walk over a forest. The root that the trees hang on is never visited. -/
def start (forest : List Condition) : Walk α :=
  { root := group {} forest, pending := (childPlaces [] 0 forest.length).reverse, log := [] }

/-- Goes to the next place. The clause there is looked at before it is edited. -/
def pass (w : Walk α) : Walk α :=
  match w.pending.getLast? with
  | none => w
  | some place =>
    match w.root.nodeAt? place with
    | none => w
    | some c =>
      { root := w.root.put place (c.mapClause edit)
        pending := w.pending.dropLast ++ (childPlaces place 0 c.children.length).reverse
        log := w.log ++ (note? c.clause).toList }

variable {edit note?}

theorem pass_concat {root c : Condition} {place : Address} (stands : root.nodeAt? place = some c)
    (rest : List Address) (log : List α) :
    pass edit note? ⟨root, rest ++ [place], log⟩ =
      ⟨root.put place (c.mapClause edit), rest ++ (childPlaces place 0 c.children.length).reverse,
        log ++ (note? c.clause).toList⟩ := by
  simp [pass, stands]

@[simp] theorem childPlaces_zero (place : Address) (first : Nat) :
    childPlaces place first 0 = [] := rfl

theorem childPlaces_succ (place : Address) (first count : Nat) :
    childPlaces place first (count + 1) =
      (place ++ [first]) :: childPlaces place (first + 1) count := by
  simp [childPlaces, List.range'_succ]

variable (edit note?) in
/-- So many passes take the given places, the first of them first, from the top of the stack. They
leave another tree and add some notes. -/
def Edits (count : Nat) (root : Condition) (places : List Address) (root' : Condition)
    (notes : List α) : Prop :=
  ∀ rest log, (pass edit note?)^[count] ⟨root, rest ++ places.reverse, log⟩ =
    ⟨root', rest, log ++ notes⟩

namespace Edits

variable {root root₁ root₂ c : Condition} {place : Address} {places : List Address}
  {notes₁ notes₂ : List α} {m n : Nat}

theorem nil (root : Condition) : Edits edit note? 0 root [] root [] := by
  intro rest log
  simp

theorem cons (first : Edits edit note? m root [place] root₁ notes₁)
    (others : Edits edit note? n root₁ places root₂ notes₂) :
    Edits edit note? (m + n) root (place :: places) root₂ (notes₁ ++ notes₂) := by
  intro rest log
  have one := first (rest ++ places.reverse) log
  rw [List.reverse_singleton, List.append_assoc] at one
  rw [Nat.add_comm, Function.iterate_add_apply, List.reverse_cons, one, others rest,
    List.append_assoc]

/-- A place is done when the places below it are. -/
theorem node (stands : root.nodeAt? place = some c)
    (below : Edits edit note? n (root.put place (c.mapClause edit))
      (childPlaces place 0 c.children.length) root₁ notes₁) :
    Edits edit note? (1 + n) root [place] root₁ ((note? c.clause).toList ++ notes₁) := by
  intro rest log
  rw [Nat.add_comm, Function.iterate_succ_apply, List.reverse_singleton, pass_concat stands, below rest,
    List.append_assoc]

section Child

variable {g : Clause} {done after after' : List Condition} {c' : Condition}

/-- A tree and the trees beside it are edited one after the other. -/
theorem child (stands : root.nodeAt? place = some (group g (done ++ c :: after)))
    (here : Edits edit note? m root [place ++ [done.length]]
      (root.put (place ++ [done.length]) c') notes₁)
    (others : ∀ {root}, root.nodeAt? place = some (group g ((done ++ [c']) ++ after)) →
      Edits edit note? n root (childPlaces place (done ++ [c']).length after.length)
        (root.put place (group g ((done ++ [c']) ++ after'))) notes₂) :
    Edits edit note? (m + n) root (childPlaces place done.length (after.length + 1))
      (root.put place (group g (done ++ c' :: after'))) (notes₁ ++ notes₂) := by
  rw [put_child stands, List.append_cons done c' after] at here
  have later := others (nodeAt?_put stands (group g ((done ++ [c']) ++ after)))
  rw [put_put, List.length_append, List.length_singleton] at later
  rw [childPlaces_succ, List.append_cons done c' after']
  exact here.cons later

end Child

variable (edit note?) in
/-- The children of a node from some child on are edited as a recursion over them says. -/
theorem forest (todo : List Condition) {root : Condition} {place : Address} {g : Clause}
    {done : List Condition} (stands : root.nodeAt? place = some (group g (done ++ todo))) :
    Edits edit note? (forestSize todo) root (childPlaces place done.length todo.length)
      (root.put place (group g (done ++ mapForest edit todo)))
      ((nodes todo).filterMap fun c => note? c.clause) := by
  induction todo using forest_induction generalizing root place g done with
  | nil =>
      have same := put_self stands
      simp only [mapForest, same, nodes_nil]
      exact nil root
  | leaf clause after ih =>
      have both := child stands (node (nodeAt?_child stands) (nil _)) ih
      simpa [forestSize, size, mapForest, mapClauses, mapClause, filterMap_nodes_cons, nodes_nil,
        children] using both
  | group clause below after ihc ihr =>
      have next := nodeAt?_child stands
      have opened : (root.put (place ++ [done.length]) (group (edit clause) below)).nodeAt?
          (place ++ [done.length]) = some (group (edit clause) ([] ++ below)) := nodeAt?_put next _
      have inner := ihc opened
      rw [put_put] at inner
      have both := child stands (node next inner) ihr
      simpa [forestSize, size, mapForest, mapClauses, filterMap_nodes_cons, children] using both

end Edits

/-- A walk over a forest is over after as many passes as there are nodes. It leaves what rewriting
every clause gives, and has noted what there is to note in document order. -/
theorem iterate_pass (forest : List Condition) :
    (pass edit note?)^[forestSize forest] (start forest) =
      { root := group {} (mapForest edit forest)
        pending := []
        log := (nodes forest).filterMap fun c => note? c.clause } := by
  have stands : (group {} forest).nodeAt? [] = some (group {} ([] ++ forest)) := rfl
  simpa [start, put] using Edits.forest edit note? forest stands [] []

end Walk

end RowFilter.Condition
