import Mathlib.Data.List.DropRight
import Mathlib.Data.List.Induction
import RowFilter.Proofs.Compilation.Inversion
import RowFilter.Proofs.Validation.Findings

/-! # Registries over whole runs

Handlers are registered, replaced and removed for as long as an application runs. One lemma says
what a call does to the handler of an id. By induction over the calls, from the last one, the
handler of an id is the one that was registered last, if it has not been removed since; calls that
fail play no part. All that can be asked of a registry, and all that is done with a predicate that
is left to a handler, is a matter of these handlers alone.
-/

namespace RowFilter

/-- A call on a registry. Copies are of all entries or of those of one model. -/
inductive RegistryCall where
  | register (id : String) (h : Handler) (force : Bool)
  | unregister (id : String)
  | clear
  | copy (model : Option String)

/-- A registry, and the copies that were taken of it. -/
structure Registrations where
  registry : Registry := .empty
  copies : List Registry := []

namespace RegistryCall

/-- The handler that a call registers under an id. -/
def handlerFor? (id : String) : RegistryCall → Option Handler
  | register other h _ => if id = other then some h else none
  | unregister _ | clear | copy _ => none

/-- Whether a call removes the handler of an id. -/
def removes (id : String) : RegistryCall → Bool
  | unregister other => id == other
  | clear => true
  | register .. | copy _ => false

/-- The last handler that some calls register under an id and do not remove after that. -/
def lastHandler? (id : String) (calls : List RegistryCall) : Option Handler :=
  ((calls.rtakeWhile fun call => !call.removes id).filterMap (handlerFor? id)).getLast?

theorem lastHandler?_concat (id : String) (calls : List RegistryCall) (call : RegistryCall) :
    lastHandler? id (calls ++ [call]) =
      if call.removes id then none else (call.handlerFor? id).or (lastHandler? id calls) := by
  rw [lastHandler?, List.rtakeWhile_concat]
  cases removed : call.removes id with
  | true => rfl
  | false =>
      simp only [lastHandler?, List.getLast?_filterMap, Bool.not_false, if_true,
        List.reverse_concat, List.findSome?_cons, Bool.false_eq_true, if_false]
      cases call.handlerFor? id <;> rfl

end RegistryCall

namespace Registrations

open RegistryCall

/-- What is copied of a registry. -/
def copyOf (r : Registry) : Option String → Registry
  | none => r
  | some model => r.ofModel model

def step (s : Registrations) : RegistryCall → Except RegistryError Registrations
  | .register id h force => do return { s with registry := ← s.registry.add id h force }
  | .unregister id => .ok { s with registry := s.registry.erase id }
  | .clear => .ok { s with registry := .empty }
  | .copy model => .ok { s with copies := s.copies ++ [copyOf s.registry model] }

/-- What a call leaves. One that fails leaves everything as it was. -/
def after (s : Registrations) (call : RegistryCall) : Registrations :=
  match s.step call with
  | .ok next => next
  | .error _ => s

def run (s : Registrations) (calls : List RegistryCall) : Registrations := calls.foldl after s

/-- Those of some calls that do not fail where they stand. -/
def carriedOut (s : Registrations) : List RegistryCall → List RegistryCall
  | [] => []
  | call :: rest =>
    match s.step call with
    | .ok next => call :: next.carriedOut rest
    | .error _ => s.carriedOut rest

section Steps

variable {s next : Registrations} {call : RegistryCall}

theorem after_of_ok (ok : s.step call = .ok next) : s.after call = next := by rw [after, ok]

theorem after_of_error {e : RegistryError} (failed : s.step call = .error e) :
    s.after call = s := by rw [after, failed]

/-- A call fails if it registers a handler, without force, under an id that is taken. -/
theorem step_eq_error {e : RegistryError} :
    s.step call = .error e ↔ ∃ id h, call = .register id h false ∧
      s.registry.contains id = true ∧ e = .alreadyRegistered id := by
  cases call with
  | register id h force =>
      constructor
      · intro failed
        rw [step, Registry.add] at failed
        split at failed
        next refused =>
          obtain ⟨taken, unforced⟩ := Bool.and_eq_true_iff.mp refused
          cases force with
          | true => cases unforced
          | false =>
            cases failed
            exact ⟨id, h, rfl, taken, rfl⟩
        next => cases failed
      · rintro ⟨_, _, ⟨⟩, taken, rfl⟩
        rw [step, Registry.add, taken]
        rfl
  | unregister | clear | copy => simp [step]

/-- What a call that is carried out does to the handler of an id. -/
theorem get?_of_ok (ok : s.step call = .ok next) (id : String) :
    next.registry.get? id =
      if call.removes id then none else (call.handlerFor? id).or (s.registry.get? id) := by
  cases call with
  | register other h force =>
      simp only [step, Registry.add] at ok
      split at ok
      · cases ok
      · cases ok
        by_cases same : id = other <;> simp [NameMap.get?_insert, removes, handlerFor?, same]
  | unregister other =>
      cases ok
      by_cases same : id = other <;> simp [NameMap.get?_erase, removes, handlerFor?, same]
  | clear =>
      cases ok
      simp [removes]
  | copy model =>
      cases ok
      simp [removes, handlerFor?]

theorem copies_isPrefix (s : Registrations) (call : RegistryCall) :
    s.copies <+: (s.after call).copies := by
  cases ok : s.step call with
  | error e =>
      simp only [after_of_error ok, List.prefix_rfl]
  | ok next =>
      rw [after_of_ok ok]
      cases call with
      | register id h force =>
          simp only [step, Registry.add] at ok
          split at ok
          · cases ok
          · cases ok
            exact List.prefix_rfl
      | unregister | clear =>
          cases ok
          exact List.prefix_rfl
      | copy model =>
          cases ok
          exact List.prefix_append _ _

end Steps

theorem run_append (s : Registrations) (calls later : List RegistryCall) :
    s.run (calls ++ later) = (s.run calls).run later := List.foldl_append

theorem carriedOut_concat (s : Registrations) (calls : List RegistryCall) (call : RegistryCall) :
    s.carriedOut (calls ++ [call]) =
      s.carriedOut calls ++ if ((s.run calls).step call).isOk then [call] else [] := by
  induction calls generalizing s with
  | nil =>
      rw [List.nil_append, carriedOut, carriedOut, run, List.foldl_nil]
      cases s.step call <;> rfl
  | cons first rest ih =>
      rw [List.cons_append, carriedOut, carriedOut, run, List.foldl_cons]
      cases ok : s.step first with
      | error e =>
          rw [after_of_error ok]
          exact ih s
      | ok next =>
          rw [after_of_ok ok]
          exact congrArg (first :: ·) (ih next)

/-- After a run every id has the handler that was registered last and not removed since. -/
theorem get?_run (calls : List RegistryCall) (id : String) :
    (run {} calls).registry.get? id = lastHandler? id (carriedOut {} calls) := by
  induction calls using List.reverseRecOn with
  | nil => rfl
  | append_singleton calls call ih =>
      rw [run_append, carriedOut_concat]
      cases ok : (run {} calls).step call with
      | error e =>
          have unchanged : (run {} calls).run [call] = run {} calls := after_of_error ok
          rw [unchanged, ih]
          simp [Except.isOk, Except.toBool]
      | ok next =>
          have reached : (run {} calls).run [call] = next := after_of_ok ok
          rw [reached, get?_of_ok ok, ih]
          simp [Except.isOk, Except.toBool, lastHandler?_concat]

theorem copies_run_isPrefix (s : Registrations) (later : List RegistryCall) :
    s.copies <+: (s.run later).copies := by
  induction later generalizing s with
  | nil => exact List.prefix_rfl
  | cons call rest ih => exact (copies_isPrefix s call).trans (ih _)

end Registrations

namespace Registry

theorem get?_ofModel (r : Registry) (model id : String) :
    (r.ofModel model).get? id =
      if (model ++ ".").toList <+: id.toList then r.get? id else none := by
  simp [ofModel, NameMap.get?_filter, String.isPrefixOf]

/-- Registries that have the same handlers for all predicates of a forest. -/
def AgreeOn (r r' : Registry) (forest : List Condition) : Prop :=
  ∀ id tag value params, .custom id tag value params ∈ Condition.predicates forest →
    r.get? id = r'.get? id

variable {r r' : Registry}

theorem AgreeOn.leaf {clause : Clause} {rest : List Condition}
    (agree : AgreeOn r r' (.leaf clause :: rest)) :
    (∀ id tag value params, clause.predicate = .custom id tag value params →
      r.get? id = r'.get? id) ∧ AgreeOn r r' rest := by
  unfold AgreeOn at agree
  simp only [Condition.predicates_leaf_cons, List.mem_cons] at agree
  exact ⟨fun id tag value params left => agree id tag value params (.inl left.symm),
    fun id tag value params later => agree id tag value params (.inr later)⟩

theorem AgreeOn.group {clause : Clause} {children rest : List Condition}
    (agree : AgreeOn r r' (.group clause children :: rest)) :
    AgreeOn r r' children ∧ AgreeOn r r' rest := by
  unfold AgreeOn at agree
  simp only [Condition.predicates_group_cons, List.mem_append] at agree
  exact ⟨fun id tag value params below => agree id tag value params (.inl below),
    fun id tag value params later => agree id tag value params (.inr later)⟩

end Registry

namespace Validator

variable [PatternEngine] (v : Validator) {r r' : Registry}

/-- What a validator says about a predicate that is left to a handler. -/
theorem leafFault?_custom (r : Registry) (id : String) (tag : Option String)
    (value params : Option Json) :
    { v with registry := some r }.leafFault? (.custom id tag value params) =
      (r.get? id).bind fun h =>
        match h.validate (value.getD .null) with
        | .ok () => none
        | .error reason => some (none, .refusedByHandler reason) := by
  rw [leafFault?, customFault?, Option.bind_some]
  cases r.get? id with
  | none => rfl
  | some h =>
      simp only [Option.bind_some]
      cases h.validate (value.getD .null) <;> rfl

theorem leafFault?_registry {p : Predicate}
    (agree : ∀ id tag value params, p = .custom id tag value params → r.get? id = r'.get? id) :
    { v with registry := some r }.leafFault? p = { v with registry := some r' }.leafFault? p := by
  cases p with
  | custom id tag value params =>
      rw [leafFault?_custom, leafFault?_custom, agree id tag value params rfl]
  | raw | relation | field => rfl

theorem findingsIn_registry {forest : List Condition} (agree : r.AgreeOn r' forest) (depth : Nat) :
    { v with registry := some r }.findingsIn depth forest =
      { v with registry := some r' }.findingsIn depth forest := by
  induction forest using Condition.forest_induction generalizing depth with
  | nil => rfl
  | leaf clause rest ih =>
      obtain ⟨here, beside⟩ := agree.leaf
      rw [findingsIn, findingsIn, ih beside, findings, findings, inspect, inspect,
        v.leafFault?_registry here]
  | group clause children rest below beside =>
      obtain ⟨inside, others⟩ := agree.group
      rw [findingsIn, findingsIn, beside others, findings_eq, findings_eq, Condition.children,
        below inside]
      rfl

/-- A validator asks its registry for nothing but the handlers of a forest's predicates. -/
theorem validate_registry {forest : List Condition} (agree : r.AgreeOn r' forest) :
    { v with registry := some r }.validate forest =
      { v with registry := some r' }.validate forest := by
  funext log
  simp only [validate, visit_eq, List.flatMap_map, ← findingsIn_eq_flatMap]
  rw [v.findingsIn_registry agree]

end Validator

namespace Compiler

variable [PatternEngine] (k : Compiler) {r r' : Registry}

/-- What a predicate compiles to that is left to a handler. -/
theorem criteriaOfPredicate_custom (r : Registry) (node id : String) (tag : Option String)
    (value params : Option Json) :
    { k with registry := r }.criteriaOfPredicate node (.custom id tag value params) =
      (r.get? id).elim (.ok .empty) fun h =>
        (h.build (tag.getD Operator.custom.tag) (value.getD .null) k.config.dialect params).mapError
          (.handler id) := by
  rw [criteriaOfPredicate, criteriaOfHandler]
  cases r.get? id with
  | none => rfl
  | some h =>
      simp only [Option.elim_some]
      cases h.build (tag.getD Operator.custom.tag) (value.getD .null) k.config.dialect params <;> rfl

theorem criteriaOfPredicate_registry {node : String} {p : Predicate}
    (agree : ∀ id tag value params, p = .custom id tag value params → r.get? id = r'.get? id) :
    { k with registry := r }.criteriaOfPredicate node p =
      { k with registry := r' }.criteriaOfPredicate node p := by
  cases p with
  | custom id tag value params =>
      rw [criteriaOfPredicate_custom, criteriaOfPredicate_custom, agree id tag value params rfl]
  | raw | relation | field => rfl

theorem criteriaOfAll_registry {forest : List Condition} (agree : r.AgreeOn r' forest)
    (depth : Nat) :
    { k with registry := r }.criteriaOfAll depth forest =
      { k with registry := r' }.criteriaOfAll depth forest := by
  induction forest using Condition.forest_induction generalizing depth with
  | nil => rfl
  | leaf clause rest ih =>
      obtain ⟨here, beside⟩ := agree.leaf
      rw [criteriaOfAll, criteriaOfAll, criteriaOfNode, criteriaOfNode, ih beside,
        k.criteriaOfPredicate_registry here]
  | group clause children rest below beside =>
      obtain ⟨inside, others⟩ := agree.group
      rw [criteriaOfAll, criteriaOfAll, criteriaOfNode, criteriaOfNode, below inside,
        beside others]
      rfl

/-- A compiler asks its registry for nothing but the handlers of a forest's predicates. -/
theorem criteriaOfForest_registry {forest : List Condition} (agree : r.AgreeOn r' forest)
    (logic : Logic) :
    { k with registry := r }.criteriaOfForest forest logic =
      { k with registry := r' }.criteriaOfForest forest logic := by
  rw [criteriaOfForest, criteriaOfForest, k.criteriaOfAll_registry agree]
  rfl

end Compiler

namespace Registrations

open RegistryCall

/-- A registry after some calls, as the map from ids to the handlers that were found. -/
structure Holds [PatternEngine] (calls : List RegistryCall)
    (found : String → Option Handler) : Prop where
  get : ∀ id, (run {} calls).registry.get? id = found id
  has : ∀ id, (run {} calls).registry.contains id = (found id).isSome
  all : ∀ id h, (id, h) ∈ (run {} calls).registry.entries ↔ found id = some h
  once : (run {} calls).registry.names.Nodup
  size : ∀ ids : List String, ids.Nodup → (∀ id, id ∈ ids ↔ (found id).isSome = true) →
    (run {} calls).registry.size = ids.length
  empty : (run {} calls).registry.isEmpty = true ↔ ∀ id, found id = none
  ofModel : ∀ model id h, (id, h) ∈ ((run {} calls).registry.ofModel model).entries ↔
    found id = some h ∧ (model ++ ".").toList <+: id.toList
  /-- Only a registration without force under an id that is taken fails. -/
  fails : ∀ call e, (run {} calls).step call = .error e ↔
    ∃ id h, call = .register id h false ∧ (found id).isSome = true ∧ e = .alreadyRegistered id
  unchanged : ∀ call e, (run {} calls).step call = .error e →
    run {} (calls ++ [call]) = run {} calls
  /-- A copy is of the registry at its time, whatever is called later. -/
  copied : ∀ model later, (run {} (calls ++ .copy model :: later)).copies[
    (run {} calls).copies.length]? = some (copyOf (run {} calls).registry model)
  /-- Copies that were taken before stay as they are. -/
  kept : ∀ later, (run {} calls).copies <+: (run {} (calls ++ later)).copies
  validates : ∀ (v : Validator) id tag value params,
    { v with registry := some (run {} calls).registry }.leafFault? (.custom id tag value params) =
      (found id).bind fun h =>
        match h.validate (value.getD .null) with
        | .ok () => none
        | .error reason => some (none, .refusedByHandler reason)
  compiles : ∀ (k : Compiler) node id tag value params,
    { k with registry := (run {} calls).registry }.criteriaOfPredicate node
        (.custom id tag value params) =
      (found id).elim (.ok .empty) fun h =>
        (h.build (tag.getD Operator.custom.tag) (value.getD .null) k.config.dialect params).mapError
          (.handler id)
  /-- No other handlers matter to a forest than those of its predicates. -/
  forests : ∀ (r : Registry) (forest : List Condition),
    (∀ id tag value params, .custom id tag value params ∈ Condition.predicates forest →
      found id = r.get? id) →
    (∀ v : Validator, { v with registry := some (run {} calls).registry }.validate forest =
      { v with registry := some r }.validate forest) ∧
    ∀ (k : Compiler) logic,
      { k with registry := (run {} calls).registry }.criteriaOfForest forest logic =
        { k with registry := r }.criteriaOfForest forest logic

theorem copies_copied (s : Registrations) (model : Option String) (later : List RegistryCall) :
    (s.run (.copy model :: later)).copies[s.copies.length]? =
      some (copyOf s.registry model) := by
  obtain ⟨more, same⟩ := copies_run_isPrefix (s.after (.copy model)) later
  have copied : (s.after (.copy model)).copies = s.copies ++ [copyOf s.registry model] := rfl
  rw [run, List.foldl_cons, ← run, ← same, copied, List.append_assoc,
    List.getElem?_append_right (Nat.le_refl _), Nat.sub_self]
  rfl

/-- After any calls a registry maps every id to the handler that was registered last, of those
calls that did not fail, and not removed since. -/
theorem run_holds_last [PatternEngine] (calls : List RegistryCall) :
    Holds calls fun id => lastHandler? id (carriedOut {} calls) where
  get := get?_run calls
  has id := by rw [NameMap.contains, get?_run]
  all id h := by rw [NameMap.mem_entries, get?_run]
  once := NameMap.nodup_names _
  size ids distinct these :=
    NameMap.size_eq _ distinct fun id => by rw [these, NameMap.contains, get?_run]
  empty := by simp only [NameMap.isEmpty_iff, get?_run]
  ofModel model id h := by
    rw [NameMap.mem_entries, Registry.get?_ofModel, get?_run]
    split
    next named => exact (and_iff_left named).symm
    next other => simp only [other, reduceCtorEq, and_false]
  fails call e := by
    rw [step_eq_error]
    simp only [NameMap.contains, get?_run]
  unchanged call e failed := by
    rw [run_append]
    exact after_of_error failed
  copied model later := by
    rw [run_append]
    exact copies_copied _ model later
  kept later := by
    rw [run_append]
    exact copies_run_isPrefix _ later
  validates v id tag value params := by rw [v.leafFault?_custom, get?_run]
  compiles k node id tag value params := by rw [k.criteriaOfPredicate_custom, get?_run]
  forests r forest same :=
    have agree : (run {} calls).registry.AgreeOn r forest := fun id tag value params stands =>
      (get?_run calls id).trans (same id tag value params stands)
    ⟨fun v => v.validate_registry agree, fun k logic => k.criteriaOfForest_registry agree logic⟩

end Registrations

end RowFilter
