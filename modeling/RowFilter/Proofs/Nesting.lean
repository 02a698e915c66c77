import RowFilter.Pattern.Matching
import RowFilter.Proofs.Compilation.Inversion
import RowFilter.Proofs.Condition.Depths
import RowFilter.Proofs.Validation.Events

/-! # One measure of nesting

Validation, compilation and the walk that measures a forest each count depths on their own. Where
no group is too large, a validation looks at every node down to the first level that is too deep,
and reports each node of that level and no other as too deep. So it does exactly if the forest is
measured to be deeper than the limit, and then the forest does not compile.
-/

namespace RowFilter

open Condition Outcome

namespace Validator

variable {v : Validator} {depth : Nat} {forest : List Condition}

section

variable [PatternEngine]

theorem testFault?_ne_tooDeep {tag : Option String} {value : Option Json}
    {config : Option FieldConfig} {fault : Fault}
    (found : v.testFault? tag value config = some fault) :
    fault.code ≠ .maxDepthExceeded := by
  rcases testFault?_eq_some found with rfl | ⟨_, _, rfl⟩ | ⟨_, _, _, _, rfl⟩ <;> simp [Fault.code]

/-- Nothing that a leaf says is at fault for being too deep. -/
theorem leafFault?_ne_tooDeep {p : Predicate} {field : Option String} {fault : Fault}
    (found : v.leafFault? p = some (field, fault)) : fault.code ≠ .maxDepthExceeded := by
  cases p with
  | raw text params =>
      obtain ⟨_, found, ⟨⟩⟩ := Option.map_eq_some_iff.mp found
      rcases rawFault?_eq_some found with ⟨_, rfl⟩ | ⟨_, _, rfl⟩ <;> simp [Fault.code]
  | custom handler tag value params =>
      obtain ⟨_, found, ⟨⟩⟩ := Option.map_eq_some_iff.mp found
      obtain ⟨_, rfl⟩ := customFault?_eq_some found
      simp [Fault.code]
  | relation relation given tag value =>
      rcases leafFault?_relation_eq_some found with rfl | rfl | rfl | tested
      · simp [Fault.code]
      · simp [Fault.code]
      · simp [Fault.code]
      · exact testFault?_ne_tooDeep tested
  | field given tag value =>
      rcases leafFault?_field_eq_some found with rfl | ⟨_, rfl⟩ | ⟨_, rfl⟩ | ⟨_, tested⟩
      · simp [Fault.code]
      · simp [Fault.code]
      · simp [Fault.code]
      · exact testFault?_ne_tooDeep tested

/-- The finding on a node that is too deep. -/
def tooDeep (v : Validator) (c : Condition) : Finding :=
  { conditionId := c.id, fault := .tooDeep v.limits.maxDepth }

def tooDeepEvent (v : Validator) (c : Condition) : SecurityEvent :=
  { kind := .maxDepthExceeded, conditionId := c.id,
    details := (Fault.tooDeep v.limits.maxDepth).message }

theorem inspect_tooDeep (beyond : v.limits.maxDepth < depth) (c : Condition) :
    v.inspect depth c = (some (v.tooDeep c), false) := if_pos beyond

theorem inspect_group (within : depth ≤ v.limits.maxDepth) (clause : Clause)
    (children : List Condition) :
    (v.inspect depth (.group clause children)).2 =
      decide (children.length ≤ v.limits.maxConditionsPerGroup) := by
  rw [inspect, if_neg (Nat.not_lt.mpr within)]

/-- A node within the limit is at fault for other reasons, if it is. -/
theorem inspect_ne_tooDeep (within : depth ≤ v.limits.maxDepth) {c : Condition} {f : Finding}
    (found : (v.inspect depth c).1 = some f) : f.fault.code ≠ .maxDepthExceeded := by
  unfold inspect at found
  rw [if_neg (Nat.not_lt.mpr within)] at found
  cases c with
  | leaf clause =>
      obtain ⟨⟨field, fault⟩, blamed, rfl⟩ := Option.map_eq_some_iff.mp found
      exact leafFault?_ne_tooDeep blamed
  | group clause children =>
      obtain ⟨fault, blamed, rfl⟩ := Option.map_eq_some_iff.mp found
      rcases groupFault?_eq_some blamed with rfl | ⟨_, rfl⟩ | rfl <;> simp [Fault.code]

end

/-- The nodes of a forest down to the first level that is too deep. -/
def inReach (v : Validator) (depth : Nat) (forest : List Condition) : List (Nat × Condition) :=
  (nodesFrom depth forest).filter fun t => t.1 ≤ v.limits.maxDepth + 1

theorem inReach_nil : v.inReach depth [] = [] := by
  rw [inReach, nodesFrom_nil, List.filter_nil]

theorem inReach_cons (reached : depth ≤ v.limits.maxDepth + 1) (c : Condition)
    (rest : List Condition) :
    v.inReach depth (c :: rest) =
      (depth, c) :: (v.inReach (depth + 1) c.children ++ v.inReach depth rest) := by
  rw [inReach, nodesFrom_cons, List.filter_cons_of_pos (by simpa using reached), List.filter_append,
    ← inReach, ← inReach]

theorem inReach_beyond (beyond : v.limits.maxDepth + 1 < depth) : v.inReach depth forest = [] := by
  rw [inReach, List.filter_eq_nil_iff]
  intro t stands
  have deeper := depth_le_of_mem stands
  simp only [decide_eq_true_eq]
  omega

/-- Where no group is too large, these are the nodes that the validator looks at. -/
theorem findingsIn_of_fits [PatternEngine] (reached : depth ≤ v.limits.maxDepth + 1)
    (fits : ∀ c ∈ nodes forest, c.children.length ≤ v.limits.maxConditionsPerGroup) :
    v.findingsIn depth forest =
      (v.inReach depth forest).filterMap fun t => (v.inspect t.1 t.2).1 := by
  induction forest using forest_induction generalizing depth with
  | nil => rw [findingsIn, inReach_nil, List.filterMap_nil]
  | leaf clause rest ih =>
      rw [nodes_cons, List.forall_mem_cons, List.forall_mem_append] at fits
      rw [findingsIn, findings, ih reached fits.2.2, inReach_cons reached, children, inReach_nil,
        List.nil_append, List.filterMap_cons]
      cases (v.inspect depth (.leaf clause)).1 <;> rfl
  | group clause children rest ihc ihr =>
      rw [nodes_cons, List.forall_mem_cons, List.forall_mem_append, Condition.children] at fits
      obtain ⟨size, below, beside⟩ := fits
      have opened :
          (if (v.inspect depth (.group clause children)).2 then v.findingsIn (depth + 1) children
            else []) =
          (v.inReach (depth + 1) children).filterMap fun t => (v.inspect t.1 t.2).1 := by
        rcases Nat.eq_or_lt_of_le reached with last | within
        · rw [inspect_tooDeep (by omega), inReach_beyond (by omega)]
          rfl
        · rw [inspect_group (Nat.le_of_lt_succ within), decide_eq_true size, if_pos rfl,
            ihc within below]
      rw [findingsIn, findings, opened, ihr reached beside, inReach_cons reached,
        Condition.children, List.filterMap_cons, List.filterMap_append, List.append_assoc]
      cases (v.inspect depth (.group clause children)).1 <;> rfl

/-- Of the findings, those that a node is too deep are one for each node of the first level that
is. -/
theorem filter_findingsIn_tooDeep [PatternEngine]
    (fits : ∀ c ∈ nodes forest, c.children.length ≤ v.limits.maxConditionsPerGroup) :
    (v.findingsIn 0 forest).filter (fun f => f.fault.code == .maxDepthExceeded) =
      ((nodesFrom 0 forest).filter fun t => t.1 == v.limits.maxDepth + 1).map fun t =>
        v.tooDeep t.2 := by
  rw [findingsIn_of_fits (Nat.zero_le _) fits, List.filter_filterMap, inReach,
    List.filterMap_filter, ← List.filterMap_eq_map, List.filterMap_filter]
  refine List.filterMap_congr ?_
  rintro ⟨d, c⟩ _
  dsimp only
  rcases Nat.lt_trichotomy d (v.limits.maxDepth + 1) with within | first | beyond
  · have other : ((v.inspect d c).1.filter fun f => f.fault.code == .maxDepthExceeded) = none := by
      rw [Option.filter_eq_none_iff]
      intro f found
      simpa using inspect_ne_tooDeep (Nat.le_of_lt_succ within) found
    rw [other, ite_self, if_neg (by simpa using Nat.ne_of_lt within)]
  · rw [inspect_tooDeep (by omega), if_pos (by simpa using Nat.le_of_eq first),
      if_pos (by simpa using first)]
    rfl
  · rw [if_neg (by simpa using beyond), if_neg (by simpa using Nat.ne_of_gt beyond)]

/-- The events about nodes that are too deep are raised by the findings that they are. -/
theorem event?_tooDeep (f : Finding) :
    (f.event?.filter fun event => event.kind == .maxDepthExceeded) =
      if f.fault.code == .maxDepthExceeded then f.event? else none := by
  obtain ⟨id, field, fault, shown⟩ := f
  cases fault with
  | badOperand fault => cases fault <;> rfl
  | _ => rfl

/-- The errors and the events of a validation about nodes that are too deep. -/
theorem validate_tooDeep [PatternEngine] (log : List SecurityEvent)
    (fits : ∀ c ∈ nodes forest, c.children.length ≤ v.limits.maxConditionsPerGroup) :
    let result := (v.validate forest log).1
    let beyond := (nodesFrom 0 forest).filter fun t => t.1 == v.limits.maxDepth + 1
    result.errors.filter (fun e => e.code == .maxDepthExceeded) =
        beyond.map (fun t => (v.tooDeep t.2).error) ∧
      result.events.filter (fun event => event.kind == .maxDepthExceeded) =
        beyond.map fun t => v.tooDeepEvent t.2 := by
  intro result beyond
  have found := filter_findingsIn_tooDeep fits
  have judged : result = _ := v.validate_eq forest log
  rw [judged, Validation.ofParts]
  constructor
  · rw [List.filter_map]
    exact (congrArg (List.map Finding.error) found).trans (List.map_map ..)
  · rw [List.filter_filterMap]
    simp only [event?_tooDeep]
    rw [← List.filterMap_filter, found, List.filterMap_map, ← List.filterMap_eq_map]
    rfl

end Validator

namespace Compiler

variable {k : Compiler}

/-- Where trees compile, none of their nodes is too deep. -/
theorem depth_of_criteriaOfAll [PatternEngine] {depth : Nat} {forest : List Condition}
    {parts : List Criteria} (compiled : k.criteriaOfAll depth forest = .ok parts) :
    ∀ t ∈ nodesFrom depth forest, t.1 ≤ k.config.limits.maxDepth := by
  induction forest using forest_induction generalizing depth parts with
  | nil => simp
  | leaf clause rest ih =>
      obtain ⟨part, others, here, beside, _⟩ := criteriaOfAll_cons.mp compiled
      rw [nodesFrom_leaf_cons, List.forall_mem_cons]
      exact ⟨(criteriaOfNode_leaf.mp here).1, ih beside⟩
  | group clause children rest ihc ihr =>
      obtain ⟨part, others, here, beside, _⟩ := criteriaOfAll_cons.mp compiled
      obtain ⟨fits, _, _, _, _, below, _⟩ := criteriaOfNode_group.mp here
      rw [nodesFrom_group_cons, List.forall_mem_cons, List.forall_mem_append]
      exact ⟨fits, ihc below, ihr beside⟩

theorem forestDepth_of_criteriaOfForest [PatternEngine] {forest : List Condition} {logic : Logic}
    {c : Criteria} (compiled : k.criteriaOfForest forest logic = .ok c) :
    forestDepth forest ≤ k.config.limits.maxDepth := by
  obtain ⟨_, parts, all, _⟩ := criteriaOfForest_eq_ok.mp compiled
  exact forestDepth_le_iff.mpr (depth_of_criteriaOfAll all)

end Compiler

namespace Validator

/-- Where no group is too large, a validation finds a forest too deep exactly if it is measured to
be deeper than the limit. It says so once, by an error and an event, of every node one level below
the limit, and a forest of which it says so does not compile. -/
theorem nesting_measured_alike [PatternEngine] (v : Validator) (forest : List Condition)
    (log : List SecurityEvent)
    (fits : ∀ c ∈ nodes forest, c.children.length ≤ v.limits.maxConditionsPerGroup) :
    let result := (v.validate forest log).1
    let errors := result.errors.filter fun e => e.code == .maxDepthExceeded
    let events := result.events.filter fun event => event.kind == .maxDepthExceeded
    let beyond := (nodesFrom 0 forest).filter fun t => t.1 == v.limits.maxDepth + 1
    ((∃ e ∈ errors, ∃ event ∈ events, event.Records e) ↔
        v.limits.maxDepth < forestDepth forest) ∧
      errors.length = beyond.length ∧
      errors.map ValidationError.conditionId = beyond.map (fun t => t.2.id) ∧
      List.Forall₂ SecurityEvent.Records events errors ∧
      (v.limits.maxDepth < forestDepth forest →
        ∀ k : Compiler, k.config.limits.maxDepth = v.limits.maxDepth → ∀ logic,
          ∃ e, k.criteriaOfForest forest logic = .error e) := by
  intro result errors events beyond
  obtain ⟨listed, raised⟩ : errors = beyond.map (fun t => (v.tooDeep t.2).error) ∧
      events = beyond.map fun t => v.tooDeepEvent t.2 := validate_tooDeep log fits
  refine ⟨?_, ?_, ?_, ?_, ?_⟩
  · rw [listed, raised, lt_forestDepth_iff]
    constructor
    · rintro ⟨e, reported, _⟩
      obtain ⟨t, stands, _⟩ := List.mem_map.mp reported
      obtain ⟨inside, level⟩ := List.mem_filter.mp stands
      exact ⟨t, inside, beq_iff_eq.mp level⟩
    · rintro ⟨t, inside, level⟩
      have stands : t ∈ beyond := List.mem_filter.mpr ⟨inside, beq_iff_eq.mpr level⟩
      exact ⟨_, List.mem_map_of_mem stands, _, List.mem_map_of_mem stands, rfl, rfl⟩
  · rw [listed, List.length_map]
  · rw [listed, List.map_map]
    rfl
  · rw [listed, raised, List.forall₂_map_left_iff, List.forall₂_map_right_iff, List.forall₂_same]
    exact fun _ _ => ⟨rfl, rfl⟩
  · intro deep k same logic
    cases compiled : k.criteriaOfForest forest logic with
    | error e => exact ⟨e, rfl⟩
    | ok c =>
        have within := Compiler.forestDepth_of_criteriaOfForest compiled
        rw [same] at within
        exact absurd deep (Nat.not_lt.mpr within)

/-- A leaf and a group one level below the limit, and a leaf below that group. -/
theorem nesting_measured_alike_levels :
    let v : Validator :=
      { fields := .empty, limits := { maxDepth := 1, maxConditionsPerGroup := 2 } }
    let k : Compiler := { schema := { name := "User" }, config := { limits := v.limits } }
    let inner : List Condition := [.leaf { id := "a" }, .group { id := "b" } [.leaf { id := "c" }]]
    let forest : List Condition :=
      [.group { id := "g" } [.group { id := "h", logic := some "XOR" } inner, .leaf { id := "i" }]]
    let errors := (v.validate forest []).1.errors.filter fun e => e.code == .maxDepthExceeded
    (∀ c ∈ nodes forest, c.children.length ≤ v.limits.maxConditionsPerGroup) ∧
      forestDepth forest = 3 ∧ errors.map ValidationError.conditionId = ["a", "b"] ∧
      ∀ logic, ∃ e, k.criteriaOfForest forest logic = .error e := by
  intro v k inner forest errors
  have fits : ∀ c ∈ nodes forest, c.children.length ≤ v.limits.maxConditionsPerGroup := by
    simp [forest, inner, v, nodes_cons, nodes_nil, Condition.children]
  have deep : forestDepth forest = 3 := by
    simp [forest, inner, forestDepth, deepest]
  obtain ⟨_, _, reported, _, refused⟩ := v.nesting_measured_alike forest [] fits
  refine ⟨fits, deep, reported.trans ?_, refused ?_ k rfl⟩
  · simp [forest, inner, v, Condition.children, nodesFrom_cons, Condition.id, Condition.clause]
  · rw [deep]
    decide

end Validator

end RowFilter
