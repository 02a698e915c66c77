import RowFilter.Pattern.Matching
import RowFilter.Proofs.Compilation.Inversion
import RowFilter.Proofs.Validation.Acceptance

/-! # Looser limits

Limits never enter a result: a ceiling is compared with the size of what is there, and where it
is kept the computation goes on as if it had not been asked. So a filter that passes under some
limits passes under looser ones, at every check of the validator and of the compiler alike, and
it compiles to the same criteria.
-/

namespace RowFilter

open Outcome

/-- Limits none of which is lower than before. -/
structure Limits.Within (l l' : Limits) : Prop where
  depth : l.maxDepth ≤ l'.maxDepth
  values : l.maxInValues ≤ l'.maxInValues
  conditions : l.maxConditionsPerGroup ≤ l'.maxConditionsPerGroup
  text : l.maxStringLength ≤ l'.maxStringLength

variable {l l' : Limits}

namespace Operand

theorem countFault?_looser (looser : l.Within l') {op : Operator} {v : Json}
    (kept : countFault? op l v = none) : countFault? op l' v = none := by
  cases v with
  | array items =>
      have values := looser.values
      simp only [countFault?, Bool.and_eq_true, decide_eq_true_eq, ite_eq_right_iff, reduceCtorEq,
        imp_false, not_and] at kept ⊢
      intro listed
      have fits := kept listed
      omega
  | _ => rfl

theorem lengthFault?_looser (looser : l.Within l') {v : Json} (kept : lengthFault? l v = none) :
    lengthFault? l' v = none := by
  have text := looser.text
  simp only [lengthFault?, ite_eq_right_iff, reduceCtorEq, imp_false] at kept ⊢
  omega

/-- An operand that passes its check passes it under looser limits. -/
theorem check_looser [PatternEngine] (looser : l.Within l') (op : Operator) (value : Option Json)
    (config : Option FieldConfig) :
    Extends (check op value config l) (check op value config l') := by
  intro _ passed
  rcases check_eq_ok.mp passed with unneeded | ⟨v, vs, rfl, present, sized, rest⟩
  · exact check_eq_ok.mpr (.inl unneeded)
  · rw [sizeFault?, Option.or_eq_none_iff, Option.or_eq_none_iff] at sized
    obtain ⟨count, length, field⟩ := sized
    refine check_eq_ok.mpr (.inr ⟨v, vs, rfl, present, ?_, rest⟩)
    rw [sizeFault?, Option.or_eq_none_iff, Option.or_eq_none_iff]
    exact ⟨countFault?_looser looser count, lengthFault?_looser looser length, field⟩

end Operand

namespace Validator

variable {v : Validator}

/-- The same validator under other limits. -/
def under (v : Validator) (l : Limits) : Validator := { v with limits := l }

@[simp] theorem under_limits : (v.under l).limits = l := rfl

@[simp] theorem under_fields : (v.under l).fields = v.fields := rfl

@[simp] theorem allows_under (name : String) : (v.under l).allows name = v.allows name := rfl

section

variable [PatternEngine]

/-- A relation that is allowed and known leaves its operator and operand to be looked at. -/
theorem leafFault?_relation {relation name : String} {field operator : Option String}
    {value : Option Json} (filled : given? field = some name) (allowed : v.allows relation = true)
    (known : ((v.fields.get? relation).any fun c => c.kind.isReference) = true) :
    v.leafFault? (.relation relation field operator value) =
      (v.testFault? operator value none).map (some name, ·) := by
  simp [leafFault?, filled, allowed, known]

theorem leafFault?_field {name : String} {config : FieldConfig} {field operator : Option String}
    {value : Option Json} (filled : given? field = some name) (allowed : v.allows name = true)
    (known : v.fields.get? name = some config) :
    v.leafFault? (.field field operator value) =
      (v.testFault? operator value (some config)).map (some name, ·) := by
  simp [leafFault?, filled, allowed, known]

theorem testFault?_looser (looser : l.Within l') {operator : Option String} {value : Option Json}
    {config : Option FieldConfig} (passed : (v.under l).testFault? operator value config = none) :
    (v.under l').testFault? operator value config = none := by
  unfold testFault? at passed ⊢
  split at passed
  · cases passed
  · split at passed
    · cases passed
    · rename_i op _
      cases checked : Operand.check op value config l with
      | error fault => simp [under, checked] at passed
      | ok =>
          have again := Operand.check_looser looser op value config _ checked
          simp [under, again]

theorem leafFault?_looser (looser : l.Within l') {p : Predicate}
    (passed : (v.under l).leafFault? p = none) : (v.under l').leafFault? p = none := by
  cases p with
  | raw | custom => exact passed
  | relation relation field operator value =>
      cases filled : given? field with
      | none => simp [leafFault?, filled] at passed
      | some name =>
          cases allowed : v.allows relation with
          | false => simp [leafFault?, filled, allowed] at passed
          | true =>
              cases known : (v.fields.get? relation).any fun c => c.kind.isReference with
              | false => simp [leafFault?, filled, allowed, known] at passed
              | true =>
                  rw [leafFault?_relation (v := v.under l) filled allowed known,
                    Option.map_eq_none_iff] at passed
                  rw [leafFault?_relation (v := v.under l') filled allowed known,
                    Option.map_eq_none_iff]
                  exact testFault?_looser looser passed
  | field field operator value =>
      cases filled : given? field with
      | none => simp [leafFault?, filled] at passed
      | some name =>
          cases allowed : v.allows name with
          | false => simp [leafFault?, filled, allowed] at passed
          | true =>
              cases known : v.fields.get? name with
              | none => simp [leafFault?, filled, allowed, known] at passed
              | some config =>
                  rw [leafFault?_field (v := v.under l) filled allowed known,
                    Option.map_eq_none_iff] at passed
                  rw [leafFault?_field (v := v.under l') filled allowed known,
                    Option.map_eq_none_iff]
                  exact testFault?_looser looser passed

end

theorem groupFault?_looser (looser : l.Within l') {tag : Option String} {size : Nat}
    (passed : (v.under l).groupFault? tag size = none) :
    (v.under l').groupFault? tag size = none := by
  unfold groupFault? at passed ⊢
  split at passed
  · cases passed
  · rename_i fits
    have still : ¬ (v.under l').limits.maxConditionsPerGroup < size :=
      mt (Nat.lt_of_le_of_lt looser.conditions) fits
    rw [if_neg still]
    exact passed

theorem findingsIn_looser [PatternEngine] (looser : l.Within l') {depth : Nat}
    {forest : List Condition} (passed : (v.under l).findingsIn depth forest = []) :
    (v.under l').findingsIn depth forest = [] := by
  induction forest using Condition.forest_induction generalizing depth with
  | nil => rfl
  | leaf clause rest ih =>
      rw [findingsIn, List.append_eq_nil_iff] at passed ⊢
      obtain ⟨here, beside⟩ := passed
      refine ⟨?_, ih beside⟩
      have fits := Nat.le_trans (depth_of_findings_eq_nil here) looser.depth
      rw [findings_leaf fits, leafFault?_looser looser (findings_leaf_eq_nil here)]
      rfl
  | group clause children rest ihc ihr =>
      rw [findingsIn, List.append_eq_nil_iff] at passed ⊢
      obtain ⟨here, beside⟩ := passed
      refine ⟨?_, ihr beside⟩
      have fits := Nat.le_trans (depth_of_findings_eq_nil here) looser.depth
      obtain ⟨faultless, below⟩ := findings_group_eq_nil here
      rw [findings_group fits, groupFault?_looser looser faultless, ihc below, ite_self]
      rfl

end Validator

namespace Constraint

/-- An operand that gives a constraint gives it under looser limits. -/
theorem ofOperand_looser [PatternEngine] (looser : l.Within l') (id : String) (op : Operator)
    (v : Json) (dialect : Dialect) :
    Extends (ofOperand id op v dialect l) (ofOperand id op v dialect l') := by
  have listed : Extends (operandList id op l v) (operandList id op l' v) := by
    unfold operandList
    -- A list and a scalar, which is a list of one, meet the same two guards.
    cases v
    all_goals
      dsimp only
      split
      · exact .refl _
      · exact .guard (Nat.lt_of_le_of_lt looser.values) (.refl _)
  cases op with
  | isIn => exact listed.map isIn
  | notIn => exact listed.map notIn
  | _ => exact .refl _

theorem ofOperator_looser [PatternEngine] (looser : l.Within l') (id : String) (op : Operator)
    (value : Option Json) (dialect : Dialect) :
    Extends (ofOperator id op value dialect l) (ofOperator id op value dialect l') := by
  unfold ofOperator
  split
  · exact ofOperand_looser looser id op .null dialect
  · split
    · exact .refl _
    · exact .guard (Nat.lt_of_le_of_lt looser.text) (ofOperand_looser looser id op _ dialect)

end Constraint

/-- A search that is short enough is built under looser limits in the same way. -/
theorem GlobalSearch.build_looser (looser : l.Within l') (schema : Schema) (search : String)
    (fields : Option (List String)) :
    Extends (build schema search fields l) (build schema search fields l') := by
  unfold build
  dsimp only
  split
  · exact .refl _
  · exact .guard (Nat.lt_of_le_of_lt looser.text) (.refl _)

namespace Compiler

variable {k : Compiler}

/-- The same compiler under other limits. -/
def under (k : Compiler) (l : Limits) : Compiler :=
  { k with config := { k.config with limits := l } }

theorem constraint_looser [PatternEngine] (looser : l.Within l') (id : String) (tag : Option String)
    (value : Option Json) :
    Extends ((k.under l).constraint id tag value) ((k.under l').constraint id tag value) :=
  (Extends.refl (operator id tag)).bind fun op =>
    Constraint.ofOperator_looser looser id op value k.config.dialect

theorem criteriaOfPredicate_looser [PatternEngine] (looser : l.Within l') (id : String)
    (p : Predicate) :
    Extends ((k.under l).criteriaOfPredicate id p) ((k.under l').criteriaOfPredicate id p) := by
  cases p with
  | raw | custom => exact .refl _
  | relation relation field tag value =>
      refine (Extends.refl (named id field .relationFieldRequired)).bind fun name => ?_
      exact (constraint_looser looser id tag value).bind fun test => .refl _
  | field field tag value =>
      refine (Extends.refl (named id field .fieldRequired)).bind fun name => ?_
      exact (constraint_looser looser id tag value).bind fun test => .refl _

theorem checkGroupSize_looser (looser : l.Within l') (id : String) (count : Nat) :
    Extends ((k.under l).checkGroupSize id count) ((k.under l').checkGroupSize id count) :=
  .guard (Nat.lt_of_le_of_lt looser.conditions) (.refl _)

theorem criteriaOfAll_looser [PatternEngine] (looser : l.Within l') (depth : Nat)
    (forest : List Condition) :
    Extends ((k.under l).criteriaOfAll depth forest) ((k.under l').criteriaOfAll depth forest) := by
  induction forest using Condition.forest_induction generalizing depth with
  | nil => exact .refl _
  | leaf clause rest ih =>
      rw [criteriaOfAll, criteriaOfAll, criteriaOfNode, criteriaOfNode]
      refine Extends.bind ?_ fun part => (ih depth).bind fun others => .refl _
      exact .guard (Nat.lt_of_le_of_lt looser.depth)
        (criteriaOfPredicate_looser looser clause.id clause.predicate)
  | group clause children rest ihc ihr =>
      rw [criteriaOfAll, criteriaOfAll, criteriaOfNode, criteriaOfNode]
      refine Extends.bind ?_ fun part => (ihr depth).bind fun others => .refl _
      refine .guard (Nat.lt_of_le_of_lt looser.depth) ?_
      refine (Extends.refl (groupLogic clause.id clause.logic)).bind fun logic => ?_
      refine (checkGroupSize_looser looser clause.id children.length).bind fun _ => ?_
      exact (ihc (depth + 1)).bind fun parts => .refl _

theorem criteriaOfForest_looser [PatternEngine] (looser : l.Within l') (forest : List Condition)
    (logic : Logic) : Extends ((k.under l).criteriaOfForest forest logic)
      ((k.under l').criteriaOfForest forest logic) :=
  (checkGroupSize_looser looser rootId forest.length).bind fun _ =>
    (criteriaOfAll_looser looser 0 forest).bind fun _ => .refl _

theorem searchFragment_looser (looser : l.Within l') (p : PageRequest) :
    Extends ((k.under l).searchFragment p) ((k.under l').searchFragment p) := by
  unfold searchFragment
  split
  · exact .refl _
  · exact GlobalSearch.build_looser looser k.schema _ p.searchFields

end Compiler

/-- Looser limits refuse nothing that passed before, and change no criteria. -/
theorem passes_under_looser [PatternEngine] (looser : l.Within l') :
    (∀ (v : Validator) forest log, ((v.under l).validate forest log).1.valid = true →
      ∀ log', ((v.under l').validate forest log').1.valid = true) ∧
    ∀ (k : Compiler) p c, (k.under l).criteriaOfRequest p = .ok c →
      (k.under l').criteriaOfRequest p = .ok c := by
  constructor
  · intro v forest log valid log'
    rw [Validator.validate_valid_iff] at valid ⊢
    exact Validator.findingsIn_looser looser valid
  · intro k p c compiled
    obtain ⟨filters, fragment, forest, search, rfl⟩ := Compiler.criteriaOfRequest_eq_ok.mp compiled
    exact Compiler.criteriaOfRequest_eq_ok.mpr
      ⟨filters, fragment, Compiler.criteriaOfForest_looser looser p.filters .and filters forest,
        Compiler.searchFragment_looser looser p fragment search, rfl⟩

/-- A filter that meets tight ceilings, at each of them exactly. -/
theorem passes_under_looser_tight :
    let l : Limits :=
      { maxDepth := 1, maxInValues := 1, maxConditionsPerGroup := 1, maxStringLength := 1 }
    let v : Validator := { fields := .ofList [("name", {})] }
    let k : Compiler := { schema := { name := "User", fields := v.fields } }
    let forest : List Condition := [.group { id := "g", logic := some "NOT" }
      [.leaf { id := "a", field := some "name", operator := some "in",
               value := some (.array [.string "x"]) }]]
    let request : PageRequest := { filters := forest, globalSearch := some "y" }
    let criteria : Criteria := .allOf
      [.complement (.field "name" (.isIn [.string "x"])), .field "name" (.contains "y")]
    l.Within {} ∧ ((v.under l).validate forest []).1.valid = true ∧
      ((v.under {}).validate forest []).1.valid = true ∧
      (k.under l).criteriaOfRequest request = .ok criteria ∧
      (k.under {}).criteriaOfRequest request = .ok criteria := by
  intro l v k forest request criteria
  have looser : l.Within {} := by constructor <;> decide
  have valid : ((v.under l).validate forest []).1.valid = true :=
    Validator.validate_valid_iff.mpr rfl
  have compiled : (k.under l).criteriaOfRequest request = .ok criteria := rfl
  exact ⟨looser, valid, (passes_under_looser looser).1 v forest [] valid [], compiled,
    (passes_under_looser looser).2 k request criteria compiled⟩

end RowFilter
