import RowFilter.Pattern.Matching
import RowFilter.Proofs.Compilation.NormalForm
import RowFilter.Proofs.Sanitizing.Accounting
import RowFilter.Proofs.Validation.Defence

/-! # What sanitizing leaves to find fault with

Sanitizing and validation judge nodes by rules of their own. Where sanitizing takes out both raw
text and what is invalid, and goes no deeper than the validator does, a validation of what is left
can only object to the shape of a group, to a known operator that does not suit its field, and to
operands, which sanitizing never looks at. And without handlers nothing that is left compiles to raw
text.
-/

namespace RowFilter

open Condition

namespace Validator

/-- A finding is about a node of the forest, at the depth where that stands. -/
theorem exists_node_of_findingsIn [PatternEngine] {v : Validator} {depth : Nat}
    {forest : List Condition} {f : Finding} (found : f ∈ v.findingsIn depth forest) :
    ∃ t ∈ nodesFrom depth forest, (v.inspect t.1 t.2).1 = some f := by
  induction forest using forest_induction generalizing depth with
  | nil => cases found
  | leaf clause rest ih =>
      rw [findingsIn, findings, List.mem_append, Option.mem_toList] at found
      rw [nodesFrom_leaf_cons]
      rcases found with here | beside
      · exact ⟨_, List.mem_cons_self, here⟩
      · obtain ⟨t, stands, about⟩ := ih beside
        exact ⟨t, List.mem_cons_of_mem _ stands, about⟩
  | group clause children rest ihc ihr =>
      rw [findingsIn, findings, List.mem_append, List.mem_append, Option.mem_toList] at found
      rw [nodesFrom_group_cons]
      rcases found with (here | below) | beside
      · exact ⟨_, List.mem_cons_self, here⟩
      · split at below
        · obtain ⟨t, stands, about⟩ := ihc below
          exact ⟨t, List.mem_cons_of_mem _ (List.mem_append_left _ stands), about⟩
        · cases below
      · obtain ⟨t, stands, about⟩ := ihr beside
        exact ⟨t, List.mem_cons_of_mem _ (List.mem_append_right _ stands), about⟩

variable {v : Validator} {fault : Fault}

/-- What can be wrong with a test by a known operator: the operator may not suit the kind of field,
and the operand may not suit the operator. -/
theorem testFault?_of_ofTag? [PatternEngine] {tag : String} {op : Operator} {value : Option Json}
    {config : Option FieldConfig} (known : Operator.ofTag? tag = some op)
    (found : v.testFault? (some tag) value config = some fault) :
    (∃ c ∈ config, c.kind.allows op = false ∧ fault = .invalidOperator tag c.kind.tag) ∨
      ∃ refusal, fault = .badOperand refusal := by
  have filled : given? (some tag) = some tag := by
    obtain ⟨_, ⟨⟩, given⟩ := @Compiler.given?_of_ofTag? (some tag) op known
    exact given
  rw [testFault?, filled] at found
  dsimp only at found
  rw [known] at found
  cases config with
  | none =>
      rw [Option.filter_some, Option.all_none, if_pos rfl] at found
      dsimp only at found
      split at found
      · cases found
      · exact .inr ⟨_, (Option.some.inj found).symm⟩
  | some c =>
      rw [Option.filter_some, Option.all_some] at found
      cases suits : c.kind.allows op with
      | false =>
          rw [suits, if_neg Bool.false_ne_true] at found
          exact .inl ⟨c, rfl, suits, (Option.some.inj found).symm⟩
      | true =>
          rw [suits, if_pos rfl] at found
          dsimp only at found
          split at found
          · cases found
          · exact .inr ⟨_, (Option.some.inj found).symm⟩

end Validator

namespace Sanitizer

variable {fields : Fields} {o : SanitizingPolicy} {v : Validator}

theorem ofTag?_of_operatorReason? {tag : Option String} (none : operatorReason? tag = none) :
    ∃ name op, tag = some name ∧ Operator.ofTag? name = some op := by
  cases tag with
  | none => cases none
  | some name =>
      rw [operatorReason?] at none
      split at none
      · rename_i current
        obtain ⟨op, known⟩ := Option.isSome_iff_exists.mp current
        exact ⟨name, op, rfl, known⟩
      · cases none

theorem leafReason?_relation_eq_none {relation : String} {given tag : Option String}
    {value : Option Json} (invalid : o.removeInvalid = true)
    (stays : leafReason? fields o (.relation relation given tag value) = none) :
    ((fields.get? relation).any fun c => c.kind.isReference) = true ∧
      (∃ name, Validator.given? given = some name) ∧ operatorReason? tag = none := by
  rw [leafReason?, invalid] at stays
  split at stays
  · contradiction
  · split at stays
    · cases stays
    · rename_i known
      split at stays
      · cases stays
      · rename_i filled
        refine ⟨by simpa using known, ?_, stays⟩
        cases given with
        | none => exact absurd rfl filled
        | some name =>
            exact ⟨name, Validator.given?_eq_some.mpr ⟨rfl, Bool.eq_false_iff.mpr filled⟩⟩

theorem leafReason?_field_eq_none {given tag : Option String} {value : Option Json}
    (invalid : o.removeInvalid = true)
    (stays : leafReason? fields o (.field given tag value) = none) :
    ∃ name config, Validator.given? given = some name ∧ fields.get? name = some config ∧
      operatorReason? tag = none := by
  rw [leafReason?, invalid] at stays
  split at stays
  · contradiction
  · split at stays
    · cases stays
    · rename_i name filled
      split at stays
      · rename_i known
        obtain ⟨config, found⟩ := Option.isSome_iff_exists.mp known
        exact ⟨name, config, filled, found, stays⟩
      · cases stays

/-- A test of a known field by a known operator that does not suit its kind. -/
def Unsuited (fields : Fields) (p : Predicate) : Prop :=
  ∃ name tag value op config, p = .field (some name) (some tag) value ∧
    Operator.ofTag? tag = some op ∧ fields.get? name = some config ∧ config.kind.allows op = false

/-- What a validator may have against a leaf that sanitizing has nothing against. -/
theorem leafFault?_of_leafReason? [PatternEngine] (invalid : o.removeInvalid = true)
    (raw : o.removeRawSql = true)
    (unrestricted : v.allowed = none) {p : Predicate} (stays : leafReason? v.fields o p = none)
    {field : Option String} {fault : Fault} (found : v.leafFault? p = some (field, fault)) :
    fault.code = .invalidValue ∨ fault.code = .invalidOperator ∧ Unsuited v.fields p := by
  have allows (name : String) : v.allows name = true := by rw [Validator.allows, unrestricted]
  cases p with
  | raw text params =>
      rw [leafReason?, if_pos raw] at stays
      cases stays
  | custom handler tag value params =>
      obtain ⟨_, refused, ⟨⟩⟩ := Option.map_eq_some_iff.mp found
      obtain ⟨reason, rfl⟩ := Validator.customFault?_eq_some refused
      exact .inl rfl
  | relation relation given tag value =>
      obtain ⟨known, ⟨name, filled⟩, tagged⟩ := leafReason?_relation_eq_none invalid stays
      obtain ⟨tag, op, rfl, current⟩ := ofTag?_of_operatorReason? tagged
      simp only [Validator.leafFault?, filled, allows, known, Bool.not_true, Bool.false_eq_true,
        if_false] at found
      obtain ⟨_, tested, ⟨⟩⟩ := Option.map_eq_some_iff.mp found
      rcases Validator.testFault?_of_ofTag? current tested with ⟨_, ⟨⟩, _⟩ | ⟨refusal, rfl⟩
      exact .inl rfl
  | field given tag value =>
      obtain ⟨name, config, filled, known, tagged⟩ := leafReason?_field_eq_none invalid stays
      obtain ⟨tag, op, rfl, current⟩ := ofTag?_of_operatorReason? tagged
      simp only [Validator.leafFault?, filled, allows, known, Bool.not_true, Bool.false_eq_true,
        if_false] at found
      obtain ⟨_, tested, ⟨⟩⟩ := Option.map_eq_some_iff.mp found
      rcases Validator.testFault?_of_ofTag? current tested with
        ⟨_, ⟨⟩, unsuited, rfl⟩ | ⟨refusal, rfl⟩
      · obtain ⟨rfl, _⟩ := Validator.given?_eq_some.mp filled
        exact .inr ⟨rfl, name, tag, value, op, config, rfl, current, known, unsuited⟩
      · exact .inl rfl

/-- A leaf that is left may stay. -/
theorem admits_of_mem {forest : List Condition} {d : Nat} {clause : Clause}
    (stands : (d, .leaf clause) ∈ nodesFrom 0 (sanitize fields o forest).conditions) :
    admits fields o d (.leaf clause) = true := by
  rw [sanitize, conditions_pruneForest] at stands
  rw [← survives_leaf]
  exact survives_restrict stands

/-- The faults of a sanitized forest: of the shape of a group, of an operand, or of a known operator
that does not suit its field. -/
theorem inspect_sanitized [PatternEngine] (invalid : o.removeInvalid = true)
    (raw : o.removeRawSql = true)
    (unrestricted : v.allowed = none) (within : o.maxDepth ≤ v.limits.maxDepth)
    {forest : List Condition} {t : Nat × Condition}
    (stands : t ∈ nodesFrom 0 (sanitize v.fields o forest).conditions) {f : Finding}
    (found : (v.inspect t.1 t.2).1 = some f) :
    f.fault.code ∈ [.tooManyConditions, .invalidLogic, .notRequiresOne, .invalidValue] ∨
      f.fault.code = .invalidOperator ∧ ∃ clause, t.2 = .leaf clause ∧
        clause.id = f.conditionId ∧ Unsuited v.fields clause.predicate := by
  obtain ⟨d, c⟩ := t
  have fits : d ≤ o.maxDepth := by
    rw [sanitize, conditions_pruneForest] at stands
    exact depth_of_survives (survives_restrict stands)
  unfold Validator.inspect at found
  rw [if_neg (Nat.not_lt.mpr (Nat.le_trans fits within))] at found
  cases c with
  | group clause children =>
      obtain ⟨fault, blamed, rfl⟩ := Option.map_eq_some_iff.mp found
      left
      rcases Validator.groupFault?_eq_some blamed with rfl | ⟨_, rfl⟩ | rfl <;> simp [Fault.code]
  | leaf clause =>
      obtain ⟨⟨field, fault⟩, blamed, rfl⟩ := Option.map_eq_some_iff.mp found
      have stays : leafReason? v.fields o clause.predicate = none := by
        have admitted := admits_of_mem stands
        rw [admits, decide_eq_true fits, Bool.true_and] at admitted
        exact Option.isNone_iff_eq_none.mp admitted
      rcases leafFault?_of_leafReason? invalid raw unrestricted stays blamed with
        bad | ⟨code, unsuited⟩
      · left
        simp [bad]
      · exact .inr ⟨code, clause, rfl, rfl, unsuited⟩

/-- An error of a validation of a sanitized forest: about the shape of a group, about an operand, or
about a known operator that does not suit the field that it tests. -/
def Residual (fields : Fields) (forest : List Condition) (e : ValidationError) : Prop :=
  e.code ∈ [.tooManyConditions, .invalidLogic, .notRequiresOne, .invalidValue] ∨
    e.code = .invalidOperator ∧ ∃ clause, leaf clause ∈ nodes forest ∧
      clause.id = e.conditionId ∧ Unsuited fields clause.predicate

theorem residual_sanitized [PatternEngine] (invalid : o.removeInvalid = true)
    (raw : o.removeRawSql = true)
    (unrestricted : v.allowed = none) (within : o.maxDepth ≤ v.limits.maxDepth)
    {forest : List Condition} {log : List SecurityEvent} {e : ValidationError}
    (reported : e ∈ (v.validate (sanitize v.fields o forest).conditions log).1.errors) :
    Residual v.fields (sanitize v.fields o forest).conditions e := by
  obtain ⟨f, found, rfl⟩ := Validator.mem_validate_errors.mp reported
  obtain ⟨⟨d, c⟩, stands, about⟩ := Validator.exists_node_of_findingsIn found
  rcases inspect_sanitized invalid raw unrestricted within stands about with
    shape | ⟨code, clause, rfl, same, unsuited⟩
  · exact .inl shape
  · exact .inr ⟨code, clause, (mem_nodes 0).mpr ⟨d, stands⟩, same, unsuited⟩

/-- No raw text is left. -/
theorem raw_not_mem_sanitized (raw : o.removeRawSql = true) {forest : List Condition}
    {text : String} {params : Option (List Json)} :
    .raw text params ∉ predicates (sanitize fields o forest).conditions := by
  intro given
  obtain ⟨clause, stands, same⟩ := mem_predicates.mp given
  obtain ⟨d, stands⟩ := (mem_nodes 0).mp stands
  have admitted := admits_of_mem stands
  rw [admits, same, leafReason?, if_pos raw, Option.isNone_some, Bool.and_false] at admitted
  cases admitted

/-- Where sanitizing takes out raw text and what is invalid, and goes no deeper than the validator
does, validation of what is left reports residual errors only; and what is left compiles without
raw text where no handlers are registered. -/
theorem sanitized_residue [PatternEngine] (fields : Fields) (o : SanitizingPolicy)
    (forest : List Condition) (invalid : o.removeInvalid = true) (raw : o.removeRawSql = true) :
    let left := (sanitize fields o forest).conditions
    (∀ v : Validator, v.fields = fields → v.allowed = none → o.maxDepth ≤ v.limits.maxDepth →
      ∀ log, ∀ e ∈ (v.validate left log).1.errors, Residual fields left e) ∧
    ∀ k : Compiler, (∀ id, k.registry.get? id = none) → ∀ logic c,
      k.criteriaOfForest left logic = .ok c → c.usesRaw = false := by
  intro left
  constructor
  · rintro v rfl unrestricted within log e reported
    exact residual_sanitized invalid raw unrestricted within reported
  · intro k unregistered logic c compiled
    have unhandled : Unhandled k.registry left := by
      intro p _
      cases p <;> simp [Predicate.isHandled, NameMap.contains, unregistered]
    rw [Bool.eq_false_iff, ne_eq, Compiler.usesRaw_criteriaOfForest unhandled compiled]
    rintro ⟨text, params, given⟩
    exact raw_not_mem_sanitized raw given

/-- Beside raw text and a test of an unknown field, an ordering of texts, which no field of the kind
admits: it is left, reported and compiled. -/
theorem sanitized_residue_unsuited :
    let fields : Fields := .ofList [("name", {})]
    let o : SanitizingPolicy := {}
    let unsuited : Condition := .onField "b" "name" .gt (.string "x")
    let forest : List Condition :=
      [.combining "g" .or [.raw "r" "age = 1" none, unsuited, .withoutOperand "c" "ghost" .isNull]]
    let left := (sanitize fields o forest).conditions
    let v : Validator := { fields }
    let k : Compiler := { schema := { name := "User", fields } }
    let finding : Finding :=
      { conditionId := "b", field := some "name", fault := .invalidOperator "gt" "string" }
    let c : Criteria := .field "name" (.gt (.string "x"))
    o.removeInvalid = true ∧ o.removeRawSql = true ∧ left = [.combining "g" .or [unsuited]] ∧
      v.allowed = none ∧ o.maxDepth ≤ v.limits.maxDepth ∧
      (v.validate left []).1.errors = [finding.error] ∧ Residual fields left finding.error ∧
      (∀ id, k.registry.get? id = none) ∧ k.criteriaOfForest left .and = .ok c ∧
      c.usesRaw = false := by
  intro fields o unsuited forest left v k finding c
  have reported : (v.validate left []).1.errors = [finding.error] := by
    rw [Validator.validate_eq]
    rfl
  have compiled : k.criteriaOfForest left .and = .ok c := rfl
  have unregistered (id : String) : k.registry.get? id = none := rfl
  obtain ⟨judged, plain⟩ := sanitized_residue fields o forest rfl rfl
  refine ⟨rfl, rfl, rfl, rfl, Nat.le_refl 10, reported, ?_, unregistered, compiled,
    plain k unregistered .and c compiled⟩
  apply judged v rfl rfl (Nat.le_refl 10) []
  rw [reported]
  exact List.mem_singleton_self _

end Sanitizer

end RowFilter
