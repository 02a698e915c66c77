import RowFilter.Migration.Migrator
import RowFilter.Proofs.Validation.Acceptance

/-! # What a lenient validation forgives

A stored filter may test fields and relations that the catalogue no longer has; unless validation
is strict, these faults are forgiven. A forest with no other faults has been looked at down to its
last leaf, since all that keeps the validator from going on is a fault of another kind. So nothing
is forgiven besides what the findings say, and whatever a leaf tests is among the allowed names:
that is asked before the catalogue is.
-/

namespace RowFilter

namespace Predicate

/-- The name of the field or the relation that a test is about. -/
def subject? : Predicate → Option String
  | .field name _ _ => name
  | .relation name _ _ _ => some name
  | .raw .. | .custom .. => none

/-- Whether the field or the relation that a test is about is in the catalogue. -/
def isKnown (fields : Fields) : Predicate → Bool
  | .field name _ _ => name.any fields.contains
  | .relation name _ _ _ => (fields.get? name).any fun c => c.kind.isReference
  | .raw .. | .custom .. => true

end Predicate

namespace Validator

variable {v : Validator}

theorem code_of_testFault? [PatternEngine] {operator : Option String} {value : Option Json}
    {config : Option FieldConfig} {fault : Fault}
    (found : v.testFault? operator value config = some fault) : fault.code ≠ .unknownField := by
  rcases testFault?_eq_some found with rfl | ⟨_, _, rfl⟩ | ⟨_, _, _, _, rfl⟩ <;> simp [Fault.code]

theorem code_of_groupFault? {tag : Option String} {size : Nat} {fault : Fault}
    (found : v.groupFault? tag size = some fault) : fault.code ≠ .unknownField := by
  rcases groupFault?_eq_some found with rfl | ⟨_, rfl⟩ | rfl <;> simp [Fault.code]

theorem code_of_rawFault? {text : String} {params : Option (List Json)} {fault : Fault}
    (found : rawFault? text params = some fault) : fault.code ≠ .unknownField := by
  rcases rawFault?_eq_some found with ⟨_, rfl⟩ | ⟨_, _, rfl⟩ <;> simp [Fault.code]

theorem code_of_customFault? {handler : String} {value : Option Json} {fault : Fault}
    (found : v.customFault? handler value = some fault) : fault.code ≠ .unknownField := by
  obtain ⟨_, rfl⟩ := customFault?_eq_some found
  simp [Fault.code]

/-- The faults of a forest, in document order. -/
def faultsIn [PatternEngine] (v : Validator) (depth : Nat) (forest : List Condition) : List Fault :=
  (v.findingsIn depth forest).map Finding.fault

/-- The fault of a predicate, wherever it is reported. -/
def faultOf? [PatternEngine] (v : Validator) (p : Predicate) : Option Fault :=
    (v.leafFault? p).map Prod.snd

/-- Faults that a lenient validation forgives. -/
def Forgivable (faults : List Fault) : Prop := ∀ fault ∈ faults, fault.code = .unknownField

/-- There is no fault where one would have to be of two kinds. -/
private theorem eq_none_of_code {fault? : Option Fault}
    (hard : ∀ fault, fault? = some fault → fault.code ≠ .unknownField)
    (soft : ∀ fault, fault? = some fault → fault.code = .unknownField) : fault? = none :=
  Option.eq_none_iff_forall_ne_some.mpr fun fault found => hard fault found (soft fault found)

theorem faultsIn_cons [PatternEngine] (v : Validator) (depth : Nat) (c : Condition)
    (rest : List Condition) : v.faultsIn depth (c :: rest) =
      (v.findings depth c).map Finding.fault ++ v.faultsIn depth rest := by
  rw [faultsIn, findingsIn, List.map_append, ← faultsIn]

theorem forgivable_append {before after : List Fault} :
    Forgivable (before ++ after) ↔ Forgivable before ∧ Forgivable after :=
  List.forall_mem_append

variable [PatternEngine]

/-- A tree with forgivable faults only is not too deep. -/
theorem depth_of_forgivable {depth : Nat} {c : Condition}
    (forgivable : Forgivable ((v.findings depth c).map Finding.fault)) :
    depth ≤ v.limits.maxDepth := by
  refine Nat.not_lt.mp fun beyond => ?_
  rw [findings_tooDeep beyond] at forgivable
  cases forgivable _ (List.mem_singleton.mpr rfl)

/-- A leaf whose fault, if any, is forgivable is about an allowed name, and it is faultless exactly
if that name is known. -/
theorem leaf_of_forgivable {p : Predicate} (forgivable : Forgivable (v.faultOf? p).toList) :
    (∀ name ∈ p.subject?, v.allows name = true) ∧
      (v.leafFault? p = none ↔ p.isKnown v.fields = true) := by
  have soft (fault) (found : v.faultOf? p = some fault) : fault.code = .unknownField :=
    forgivable fault (by simp [found])
  cases p with
  | raw text params =>
      have absent : rawFault? text params = none :=
        eq_none_of_code (fun _ => code_of_rawFault?) fun fault found =>
          soft fault (by simp [faultOf?, leafFault?, found])
      simp [Predicate.subject?, Predicate.isKnown, leafFault?, absent]
  | custom handler tag value params =>
      have absent : v.customFault? handler value = none :=
        eq_none_of_code (fun _ => code_of_customFault?) fun fault found =>
          soft fault (by simp [faultOf?, leafFault?, found])
      simp [Predicate.subject?, Predicate.isKnown, leafFault?, absent]
  | relation relation field tag value =>
      cases filled : given? field with
      | none => cases soft .relationFieldRequired (by simp [faultOf?, leafFault?, filled])
      | some name =>
          cases allowed : v.allows relation with
          | false =>
              cases soft (.notAllowed relation) (by simp [faultOf?, leafFault?, filled, allowed])
          | true =>
              refine ⟨by simpa [Predicate.subject?] using allowed, ?_⟩
              cases known : (v.fields.get? relation).any fun c => c.kind.isReference with
              | false => simp [leafFault?, filled, allowed, Predicate.isKnown, known]
              | true =>
                  have absent : v.testFault? tag value none = none :=
                    eq_none_of_code (fun _ => code_of_testFault?) fun fault found =>
                      soft fault (by simp [faultOf?, leafFault?, filled, allowed, known, found])
                  simp [leafFault?, filled, allowed, Predicate.isKnown, known, absent]
  | field field tag value =>
      cases filled : given? field with
      | none => cases soft .fieldRequired (by simp [faultOf?, leafFault?, filled])
      | some name =>
          obtain ⟨rfl, _⟩ := given?_eq_some.mp filled
          cases allowed : v.allows name with
          | false =>
              cases soft (.notAllowed name) (by simp [faultOf?, leafFault?, filled, allowed])
          | true =>
              refine ⟨by simpa [Predicate.subject?] using allowed, ?_⟩
              cases known : v.fields.get? name with
              | none =>
                  simp [leafFault?, filled, allowed, Predicate.isKnown, NameMap.contains, known]
              | some config =>
                  have absent : v.testFault? tag value (some config) = none :=
                    eq_none_of_code (fun _ => code_of_testFault?) fun fault found =>
                      soft fault (by simp [faultOf?, leafFault?, filled, allowed, known, found])
                  simp [leafFault?, filled, allowed, Predicate.isKnown, NameMap.contains, known,
                    absent]

/-- Where all faults are forgivable every leaf has been looked at, and the faults are theirs. -/
theorem faultsIn_of_forgivable {depth : Nat} {forest : List Condition}
    (forgivable : Forgivable (v.faultsIn depth forest)) :
    v.faultsIn depth forest = (Condition.predicates forest).filterMap v.faultOf? := by
  induction forest using Condition.forest_induction generalizing depth with
  | nil => rw [Condition.predicates_nil]; rfl
  | leaf clause rest ih =>
      rw [faultsIn_cons, forgivable_append] at forgivable
      obtain ⟨here, beside⟩ := forgivable
      rw [faultsIn_cons, ih beside, Condition.predicates_leaf_cons,
        findings_leaf (depth_of_forgivable here)]
      cases found : v.leafFault? clause.predicate <;> simp [faultOf?, found]
  | group clause children rest ihc ihr =>
      rw [faultsIn_cons, forgivable_append] at forgivable
      obtain ⟨here, beside⟩ := forgivable
      -- Only a fault of the group itself could have kept the validator from its children.
      have faultless : v.groupFault? clause.logic children.length = none := by
        refine eq_none_of_code (fun _ => code_of_groupFault?) fun fault found => ?_
        exact here fault (by simp [findings_group (depth_of_forgivable here), found])
      have opened :
          v.findings depth (.group clause children) = v.findingsIn (depth + 1) children := by
        rw [findings_group (depth_of_forgivable here), faultless,
          if_pos (groupFault?_eq_none clause.id faultless).1]
        rfl
      rw [opened] at here
      rw [faultsIn_cons, ihr beside, Condition.predicates_group_cons, List.filterMap_append, opened,
        ← ihc here, faultsIn]

theorem forgivable_leaf {depth : Nat} {forest : List Condition}
    (forgivable : Forgivable (v.faultsIn depth forest)) {p : Predicate}
    (stands : p ∈ Condition.predicates forest) : Forgivable (v.faultOf? p).toList := by
  intro fault found
  apply forgivable
  rw [faultsIn_of_forgivable forgivable]
  exact List.mem_filterMap.mpr ⟨p, stands, Option.mem_toList.mp found⟩

/-- In a forest with forgivable faults only, every leaf is about an allowed name. -/
theorem allows_of_forgivable {depth : Nat} {forest : List Condition}
    (forgivable : Forgivable (v.faultsIn depth forest)) :
    ∀ p ∈ Condition.predicates forest, ∀ name ∈ p.subject?, v.allows name = true :=
  fun _ stands => (leaf_of_forgivable (forgivable_leaf forgivable stands)).1

/-- A forest with forgivable faults only has none exactly if everything that it tests is known. -/
theorem findingsIn_eq_nil_of_forgivable {depth : Nat} {forest : List Condition}
    (forgivable : Forgivable (v.faultsIn depth forest)) :
    v.findingsIn depth forest = [] ↔
      ∀ p ∈ Condition.predicates forest, p.isKnown v.fields = true := by
  have leaves : v.findingsIn depth forest = [] ↔
      ∀ p ∈ Condition.predicates forest, v.faultOf? p = none := by
    rw [← List.map_eq_nil_iff (f := Finding.fault), ← faultsIn, faultsIn_of_forgivable forgivable,
      List.filterMap_eq_nil_iff]
  rw [leaves]
  refine forall_congr' fun p => forall_congr' fun stands => ?_
  rw [faultOf?, Option.map_eq_none_iff]
  exact (leaf_of_forgivable (forgivable_leaf forgivable stands)).2

/-- Where there are no findings there is nothing to forgive. -/
theorem forgivable_of_findingsIn_eq_nil {depth : Nat} {forest : List Condition}
    (faultless : v.findingsIn depth forest = []) : Forgivable (v.faultsIn depth forest) := by
  rw [faultsIn, faultless]
  exact List.forall_mem_nil _

/-- Where there are no findings every leaf has been looked at, and none has a fault. -/
theorem leafFault?_of_findingsIn_eq_nil {depth : Nat} {forest : List Condition}
    (faultless : v.findingsIn depth forest = []) :
    ∀ p ∈ Condition.predicates forest, v.leafFault? p = none := by
  intro p stands
  have none_left : (Condition.predicates forest).filterMap v.faultOf? = [] := by
    rw [← faultsIn_of_forgivable (forgivable_of_findingsIn_eq_nil faultless), faultsIn, faultless,
      List.map_nil]
  exact Option.map_eq_none_iff.mp (List.filterMap_eq_nil_iff.mp none_left p stands)

/-- The errors of a validation are those that leniency forgives where the faults are. -/
theorem errors_forgivable_iff {forest : List Condition} {log : List SecurityEvent} :
    (∀ e ∈ (v.validate forest log).1.errors, e.code = .unknownField) ↔
      Forgivable (v.faultsIn 0 forest) := by
  rw [validate_eq, Validation.ofParts, List.forall_mem_map, Forgivable, faultsIn,
    List.forall_mem_map]
  rfl

end Validator

namespace Migrator

/-- What is left after the errors about unknown fields are taken out is valid exactly if there
were no others. -/
theorem demoteUnknownFields_valid {v : Validation} :
    (demoteUnknownFields v).1.valid = true ↔ ∀ e ∈ v.errors, e.code = .unknownField := by
  simp [demoteUnknownFields, Validation.ofParts, List.partition_eq_filter_filter]

end Migrator

end RowFilter
