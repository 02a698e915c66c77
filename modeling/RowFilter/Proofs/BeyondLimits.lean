import RowFilter.Pattern.Matching
import RowFilter.Proofs.Compilation.Inversion
import RowFilter.Proofs.Validation.Events

/-! # What lies beyond the limits

Of a node that is too deep, the validator and the compiler take the id and nothing else, and of a
group that is too large its clause and the number of its children. So two forests that differ in
nothing but what such nodes contain cannot be told apart: not by the errors and events of a
validation, not by what it logs, and not by the outcome of a compilation. What is hidden may be of
any size and shape, since neither walk goes there.
-/

namespace RowFilter

namespace Condition

/-- Forests, all of whose trees stand at one depth, that differ only where the limits keep readers
from looking. -/
inductive SameWithin (l : Limits) : Nat → List Condition → List Condition → Prop where
  | nil (depth : Nat) : SameWithin l depth [] []
  /-- Nodes that are too deep, with one id. -/
  | tooDeep {depth : Nat} {c c' : Condition} {rest rest' : List Condition} :
    l.maxDepth < depth → c.id = c'.id → SameWithin l depth rest rest' →
    SameWithin l depth (c :: rest) (c' :: rest')
  /-- Groups that are too large, with one clause and as many children. -/
  | tooLarge {depth : Nat} (clause : Clause) {children children' rest rest' : List Condition} :
    l.maxConditionsPerGroup < children.length → children'.length = children.length →
    SameWithin l depth rest rest' →
    SameWithin l depth (group clause children :: rest) (group clause children' :: rest')
  | leaf {depth : Nat} (clause : Clause) {rest rest' : List Condition} :
    SameWithin l depth rest rest' →
    SameWithin l depth (leaf clause :: rest) (leaf clause :: rest')
  | group {depth : Nat} (clause : Clause) {children children' rest rest' : List Condition} :
    SameWithin l (depth + 1) children children' → SameWithin l depth rest rest' →
    SameWithin l depth (group clause children :: rest) (group clause children' :: rest')

theorem SameWithin.length_eq {l : Limits} {depth : Nat} {forest forest' : List Condition}
    (same : SameWithin l depth forest forest') : forest'.length = forest.length := by
  induction same with
  | nil => rfl
  | tooDeep _ _ _ ih => simp only [List.length_cons, ih]
  | tooLarge _ _ _ _ ih => simp only [List.length_cons, ih]
  | leaf _ _ ih => simp only [List.length_cons, ih]
  | group _ _ _ _ ih => simp only [List.length_cons, ih]

end Condition

open Condition

namespace Validator

variable [PatternEngine] {v : Validator}

/-- A group is judged by its clause, the number of its children and, if there are not too many of
them, by what is found on the children. -/
theorem findings_group_congr {depth : Nat} (clause : Clause) {children children' : List Condition}
    (size : children'.length = children.length)
    (below : children.length ≤ v.limits.maxConditionsPerGroup →
      v.findingsIn (depth + 1) children = v.findingsIn (depth + 1) children') :
    v.findings depth (.group clause children) = v.findings depth (.group clause children') := by
  by_cases beyond : v.limits.maxDepth < depth
  · rw [findings_tooDeep beyond, findings_tooDeep beyond]
    rfl
  · have fits := Nat.not_lt.mp beyond
    rw [findings_group fits, findings_group fits, size]
    split
    · rename_i count
      rw [below count]
    · rfl

/-- The validator finds the same in forests that differ beyond its limits only. -/
theorem findingsIn_sameWithin {depth : Nat} {forest forest' : List Condition}
    (same : SameWithin v.limits depth forest forest') :
    v.findingsIn depth forest = v.findingsIn depth forest' := by
  induction same with
  | nil => rfl
  | tooDeep beyond sameId _ ih =>
      rw [findingsIn, findingsIn, findings_tooDeep beyond, findings_tooDeep beyond, sameId, ih]
  | @tooLarge depth clause children children' _ _ large size _ ih =>
      have unseen : v.findings depth (.group clause children) =
          v.findings depth (.group clause children') := by
        apply findings_group_congr clause size
        intro fits
        omega
      rw [findingsIn, findingsIn, unseen, ih]
  | leaf clause _ ih => rw [findingsIn, findingsIn, ih]
  | group clause inner _ ihc ihr =>
      have seen := findings_group_congr (v := v) clause inner.length_eq fun _ => ihc
      rw [findingsIn, findingsIn, seen, ihr]

/-- Findings are all that a validation goes by, for its result and for the log. -/
theorem validate_congr {forest forest' : List Condition}
    (same : v.findingsIn 0 forest = v.findingsIn 0 forest') (log : List SecurityEvent) :
    v.validate forest log = v.validate forest' log := by
  have result : (v.validate forest log).1 = (v.validate forest' log).1 := by
    rw [validate_eq, validate_eq, same]
  apply Prod.ext
  · exact result
  · rw [validate_log_eq, validate_log_eq, result]

end Validator

namespace Compiler

variable [PatternEngine] {k : Compiler}

/-- A group compiles by its clause, the number of its children and, if there are not too many of
them, by what the children compile to. -/
theorem criteriaOfNode_group_congr {depth : Nat} (clause : Clause)
    {children children' : List Condition} (size : children'.length = children.length)
    (below : children.length ≤ k.config.limits.maxConditionsPerGroup →
      k.criteriaOfAll (depth + 1) children = k.criteriaOfAll (depth + 1) children') :
    k.criteriaOfNode depth (.group clause children) =
      k.criteriaOfNode depth (.group clause children') := by
  rw [criteriaOfNode, criteriaOfNode, size]
  split
  · rfl
  · congr 1
    funext logic
    cases checked : k.checkGroupSize clause.id children.length with
    | error e => rfl
    | ok => rw [below (checkGroupSize_eq_ok.mp checked)]

theorem criteriaOfNode_tooDeep {depth : Nat} (beyond : k.config.limits.maxDepth < depth)
    (c : Condition) :
    k.criteriaOfNode depth c = .error (.maxDepthExceeded c.id k.config.limits.maxDepth) := by
  cases c with
  | leaf clause => exact if_pos beyond
  | group clause children => exact if_pos beyond

/-- Forests that differ beyond the limits only compile to the same, or fail with the same error. -/
theorem criteriaOfAll_sameWithin {depth : Nat} {forest forest' : List Condition}
    (same : SameWithin k.config.limits depth forest forest') :
    k.criteriaOfAll depth forest = k.criteriaOfAll depth forest' := by
  induction same with
  | nil => rfl
  | tooDeep beyond sameId _ _ =>
      -- The error names the node, and nothing behind it is compiled.
      rw [criteriaOfAll, criteriaOfAll, criteriaOfNode_tooDeep beyond,
        criteriaOfNode_tooDeep beyond, sameId]
      rfl
  | @tooLarge depth clause children children' _ _ large size _ ih =>
      have unseen : k.criteriaOfNode depth (.group clause children) =
          k.criteriaOfNode depth (.group clause children') := by
        apply criteriaOfNode_group_congr clause size
        intro fits
        omega
      rw [criteriaOfAll, criteriaOfAll, unseen, ih]
  | leaf clause _ ih => rw [criteriaOfAll, criteriaOfAll, ih]
  | group clause inner _ ihc ihr =>
      have seen := criteriaOfNode_group_congr (k := k) clause inner.length_eq fun _ => ihc
      rw [criteriaOfAll, criteriaOfAll, seen, ihr]

theorem criteriaOfForest_sameWithin {forest forest' : List Condition}
    (same : SameWithin k.config.limits 0 forest forest') (logic : Logic) :
    k.criteriaOfForest forest logic = k.criteriaOfForest forest' logic := by
  rw [criteriaOfForest, criteriaOfForest, same.length_eq, criteriaOfAll_sameWithin same]

end Compiler

/-- Neither validation nor compilation tells apart two forests that differ only inside nodes that
are too deep and inside groups that are too large. -/
theorem unseen_beyond_limits [PatternEngine] {l : Limits} {forest forest' : List Condition}
    (same : SameWithin l 0 forest forest') :
    (∀ v : Validator, v.limits = l → ∀ log, v.validate forest log = v.validate forest' log) ∧
    ∀ k : Compiler, k.config.limits = l → ∀ logic,
      k.criteriaOfForest forest logic = k.criteriaOfForest forest' logic := by
  constructor
  · rintro v rfl log
    exact Validator.validate_congr (Validator.findingsIn_sameWithin same) log
  · rintro k rfl logic
    exact Compiler.criteriaOfForest_sameWithin same logic

/-- A dangerous text one level too deep against a tree of groups in its place, beside a group of
three conditions against one of three others. -/
theorem unseen_beyond_limits_hostile :
    let l : Limits := { maxDepth := 0, maxConditionsPerGroup := 2 }
    let v : Validator := { fields := .empty, limits := l }
    let k : Compiler := { schema := { name := "User" }, config := { limits := l } }
    let hostile : Condition := .raw "a" "1; DROP TABLE users" none
    let nested : Condition := .group { id := "a" } [.group {} [hostile], .leaf {}]
    let above (c : Condition) (others : List Condition) : List Condition :=
      [.group { id := "g" } [c], .group { id := "h", logic := some "OR" } others]
    let forest := above hostile [hostile, hostile, hostile]
    let forest' := above nested [nested, .leaf {}, .group {} []]
    let deep : Finding := { conditionId := "a", fault := .tooDeep 0 }
    let large : Finding := { conditionId := "h", fault := .tooManyConditions 3 2 }
    SameWithin l 0 forest forest' ∧
      (v.validate forest' []).1.errors = [deep.error, large.error] ∧
      v.validate forest [] = v.validate forest' [] ∧
      k.criteriaOfForest forest' .and = .error (.maxDepthExceeded "a" 0) ∧
      k.criteriaOfForest forest .and = k.criteriaOfForest forest' .and := by
  intro l v k hostile nested above forest forest' deep large
  have same : SameWithin l 0 forest forest' := by
    apply SameWithin.group
    · exact .tooDeep (by decide) rfl (.nil 1)
    · exact .tooLarge _ (by decide) rfl (.nil 0)
  obtain ⟨validated, compiled⟩ := unseen_beyond_limits same
  refine ⟨same, ?_, validated v rfl [], rfl, compiled k rfl .and⟩
  rw [Validator.validate_eq]
  rfl

end RowFilter
