import RowFilter.Pattern.Matching
import RowFilter.Proofs.Compilation.Inversion
import RowFilter.Proofs.Criteria.Combination
import RowFilter.Proofs.Unicode.Lowercase

/-! # Dialects and the rows that match

The dialect shows in one constraint only: containment in any letter case is left to stores that
can do it, and for the others its operand is put in lower case. Evaluation does that again, and
lower-casing twice is lower-casing once, so no row tells the two apart. Compilation under two
dialects goes in step from there: at each node it fails for the same reason, or gives criteria
that evaluate alike, and the connectives keep that.
-/

namespace RowFilter

open Outcome

namespace Constraint

variable [PatternEngine]

/-- Constraints that no value tells apart. -/
def Interchangeable (c c' : Constraint) : Prop := ∀ v, c.matchesValue v = c'.matchesValue v

theorem Interchangeable.refl (c : Constraint) : c.Interchangeable c := fun _ => rfl

theorem Interchangeable.matchesSome {c c' : Constraint} (h : c.Interchangeable c') (field : String)
    (records : List Json) : c.matchesSome field records = c'.matchesSome field records := by
  induction records with
  | nil => rfl
  | cons record rest ih =>
      cases record with
      | object members => rw [Constraint.matchesSome, Constraint.matchesSome, h, ih]
      | _ => exact ih

theorem Interchangeable.matchesRelated {c c' : Constraint} (h : c.Interchangeable c')
    (related : Option Json) (field : String) :
    c.matchesRelated related field = c'.matchesRelated related field := by
  cases related with
  | none => exact h none
  | some v =>
      cases v with
      | object members => exact h _
      | array records => exact h.matchesSome field records
      | _ => exact h none

theorem Interchangeable.symm {c c' : Constraint} (h : c.Interchangeable c') :
    c'.Interchangeable c := fun v => (h v).symm

/-- Native and emulated containment in any letter case are interchangeable. -/
theorem iContains_interchangeable (needle : String) :
    (iContains needle).Interchangeable (lowerContains (Unicode.toLowercase needle)) := by
  intro v
  have settled : containsLowered (Unicode.toLowercase needle) = containsLowered needle := by
    funext text
    rw [containsLowered, containsLowered, Unicode.toLowercase_toLowercase]
  simp only [matchesValue, Constraint.holds, settled]

theorem ofOperand_alike (id : String) (op : Operator) (v : Json) (d d' : Dialect)
    (limits : Limits) :
    Alike Interchangeable (ofOperand id op v d limits) (ofOperand id op v d' limits) := by
  cases op with
  | ilike =>
      simp only [ofOperand]
      cases operandText id .ilike v with
      | error e => exact .error e
      | ok needle =>
          refine .ok ?_
          split <;> split
          · exact .refl _
          · exact iContains_interchangeable needle
          · exact (iContains_interchangeable needle).symm
          · exact .refl _
  | _ => exact .of_eq .refl _

theorem ofOperator_alike (id : String) (op : Operator) (value : Option Json) (d d' : Dialect)
    (limits : Limits) :
    Alike Interchangeable (ofOperator id op value d limits) (ofOperator id op value d' limits) := by
  unfold ofOperator
  split
  · exact ofOperand_alike id op .null d d' limits
  · split
    · exact .error _
    · dsimp only
      split
      · exact .error _
      · exact ofOperand_alike id op _ d d' limits

end Constraint

namespace Criteria

variable [PatternEngine]

/-- Criteria that no row tells apart, and that a group keeps or drops alike. -/
def Interchangeable (c c' : Criteria) : Prop :=
  c.isEmpty = c'.isEmpty ∧ ∀ row, c.evaluate row = c'.evaluate row

theorem Interchangeable.refl (c : Criteria) : c.Interchangeable c := ⟨rfl, fun _ => rfl⟩

variable {parts parts' : List Criteria}

theorem evaluateAll_interchangeable (h : List.Forall₂ Interchangeable parts parts') (row : Row) :
    evaluateAll row parts = evaluateAll row parts' := by
  induction h with
  | nil => rfl
  | cons same _ ih => rw [evaluateAll, evaluateAll, same.2 row, ih]

theorem evaluateAny_interchangeable (h : List.Forall₂ Interchangeable parts parts') (row : Row) :
    evaluateAny row parts = evaluateAny row parts' := by
  induction h with
  | nil => rfl
  | cons same _ ih => rw [evaluateAny, evaluateAny, same.2 row, ih]

theorem substantive_interchangeable (h : List.Forall₂ Interchangeable parts parts') :
    List.Forall₂ Interchangeable (substantive parts) (substantive parts') := by
  induction h with
  | nil => exact .nil
  | @cons c c' _ _ same _ ih =>
      cases blank : c.isEmpty with
      | true =>
          rw [substantive_cons_of_empty blank, substantive_cons_of_empty (same.1 ▸ blank)]
          exact ih
      | false =>
          rw [substantive_cons_of_said blank, substantive_cons_of_said (same.1 ▸ blank)]
          exact .cons same ih

theorem isEmpty_interchangeable (h : List.Forall₂ Interchangeable parts parts') :
    parts.isEmpty = parts'.isEmpty := by
  cases h <;> rfl

theorem and_interchangeable (h : List.Forall₂ Interchangeable parts parts') :
    (Criteria.and parts).Interchangeable (Criteria.and parts') := by
  constructor
  · rw [Criteria.and, Criteria.and, isEmpty_combine fun _ => rfl, isEmpty_combine fun _ => rfl]
    exact isEmpty_interchangeable (substantive_interchangeable h)
  · intro row
    rw [evaluate_and, evaluate_and, evaluateAll_interchangeable h]

theorem or_interchangeable (h : List.Forall₂ Interchangeable parts parts') :
    (Criteria.or parts).Interchangeable (Criteria.or parts') := by
  constructor
  · rw [Criteria.or, Criteria.or, isEmpty_combine fun _ => rfl, isEmpty_combine fun _ => rfl]
    exact isEmpty_interchangeable (substantive_interchangeable h)
  · intro row
    have kept := substantive_interchangeable h
    rw [evaluate_or, evaluate_or, isEmpty_interchangeable kept, evaluateAny_interchangeable kept]

theorem negate_interchangeable {c c' : Criteria} (h : c.Interchangeable c') :
    (negate c).Interchangeable (negate c') := by
  rw [negate, negate, h.1]
  split
  · exact .refl _
  · refine ⟨rfl, fun row => ?_⟩
    rw [evaluate, evaluate, h.2 row]

theorem join_alike (id : String) (logic : Logic)
    (h : List.Forall₂ Interchangeable parts parts') :
    Alike Interchangeable (Compiler.join id logic parts) (Compiler.join id logic parts') := by
  cases logic with
  | and => exact .ok (and_interchangeable h)
  | or => exact .ok (or_interchangeable h)
  | not =>
      have kept := substantive_interchangeable h
      rw [Compiler.join, Compiler.join, ← substantive, ← substantive]
      generalize substantive parts = left, substantive parts' = right at kept ⊢
      cases kept with
      | nil => exact .ok (.refl _)
      | cons same rest =>
          cases rest with
          | nil => exact .ok (negate_interchangeable same)
          | cons _ others =>
              dsimp only
              rw [List.length_cons, List.length_cons, others.length_eq]
              exact .error _

end Criteria

namespace Compiler

open Criteria

variable {k : Compiler}

/-- The same compiler for another dialect. -/
def speaking (k : Compiler) (d : Dialect) : Compiler :=
  { k with config := { k.config with dialect := d } }

section

variable [PatternEngine]

theorem constraint_alike (d d' : Dialect) (id : String) (tag : Option String)
    (value : Option Json) :
    Alike Constraint.Interchangeable ((k.speaking d).constraint id tag value)
      ((k.speaking d').constraint id tag value) :=
  .after (operator id tag) fun op =>
    Constraint.ofOperator_alike id op value d d' k.config.limits

theorem criteriaOfPredicate_alike (d d' : Dialect) (id : String) {p : Predicate}
    (own : p.isCustom = false) :
    Alike Interchangeable ((k.speaking d).criteriaOfPredicate id p)
      ((k.speaking d').criteriaOfPredicate id p) := by
  cases p with
  | raw => exact .of_eq .refl _
  | custom => cases own
  | relation relation field tag value =>
      refine .after (named id field .relationFieldRequired) fun name => ?_
      refine (constraint_alike d d' id tag value).bind fun test test' same => ?_
      exact .ok ⟨rfl, fun row => same.matchesRelated _ name⟩
  | field field tag value =>
      refine .after (named id field .fieldRequired) fun name => ?_
      refine (constraint_alike d d' id tag value).bind fun test test' same => ?_
      exact .ok ⟨rfl, fun row => same _⟩

theorem criteriaOfAll_cons_alike {d d' : Dialect} {depth : Nat} {c : Condition}
    {rest : List Condition}
    (here : Alike Interchangeable ((k.speaking d).criteriaOfNode depth c)
      ((k.speaking d').criteriaOfNode depth c))
    (beside : Alike (List.Forall₂ Interchangeable) ((k.speaking d).criteriaOfAll depth rest)
      ((k.speaking d').criteriaOfAll depth rest)) :
    Alike (List.Forall₂ Interchangeable) ((k.speaking d).criteriaOfAll depth (c :: rest))
      ((k.speaking d').criteriaOfAll depth (c :: rest)) := by
  rw [criteriaOfAll, criteriaOfAll]
  exact here.bind fun _ _ same => beside.bind fun _ _ remaining => .ok (.cons same remaining)

/-- A forest compiles in step under two dialects, node by node. -/
theorem criteriaOfAll_alike (d d' : Dialect) (depth : Nat) {forest : List Condition}
    (own : ∀ p ∈ Condition.predicates forest, p.isCustom = false) :
    Alike (List.Forall₂ Interchangeable) ((k.speaking d).criteriaOfAll depth forest)
      ((k.speaking d').criteriaOfAll depth forest) := by
  induction forest using Condition.forest_induction generalizing depth with
  | nil => exact .ok .nil
  | leaf clause rest ih =>
      rw [Condition.predicates_leaf_cons, List.forall_mem_cons] at own
      refine criteriaOfAll_cons_alike ?_ (ih depth own.2)
      rw [criteriaOfNode, criteriaOfNode]
      exact (criteriaOfPredicate_alike d d' clause.id own.1).guard _
  | group clause children rest ihc ihr =>
      rw [Condition.predicates_group_cons, List.forall_mem_append] at own
      refine criteriaOfAll_cons_alike ?_ (ihr depth own.2)
      rw [criteriaOfNode, criteriaOfNode]
      refine .guard _ (.after (groupLogic clause.id clause.logic) fun logic => ?_)
      refine .after (k.checkGroupSize clause.id children.length) fun _ => ?_
      exact (ihc (depth + 1) own.1).bind fun _ _ => join_alike clause.id logic

theorem criteriaOfForest_alike (d d' : Dialect) {forest : List Condition}
    (own : ∀ p ∈ Condition.predicates forest, p.isCustom = false) (logic : Logic) :
    Alike Interchangeable ((k.speaking d).criteriaOfForest forest logic)
      ((k.speaking d').criteriaOfForest forest logic) := by
  rw [criteriaOfForest, criteriaOfForest]
  refine .after (k.checkGroupSize rootId forest.length) fun _ => ?_
  exact (criteriaOfAll_alike d d' 0 own).bind fun _ _ => join_alike rootId logic

/-- The dialect has no say in which rows match: a forest without handlers fails under two dialects
with the same error, or gives under both what evaluates alike on every row, errors included. -/
theorem dialects_agree (k : Compiler) (d d' : Dialect) {forest : List Condition}
    (own : ∀ p ∈ Condition.predicates forest, p.isCustom = false) (logic : Logic) :
    (∀ error, (k.speaking d).criteriaOfForest forest logic = .error error ↔
      (k.speaking d').criteriaOfForest forest logic = .error error) ∧
    (∀ c c', (k.speaking d).criteriaOfForest forest logic = .ok c →
      (k.speaking d').criteriaOfForest forest logic = .ok c' →
      ∀ row, c.evaluate row = c'.evaluate row) ∧
    ∀ needle present, (Constraint.iContains needle).matchesValue present =
      (Constraint.lowerContains (Unicode.toLowercase needle)).matchesValue present := by
  have alike := criteriaOfForest_alike (k := k) d d' own logic
  refine ⟨alike.error_iff, fun c c' compiled compiled' => ?_, Constraint.iContains_interchangeable⟩
  exact (alike.related compiled compiled').2

end

/-- A negated test on a list of related records: one store looks for the text as it was given, the
other for its lower case. -/
theorem dialects_agree_negated :
    let k : Compiler := { schema := { name := "User", fields := .ofList [] } }
    let named : Condition := .onRelation "a" "posts" "title" .ilike (.string "Ab")
    let forest : List Condition := [.group { id := "g", logic := some "NOT" } [named]]
    let test (c : Constraint) : Criteria := .complement (.relation "posts" "title" c)
    (∀ p ∈ Condition.predicates forest, p.isCustom = false) ∧
      (k.speaking ⟨"postgres"⟩).criteriaOfForest forest .and =
        .ok (test (.iContains "Ab")) ∧
      (k.speaking ⟨"sqlite"⟩).criteriaOfForest forest .and = .ok (test (.lowerContains "ab")) ∧
      ∀ row, (test (.iContains "Ab")).evaluate row = (test (.lowerContains "ab")).evaluate row := by
  intro k named forest test
  have own : ∀ p ∈ Condition.predicates forest, p.isCustom = false := by
    simp [forest, named, Condition.onRelation, Clause.predicate, Predicate.isCustom]
  have native : (k.speaking ⟨"postgres"⟩).criteriaOfForest forest .and =
      .ok (test (.iContains "Ab")) := rfl
  have emulated : (k.speaking ⟨"sqlite"⟩).criteriaOfForest forest .and =
      .ok (test (.lowerContains "ab")) := rfl
  exact ⟨own, native, emulated, (dialects_agree k _ _ own .and).2.1 _ _ native emulated⟩

end Compiler

end RowFilter
