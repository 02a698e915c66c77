import RowFilter.Pattern.Matching
import RowFilter.Proofs.Compilation.Provenance
import RowFilter.Proofs.Migration.Version1

/-! # Opposite operators

Three operators have an opposite, and each half of a pair is compiled and evaluated by branches of
its own: for values that are missing or null, for records that stand for their `id`, for lists, and
for texts that are read as numbers or truth values. Wherever one value is tested the two branches
give opposite answers, so negating the one operator is the same as using the other. Of several
related records, some may satisfy both.
-/

namespace RowFilter

open Outcome

/-- Operators of which the second asks for the opposite of the first. -/
inductive Operator.Opposite : Operator → Operator → Prop where
  | equality : Opposite .eq .neq
  | membership : Opposite .isIn .notIn
  | absence : Opposite .isNull .isNotNull

namespace Constraint

/-- Constraints of which the second admits what the first does not. -/
inductive Opposite : Constraint → Constraint → Prop where
  | equality (v : Json) : Opposite (.eq v) (.ne v)
  | membership (vs : List Json) : Opposite (.isIn vs) (.notIn vs)
  | absence : Opposite .isNull .isNotNull

section Answers

variable [PatternEngine] {c c' : Constraint}

/-- Both answer for a value and for the absence of one, and never alike. -/
theorem Opposite.holds (opposite : c.Opposite c') (present : Option Json) :
    ∃ b, c.holds present = .ok b ∧ c'.holds present = .ok !b := by
  cases opposite with
  | equality v => cases present <;> exact ⟨_, rfl, rfl⟩
  | membership vs => cases present <;> exact ⟨_, rfl, rfl⟩
  | absence => cases present <;> exact ⟨_, rfl, rfl⟩

theorem Opposite.matchesValue (opposite : c.Opposite c') (v : Option Json) :
    ∃ b, c.matchesValue v = .ok b ∧ c'.matchesValue v = .ok !b :=
  opposite.holds _

/-- What is no list refers to one record or to none. -/
theorem Opposite.matchesRelated (opposite : c.Opposite c') {related : Option Json}
    (single : ∀ records, related ≠ some (.array records)) (field : String) :
    ∃ b, c.matchesRelated related field = .ok b ∧ c'.matchesRelated related field = .ok !b := by
  cases related with
  | none => exact opposite.matchesValue none
  | some v =>
      cases v with
      | array records => exact absurd rfl (single records)
      | object members => exact opposite.matchesValue _
      | null | bool | number | string => exact opposite.matchesValue none

end Answers

/-- Lists are judged by their length, whichever of the two operators they are for. -/
theorem operandList_opposite (id : String) (limits : Limits) (v : Json) :
    Together Eq (operandList id .isIn limits v) (operandList id .notIn limits v) := by
  unfold operandList
  extract_lets vs
  split
  · exact .error _ _
  · split
    · exact .error _ _
    · exact .ok rfl

theorem ofOperand_opposite [PatternEngine] {op op' : Operator} (opposite : op.Opposite op')
    (id : String) (v : Json) (dialect : Dialect) (limits : Limits) :
    Together Opposite (ofOperand id op v dialect limits) (ofOperand id op' v dialect limits) := by
  cases opposite with
  | equality => exact .ok (.equality v)
  | membership =>
      apply (operandList_opposite id limits v).map
      rintro vs _ rfl
      exact .membership vs
  | absence => exact .ok .absence

/-- Opposite operators take the same operands, and give opposite constraints on them. -/
theorem ofOperator_opposite [PatternEngine] {op op' : Operator} (opposite : op.Opposite op')
    (id : String) (value : Option Json) (dialect : Dialect) (limits : Limits) :
    Together Opposite (ofOperator id op value dialect limits)
      (ofOperator id op' value dialect limits) := by
  have needed : op'.needsOperand = op.needsOperand := by cases opposite <;> rfl
  unfold ofOperator
  rw [needed]
  split
  · exact ofOperand_opposite opposite id .null dialect limits
  · split
    · exact .error _ _
    · dsimp only
      split
      · exact .error _ _
      · exact ofOperand_opposite opposite id _ dialect limits

end Constraint

/-- A clause that asks for another comparison of the same things. -/
def Clause.withOperator (c : Clause) (op : Operator) : Clause := { c with operator := some op.tag }

namespace Predicate

def withOperator (op : Operator) : Predicate → Predicate
  | .raw text params => .raw text params
  | .custom handler _ value params => .custom handler (some op.tag) value params
  | .relation related name _ value => .relation related name (some op.tag) value
  | .field name _ value => .field name (some op.tag) value

/-- Whether what a test is about is no list of related records in a row. -/
def IsSingle (row : Row) : Predicate → Prop
  | .relation related _ _ _ => ∀ records, Json.member? row related ≠ some (.array records)
  | .raw .. | .custom .. | .field .. => True

end Predicate

@[simp] theorem Clause.predicate_withOperator (c : Clause) (op : Operator) :
    (c.withOperator op).predicate = c.predicate.withOperator op := by
  obtain ⟨id, logic, field, operator, value, relation, relationField, handler, handlerParams,
    rawText, rawParams⟩ := c
  cases rawText <;> cases handler <;> cases relation <;> rfl

section

variable [PatternEngine]

/-- Criteria that say something, of which each has an answer on the rows in question and never
that of the other. -/
structure Criteria.Opposite (rows : Row → Prop) (c c' : Criteria) : Prop where
  said : c.isEmpty = false
  said' : c'.isEmpty = false
  answers : ∀ row, rows row → ∃ b, c.evaluate row = .ok b ∧ c'.evaluate row = .ok !b

/-- Criteria that say something and have the same answer on the rows in question. -/
structure Criteria.Agree (rows : Row → Prop) (c c' : Criteria) : Prop where
  said : c.isEmpty = false
  said' : c'.isEmpty = false
  answers : ∀ row, rows row → ∃ b, c.evaluate row = .ok b ∧ c'.evaluate row = .ok b

theorem Criteria.evaluate_complement {c : Criteria} {row : Row} {b : Bool}
    (value : c.evaluate row = .ok b) : (complement c).evaluate row = .ok !b := by
  rw [evaluate, value]
  rfl

end

section Agree

variable {rows : Row → Prop} {c c' : Criteria}

/-- Negating the one makes it agree with the other. -/
theorem Criteria.Opposite.complement_agree [PatternEngine] (opposite : Opposite rows c c') :
    Agree rows (complement c) c' := by
  constructor
  · rfl
  · exact opposite.said'
  · intro row inside
    obtain ⟨b, value, value'⟩ := opposite.answers row inside
    exact ⟨!b, evaluate_complement value, value'⟩

theorem Criteria.Agree.complement [PatternEngine] (agree : Agree rows c c') :
    Agree rows (complement c) (complement c') := by
  constructor
  · rfl
  · rfl
  · intro row inside
    obtain ⟨b, value, value'⟩ := agree.answers row inside
    exact ⟨!b, evaluate_complement value, evaluate_complement value'⟩

end Agree

namespace Compiler

open Criteria

variable {k : Compiler}

section

variable [PatternEngine]

theorem constraint_opposite {op op' : Operator} (opposite : op.Opposite op') (id : String)
    (value : Option Json) :
    Together Constraint.Opposite (k.constraint id (some op.tag) value)
      (k.constraint id (some op'.tag) value) := by
  have named (op : Operator) : operator id (some op.tag) = .ok op :=
    operator_eq_ok.mpr (Operator.ofTag?_tag op)
  unfold constraint
  rw [named op, named op']
  exact Constraint.ofOperator_opposite opposite id value _ _

/-- Tests that differ in an operator and its opposite compile together, to opposite criteria. -/
theorem criteriaOfPredicate_opposite {op op' : Operator} (opposite : op.Opposite op')
    (id : String) {p : Predicate} (plain : p.isTest = true) :
    Together (Opposite fun row => p.IsSingle row) (k.criteriaOfPredicate id (p.withOperator op))
      (k.criteriaOfPredicate id (p.withOperator op')) := by
  cases p with
  | raw | custom => cases plain
  | field field tag value =>
      unfold Predicate.withOperator criteriaOfPredicate
      apply Together.after
      intro name
      apply (constraint_opposite opposite id value).bind
      intro c c' opposed
      exact .ok ⟨rfl, rfl, fun row _ => opposed.matchesValue (Json.member? row name)⟩
  | relation related field tag value =>
      unfold Predicate.withOperator criteriaOfPredicate
      apply Together.after
      intro name
      apply (constraint_opposite opposite id value).bind
      intro c c' opposed
      exact .ok ⟨rfl, rfl, fun row single => opposed.matchesRelated single name⟩

/-- A condition by itself under any logic is joined with nothing. -/
theorem criteriaOfForest_singleton (room : 1 ≤ k.config.limits.maxConditionsPerGroup)
    (c : Condition) (logic : Logic) :
    k.criteriaOfForest [c] logic =
      k.criteriaOfCondition c >>= fun part => join rootId logic [part] := by
  unfold criteriaOfForest criteriaOfCondition
  rw [List.length_singleton, checkGroupSize_eq_ok.mpr room, criteriaOfAll, criteriaOfAll]
  cases k.criteriaOfNode 0 c <;> rfl

/-- A group of one leaf, neither of them too deep, under the group's logic. -/
theorem criteriaOfCondition_singleton (deep : 1 ≤ k.config.limits.maxDepth)
    (room : 1 ≤ k.config.limits.maxConditionsPerGroup) {g : Clause} {logic : Logic}
    (given : groupLogic g.id g.logic = .ok logic) (clause : Clause) :
    k.criteriaOfCondition (.group g [.leaf clause]) =
      k.criteriaOfPredicate clause.id clause.predicate >>= fun part =>
        join g.id logic [part] := by
  unfold criteriaOfCondition
  rw [criteriaOfNode, if_neg (Nat.not_lt_zero _), given, List.length_singleton,
    checkGroupSize_eq_ok.mpr room, criteriaOfAll, criteriaOfAll, criteriaOfNode,
    if_neg (Nat.not_lt.mpr deep)]
  cases k.criteriaOfPredicate clause.id clause.predicate <;> rfl

end

/-- One part that says something is joined with nothing, or negated. -/
theorem join_singleton {c : Criteria} (said : c.isEmpty = false) (id : String) (logic : Logic) :
    join id logic [c] = .ok (if logic = .not then .complement c else c) := by
  cases logic <;> simp [join, Criteria.and, Criteria.or, combine, negate, said]

section

variable [PatternEngine]

/-- The negation of a test compiles where the test with the opposite operator does, to criteria that
agree with it. -/
theorem criteriaOfCondition_opposite (deep : 1 ≤ k.config.limits.maxDepth)
    (room : 1 ≤ k.config.limits.maxConditionsPerGroup) {op op' : Operator}
    (opposite : op.Opposite op') {clause : Clause} (test : clause.predicate.isTest = true)
    {g : Clause} (negation : g.logic = some Logic.not.tag) :
    Together (Agree fun row => clause.predicate.IsSingle row)
      (k.criteriaOfCondition (.group g [.leaf (clause.withOperator op)]))
      (k.criteriaOfCondition (.leaf (clause.withOperator op'))) := by
  have given : groupLogic g.id g.logic = .ok .not := by
    rw [negation]
    rfl
  rw [criteriaOfCondition_singleton deep room given, criteriaOfCondition_leaf,
    Clause.predicate_withOperator, Clause.predicate_withOperator,
    ← bind_pure (k.criteriaOfPredicate _ (clause.predicate.withOperator op'))]
  apply (criteriaOfPredicate_opposite opposite clause.id test).bind
  intro c c' opposed
  rw [join_singleton opposed.said]
  exact .ok opposed.complement_agree

/-- Criteria that agree still do under any logic above them. -/
theorem criteriaOfForest_agree (room : 1 ≤ k.config.limits.maxConditionsPerGroup)
    {rows : Row → Prop} {c c' : Condition}
    (agree : Together (Agree rows) (k.criteriaOfCondition c) (k.criteriaOfCondition c'))
    (logic : Logic) :
    Together (Agree rows) (k.criteriaOfForest [c] logic) (k.criteriaOfForest [c'] logic) := by
  rw [criteriaOfForest_singleton room, criteriaOfForest_singleton room]
  apply agree.bind
  intro part part' same
  rw [join_singleton same.said, join_singleton same.said']
  split
  · exact .ok same.complement
  · exact .ok same

/-- The negation of a test and the test with the opposite operator compile under the same
conditions, by themselves and as a forest under any logic, and on every row in which the test is
about no list of related records their criteria have the same answer. -/
theorem opposites_complement (k : Compiler) (deep : 1 ≤ k.config.limits.maxDepth)
    (room : 1 ≤ k.config.limits.maxConditionsPerGroup) {op op' : Operator}
    (opposite : op.Opposite op') (clause : Clause) (test : clause.predicate.isTest = true)
    (g : Clause) (negation : g.logic = some Logic.not.tag) :
    let negated := Condition.group g [.leaf (clause.withOperator op)]
    let direct := Condition.leaf (clause.withOperator op')
    let agree := Together (Agree fun row => clause.predicate.IsSingle row)
    agree (k.criteriaOfCondition negated) (k.criteriaOfCondition direct) ∧
    ∀ logic, agree (k.criteriaOfForest [negated] logic) (k.criteriaOfForest [direct] logic) := by
  intro negated direct agree
  have alone : agree (k.criteriaOfCondition negated) (k.criteriaOfCondition direct) :=
    criteriaOfCondition_opposite deep room opposite test negation
  exact ⟨alone, criteriaOfForest_agree room alone⟩

end

/-- A record without the field that is asked for, under limits that admit one level. -/
theorem opposites_complement_owner :
    let k : Compiler :=
      { schema := { name := "User", fields := .ofList [] },
        config := { limits := { maxDepth := 1, maxConditionsPerGroup := 1 } } }
    let clause : Clause :=
      { relation := some "owner", relationField := some "name", value := some (.string "x") }
    let negated : Criteria := .complement (.relation "owner" "name" (.eq (.string "x")))
    let direct : Criteria := .relation "owner" "name" (.ne (.string "x"))
    let row : Row := [("owner", .object [("id", .string "x")])]
    k.criteriaOfForest [.group { logic := some "NOT" } [.leaf (clause.withOperator .eq)]] .and =
        .ok negated ∧
      k.criteriaOfForest [.leaf (clause.withOperator .neq)] .and = .ok direct ∧
      clause.predicate.IsSingle row ∧
      ∃ b, negated.evaluate row = .ok b ∧ direct.evaluate row = .ok b := by
  intro k clause negated direct row
  have single : clause.predicate.IsSingle row := by
    intro records same
    cases same
  have both := (opposites_complement k (by decide) (by decide) .equality clause rfl
    { logic := some "NOT" } rfl).2 .and
  exact ⟨rfl, rfl, single, (both.related rfl rfl).answers row single⟩

/-- Of several related records one may satisfy a test and another its opposite. -/
example :
    let row : Row := [("tags", .array [.object [("label", .string "x")], .object []])]
    (Criteria.relation "tags" "label" (.eq (.string "x"))).evaluate row = .ok true ∧
      (Criteria.relation "tags" "label" (.ne (.string "x"))).evaluate row = .ok true :=
  ⟨rfl, rfl⟩

end Compiler

end RowFilter
