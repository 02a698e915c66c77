import RowFilter.Pattern.Matching
import RowFilter.Proofs.Migration.Convergence
import RowFilter.Proofs.Sanitizing.Accounting

/-! # Sanitizing and former tags

Migration gives a former tag of an operator the current one, while sanitizing knows current tags
only: a test under a former tag goes like one under a tag that never was. So it matters which comes
first. Sanitizing first loses as many predicates as it takes out for a former tag, all of which
would have stayed after the migration; where there are none, the order makes no difference.
-/

namespace RowFilter

open Condition

/-- Whether a node goes for the sake of an operator that is only written in a former way. -/
def RemovalReason.isFormerTag : RemovalReason → Bool
  | .unknownOperator tag => Operator.isFormerTag tag
  | _ => false

theorem RemovalReason.isFormerTag_eq_false {reason : RemovalReason} :
    reason.isFormerTag = false ↔
      ∀ tag, reason = .unknownOperator tag → Operator.isFormerTag tag = false := by
  cases reason <;> simp [isFormerTag]

theorem Operator.isTag_tag (op : Operator) : isTag op.tag = true := by
  cases op <;> decide

theorem Clause.renamed_eq (c : Clause) : c.renamed = { c with operator := c.renamed.operator } := by
  unfold renamed
  split <;> rfl

namespace Sanitizer

variable {fields : Fields} {o : SanitizingPolicy} {depth : Nat} {forest : List Condition}

/-- After renaming nothing is said against an operator that had a former tag. -/
theorem operatorReason?_renamed (c : Clause) :
    operatorReason? c.renamed.operator =
      (operatorReason? c.operator).filter fun reason => !reason.isFormerTag := by
  unfold Clause.renamed Clause.renameNote?
  cases carried : c.operator with
  | none => simp [carried, operatorReason?, Option.filter_some, RemovalReason.isFormerTag]
  | some tag =>
      by_cases current : Operator.isTag tag
      · simp [carried, current, operatorReason?]
      · cases former : Operator.ofFormerTag? tag with
        | none =>
            simp [carried, current, former, operatorReason?, Option.filter_some,
              RemovalReason.isFormerTag, Operator.isFormerTag]
        | some op =>
            simp [current, former, operatorReason?, Option.filter_some, RemovalReason.isFormerTag,
              Operator.isFormerTag, Operator.isTag_tag]

/-- What is said against the rest of a test is said after renaming too. -/
theorem filter_reason {reason : RemovalReason} (other : reason.isFormerTag = false) :
    (some reason).filter (fun reason => !reason.isFormerTag) = some reason := by
  rw [Option.filter_some, other]
  rfl

theorem leafReason?_renamed (c : Clause) :
    leafReason? fields o c.renamed.predicate =
      (leafReason? fields o c.predicate).filter fun reason => !reason.isFormerTag := by
  have mended := operatorReason?_renamed c
  rw [c.renamed_eq]
  unfold Clause.predicate
  cases c.rawText with
  | some text =>
      simp only [leafReason?]
      split
      · exact (filter_reason rfl).symm
      · rfl
  | none =>
      cases c.handler with
      | some handler => rfl
      | none =>
          cases c.relation with
          | some relation =>
              simp only [leafReason?, mended]
              split
              · rfl
              · split
                · exact (filter_reason rfl).symm
                · split
                  · exact (filter_reason rfl).symm
                  · rfl
          | none =>
              simp only [leafReason?, mended]
              split
              · rfl
              · split
                · exact (filter_reason rfl).symm
                · split
                  · rfl
                  · exact (filter_reason rfl).symm

/-- Whether a node goes for a former tag alone. -/
def goesUnrenamed (fields : Fields) (o : SanitizingPolicy) (t : Nat × Condition) : Bool :=
  (reason? fields o t.1 t.2).any RemovalReason.isFormerTag

/-- What renaming wins is what goes for a former tag alone. -/
theorem admits_renamed (depth : Nat) (c : Condition) :
    admits fields o depth (mapClauses Clause.renamed c) =
      (admits fields o depth c || goesUnrenamed fields o (depth, c)) := by
  by_cases beyond : o.maxDepth < depth
  · have refused (c : Condition) : admits fields o depth c = false :=
      Bool.eq_false_iff.mpr fun admitted =>
        absurd (depth_of_admits admitted) (Nat.not_le.mpr beyond)
    rw [refused, refused, goesUnrenamed, reason?_tooDeep beyond]
    rfl
  · have fits := Nat.not_lt.mp beyond
    cases c with
    | leaf clause =>
        rw [mapClauses, admits, admits, goesUnrenamed, reason?_leaf fits, leafReason?_renamed,
          decide_eq_true fits, Bool.true_and, Bool.true_and]
        cases leafReason? fields o clause.predicate with
        | none => rfl
        | some reason => cases former : reason.isFormerTag <;> simp [Option.filter_some, former]
    | group clause children =>
        rw [mapClauses, admits, admits, goesUnrenamed, reason?_group fits]
        split <;> rfl

theorem survives_renamed {c : Condition}
    (none : ∀ t ∈ nodesOf depth c, goesUnrenamed fields o t = false) :
    survives fields o depth (mapClauses Clause.renamed c) = survives fields o depth c := by
  rw [survives, nodesOf_mapClauses, List.any_map, survives, Bool.eq_iff_iff, List.any_eq_true,
    List.any_eq_true]
  refine exists_congr fun t => and_congr_right fun inside => ?_
  rw [Function.comp_apply, admits_renamed, none t inside, Bool.or_false]

/-- Where no node goes for a former tag alone, the forest may be renamed before or after. -/
theorem conditions_sanitize_renameTags
    (none : ∀ t ∈ nodesFrom 0 forest, goesUnrenamed fields o t = false) :
    (sanitize fields o (renameTags forest)).conditions =
      renameTags (sanitize fields o forest).conditions := by
  have same : ∀ t ∈ nodesFrom 0 forest,
      survives fields o t.1 (mapClauses Clause.renamed t.2) = survives fields o t.1 t.2 :=
    fun t stands => survives_renamed fun s inside => none s (nodesOf_subset stands inside)
  rw [sanitize, sanitize, conditions_pruneForest, conditions_pruneForest, renameTags,
    restrict_mapForest, restrict_congr same, ← renameTags]

/-- The number of predicates of a forest is that of its leaves. -/
theorem length_predicates (depth : Nat) (forest : List Condition) :
    (predicates forest).length = (nodesFrom depth forest).countP fun t => t.2.isLeaf := by
  have tested : (fun c : Condition => c.predicate?.isSome) = isLeaf := by
    funext c
    cases c <;> rfl
  rw [predicates, List.length_filterMap_eq_countP, tested, ← map_snd_nodesFrom depth,
    List.countP_map]
  rfl

theorem length_predicates_renameTags (forest : List Condition) :
    (predicates (renameTags forest)).length = (predicates forest).length := by
  rw [length_predicates 0, length_predicates 0, renameTags, nodesFrom_mapForest, List.countP_map]
  congr 1
  funext ⟨depth, c⟩
  cases c <;> rfl

/-- As many predicates are left as may stay. -/
theorem length_predicates_sanitize (fields : Fields) (o : SanitizingPolicy)
    (forest : List Condition) :
    (predicates (sanitize fields o forest).conditions).length =
      (nodesFrom 0 forest).countP fun t => admits fields o t.1 t.2 := by
  rw [length_predicates 0, sanitize, conditions_pruneForest, List.countP_eq_length_filter,
    filter_isLeaf_restrict, ← List.countP_eq_length_filter]

/-- No node goes for a former tag where it is too deep anyway. -/
theorem depth_of_goesUnrenamed {c : Condition}
    (former : goesUnrenamed fields o (depth, c) = true) : depth ≤ o.maxDepth := by
  refine Nat.not_lt.mp fun beyond => ?_
  rw [goesUnrenamed, reason?_tooDeep beyond] at former
  cases former

theorem goesUnrenamed_of_admits {c : Condition} (admitted : admits fields o depth c = true) :
    goesUnrenamed fields o (depth, c) = false := by
  have stays : reason? fields o depth c = none := by
    rw [← Option.isNone_iff_eq_none, reason?_isNone]
    exact survives_of_admits admitted
  rw [goesUnrenamed, stays, Option.any_none]

/-- What goes for a former tag alone is within reach, and recorded. -/
theorem countP_removed (fields : Fields) (o : SanitizingPolicy) (forest : List Condition) :
    (sanitize fields o forest).removed.countP (fun r => r.reason.isFormerTag) =
      (nodesFrom 0 forest).countP (goesUnrenamed fields o) := by
  have recorded : (sanitize fields o forest).removed.Perm (removals fields o 0 forest) :=
    removed_pruneForest (Nat.zero_le _) forest
  rw [recorded.countP_eq, removals, List.countP_filterMap, List.countP_filter]
  refine List.countP_congr ?_
  rintro ⟨d, c⟩ _
  rw [Bool.and_eq_true, decide_eq_true_eq, removal?, Option.map_map, goesUnrenamed]
  cases found : reason? fields o d c with
  | none => simp
  | some reason =>
      refine ⟨And.left, fun former => ⟨former, ?_⟩⟩
      have goes : goesUnrenamed fields o (d, c) = true := by
        rw [goesUnrenamed, found]
        exact former
      exact Nat.le_succ_of_le (depth_of_goesUnrenamed goes)

private theorem countP_or {α : Type} {p q : α → Bool} (disjoint : ∀ a, p a = true → q a = false)
    (l : List α) : l.countP (fun a => p a || q a) = l.countP p + l.countP q := by
  induction l with
  | nil => rfl
  | cons a rest ih =>
      rw [List.countP_cons, List.countP_cons, List.countP_cons, ih]
      cases here : p a with
      | true => simp [disjoint a here]; omega
      | false => cases q a <;> simp; omega

/-- Sanitizing first leaves fewer predicates, by those that go for a former tag alone. -/
theorem length_predicates_lost (fields : Fields) (o : SanitizingPolicy) (forest : List Condition) :
    (predicates (sanitize fields o (renameTags forest)).conditions).length =
      (predicates (renameTags (sanitize fields o forest).conditions)).length +
        (sanitize fields o forest).removed.countP fun r => r.reason.isFormerTag := by
  rw [length_predicates_sanitize, length_predicates_renameTags, length_predicates_sanitize,
    countP_removed, renameTags, nodesFrom_mapForest, List.countP_map,
    ← countP_or fun t => goesUnrenamed_of_admits]
  congr 1
  funext t
  exact admits_renamed t.1 t.2

/-- Sanitizing and migrating a document of the current version give the same in either order
exactly if sanitizing takes nothing out for a former tag. Otherwise sanitizing first loses just as
many predicates, which sanitizing after the migration would have left. -/
theorem sanitize_migrate_agree_iff [PatternEngine] (m : Migrator) (fields : Fields)
    (o : SanitizingPolicy)
    (forest : List Condition) (known : Option Fields) (options : MigrationPolicy)
    (log : List SecurityEvent) :
    let migrated (forest : List Condition) :=
      (m.bringUpToDate ⟨Document.currentVersion, forest⟩ known options log).1.document.conditions
    let once := sanitize fields o forest
    let after := sanitize fields o (migrated forest)
    (migrated once.conditions = after.conditions ↔
        ∀ r ∈ once.removed, ∀ tag, r.reason = .unknownOperator tag →
          Operator.isFormerTag tag = false) ∧
      (predicates after.conditions).length =
        (predicates (migrated once.conditions)).length +
          once.removed.countP fun r => r.reason.isFormerTag := by
  intro migrated once after
  have renames (forest : List Condition) : migrated forest = renameTags forest := by
    have document := (m.bringUpToDate_report ⟨Document.currentVersion, forest⟩ known options log).1
    exact congrArg Document.conditions document
  have lost : (predicates (sanitize fields o (renameTags forest)).conditions).length =
      (predicates (renameTags once.conditions)).length +
        once.removed.countP fun r => r.reason.isFormerTag := length_predicates_lost fields o forest
  have none_lost : (∀ r ∈ once.removed, ∀ tag, r.reason = .unknownOperator tag →
      Operator.isFormerTag tag = false) ↔
        once.removed.countP (fun r => r.reason.isFormerTag) = 0 := by
    simp only [List.countP_eq_zero, Bool.not_eq_true, RemovalReason.isFormerTag_eq_false]
  simp only [after, renames]
  refine ⟨?_, lost⟩
  rw [none_lost]
  constructor
  · intro agree
    have lengths := congrArg (fun forest => (predicates forest).length) agree
    omega
  · intro none
    rw [countP_removed, List.countP_eq_zero] at none
    refine (conditions_sanitize_renameTags fun t stands => ?_).symm
    exact Bool.eq_false_iff.mpr (none t stands)

/-- The one test of a filter, under a former tag: it is left after a migration, and lost before
one. -/
theorem sanitized_before_migration :
    let m : Migrator := {}
    let fields : Fields := .ofList [("name", {})]
    let test (tag : String) : Condition :=
      .leaf { id := "a", field := some "name", operator := some tag, value := some (.string "x") }
    let migrated (forest : List Condition) :=
      (m.bringUpToDate ⟨Document.currentVersion, forest⟩ none {} []).1.document.conditions
    let once := sanitize fields {} [test "equals"]
    once.removed = [⟨"a", .unknownOperator "equals"⟩] ∧
      migrated once.conditions = [] ∧
      (sanitize fields {} (migrated [test "equals"])).conditions = [test "eq"] ∧
      migrated once.conditions ≠ (sanitize fields {} (migrated [test "equals"])).conditions := by
  intro m fields test migrated once
  have lost : migrated once.conditions = [] := rfl
  have left : (sanitize fields {} (migrated [test "equals"])).conditions = [test "eq"] := rfl
  refine ⟨by decide, lost, left, ?_⟩
  rw [lost, left]
  simp

end Sanitizer

end RowFilter
