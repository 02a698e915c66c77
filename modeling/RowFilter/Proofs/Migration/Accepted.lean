import RowFilter.Pattern.Matching
import RowFilter.Proofs.Migration.History
import RowFilter.Proofs.Migration.Version1
import RowFilter.Proofs.Reading
import RowFilter.Proofs.Validation.Leniency

/-! # Migrating accepted filters

Validation and migration look at the same clauses with different eyes. Whatever the validator
accepts as the operator of a test is written as it is today, and an operand that it accepts for a
membership test or a range is an array, so neither form of version 1 is left. Where operators stand
on tests only, the validator has looked at all of them, and migrating an accepted filter, whatever
earlier version it is stamped with, leaves it as it is.
-/

namespace RowFilter

/-- An operator whose operand has to be an array. -/
def Operator.TakesArray (op : Operator) : Prop := op = .isIn ∨ op = .notIn ∨ op = .between

theorem Operand.array_of_check [PatternEngine] {op : Operator} (list : op.TakesArray)
    {value : Option Json} {config : Option FieldConfig} {limits : Limits}
    (passed : check op value config limits = .ok ()) : ∃ items, value = some (.array items) := by
  have needed : op.needsOperand = true := by rcases list with rfl | rfl | rfl <;> rfl
  rcases check_eq_ok.mp passed with unneeded | ⟨v, vs, rfl, _, _, shaped, _⟩
  · cases needed.symm.trans unneeded
  · cases v with
    | array items => exact ⟨items, rfl⟩
    | _ => rcases list with rfl | rfl | rfl <;> cases shaped

namespace Clause

/-- Neither renaming nor the transform from version 1 has anything to say about a clause. -/
structure Settled (c : Clause) : Prop where
  quiet : c.renameNote? = none
  inVersion2 : c.InVersion2

theorem settled_of_no_operator {c : Clause} (absent : c.operator = none) : c.Settled where
  quiet := by simp [renameNote?, absent]
  inVersion2 := by simp [InVersion2, ListsText, NamesRange, absent]

/-- A clause with an operator and an operand that the validator accepts is settled. -/
theorem settled_of_check [PatternEngine] {c : Clause} {op : Operator} {config : Option FieldConfig}
    {limits : Limits} (known : c.operator.bind Operator.ofTag? = some op)
    (passed : Operand.check op c.value config limits = .ok ()) : c.Settled where
  quiet := by
    have written := Operator.bind_ofTag?_eq_some_iff.mp known
    simp [renameNote?, written, Operator.isTag, Operator.ofTag?_tag]
  inVersion2 := by
    have same {op' : Operator} (written : c.operator = some op'.tag) : op = op' :=
      Option.some.inj (known.symm.trans (Operator.bind_ofTag?_eq_some_iff.mpr written))
    have unlisted (list : op.TakesArray) : c.InVersion2 := by
      obtain ⟨items, value⟩ := Operand.array_of_check list passed
      exact inVersion2_of_array value
    constructor
    · intro text listed
      have list : op.TakesArray := listed.1.imp same fun written => .inl (same written)
      exact (unlisted list).1 text listed
    · intro range named
      exact (unlisted (.inr (.inr (same named.1)))).2 range named

/-- A test has the operator and the operand of its clause. -/
theorem predicate_of_isTest {c : Clause} (test : c.predicate.isTest = true) :
    (∃ related, c.predicate = .relation related c.relationField c.operator c.value) ∨
      c.predicate = .field c.field c.operator c.value := by
  unfold predicate at test ⊢
  split at test
  · cases test
  · cases test
  · exact .inl ⟨_, rfl⟩
  · exact .inr rfl

theorem settled_of_testFault? [PatternEngine] {v : Validator} {c : Clause}
    {config : Option FieldConfig}
    (accepted : v.testFault? c.operator c.value config = none) : c.Settled := by
  obtain ⟨tag, op, carried, known, passed⟩ := Validator.testFault?_eq_none accepted
  exact settled_of_check (by rw [carried, Option.bind_some, known]) passed

theorem settled_of_leafFault? [PatternEngine] {v : Validator} {c : Clause}
    (test : c.predicate.isTest = true)
    (accepted : v.leafFault? c.predicate = none) : c.Settled := by
  rcases predicate_of_isTest test with ⟨related, same⟩ | same
  · rw [same] at accepted
    obtain ⟨_, _, _, tested⟩ := Validator.leafFault?_relation_eq_none accepted
    exact settled_of_testFault? tested
  · rw [same] at accepted
    obtain ⟨_, _, _, _, tested⟩ := Validator.leafFault?_field_eq_none accepted
    exact settled_of_testFault? tested

theorem Settled.hasFormerTag {c : Clause} (settled : c.Settled) : c.hasFormerTag = false := by
  rw [Bool.eq_false_iff]
  intro former
  obtain ⟨_, _, noted⟩ := renameNote?_of_hasFormerTag former
  cases settled.quiet.symm.trans noted

end Clause

namespace Condition

/-- Only tests of fields and of related records carry an operator: no group does, no raw text, and
no test that is left to a handler. -/
def OperatorsOnTests (forest : List Condition) : Prop :=
  ∀ c ∈ nodes forest, ∀ tag, c.clause.operator = some tag →
    ∃ clause, c = leaf clause ∧ clause.predicate.isTest = true

/-- Every node of a forest is as version 2 has it. -/
def Settled (forest : List Condition) : Prop := ∀ c ∈ nodes forest, c.clause.Settled

theorem settled_of_accepted [PatternEngine] {v : Validator} {forest : List Condition}
    {log : List SecurityEvent}
    (accepted : (v.validate forest log).1.valid = true) (onTests : OperatorsOnTests forest) :
    Settled forest := by
  intro c inside
  cases carried : c.clause.operator with
  | none => exact Clause.settled_of_no_operator carried
  | some tag =>
      obtain ⟨clause, rfl, test⟩ := onTests c inside tag carried
      have faultless := Validator.validate_valid_iff.mp accepted
      exact Clause.settled_of_leafFault? test
        (Validator.leafFault?_of_findingsIn_eq_nil faultless _
          (mem_predicates.mpr ⟨clause, inside, rfl⟩))

section Settled

variable {forest : List Condition} (settled : Settled forest)

include settled

theorem Settled.free : FreeOfFormerTags forest :=
  freeOfFormerTags_iff.mpr fun c inside => (settled c inside).hasFormerTag

theorem Settled.renameNotes : renameNotes forest = [] :=
  List.filterMap_eq_nil_iff.mpr fun c inside => (settled c inside).quiet

theorem Settled.upgradeFromVersion1 : upgradeFromVersion1 forest = .ok forest := by
  apply upgradeFromVersion1_eq_ok_iff.mpr
  constructor
  · exact fun c inside => (settled c inside).inVersion2.not_lacksEnd
  · exact (mapForest_eq_self fun c inside =>
      Clause.upgraded_eq_self (settled c inside).inVersion2).symm

end Settled

end Condition

/-- The change that is reported where a transform succeeds. -/
def Amendment.applied (version : UInt32) : Amendment :=
  { kind := .structureChanged, description :=
      s!"Applied migration from version {version.toNat} to {version.toNat + 1}" }

namespace TransformRun

/-- A transform that gives its forest back leaves nothing but a change on record. -/
theorem step_of_fixed {r : TransformRun} {version : UInt32} {transform : Option Transform}
    (fixed : ∀ t ∈ transform, t r.conditions = .ok r.conditions) :
    r.step version transform =
      { r with changes := r.changes ++ transform.toList.map fun _ => .applied version } := by
  cases transform with
  | none => simp [step]
  | some t =>
      have same := fixed t rfl
      simp [step, same, Amendment.applied]

end TransformRun

namespace Migrator

variable {m : Migrator} {forest : List Condition}

/-- So does a whole run of such transforms: one change for each version that has one. -/
theorem run_of_fixed (fixed : ∀ version, ∀ t ∈ m.transforms.lookup version, t forest = .ok forest)
    (versions : List UInt32) (changes : List Amendment) (warnings : List String) :
    versions.foldl (fun (r : TransformRun) v => r.step v (m.transforms.lookup v))
        ⟨forest, changes, warnings⟩ =
      ⟨forest, changes ++ (versions.filter m.hasTransform).map Amendment.applied, warnings⟩ := by
  induction versions generalizing changes with
  | nil => simp
  | cons version rest ih =>
      rw [List.foldl_cons, TransformRun.step_of_fixed (r := ⟨forest, changes, warnings⟩)
        (fixed version), ih]
      cases registered : m.transforms.lookup version <;>
        simp [hasTransform, registered]

/-- A migrator with no transform but the one that comes built in. -/
def BuiltIn (m : Migrator) : Prop := m.transforms = [(1, RowFilter.upgradeFromVersion1)]

theorem BuiltIn.lookup (builtIn : m.BuiltIn) (version : UInt32) :
    m.transforms.lookup version =
      if version = 1 then some RowFilter.upgradeFromVersion1 else none := by
  rw [builtIn]
  by_cases first : version = 1
  · simp [first]
  · simp [List.lookup_cons, beq_false_of_ne first, first]

/-- From any earlier version there is one transform on the way. -/
theorem BuiltIn.pending (builtIn : m.BuiltIn) {version : UInt32}
    (earlier : version < Document.currentVersion) :
    (pendingVersions version).filter m.hasTransform = [1] := by
  have only : m.hasTransform = (· == 1) := by
    funext v
    rw [hasTransform, builtIn.lookup]
    split <;> simp [*]
  have few : version = 0 ∨ version = 1 := by
    rw [← UInt32.toNat_inj, ← UInt32.toNat_inj]
    have small : version.toNat < 2 := earlier
    simp only [UInt32.reduceToNat]
    omega
  rw [only]
  rcases few with rfl | rfl <;> rfl

/-- A settled forest stays as it is on the way from any earlier version. -/
theorem BuiltIn.bringForward (builtIn : m.BuiltIn) (settled : Condition.Settled forest)
    {version : UInt32} (earlier : version < Document.currentVersion) (options : MigrationPolicy) :
    m.bringForward options version forest =
      if options.autoMigrate then ⟨forest, [.applied 1], []⟩
      else ⟨forest, [],
        [s!"Automatic migration disabled; version {version.toNat} transforms skipped"]⟩ := by
  have fixed : ∀ version, ∀ t ∈ m.transforms.lookup version, t forest = .ok forest := by
    intro version t found
    rw [builtIn.lookup] at found
    split at found
    · cases found
      exact settled.upgradeFromVersion1
    · cases found
  rw [Migrator.bringForward, if_neg (UInt32.lt_asymm earlier), if_pos earlier]
  split
  · rw [applyTransforms, run_of_fixed fixed, builtIn.pending earlier]
    rfl
  · rfl

/-- A warning of a transform that failed. -/
def FailureWarning (w : String) : Prop :=
  ∃ (version : Nat) (reason : String), w = s!"Migration from version {version} skipped: {reason}"

/-- A text begins as the first part of it does. -/
theorem head?_append_of_some {s : String} {c : Char} (first : s.toList.head? = some c)
    (t : String) : (s ++ t).toList.head? = some c := by
  rw [String.toList_append, List.head?_append, first, Option.some_or]

theorem not_failureWarning {w : String} {c : Char} (first : w.toList.head? = some c)
    (other : c ≠ 'M') : ¬ FailureWarning w := by
  rintro ⟨version, reason, rfl⟩
  have own : (s!"Migration from version {version} skipped: {reason}").toList.head? = some 'M' :=
    head?_append_of_some (head?_append_of_some (head?_append_of_some rfl _) _) _
  exact other (Option.some.inj (first.symm.trans own))

/-- What validation takes out of its errors is about an unknown field or relation. -/
theorem fault_of_demoted [PatternEngine] {fields : Fields} {options : MigrationPolicy}
    {log : List SecurityEvent}
    {w : String} (demoted : w ∈ (m.validateMigrated fields options forest log).1.2) :
    ∃ fault : Fault, fault.code = .unknownField ∧ w = fault.message := by
  change w ∈ (if options.strictValidation then (_, [])
    else demoteUnknownFields ((m.validator fields options).validate forest log).1 :
      Validation × List String).2 at demoted
  split at demoted
  · cases demoted
  · simp only [demoteUnknownFields, List.partition_eq_filter_filter, List.mem_map,
      List.mem_filter, Validator.mem_validate_errors] at demoted
    obtain ⟨_, ⟨⟨finding, _, rfl⟩, unknown⟩, rfl⟩ := demoted
    exact ⟨finding.fault, beq_iff_eq.mp unknown, rfl⟩

/-- Validating a migrated forest warns of no transform. -/
theorem not_failureWarning_of_validation [PatternEngine] {fields : Fields}
    {options : MigrationPolicy} {log : List SecurityEvent} :
    ∀ w ∈ (m.validateMigrated fields options forest log).1.2 ++ missingFieldWarnings fields forest,
      ¬ FailureWarning w := by
  intro w warned
  rcases List.mem_append.mp warned with demoted | missing
  · obtain ⟨fault, unknown, rfl⟩ := fault_of_demoted demoted
    have first : fault.message.toList.head? = some 'U' := by
      cases fault with
      | unknownRelation | unknownField =>
          exact head?_append_of_some (head?_append_of_some rfl _) _
      | _ => cases unknown
    exact not_failureWarning first (by decide)
  · obtain ⟨field, _, rfl⟩ := List.mem_map.mp missing
    have first : (s!"Field '{field}' no longer exists in the schema").toList.head? = some 'F' :=
      head?_append_of_some (head?_append_of_some rfl _) _
    exact not_failureWarning first (by decide)

section Earlier

variable {version : UInt32} (builtIn : m.BuiltIn) (settled : Condition.Settled forest)
  (earlier : version < Document.currentVersion) (fields : Option Fields)
  (options : MigrationPolicy) (log : List SecurityEvent)

include builtIn settled earlier

/-- Of a settled forest nothing but the version is brought up to date. -/
theorem bringUpToDate_settled [PatternEngine] :
    let report := (m.bringUpToDate ⟨version, forest⟩ fields options log).1
    report.document = ⟨Document.currentVersion, forest⟩ ∧
      report.changes = if options.autoMigrate then [.applied 1] else [] := by
  obtain ⟨document, changes, _⟩ := m.bringUpToDate_report ⟨version, forest⟩ fields options log
  dsimp only at document changes
  rw [Condition.renameTags_of_free settled.free, builtIn.bringForward settled earlier]
    at document changes
  rw [settled.renameNotes] at changes
  constructor
  · rw [document]
    split <;> rfl
  · rw [changes]
    split <;> rfl

theorem not_failureWarning_of_settled [PatternEngine] :
    ∀ w ∈ (m.bringUpToDate ⟨version, forest⟩ fields options log).1.warnings,
      ¬ FailureWarning w := by
  have warnings := m.bringUpToDate_warnings ⟨version, forest⟩ fields options log
  dsimp only at warnings
  rw [Condition.renameTags_of_free settled.free, settled.renameNotes,
    builtIn.bringForward settled earlier, List.filterMap_nil, List.nil_append] at warnings
  rw [warnings, List.forall_mem_append]
  constructor
  · intro w early
    split at early
    · cases early
    · cases List.mem_singleton.mp early
      have first : (s!"Automatic migration disabled; version {version.toNat} transforms skipped"
          ).toList.head? = some 'A' := head?_append_of_some (head?_append_of_some rfl _) _
      exact not_failureWarning first (by decide)
  · cases fields with
    | none => exact List.forall_mem_nil _
    | some fields => exact not_failureWarning_of_validation

end Earlier

/-- Migration leaves an accepted filter alone. Where only tests carry an operator and the forest is
valid, migrating it from any version before the current one gives the same conditions, whatever
fields and policy that is done with; no operator is renamed, no transform fails, and the only change
on record is that the transform was applied. -/
theorem bringUpToDate_accepted [PatternEngine] (builtIn : m.BuiltIn) {v : Validator}
    {log : List SecurityEvent} (accepted : (v.validate forest log).1.valid = true)
    (onTests : Condition.OperatorsOnTests forest) {version : UInt32}
    (earlier : version < Document.currentVersion) (fields : Option Fields)
    (options : MigrationPolicy) (log' : List SecurityEvent) :
    let report := (m.bringUpToDate ⟨version, forest⟩ fields options log').1
    report.document = ⟨Document.currentVersion, forest⟩ ∧
      report.changes = (if options.autoMigrate then [.applied 1] else []) ∧
      (∀ change ∈ report.changes, change.kind ≠ .operatorRenamed) ∧
      ∀ w ∈ report.warnings, ¬ FailureWarning w := by
  intro report
  have settled := Condition.settled_of_accepted accepted onTests
  obtain ⟨document, changes⟩ := bringUpToDate_settled builtIn settled earlier fields options log'
  refine ⟨document, changes, ?_,
    not_failureWarning_of_settled builtIn settled earlier fields options log'⟩
  intro change recorded
  rw [changes] at recorded
  split at recorded
  · cases List.mem_singleton.mp recorded
    simp [Amendment.applied]
  · cases recorded

/-- A membership test under a negation and a range of a related record, beside raw text and a test
that is left to a handler. -/
theorem bringUpToDate_accepted_negation :
    let v : Validator :=
      { fields := .ofList [("orders", { kind := .associationMany }), ("status", {})] }
    let forest : List Condition :=
      [.combining "g" .not [.onField "a" "status" .isIn (.array [.string "x, y"])],
       .onRelation "b" "orders" "total" .between (.array [.string "1", .string "9"]),
       .raw "r" "age = 1" none,
       .leaf { id := "c", handler := some "User.premium", value := some (.string "x, y") }]
    let report := (({} : Migrator).bringUpToDate ⟨0, forest⟩ (some v.fields) {} []).1
    (v.validate forest []).1.valid = true ∧ Condition.OperatorsOnTests forest ∧
      report.document = ⟨2, forest⟩ ∧
      report.changes = [{ kind := .structureChanged, description :=
        "Applied migration from version 1 to 2" }] ∧
      ∀ w ∈ report.warnings, ¬ FailureWarning w := by
  intro v forest report
  have accepted : (v.validate forest []).1.valid = true := Validator.validate_valid_iff.mpr rfl
  have onTests : Condition.OperatorsOnTests forest := by
    simp [Condition.OperatorsOnTests, forest, Condition.combining, Condition.onField,
      Condition.onRelation, Condition.raw, Condition.nodes_cons, Condition.nodes_nil,
      Condition.children, Condition.clause, Clause.predicate, Predicate.isTest]
  have earlier : (0 : UInt32) < Document.currentVersion := by decide
  obtain ⟨document, changes, _, warnings⟩ :=
    bringUpToDate_accepted (m := {}) rfl accepted onTests earlier (some v.fields) {} []
  exact ⟨accepted, onTests, document, changes, warnings⟩

end Migrator

end RowFilter
