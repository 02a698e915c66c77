import RowFilter.Pattern.Matching
import RowFilter.Proofs.Migration.Convergence

/-! # The transforms of a migration

A migration tries the transforms from the version of a document on, one after the other. Each
attempt goes on record, as a change or as a warning. One that fails is as if it had not been made:
the next starts from the forest that it was given, and what comes out in the end is what the
transforms that succeeded make of the renamed forest.
-/

namespace RowFilter

/-- A transform that is tried, and the forest that it is given. -/
structure Attempt where
  version : UInt32
  transform : Transform
  before : List Condition

namespace Attempt

def outcome (a : Attempt) : Except MigrationError (List Condition) := a.transform a.before

def succeeds (a : Attempt) : Bool := a.outcome.isOk

/-- What is recorded of an attempt: a change if it succeeds, and a warning if it fails. -/
def record (a : Attempt) : Amendment ⊕ String :=
  match a.outcome with
  | .ok _ =>
    .inl { kind := .structureChanged, description :=
      s!"Applied migration from version {a.version.toNat} to {a.version.toNat + 1}" }
  | .error e => .inr s!"Migration from version {a.version.toNat} skipped: {e.message}"

theorem record_of_ok {a : Attempt} {next : List Condition} (succeeded : a.outcome = .ok next) :
    a.record = .inl { kind := .structureChanged, description :=
      s!"Applied migration from version {a.version.toNat} to {a.version.toNat + 1}" } := by
  rw [record, succeeded]

theorem record_of_error {a : Attempt} {e : MigrationError} (failed : a.outcome = .error e) :
    a.record = .inr s!"Migration from version {a.version.toNat} skipped: {e.message}" := by
  rw [record, failed]

end Attempt

/-- Attempts that are made one after the other, from a forest to what comes out of them. -/
inductive History : List Condition → List Attempt → List Condition → Prop where
  | done (forest : List Condition) : History forest [] forest
  /-- After a success, the next attempt is given what came out of this one. -/
  | applied {a : Attempt} {next final : List Condition} {later : List Attempt} :
    a.outcome = .ok next → History next later final → History a.before (a :: later) final
  /-- After a failure, the next attempt is given what this one was given. -/
  | failed {a : Attempt} {e : MigrationError} {final : List Condition} {later : List Attempt} :
    a.outcome = .error e → History a.before later final → History a.before (a :: later) final

namespace History

/-- What comes out is what the successful transforms give by themselves, each of which succeeds
again. -/
theorem foldlM_succeeding {start final : List Condition} {attempts : List Attempt}
    (history : History start attempts final) :
    ((attempts.filter Attempt.succeeds).map Attempt.transform).foldlM
      (fun forest (t : Transform) => t forest) start = .ok final := by
  induction history with
  | done forest => rfl
  | @applied a next final later succeeded _ ih =>
      have kept : a.succeeds = true := by
        rw [Attempt.succeeds, succeeded]
        rfl
      rw [List.filter_cons_of_pos kept, List.map_cons, List.foldlM_cons]
      -- The run starts from the forest that its first attempt is given.
      change a.outcome >>= _ = _
      rw [succeeded]
      exact ih
  | @failed a e final later failed _ ih =>
      have dropped : ¬ a.succeeds = true := by
        rw [Attempt.succeeds, failed]
        exact Bool.false_ne_true
      rw [List.filter_cons_of_neg dropped]
      exact ih

end History

namespace Migrator

/-- A transform is registered in place of the one for its version, and of no other. -/
theorem lookup_addTransform (m : Migrator) (version : UInt32) (transform : Transform)
    (v : UInt32) :
    (m.addTransform version transform).transforms.lookup v =
      if v = version then some transform else m.transforms.lookup v := by
  rw [addTransform, List.lookup_cons]
  by_cases same : v = version
  · rw [if_pos same, beq_iff_eq.mpr same]
  · rw [if_neg same, beq_false_of_ne same]
    dsimp only
    induction m.transforms with
    | nil => rfl
    | cons t rest ih =>
        by_cases replaced : t.1 = version
        · rw [List.filter_cons_of_neg (by simpa using replaced), ih, List.lookup_cons,
            beq_false_of_ne (replaced ▸ same)]
        · rw [List.filter_cons_of_pos (by simpa using replaced), List.lookup_cons, ih,
            List.lookup_cons]

/-- An account of a run of transforms: what was tried, what came of it, and what is on record. -/
structure Ran (m : Migrator) (versions : List UInt32) (start final : TransformRun)
    (attempts : List Attempt) : Prop where
  /-- The registered transforms are tried, in the order of the versions. -/
  tried : attempts.map (fun a => (a.version, a.transform)) =
    versions.filterMap fun v => (m.transforms.lookup v).map fun t => (v, t)
  history : History start.conditions attempts final.conditions
  changes : final.changes = start.changes ++ (attempts.map Attempt.record).filterMap Sum.getLeft?
  warnings : final.warnings =
    start.warnings ++ (attempts.map Attempt.record).filterMap Sum.getRight?

variable {m : Migrator} {version : UInt32} {versions : List UInt32} {start final : TransformRun}

/-- A version without a transform is passed over. -/
theorem Ran.cons_none {attempts : List Attempt} (absent : m.transforms.lookup version = none)
    (later : m.Ran versions (start.step version none) final attempts) :
    m.Ran (version :: versions) start final attempts where
  tried := by
    rw [List.filterMap_cons, absent]
    exact later.tried
  history := later.history
  changes := later.changes
  warnings := later.warnings

/-- A version with a transform is one more attempt. -/
theorem Ran.cons_some {transform : Transform} {attempts : List Attempt}
    (registered : m.transforms.lookup version = some transform)
    (later : m.Ran versions (start.step version (some transform)) final attempts) :
    m.Ran (version :: versions) start final
      (⟨version, transform, start.conditions⟩ :: attempts) := by
  have tried : (version, transform) :: attempts.map (fun a => (a.version, a.transform)) =
      (version :: versions).filterMap fun v => (m.transforms.lookup v).map fun t => (v, t) := by
    rw [List.filterMap_cons, registered, later.tried]
    rfl
  obtain ⟨_, history, changes, warnings⟩ := later
  let attempt : Attempt := ⟨version, transform, start.conditions⟩
  -- The step and the record of the attempt look at the same outcome.
  unfold TransformRun.step at history changes warnings
  cases outcome : transform start.conditions with
  | ok next =>
      simp only [outcome] at history changes warnings
      have recorded : attempt.record = .inl _ := Attempt.record_of_ok outcome
      refine ⟨tried, History.applied (a := attempt) outcome history, ?_, ?_⟩
      · rw [changes, List.map_cons, recorded, List.append_assoc]
        rfl
      · rw [warnings, List.map_cons, recorded, List.filterMap_cons_none rfl]
  | error e =>
      simp only [outcome] at history changes warnings
      have recorded : attempt.record = .inr _ := Attempt.record_of_error outcome
      refine ⟨tried, History.failed (a := attempt) outcome history, ?_, ?_⟩
      · rw [changes, List.map_cons, recorded, List.filterMap_cons_none rfl]
      · rw [warnings, List.map_cons, recorded, List.append_assoc]
        rfl

theorem exists_ran (m : Migrator) (versions : List UInt32) (start : TransformRun) :
    ∃ attempts, m.Ran versions start
      (versions.foldl (fun r v => r.step v (m.transforms.lookup v)) start) attempts := by
  induction versions generalizing start with
  | nil => exact ⟨[], rfl, .done _, (List.append_nil _).symm, (List.append_nil _).symm⟩
  | cons version rest ih =>
      obtain ⟨attempts, later⟩ := ih (start.step version (m.transforms.lookup version))
      cases found : m.transforms.lookup version with
      | none =>
          rw [found] at later
          refine ⟨attempts, .cons_none found ?_⟩
          rw [List.foldl_cons, found]
          exact later
      | some transform =>
          rw [found] at later
          refine ⟨⟨version, transform, start.conditions⟩ :: attempts, .cons_some found ?_⟩
          rw [List.foldl_cons, found]
          exact later

theorem mem_pendingVersions {v : UInt32} :
    v ∈ pendingVersions version ↔ version ≤ v ∧ v < Document.currentVersion := by
  rw [pendingVersions, List.mem_map, UInt32.le_iff_toNat_le, UInt32.lt_iff_toNat_lt]
  simp only [List.mem_range'_1]
  constructor
  · rintro ⟨n, within, rfl⟩
    have small : Document.currentVersion.toNat < UInt32.size := Document.currentVersion.toNat_lt
    rw [UInt32.toNat_ofNat_of_lt' (by omega)]
    omega
  · rintro ⟨reached, before⟩
    exact ⟨v.toNat, by omega, v.ofNat_toNat⟩

theorem pairwise_pendingVersions (version : UInt32) :
    (pendingVersions version).Pairwise (· < ·) := by
  rw [pendingVersions, List.pairwise_map]
  refine (List.pairwise_lt_range' 1).imp_of_mem fun {a b} ina inb less => ?_
  rw [List.mem_range'_1] at ina inb
  have small : Document.currentVersion.toNat < UInt32.size := Document.currentVersion.toNat_lt
  rwa [UInt32.lt_iff_toNat_lt, UInt32.toNat_ofNat_of_lt' (by omega),
    UInt32.toNat_ofNat_of_lt' (by omega)]

namespace Ran

variable {attempts : List Attempt}

/-- No version is tried twice, and none before an earlier one. -/
theorem pairwise_versions (ran : m.Ran (pendingVersions version) start final attempts) :
    (attempts.map Attempt.version).Pairwise (· < ·) := by
  have ascending :
      (attempts.map fun a => (a.version, a.transform)).Pairwise fun s t => s.1 < t.1 := by
    rw [ran.tried]
    refine (pairwise_pendingVersions version).filterMap _ fun v w before s hs t ht => ?_
    obtain ⟨_, _, rfl⟩ := Option.map_eq_some_iff.mp hs
    obtain ⟨_, _, rfl⟩ := Option.map_eq_some_iff.mp ht
    exact before
  rw [List.pairwise_map] at ascending ⊢
  exact ascending

/-- What is tried is what is registered for a version on the way. -/
theorem exists_attempt_iff (ran : m.Ran (pendingVersions version) start final attempts)
    {v : UInt32} {t : Transform} :
    (∃ a ∈ attempts, a.version = v ∧ a.transform = t) ↔
      version ≤ v ∧ v < Document.currentVersion ∧ m.transforms.lookup v = some t := by
  have listed : (∃ a ∈ attempts, a.version = v ∧ a.transform = t) ↔
      (v, t) ∈ attempts.map fun a => (a.version, a.transform) := by
    simp only [List.mem_map, Prod.mk.injEq]
  rw [listed, ran.tried, List.mem_filterMap, ← and_assoc, ← mem_pendingVersions]
  constructor
  · rintro ⟨w, pending, found⟩
    obtain ⟨t, registered, ⟨⟩⟩ := Option.map_eq_some_iff.mp found
    exact ⟨pending, registered⟩
  · rintro ⟨pending, registered⟩
    exact ⟨v, pending, Option.map_eq_some_iff.mpr ⟨t, registered, rfl⟩⟩

end Ran

/-- The warnings about the operators stand first, and those of the validation last. -/
theorem bringUpToDate_warnings [PatternEngine] (m : Migrator) (d : Document)
    (fields : Option Fields) (options : MigrationPolicy) (log : List SecurityEvent) :
    let report := (m.bringUpToDate d fields options log).1
    report.warnings =
      (Condition.renameNotes d.conditions).filterMap RenameNote.warning? ++
      (m.bringForward options d.version (Condition.renameTags d.conditions)).warnings ++
      fields.elim [] fun fields =>
        (m.validateMigrated fields options report.document.conditions log).1.2 ++
          missingFieldWarnings fields report.document.conditions := by
  cases fields with
  | none => exact (List.append_nil _).symm
  | some fields => exact List.append_assoc _ _ _

/-- On the way from an earlier version every registered transform is tried, in the order of the
versions, and leaves one change or one warning on record. One that fails leaves the forest as it
was: what comes out is what those that succeed make of the renamed forest. -/
theorem failed_transforms_leave_no_trace [PatternEngine] (m : Migrator) (d : Document)
    (fields : Option Fields) (options : MigrationPolicy) (log : List SecurityEvent)
    (earlier : d.version < Document.currentVersion) (auto : options.autoMigrate = true) :
    let notes := Condition.renameNotes d.conditions
    let renamed := Condition.renameTags d.conditions
    let report := (m.bringUpToDate d fields options log).1
    ∃ attempts : List Attempt,
      (attempts.map Attempt.version).Pairwise (· < ·) ∧
      (∀ version transform, (∃ a ∈ attempts, a.version = version ∧ a.transform = transform) ↔
        d.version ≤ version ∧ version < Document.currentVersion ∧
          m.transforms.lookup version = some transform) ∧
      History renamed attempts report.document.conditions ∧
      ((attempts.filter Attempt.succeeds).map Attempt.transform).foldlM
        (fun forest (t : Transform) => t forest) renamed = .ok report.document.conditions ∧
      report.changes = notes.filterMap RenameNote.change? ++
        (attempts.map Attempt.record).filterMap Sum.getLeft? ∧
      report.warnings = notes.filterMap RenameNote.warning? ++
        (attempts.map Attempt.record).filterMap Sum.getRight? ++
        fields.elim [] fun fields =>
          (m.validateMigrated fields options report.document.conditions log).1.2 ++
            missingFieldWarnings fields report.document.conditions := by
  intro notes renamed report
  have run : m.bringForward options d.version renamed = m.applyTransforms d.version renamed := by
    rw [bringForward, if_neg (UInt32.lt_asymm earlier), if_pos earlier, if_pos auto]
  obtain ⟨attempts, ran⟩ := m.exists_ran (pendingVersions d.version) { conditions := renamed }
  change m.Ran _ _ (m.applyTransforms d.version renamed) attempts at ran
  rw [← run] at ran
  obtain ⟨document, changes, _⟩ := m.bringUpToDate_report d fields options log
  have conditions : report.document.conditions = _ := congrArg Document.conditions document
  rw [conditions]
  refine ⟨attempts, ran.pairwise_versions, fun _ _ => ran.exists_attempt_iff, ran.history,
    ran.history.foldlM_succeeding, ?_, ?_⟩
  · rw [changes, ran.changes, List.nil_append]
  · rw [← conditions, m.bringUpToDate_warnings d fields options log, ran.warnings, List.nil_append]

/-- Version 0 has a transform, and after it the one from version 1 comes upon half a range. -/
theorem failed_transforms_leave_no_trace_half_range :
    let half : Condition := .leaf { id := "b", operator := some "between",
                                    value := some (.object [("from", .bool true)]) }
    let adding : Transform := fun forest => .ok (forest ++ [half])
    let m := ({} : Migrator).addTransform 0 adding
    let d : Document := ⟨0, [.leaf { id := "a", operator := some "nin",
                                     value := some (.string "x, y") }]⟩
    let report := (m.bringUpToDate d none {} []).1
    d.version < Document.currentVersion ∧ ({} : MigrationPolicy).autoMigrate = true ∧
      (∃ attempts : List Attempt, (∃ a ∈ attempts, a.version = 0 ∧ a.transform = adding) ∧
        (∃ a ∈ attempts, a.version = 1 ∧ a.transform = upgradeFromVersion1) ∧
        History (Condition.renameTags d.conditions) attempts report.document.conditions) ∧
      report.document.conditions =
        [.leaf { id := "a", operator := some "notIn", value := some (.string "x, y") }, half] ∧
      report.warnings = ["Migration from version 1 skipped: transform from version 1 failed: " ++
        "condition b has an incomplete between range"] := by
  intro half adding m d report
  have earlier : d.version < Document.currentVersion := by decide
  obtain ⟨attempts, _, tried, history, _⟩ :=
    m.failed_transforms_leave_no_trace d none {} [] earlier rfl
  have first : ∃ a ∈ attempts, a.version = 0 ∧ a.transform = adding :=
    (tried 0 adding).mpr ⟨by decide, by decide, by rw [lookup_addTransform, if_pos rfl]⟩
  have second : ∃ a ∈ attempts, a.version = 1 ∧ a.transform = upgradeFromVersion1 :=
    (tried 1 _).mpr ⟨by decide, by decide, by rw [lookup_addTransform, if_neg (by decide)]; rfl⟩
  let added : List Condition :=
    [.leaf { id := "a", operator := some "notIn", value := some (.string "x, y") }, half]
  have incomplete : upgradeFromVersion1 added = .error (.transformFailed 1
      "condition b has an incomplete between range") := by
    rw [upgradeFromVersion1]
    simp only [added, half, Condition.nodes_cons, Condition.nodes_nil, Condition.children,
      List.nil_append]
    rfl
  have run : m.bringForward {} 0 (Condition.renameTags d.conditions) =
      TransformRun.step ⟨added, [{ kind := .structureChanged, description :=
        "Applied migration from version 0 to 1" }], []⟩ 1 (some upgradeFromVersion1) := rfl
  rw [TransformRun.step, incomplete] at run
  refine ⟨earlier, rfl, ⟨attempts, first, second, history⟩, ?_, ?_⟩
  · exact congrArg TransformRun.conditions run
  · have noted : (Condition.renameNotes d.conditions).filterMap RenameNote.warning? = [] := by
      rw [Condition.renameNotes]
      simp only [d, Condition.nodes_cons, Condition.nodes_nil, Condition.children, List.nil_append]
      rfl
    have warnings := m.bringUpToDate_warnings d none {} []
    rw [run, noted] at warnings
    exact warnings

end Migrator

end RowFilter
