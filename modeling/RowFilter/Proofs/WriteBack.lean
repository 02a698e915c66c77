import RowFilter.Pattern.Matching
import RowFilter.Proofs.Json.Texts
import RowFilter.Proofs.Migration.Accepted
import RowFilter.Proofs.Migration.Changes
import RowFilter.Proofs.Migration.Stored

/-! # Migrated filters written back

The command that migrates a filter may write the result over the file it came from. Running it
again then finds nothing to do, and the file holds the document of the report. The text written
is read back unless it is nested too deep: a bare list is written as a document, one container
deeper, and so a list that is as deep as a text may be is lost to every later command.
-/

namespace RowFilter.CommandLine

namespace Files

/-- What reading a file gives. -/
def contentOf (files : Files) (path : String) : Except String String := (read path files).1

theorem map_read_eq {α : Type} (f : Except String String → α) (path : String) (files : Files) :
    (f <$> access.read path : StateM Files α).run files = (f (files.contentOf path), files) := by
  show (f (read path files).1, (read path files).2) = _
  unfold contentOf read
  cases files.lookup (key path) <;> rfl

theorem contentOf_write (path text : String) (files : Files) :
    ((access.write path text).run files).2.contentOf path = .ok text := by
  show (read path ((key path, text) :: files.filter _)).1 = _
  rw [read, List.lookup_cons_self]

end Files

theorem load_run {α : Type} {path : String} {decode : Json → Option α} {files : Files}
    {result : Except CommandError α}
    (loaded : loadedAs path decode (files.contentOf path) = result) :
    (load Files.access path decode).run files = (result, files) := by
  rw [load_eq, ← loaded]
  exact Files.map_read_eq (loadedAs path decode) path files

theorem readFilter_run {path : String} {files : Files} {result : Except CommandError Document}
    (found : filterIn path (files.contentOf path) = result) :
    (readFilter Files.access path).run files = (result, files) := by
  rw [readFilter_eq, ← found]
  exact Files.map_read_eq (filterIn path) path files

theorem bind_ok {α β : Type} {x : Action (StateM Files) α} {files after : Files} {v : α}
    (first : x.run files = (.ok v, after)) (f : α → Action (StateM Files) β) :
    (x >>= f).run files = (f v).run after := by
  rw [ExceptT.run_bind]
  show (StateT.bind x.run _ : StateM Files _) files = _
  unfold StateT.bind
  rw [first]
  rfl

theorem bind_error {α β : Type} {x : Action (StateM Files) α} {files after : Files}
    {e : CommandError} (first : x.run files = (.error e, after))
    (f : α → Action (StateM Files) β) : (x >>= f).run files = (.error e, after) := by
  rw [ExceptT.run_bind]
  show (StateT.bind x.run _ : StateM Files _) files = _
  unfold StateT.bind
  rw [first]
  rfl

/-- Making an engine changes no file, and its migrator is the standard one. -/
theorem engineOf_run (a : Arguments) (files : Files) :
    ∃ r, (engineOf Files.access a).run files = (r, files) ∧
      ∀ e, r = .ok e → ∃ schema config, e = (Assembly.new schema .empty).withConfig config := by
  unfold engineOf
  cases schema : loadedAs a.schema Schema.ofJson? (files.contentOf a.schema) with
  | error e => exact ⟨_, bind_error (load_run schema) _, fun _ => nofun⟩
  | ok s =>
      rw [bind_ok (load_run schema)]
      cases a.config with
      | none => exact ⟨_, bind_ok rfl _, fun e same => ⟨s, _, (Except.ok.inj same).symm⟩⟩
      | some path =>
          cases config : loadedAs path Config.ofJson? (files.contentOf path) with
          | error e => exact ⟨_, bind_error (load_run config) _, fun _ => nofun⟩
          | ok c =>
              exact ⟨_, bind_ok (load_run config) _,
                fun e same => ⟨s, _, (Except.ok.inj same).symm⟩⟩

/-- Without further options the engine is that of the schema. -/
theorem engineOf_schema {a : Arguments} {files : Files} {schema : Schema} (config : a.config = none)
    (dialect : a.dialect = none)
    (loaded : loadedAs a.schema Schema.ofJson? (files.contentOf a.schema) = .ok schema) :
    (engineOf Files.access a).run files =
      (.ok ((Assembly.new schema .empty).withConfig {}), files) := by
  unfold engineOf
  rw [bind_ok (load_run loaded), config, dialect]
  rfl

theorem save_run (path : String) (v : Json) (files : Files) :
    (save Files.access path v).run files =
      (.ok (), ((Files.access.write path (v.indented ++ "\n")).run files).2) := rfl

/-- The files after a filter was migrated. -/
def rewritten (report : MigrationOutcome) (path : String) (files : Files) : Files :=
  if report.migrated then
    ((Files.access.write path (report.document.toJson.indented ++ "\n")).run files).2
  else files

theorem migrateFilter_run [PatternEngine] {e : Assembly} {path : String} {files : Files}
    {d : Document} (loaded : filterIn path (files.contentOf path) = .ok d) :
    (migrateFilter Files.access e path true).run files =
      (.ok ((unlogged (e.migrate d)).toJson,
          (unlogged (e.migrate d)).validation.all fun v => v.valid),
        rewritten (unlogged (e.migrate d)) path files) := by
  unfold migrateFilter
  rw [bind_ok (readFilter_run loaded)]
  dsimp only
  rw [Bool.true_and, rewritten]
  split
  · rw [bind_ok (save_run _ _ _)]
    rfl
  · rfl

/-- What is printed for a value. -/
def Arguments.shown (a : Arguments) (v : Json) : String :=
  match a.format with
  | .json => v.compact
  | .pretty => v.indented

/-- How a run ends, from what carrying out its command came to. -/
def Arguments.ended [PatternEngine] (a : Arguments) : Except CommandError (Json × Bool) → Ending
  | .error e => .failed e.message
  | .ok (v, success) => .printed (a.shown v) success

section Runs

variable [PatternEngine] {args : List String} {a : Arguments} {path : String} {files after : Files}

/-- Nothing is written outside the command itself. -/
theorem run_eq (parsed : Arguments.parse args = .ok a) {command : Command}
    (asked : a.command = command) {result : Except CommandError (Json × Bool)}
    (done : (engineOf Files.access a >>= fun e => perform Files.access e command).run files =
      (result, after)) : run Files.access args files = (a.ended result, after) := by
  subst asked
  unfold run
  rw [parsed]
  show (StateT.bind _ _ : StateM Files _) files = _
  unfold StateT.bind
  rw [done]
  cases result <;> rfl

/-- A run that migrates a filter prints the report. -/
theorem run_migrate (parsed : Arguments.parse args = .ok a) (asked : a.command = .migrate path true)
    {e : Assembly} (engine : (engineOf Files.access a).run files = (.ok e, files)) {d : Document}
    (loaded : filterIn path (files.contentOf path) = .ok d) :
    run Files.access args files =
      (.printed (a.shown (unlogged (e.migrate d)).toJson)
          ((unlogged (e.migrate d)).validation.all fun v => v.valid),
        rewritten (unlogged (e.migrate d)) path files) :=
  run_eq parsed asked ((bind_ok engine _).trans (migrateFilter_run loaded))

/-- A run that migrates a filter changes nothing unless there is an engine and a filter for it in
which something is migrated. -/
theorem run_migrate_idle (parsed : Arguments.parse args = .ok a)
    (asked : a.command = .migrate path true)
    (idle : ∀ e d, (∃ schema config, e = (Assembly.new schema .empty).withConfig config) →
      filterIn path (files.contentOf path) = .ok d → (unlogged (e.migrate d)).migrated = false) :
    (run Files.access args files).2 = files := by
  obtain ⟨r, engine, made⟩ := engineOf_run a files
  cases r with
  | error e => rw [run_eq parsed asked (bind_error engine _)]
  | ok e =>
      cases loaded : filterIn path (files.contentOf path) with
      | error reason =>
          rw [run_eq parsed asked
            ((bind_ok engine _).trans (bind_error (readFilter_run loaded) _))]
      | ok d =>
          have quiet := idle e d (made e rfl) loaded
          rw [run_migrate parsed asked engine loaded, rewritten, quiet]
          rfl

end Runs

/-- A document of the current version that is written out is loaded again, unless its list of
conditions is nested as deep as a whole text may be: the document is a container more. -/
theorem filterIn_written {path : String} {d : Document}
    (storable : Condition.Storable d.conditions) (current : d.version = Document.currentVersion)
    (returns : ∀ n ∈ (Condition.listToJson d.conditions).numbers, n.Returns) :
    filterIn path (.ok (d.toJson.indented ++ "\n")) =
      if (Condition.listToJson d.conditions).nesting < Json.nestingLimit then .ok d
      else .error (.parse path) := by
  have version : JsonNumber.Returns (.int Document.currentVersion.toNat) := by
    rfl
  have numbers : ∀ n ∈ d.toJson.numbers, n.Returns := by
    rw [Document.toJson, current, Json.ofUInt32]
    simp only [Json.numbers, Json.numbersInMembers, List.append_nil, List.forall_mem_append,
      List.forall_mem_singleton]
    exact ⟨version, returns⟩
  have nested : d.toJson.nesting = (Condition.listToJson d.conditions).nesting + 1 := by
    simp [Document.toJson, Json.nesting, Json.nestingMembers, Json.ofUInt32]
  rw [filterIn, loadedAs, Json.ofText?_indented numbers]
  by_cases fits : (Condition.listToJson d.conditions).nesting < Json.nestingLimit
  · rw [if_pos fits, if_pos (nested ▸ fits), Option.bind_some, Document.ofStored?_toJson storable]
  · rw [if_neg fits, if_neg (nested ▸ fits), Option.bind_none]

theorem storable_of_filterIn {path : String} {content : Except String String} {d : Document}
    (loaded : filterIn path content = .ok d) : Condition.Storable d.conditions := by
  unfold filterIn loadedAs at loaded
  split at loaded
  · cases loaded
  · split at loaded
    next given =>
      cases loaded
      obtain ⟨v, -, read⟩ := Option.bind_eq_some_iff.mp given
      exact Document.storable_of_ofStored? read
    next => cases loaded

/-- What the migration of a filter by an engine of the command line comes to. -/
structure Settles [PatternEngine] (d : Document) (report : MigrationOutcome) : Prop where
  storable : Condition.Storable report.document.conditions
  notDue : Migrator.isDue report.document = false
  current : report.document.version = Document.currentVersion
  unchanged : report.migrated = false → report.document = d
  /-- No engine finds more to migrate. -/
  again : ∀ schema config,
    (unlogged (((Assembly.new schema .empty).withConfig config).migrate report.document)).migrated =
      false

theorem migrate_settles [PatternEngine] (schema : Schema) (config : Config) {d : Document}
    (storable : Condition.Storable d.conditions) :
    Settles d (unlogged (((Assembly.new schema .empty).withConfig config).migrate d)) := by
  let m : Migrator := { registry := some .empty }
  obtain ⟨notDue, current, again⟩ := m.bringUpToDate_converges
    (Migrator.keepsTagsCurrent_default (some .empty) .discarding) d (some schema.fields)
    config.migrationPolicy []
  have unchanged := (m.migrated_iff d (some schema.fields) config.migrationPolicy []).2.2
  exact {
    storable := Migrator.storable_bringUpToDate (some .empty) .discarding storable
      (some schema.fields) config.migrationPolicy []
    notDue
    current
    unchanged := fun quiet => (unchanged quiet).1
    again := fun schema' config' =>
      (again (some schema'.fields) config'.migrationPolicy []).2.2 }

/-! ### A command line, and filters for it -/

/-- Migrates `f.json` and writes it back. -/
def migration : List String := ["--schema", "s.json", "migrate", "f.json", "--write"]

def migrationParsed : Arguments :=
  { schema := "s.json", config := none, dialect := none, format := .pretty,
    command := .migrate "f.json" true }

theorem parse_migration : Arguments.parse migration = .ok migrationParsed := by decide

/-- A schema without fields, and a filter. -/
def migrationFiles (filter : String) : Files :=
  [("s.json", "\x7b\"name\":\"User\",\"fields\":\x7b\x7d\x7d"), ("f.json", filter)]

theorem engineOf_migration (filter : String) :
    (engineOf Files.access migrationParsed).run (migrationFiles filter) =
      (.ok ((Assembly.new { name := "User" } .empty).withConfig {}), migrationFiles filter) := by
  have read : Json.ofText? "\x7b\"name\":\"User\",\"fields\":\x7b\x7d\x7d" =
      some (.object [("name", .string "User"), ("fields", .object [])]) := by
    rw [Json.ofText?]
    simp only [String.reduceToList]
    rfl
  refine engineOf_schema rfl rfl ?_
  show loadedAs _ _ (.ok "\x7b\"name\":\"User\",\"fields\":\x7b\x7d\x7d") = _
  rw [loadedAs, read]
  rfl

/-- The items of the outermost of some lists, one in the other. -/
def nestedItems : Nat → List Json
  | 0 => []
  | depth + 1 => [.array (nestedItems depth)]

theorem nestingItems_nestedItems (depth : Nat) : Json.nestingItems (nestedItems depth) = depth := by
  induction depth with
  | zero => rfl
  | succ depth ih => simp [nestedItems, Json.nesting, Json.nestingItems, ih]

theorem numbersInItems_nestedItems (depth : Nat) :
    Json.numbersInItems (nestedItems depth) = [] := by
  induction depth with
  | zero => rfl
  | succ depth ih => simp [nestedItems, Json.numbers, Json.numbersInItems, ih]

theorem settledItems_nestedItems (depth : Nat) : Json.SettledItems (nestedItems depth) := by
  induction depth with
  | zero => trivial
  | succ depth ih => exact ⟨ih, trivial⟩

/-- A test of membership in such a list. -/
def nestedTest (depth : Nat) : Condition :=
  .leaf { id := "a", field := some "n", operator := some "in",
          value := some (.array (nestedItems depth)) }

theorem storable_nestedTest (depth : Nat) : Condition.Storable [nestedTest depth] := by
  refine Condition.storable_singleton ?_ rfl rfl
  rintro v ⟨⟩
  exact ⟨Json.noConfusion, settledItems_nestedItems depth⟩

theorem settled_nestedTest (depth : Nat) : Condition.Settled [nestedTest depth] := by
  intro c inside
  rw [nestedTest, Condition.nodes_cons, Condition.children, Condition.nodes_nil,
    List.append_nil, List.mem_singleton] at inside
  subst inside
  exact { quiet := rfl, inVersion2 := Clause.inVersion2_of_array rfl }

theorem listToJson_nestedTest (depth : Nat) :
    Condition.listToJson [nestedTest depth] =
      .array [.object [("id", .string "a"), ("field", .string "n"), ("operator", .string "in"),
        ("value", .array (nestedItems depth))]] := rfl

theorem nesting_nestedTest (depth : Nat) :
    (Condition.listToJson [nestedTest depth]).nesting = depth + 3 := by
  rw [listToJson_nestedTest]
  simp [Json.nesting, Json.nestingItems, Json.nestingMembers, nestingItems_nestedItems]

theorem numbers_nestedTest (depth : Nat) :
    (Condition.listToJson [nestedTest depth]).numbers = [] := by
  rw [listToJson_nestedTest]
  simp [Json.numbers, Json.numbersInItems, Json.numbersInMembers, numbersInItems_nestedItems]

/-- What a migration makes of a bare list of such a test. -/
theorem migrate_nestedTest [PatternEngine] (schema : Schema) (depth : Nat) :
    let report := unlogged (((Assembly.new schema .empty).withConfig {}).migrate
      ⟨Document.unversioned, [nestedTest depth]⟩)
    report.migrated = true ∧ report.document = ⟨Document.currentVersion, [nestedTest depth]⟩ := by
  intro report
  let m : Migrator := { registry := some .empty }
  have builtIn : m.BuiltIn := rfl
  have earlier : Document.unversioned < Document.currentVersion := by decide
  have document := (Migrator.bringUpToDate_settled builtIn (settled_nestedTest depth) earlier
    (some schema.fields) {} []).1
  have migrated := (m.migrated_iff ⟨Document.unversioned, [nestedTest depth]⟩
    (some schema.fields) {} []).1.mpr (.inl rfl)
  exact ⟨migrated, document⟩

/-- Writing a migrated filter back is safe to repeat, if it can be read at all. What was migrated
is loaded as the report that is printed has it, and what was not is left as it is; either way it is
a current document that is not due, and a second run leaves the files as they are. But where the
list of migrated conditions is nested as deep as a text may be, the document is too deep for it. -/
theorem migrate_written_back [PatternEngine] {files : Files} {args : List String} {a : Arguments}
    {path : String} {e : Assembly} {d : Document} (parsed : Arguments.parse args = .ok a)
    (asked : a.command = .migrate path true)
    (engine : (engineOf Files.access a).run files = (.ok e, files))
    (loaded : (readFilter Files.access path).run files = (.ok d, files))
    (returns : (unlogged (e.migrate d)).migrated = true →
      ∀ n ∈ (Condition.listToJson (unlogged (e.migrate d)).document.conditions).numbers,
        n.Returns) :
    let report := unlogged (e.migrate d)
    let after := (run Files.access args files).2
    let lost := report.migrated = true ∧
      Json.nestingLimit ≤ (Condition.listToJson report.document.conditions).nesting
    (run Files.access args files).1 =
        .printed (a.shown report.toJson) (report.validation.all fun v => v.valid) ∧
      (¬ lost → (readFilter Files.access path).run after = (.ok report.document, after)) ∧
      (lost → (readFilter Files.access path).run after = (.error (.parse path), after)) ∧
      (report.migrated = false → after = files ∧ report.document = d) ∧
      Migrator.isDue report.document = false ∧
      report.document.version = Document.currentVersion ∧
      (run Files.access args after).2 = after := by
  intro report after lost
  have found : filterIn path (files.contentOf path) = .ok d :=
    (Prod.mk.inj ((readFilter_run rfl).symm.trans loaded)).1
  obtain ⟨schema, config, rfl⟩ : ∃ schema config,
      e = (Assembly.new schema .empty).withConfig config := by
    obtain ⟨r, ran, made⟩ := engineOf_run a files
    rw [engine] at ran
    exact made e (Prod.mk.inj ran).1.symm
  obtain ⟨storable, notDue, current, unchanged, again⟩ :
      Settles d report := migrate_settles schema config (storable_of_filterIn found)
  have ran := run_migrate parsed asked engine found
  have left : after = rewritten report path files := congrArg Prod.snd ran
  have kept : report.migrated = false → after = files ∧ report.document = d := by
    intro quiet
    rw [left, rewritten, quiet]
    exact ⟨rfl, unchanged quiet⟩
  have reread : filterIn path (after.contentOf path) =
      if report.migrated = true ∧
        Json.nestingLimit ≤ (Condition.listToJson report.document.conditions).nesting
      then .error (.parse path) else .ok report.document := by
    cases migrated : report.migrated with
    | false =>
        obtain ⟨same, document⟩ := kept migrated
        rw [if_neg (by simp), same, found, document]
    | true =>
        rw [left, rewritten, migrated, if_pos rfl, Files.contentOf_write,
          filterIn_written storable current (returns migrated)]
        by_cases fits : (Condition.listToJson report.document.conditions).nesting <
            Json.nestingLimit
        · rw [if_pos fits, if_neg fun deep => Nat.not_le.mpr fits deep.2]
        · rw [if_neg fits, if_pos ⟨rfl, Nat.not_lt.mp fits⟩]
  refine ⟨congrArg Prod.fst ran, fun readable => ?_, fun deep => ?_, kept, notDue, current, ?_⟩
  · exact readFilter_run (reread.trans (if_neg readable))
  · exact readFilter_run (reread.trans (if_pos deep))
  · refine run_migrate_idle parsed asked fun e' d' made read => ?_
    obtain ⟨schema', config', rfl⟩ := made
    rw [reread] at read
    split at read
    · cases read
    · cases read
      exact again schema' config'

/-- A list from before versions were written, with a range by its ends. -/
theorem migrate_written_back_range :
    let range := Json.object [("from", .number (.int 1)), ("to", .number (.int 5))]
    let ends := Json.array [.number (.int 1), .number (.int 5)]
    let old : Clause :=
      { id := "a", field := some "n", operator := some "between", value := some range }
    let new : Clause := { old with value := some ends }
    let files := migrationFiles
      ("[\x7b\"id\":\"a\",\"field\":\"n\",\"operator\":\"between\",\"value\":" ++
        "\x7b\"from\":1,\"to\":5\x7d\x7d]")
    let after := (run Files.access migration files).2
    (readFilter Files.access "f.json").run files = (.ok ⟨1, [.leaf old]⟩, files) ∧
      (readFilter Files.access "f.json").run after = (.ok ⟨2, [.leaf new]⟩, after) ∧
      (run Files.access migration after).2 = after := by
  intro range ends old new files after
  have storable : Condition.Storable [.leaf old] := by
    refine Condition.storable_singleton ?_ rfl rfl
    rintro v ⟨⟩
    exact ⟨Json.noConfusion, show ["from", "to"].Nodup by decide, trivial, trivial, trivial⟩
  have read : Json.ofText?
      ("[\x7b\"id\":\"a\",\"field\":\"n\",\"operator\":\"between\",\"value\":" ++
        "\x7b\"from\":1,\"to\":5\x7d\x7d]") = some (Condition.listToJson [.leaf old]) := by
    rw [Json.ofText?, String.toList_append]
    simp only [String.reduceToList]
    rfl
  have loaded : (readFilter Files.access "f.json").run files = (.ok ⟨1, [.leaf old]⟩, files) :=
    readFilter_run (filterIn_list storable read)
  let report := unlogged (((Assembly.new { name := "User" } .empty).withConfig {}).migrate
    ⟨1, [.leaf old]⟩)
  have upgraded : upgradeFromVersion1 [.leaf old] = .ok [.leaf new] := by
    refine upgradeFromVersion1_eq_ok_iff.mpr ⟨?_, rfl⟩
    rw [Condition.nodes_cons, Condition.children, Condition.nodes_nil, List.append_nil,
      List.forall_mem_singleton, ← Clause.hasIncompleteRange_iff]
    decide
  have document : report.document = ⟨2, [.leaf new]⟩ := by
    refine (Migrator.bringUpToDate_report { registry := some .empty } ⟨1, [.leaf old]⟩
      (some .empty) {} []).1.trans ?_
    show Document.mk 2
      (TransformRun.step ⟨[.leaf old], [], []⟩ 1 (some upgradeFromVersion1)).conditions = _
    rw [TransformRun.step, upgraded]
  have returns : ∀ n ∈ (Condition.listToJson report.document.conditions).numbers, n.Returns := by
    rw [document]
    show ∀ n ∈ [JsonNumber.int 1, .int 5], n.Returns
    rw [List.forall_mem_cons, List.forall_mem_singleton]
    exact ⟨rfl, rfl⟩
  obtain ⟨-, readable, -, -, -, -, again⟩ :=
    migrate_written_back parse_migration rfl (engineOf_migration _) loaded fun _ => returns
  have reread := readable fun lost => absurd lost.2 (by rw [document]; decide)
  rw [document] at reread
  exact ⟨loaded, reread, again⟩

/-- The list that is as deep as a text may be is loaded before it is migrated, but not after. -/
theorem migrate_loses_deepest_list :
    let files := migrationFiles ((Condition.listToJson [nestedTest 124]).indented ++ "\n")
    let after := (run Files.access migration files).2
    (readFilter Files.access "f.json").run files =
        (.ok ⟨Document.unversioned, [nestedTest 124]⟩, files) ∧
      (readFilter Files.access "f.json").run after = (.error (.parse "f.json"), after) := by
  intro files after
  have numbers : ∀ n ∈ (Condition.listToJson [nestedTest 124]).numbers, n.Returns := by
    rw [numbers_nestedTest]
    exact List.forall_mem_nil _
  have before : filterIn "f.json" (files.contentOf "f.json") =
      .ok ⟨Document.unversioned, [nestedTest 124]⟩ := by
    refine filterIn_list (storable_nestedTest 124) ?_
    rw [Json.ofText?_indented numbers, nesting_nestedTest]
    rfl
  obtain ⟨migrated, document⟩ := migrate_nestedTest { name := "User" } 124
  have left : after = _ := congrArg Prod.snd
    (run_migrate parse_migration rfl (engineOf_migration _) before)
  have reread : filterIn "f.json" (after.contentOf "f.json") = .error (.parse "f.json") := by
    rw [left, rewritten, migrated, if_pos rfl, Files.contentOf_write, document,
      filterIn_written (d := ⟨Document.currentVersion, [nestedTest 124]⟩)
        (storable_nestedTest 124) rfl numbers, nesting_nestedTest]
    rfl
  exact ⟨readFilter_run before, readFilter_run reread⟩

end RowFilter.CommandLine
