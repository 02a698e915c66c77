import RowFilter.CommandLine.Arguments
import RowFilter.Engine.Assembly
import RowFilter.Json.Parser

/-! # Running a command

A command reads its files, drives an engine over them, and prints one JSON value. Filters that
were changed are written back where that is asked for. The files are reached through
`FileAccess`, so that the same run can be made on a disk and in memory (`Files`). -/

namespace RowFilter.CommandLine

/-- Ways to read and to write files; a failure is a reason in words. -/
structure FileAccess (m : Type → Type) where
  read : String → m (Except String String)
  write : String → String → m (Except String Unit)

inductive CommandError where
  | read (path reason : String)
  | parse (path : String)
  | write (path reason : String)
  | engine (error : EngineError)
  | store (error : StoreError)

def CommandError.message : CommandError → String
  | read path reason => s!"failed to read {path}: {reason}"
  | parse path => s!"invalid JSON in {path}"
  | write path reason => s!"failed to write {path}: {reason}"
  | engine error => error.message
  | store error => error.message

/-- How a run ends. -/
inductive Ending where
  /-- A text is printed; the run is a success unless a filter is invalid. -/
  | printed (text : String) (success : Bool)
  | failed (message : String)
  | refused (refusal : Refusal)

def Ending.exitCode : Ending → UInt32
  | printed _ success => if success then 0 else 1
  | failed _ => 2
  | refused .information => 0
  | refused .usage => 2

section

variable [PatternEngine] {m : Type → Type} [Monad m]

abbrev Action (m : Type → Type) := ExceptT CommandError m

/-- Reads a file as a JSON value of some type. -/
def load (files : FileAccess m) (path : String) (read : Json → Option α) : Action m α := do
  match ← files.read path with
  | .error reason => throw (.read path reason)
  | .ok text =>
    match (Json.ofText? text).bind read with
    | some v => return v
    | none => throw (.parse path)

def save (files : FileAccess m) (path : String) (v : Json) : Action m Unit := do
  match ← files.write path (v.indented ++ "\n") with
  | .error reason => throw (.write path reason)
  | .ok () => return ()

def readFilter (files : FileAccess m) (path : String) : Action m Document :=
  load files path Document.ofStored?

/-- Runs a computation of the engine apart from any log. -/
def unlogged (x : Logged α) : α := (x.run []).1

/-- The engine that the arguments describe. -/
def engineOf (files : FileAccess m) (args : Arguments) : Action m Assembly := do
  let schema ← load files args.schema Schema.ofJson?
  let config ← match args.config with
    | some path => load files path Config.ofJson?
    | none => pure {}
  let config := match args.dialect with
    | some tag => { config with dialect := .named tag }
    | none => config
  return (Assembly.new schema .empty).withConfig config

def validateFilter (files : FileAccess m) (e : Assembly) (filter : String) :
    Action m (Json × Bool) := do
  let d ← readFilter files filter
  let v := unlogged (e.validate d.conditions)
  return (v.toJson, v.valid)

/-- Compiles a filter; with rows it is run on them, and with a search alone the criteria take it
in. -/
def compileFilter (files : FileAccess m) (e : Assembly) (filter : String) (data : Option String)
    (p : PageRequest) : Action m (Json × Bool) := do
  let d ← readFilter files filter
  match unlogged (e.prepare d) with
  | .error (.invalid v) => return (v.toJson, false)
  | .error error => throw (.engine error)
  | .ok prepared =>
    let p := { p with filters := prepared.report.document.conditions }
    let output (criteria : Criteria) (result : Option Page) : Json :=
      Json.objectOf
        [("criteria", some criteria.toJson), ("migrated", some (.bool prepared.report.migrated)),
         ("warnings", some (Json.ofStrings prepared.report.warnings)),
         ("result", result.map Page.toJson)]
    match data with
    | some path =>
      let rows ← load files path (Json.asArray? Json.asValue?)
      match Store.ofJson rows with
      | .error error => throw (.store error)
      | .ok store =>
        match unlogged (e.query store p) with
        | .error error => throw (.engine error)
        | .ok result => return (output prepared.criteria (some result), true)
    | none =>
      if p.globalSearch.isNone then return (output prepared.criteria none, true)
      else
        match unlogged (e.compile p) with
        | .error error => throw (.engine error)
        | .ok criteria => return (output criteria none, true)

/-- Migrates a filter, and writes it back if that is asked for and something was migrated. -/
def migrateFilter (files : FileAccess m) (e : Assembly) (filter : String) (write : Bool) :
    Action m (Json × Bool) := do
  let d ← readFilter files filter
  let report := unlogged (e.migrate d)
  if write && report.migrated then save files filter report.document.toJson
  return (report.toJson, report.validation.all fun v => v.valid)

/-- Sanitizes a filter, and writes it back if that is asked for and something was removed. -/
def sanitizeFilter (files : FileAccess m) (e : Assembly) (filter : String)
    (keepRawSql write : Bool) : Action m (Json × Bool) := do
  let d ← readFilter files filter
  let report := e.sanitize d.conditions { removeRawSql := !keepRawSql }
  if write && !report.removed.isEmpty then
    save files filter (Document.toJson ⟨d.version, report.conditions⟩)
  return (report.toJson, true)

def perform (files : FileAccess m) (e : Assembly) : Command → Action m (Json × Bool)
  | .validate filter => validateFilter files e filter
  | .compile filter data page limit sort descending search =>
    compileFilter files e filter data
      { page, limit, sort, globalSearch := search
        sortDirection := if sort.isSome && descending then .descending else .ascending }
  | .migrate filter write => migrateFilter files e filter write
  | .sanitize filter keepRawSql write => sanitizeFilter files e filter keepRawSql write

/-- Runs the program on its arguments. -/
def run (files : FileAccess m) (args : List String) : m Ending := do
  match Arguments.parse args with
  | .error refusal => return .refused refusal
  | .ok args =>
    let result ← (do perform files (← engineOf files args) args.command : Action m _).run
    match result with
    | .error error => return .failed error.message
    | .ok (v, success) =>
      return .printed (match args.format with
        | .json => v.compact
        | .pretty => v.indented) success

end

/-- Files in memory: paths and texts. -/
abbrev Files := List (String × String)

namespace Files

/-- A path without the steps to the current directory at its head. -/
def normalize (fuel : Nat) (path : List Char) : List Char :=
  match fuel, path with
  | fuel + 1, '.' :: '/' :: rest => normalize fuel (rest.dropWhile (· == '/'))
  | _, path => path

def key (path : String) : String := String.ofList (normalize path.length path.toList)

def read (path : String) : StateM Files (Except String String) := fun files =>
  match files.lookup (key path) with
  | some text => (.ok text, files)
  | none =>
    let reason :=
      if key path = "." || key path = "" then "Is a directory (os error 21)"
      else "No such file or directory (os error 2)"
    (.error reason, files)

def write (path text : String) : StateM Files (Except String Unit) := fun files =>
  (.ok (), (key path, text) :: files.filter fun f => f.1 != key path)

def access : FileAccess (StateM Files) := { read, write }

end Files

end RowFilter.CommandLine
