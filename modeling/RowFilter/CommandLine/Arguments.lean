/-! # Command-line arguments

Options stand before the name of a command, and a command has options of its own. An option is
given once; its value is the next argument, or follows it at once. -/

namespace RowFilter.CommandLine

inductive Layout where
  | json
  | pretty
  deriving DecidableEq, Repr

inductive Command where
  | validate (filter : String)
  | compile (filter : String) (data : Option String) (page limit : UInt32)
      (sort : Option String) (descending : Bool) (search : Option String)
  | migrate (filter : String) (write : Bool)
  | sanitize (filter : String) (keepRawSql write : Bool)
  deriving DecidableEq, Repr

structure Arguments where
  schema : String
  config : Option String
  dialect : Option String
  format : Layout
  command : Command
  deriving DecidableEq, Repr

/-- Why arguments do not make up a run. -/
inductive Refusal where
  /-- Help or the version is asked for. -/
  | information
  | usage
  deriving DecidableEq, Repr

/-- An option: its name, and for one that takes a value which values it takes. -/
structure OptionSpec where
  name : String
  short : Option Char := none
  accepts : Option (String → Bool) := none
  /-- Whether the option asks for information and ends the reading. -/
  informs : Bool := false

def anyText : String → Bool := fun _ => true

/-- Paths are not empty. -/
def isPath (s : String) : Bool := !s.isEmpty

/-- An optional sign and decimal digits, within 32 bits. -/
def number? (s : String) : Option UInt32 :=
  let (negative, ds) : Bool × List Char :=
    match s.toList with
    | '+' :: ds => (false, ds)
    | '-' :: ds => (true, ds)
    | ds => (false, ds)
  let n := ds.foldl (fun n c => 10 * n + (c.toNat - 48)) 0
  if ds.isEmpty || !ds.all Char.isDigit then none
  else if negative then (if n = 0 then some 0 else none)
  else if n < Nat.pow 2 32 then some (UInt32.ofNat n)
  else none

def isNumber (s : String) : Bool := (number? s).isSome

def format? (s : String) : Option Layout :=
  if s = "json" then some .json else if s = "pretty" then some .pretty else none

def helpOption : OptionSpec := { name := "help", short := some 'h', informs := true }

def globalOptions : List OptionSpec :=
  [{ name := "schema", short := some 's', accepts := some isPath },
   { name := "config", short := some 'c', accepts := some isPath },
   { name := "dialect", short := some 'd', accepts := some anyText },
   { name := "format", accepts := some fun s => (format? s).isSome },
   helpOption,
   { name := "version", short := some 'V', informs := true }]

/-- The options of each command. -/
def commandOptions : List (String × List OptionSpec) :=
  [("validate", [helpOption]),
   ("compile",
     [{ name := "data", accepts := some isPath },
      { name := "page", accepts := some isNumber },
      { name := "limit", accepts := some isNumber },
      { name := "sort", accepts := some anyText },
      { name := "desc" },
      { name := "search", accepts := some anyText },
      helpOption]),
   ("migrate", [{ name := "write" }, helpOption]),
   ("sanitize", [{ name := "keep-raw-sql" }, { name := "write" }, helpOption])]

/-- The options read so far, flags with an empty value, and the arguments that are no options. -/
structure Scanned where
  options : List (String × String) := []
  positionals : List String := []

def Scanned.value? (s : Scanned) (name : String) : Option String := s.options.lookup name

def Scanned.has (s : Scanned) (name : String) : Bool := (s.value? name).isSome

/-- Adds an option; a second time is refused, and so is a value that it does not take. -/
def Scanned.add (s : Scanned) (spec : OptionSpec) (value : Option String) :
    Except Refusal Scanned :=
  if spec.informs then (if value.isNone then .error .information else .error .usage)
  else if s.has spec.name then .error .usage
  else
    match spec.accepts, value with
    | none, none => .ok { s with options := (spec.name, "") :: s.options }
    | some accepts, some v =>
      if accepts v then .ok { s with options := (spec.name, v) :: s.options } else .error .usage
    | _, _ => .error .usage

/-- The first part of a text up to a mark, and what follows the mark. -/
def splitAtMark (mark : Char) : List Char → List Char × Option (List Char)
  | [] => ([], none)
  | c :: rest =>
    if c = mark then ([], some rest)
    else let (a, b) := splitAtMark mark rest; (c :: a, b)

/-- What an argument that begins with a hyphen says: an option and the value attached to it. -/
def readOption? (specs : List OptionSpec) (arg : List Char) :
    Option (OptionSpec × Option String) :=
  match arg with
  | '-' :: '-' :: rest =>
    let (name, value) := splitAtMark '=' rest
    (specs.find? fun o => o.name == String.ofList name).map fun o => (o, value.map String.ofList)
  | '-' :: c :: rest =>
    (specs.find? fun o => o.short == some c).map fun o =>
      if o.accepts.isNone || rest.isEmpty then (o, none)
      else
        let value := match rest with
          | '=' :: v => v
          | v => v
        (o, some (String.ofList value))
  | _ => none

def looksLikeOption (arg : String) : Bool := arg.toList.head? == some '-' && arg != "-"

/-- Reads options; `single` ends the reading at the first argument that is none and leaves the
rest unread. A double hyphen ends the options. -/
def scan (specs : List OptionSpec) (single : Bool) (s : Scanned) :
    List String → Except Refusal (Scanned × List String)
  | [] => .ok (s, [])
  | arg :: rest =>
    if arg = "--" then
      if single then .error .usage
      else .ok ({ s with positionals := s.positionals ++ rest }, [])
    else if looksLikeOption arg then
      match readOption? specs arg.toList with
      | none => .error .usage
      | some (spec, some value) => do scan specs single (← s.add spec (some value)) rest
      | some (spec, none) =>
        if spec.accepts.isNone then do scan specs single (← s.add spec none) rest
        else
          match rest with
          | value :: rest =>
            if looksLikeOption value then .error .usage
            else do scan specs single (← s.add spec (some value)) rest
          | [] => .error .usage
    else if single then .ok (s, arg :: rest)
    else if s.positionals.isEmpty then
      scan specs single { s with positionals := [arg] } rest
    else .error .usage

/-- The one argument of a command, the path of a filter. -/
def filterPath (s : Scanned) : Except Refusal String :=
  match s.positionals with
  | [path] => if isPath path then .ok path else .error .usage
  | _ => .error .usage

def readCommand (name : String) (s : Scanned) : Except Refusal Command := do
  let filter ← filterPath s
  match name with
  | "validate" => return .validate filter
  | "compile" =>
    return .compile filter (s.value? "data") (((s.value? "page").bind number?).getD 1)
      (((s.value? "limit").bind number?).getD 0) (s.value? "sort") (s.has "desc")
      (s.value? "search")
  | "migrate" => return .migrate filter (s.has "write")
  | "sanitize" => return .sanitize filter (s.has "keep-raw-sql") (s.has "write")
  | _ => .error .usage

/-- Reads the arguments of a run. -/
def Arguments.parse (args : List String) : Except Refusal Arguments := do
  let (globals, rest) ← scan globalOptions true {} args
  match rest with
  | [] => .error .usage
  | ["help"] => .error .information
  | ["help", name] =>
    .error (if name == "help" || (commandOptions.lookup name).isSome then .information else .usage)
  | name :: rest =>
    match commandOptions.lookup name with
    | none => .error .usage
    | some specs =>
      let (own, _) ← scan specs false {} rest
      let command ← readCommand name own
      match globals.value? "schema" with
      | none => .error .usage
      | some schema =>
        return { schema, config := globals.value? "config", dialect := globals.value? "dialect"
                 format := ((globals.value? "format").bind format?).getD .pretty
                 command }

end RowFilter.CommandLine
