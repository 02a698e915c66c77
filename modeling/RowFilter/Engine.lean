import RowFilter.Engine.Assembly

/-! # The filter engine

An engine serves the rows of one schema. Its validator, compiler and migrator are all drawn from
one configuration, one registry of handlers and one logger. -/

namespace RowFilter

structure Engine where
  schema : Schema
  config : Config := {}
  registry : Registry := .empty
  logger : Logger := .discarding
  formatter : Option CellFormatter := none
  transforms : List (UInt32 × Transform) := ({} : Migrator).transforms

namespace Engine

variable [PatternEngine]

def validator (e : Engine) : Validator :=
  { fields := e.schema.fields, limits := e.config.limits, allowed := e.config.allowedFields,
    registry := some e.registry, logger := e.logger }

def compiler (e : Engine) : Compiler :=
  { schema := e.schema, config := e.config, registry := e.registry, formatter := e.formatter }

def migrator (e : Engine) : Migrator :=
  { transforms := e.transforms, registry := some e.registry, logger := e.logger }

/-- The engine put together, one setting after the other. -/
def assembly (e : Engine) : Assembly :=
  let a := (((Assembly.new e.schema .empty).withRegistry e.registry).withLogger e.logger).withConfig
    e.config
  let a := match e.formatter with
    | some formatter => a.withFormatter formatter
    | none => a
  { a with migrator := { a.migrator with transforms := e.transforms } }

def addTransform (e : Engine) (version : UInt32) (transform : Transform) : Engine :=
  { e with transforms := (e.migrator.addTransform version transform).transforms }

def addHandler (e : Engine) (id : String) (h : Handler) (force : Bool) :
    Except EngineError Engine :=
  match e.registry.add id h force with
  | .ok registry => .ok { e with registry }
  | .error error => .error (.registry error)

def validate (e : Engine) (forest : List Condition) : Logged Validation :=
  e.validator.validate forest

/-- Migrates a document and validates it against the schema. -/
def migrate (e : Engine) (d : Document) : Logged MigrationOutcome :=
  e.migrator.bringUpToDate d (some e.schema.fields) e.config.migrationPolicy

def sanitize (e : Engine) (forest : List Condition) (o : SanitizingPolicy) : Sanitized :=
  Sanitizer.sanitize e.schema.fields o forest

/-- Migrates, validates and compiles a stored filter. -/
def prepare (e : Engine) (d : Document) : Logged (Except EngineError ReadyFilter) :=
  e.assembly.prepare d

/-- Validates the filters of a request and compiles it. -/
def compile (e : Engine) (p : PageRequest) : Logged (Except EngineError Criteria) :=
  e.assembly.compile p

/-- Validates a request and runs it on a store. -/
def query (e : Engine) (store : Store) (p : PageRequest) : Logged (Except EngineError Page) :=
  e.assembly.query store p

end Engine

end RowFilter
