import RowFilter.Migration.Migrator
import RowFilter.Sanitizing
import RowFilter.Store

/-! # Putting an engine together

An engine is assembled from a validator, a compiler and a migrator. Each part holds the settings
that it works by, so a new setting has to reach all the parts that hold the old one.
-/

namespace RowFilter

/-- Why an engine refuses a filter or a request. -/
inductive EngineError where
  | invalid (validation : Validation)
  | query (error : QueryError)
  | registry (error : RegistryError)

def EngineError.message : EngineError → String
  | invalid validation => s!"filter is invalid: {validation.errors.length} error(s)"
  | query error => error.message
  | registry error => error.message

/-- A stored filter that has been migrated, validated and compiled. -/
structure ReadyFilter where
  criteria : Criteria
  /-- What the migration did; its validation stands apart. -/
  report : MigrationOutcome
  validation : Validation

structure Assembly where
  compiler : Compiler
  validator : Validator
  migrator : Migrator
  registry : Registry
  /-- Kept so that a new validator can be given it. -/
  logger : Option Logger := none

namespace Assembly

variable [PatternEngine]

def validatorFor (schema : Schema) (config : Config) (registry : Registry) : Validator :=
  { fields := schema.fields, limits := config.limits, allowed := config.allowedFields,
    registry := some registry }

/-- An engine with the standard configuration and the registry that all engines have in common. -/
def new (schema : Schema) (common : Registry) : Assembly :=
  { compiler := { schema, registry := common }
    validator := validatorFor schema {} common
    migrator := { registry := some common }
    registry := common }

/-- The validator is made anew, since a configuration without an allow-list lifts the old one. -/
def withConfig (a : Assembly) (config : Config) : Assembly :=
  let validator := validatorFor a.compiler.schema config a.registry
  let validator := match a.logger with
    | some logger => { validator with logger }
    | none => validator
  { a with validator, compiler := { a.compiler with config } }

def withRegistry (a : Assembly) (registry : Registry) : Assembly :=
  { a with
    compiler := { a.compiler with registry }
    validator := { a.validator with registry := some registry }
    migrator := { a.migrator with registry := some registry }
    registry }

def withLogger (a : Assembly) (logger : Logger) : Assembly :=
  { a with
    validator := { a.validator with logger }
    migrator := { a.migrator with logger }
    logger := some logger }

def withFormatter (a : Assembly) (formatter : CellFormatter) : Assembly :=
  { a with compiler := { a.compiler with formatter := some formatter } }

def validate (a : Assembly) (forest : List Condition) : Logged Validation :=
  a.validator.validate forest

/-- Migrates a document and validates it against the schema. -/
def migrate (a : Assembly) (d : Document) : Logged MigrationOutcome :=
  a.migrator.bringUpToDate d (some a.compiler.schema.fields) a.compiler.config.migrationPolicy

def sanitize (a : Assembly) (forest : List Condition) (o : SanitizingPolicy) : Sanitized :=
  Sanitizer.sanitize a.compiler.schema.fields o forest

/-- Migrates, validates and compiles a stored filter. -/
def prepare (a : Assembly) (d : Document) : Logged (Except EngineError ReadyFilter) := do
  let report ← a.migrate d
  let validation ← match report.validation with
    | some v => pure v
    | none => a.validate report.document.conditions
  let report := { report with validation := none }
  if !validation.valid then return .error (.invalid validation)
  match a.compiler.criteriaOfForest report.document.conditions .and with
  | .error error => return .error (.query (.compile error))
  | .ok criteria => return .ok { criteria, report, validation }

/-- Validates the filters of a request and compiles it. -/
def compile (a : Assembly) (p : PageRequest) : Logged (Except EngineError Criteria) := do
  let validation ← a.validate p.filters
  if !validation.valid then return .error (.invalid validation)
  return (a.compiler.criteriaOfRequest p).mapError fun error => .query (.compile error)

/-- Validates a request and runs it on a store. -/
def query (a : Assembly) (store : Store) (p : PageRequest) :
    Logged (Except EngineError Page) := do
  let validation ← a.validate p.filters
  if !validation.valid then return .error (.invalid validation)
  return (a.compiler.answer store p).mapError .query

end Assembly

end RowFilter
