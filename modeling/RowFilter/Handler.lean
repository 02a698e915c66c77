import RowFilter.Criteria.Basic
import RowFilter.Dialect
import RowFilter.NameMap

/-! # Handlers for custom predicates

A handler compiles predicates that no operator can express. Handlers are registered under ids,
by custom the name of a model, a point and a field. -/

namespace RowFilter

inductive HandlerError where
  | invalidValue (reason : String)
  | unsupportedOperator (operator : String)
  | unsupportedDialect (dialect : String)
  | failed (reason : String)
  deriving DecidableEq, Repr

def HandlerError.message : HandlerError → String
  | invalidValue reason => "invalid value: " ++ reason
  | unsupportedOperator operator => s!"unsupported operator '{operator}'"
  | unsupportedDialect dialect => s!"unsupported dialect '{dialect}'"
  | failed reason => reason

structure Handler where
  /-- The fragment for an operator's tag, an operand, a dialect and extra parameters. -/
  build : String → Json → Dialect → Option Json → Except HandlerError Criteria
  /-- A check of the operand; the error is shown to the user. -/
  validate : Json → Except String Unit := fun _ => .ok ()

inductive RegistryError where
  | alreadyRegistered (id : String)
  deriving DecidableEq, Repr

def RegistryError.message : RegistryError → String
  | alreadyRegistered id => s!"custom handler '{id}' is already registered"

/-- The handlers by id. -/
abbrev Registry := NameMap Handler

namespace Registry

/-- Registers a handler; an id that is taken is an error unless its handler is to be replaced. -/
def add (r : Registry) (id : String) (h : Handler) (force : Bool) :
    Except RegistryError Registry :=
  if r.contains id && !force then .error (.alreadyRegistered id) else .ok (r.insert id h)

def ofModel (r : Registry) (model : String) : Registry :=
  r.filter fun id => (model ++ ".").isPrefixOf id

end Registry

end RowFilter
