import RowFilter.Handler
import RowFilter.Json.Printer
import RowFilter.Operator
import RowFilter.Security.Limits
import RowFilter.Security.RawText
import RowFilter.Unicode.Lowercase

/-! # Constraints of operators

Compilation relies on no earlier check: an operand that does not fit its operator, or exceeds
the limits, is an error here again. -/

namespace RowFilter

/-- What is wrong with a predicate or its operand. -/
inductive PredicateFault where
  | valueRequired (op : Operator)
  | textRequired (op : Operator)
  | valuesRequired (op : Operator)
  | patternRequired
  /-- A text that the engine does not take as a pattern, with its reason. -/
  | invalidPattern (reason : String)
  | pairRequired
  | relationFieldRequired
  | fieldRequired
  deriving DecidableEq, Repr

def PredicateFault.message : PredicateFault → String
  | valueRequired op => s!"operator '{op.tag}' requires a value"
  | textRequired op => s!"operator '{op.tag}' requires a text value"
  | valuesRequired op => s!"operator '{op.tag}' requires at least one value"
  | patternRequired => "regex requires a string pattern"
  | invalidPattern reason => "invalid regular expression: " ++ reason
  | pairRequired => "between requires an array of exactly two values"
  | relationFieldRequired => "relation predicate requires a relation field"
  | fieldRequired => "predicate requires a field"

/-- Why a filter cannot be compiled, and at which condition. -/
inductive CompileError where
  | notRequiresOne (id : String) (found : Nat)
  | maxDepthExceeded (id : String) (max : Nat)
  | tooManyConditions (id : String) (count max : Nat)
  | invalidLogic (id tag : String)
  | unknownOperator (id tag : String)
  | invalidValue (id : String) (fault : PredicateFault)
  | tooManyInValues (id : String) (count max : Nat)
  | stringTooLong (id : String) (length max : Nat)
  | dangerousSql (id : String) (pattern : DangerousPattern)
  | handler (id : String) (error : HandlerError)
  deriving DecidableEq, Repr

def CompileError.message : CompileError → String
  | notRequiresOne id found =>
    s!"NOT operator requires exactly one condition (condition {id}, found {found})"
  | maxDepthExceeded id max => s!"condition {id} exceeds maximum nesting depth of {max}"
  | tooManyConditions id count max => s!"group {id} has {count} conditions, maximum is {max}"
  | invalidLogic id tag => s!"invalid logic operator '{tag}' on condition {id}"
  | unknownOperator id tag => s!"unknown operator '{tag}' on condition {id}"
  | invalidValue id fault => s!"invalid value for condition {id}: {fault.message}"
  | tooManyInValues id count max => s!"condition {id} has {count} list values, maximum is {max}"
  | stringTooLong id length max =>
    s!"condition {id} has a string of {length} characters, maximum is {max}"
  | dangerousSql id pattern =>
    s!"raw SQL on condition {id} contains a dangerous pattern ({pattern.name})"
  | handler id error => s!"custom handler '{id}' failed: {error.message}"

namespace Constraint

variable [PatternEngine]

/-- The length of the longest string that an operand is or lists. -/
def longestListed : Json → Nat
  | .string s => s.length
  | .array items =>
    items.foldl (fun n v => match v with
      | .string s => max n s.length
      | _ => n) 0
  | _ => 0

/-- The text of a scalar operand. -/
def operandText (id : String) (op : Operator) (v : Json) : Except CompileError String :=
  match v with
  | .string s => .ok s
  | .number n => .ok n.text
  | .bool b => .ok (if b then "true" else "false")
  | _ => .error (.invalidValue id (.textRequired op))

/-- The values of a membership test; a scalar is a list of one. -/
def operandList (id : String) (op : Operator) (limits : Limits) (v : Json) :
    Except CompileError (List Json) :=
  let vs := match v with
    | .array items => items
    | v => [v]
  if vs.isEmpty then .error (.invalidValue id (.valuesRequired op))
  else if limits.maxInValues < vs.length then
    .error (.tooManyInValues id vs.length limits.maxInValues)
  else .ok vs

/-- The constraint of an operator on an operand that is there. -/
def ofOperand (id : String) (op : Operator) (v : Json) (dialect : Dialect) (limits : Limits) :
    Except CompileError Constraint :=
  match op with
  | .eq | .custom => .ok (eq v)
  | .neq => .ok (ne v)
  | .gt => .ok (gt v)
  | .gte => .ok (gte v)
  | .lt => .ok (lt v)
  | .lte => .ok (lte v)
  | .like => (operandText id op v).map contains
  | .ilike =>
    (operandText id op v).map fun s =>
      if dialect.ignoresCaseNatively then iContains s else lowerContains (Unicode.toLowercase s)
  | .startsWith => (operandText id op v).map startsWith
  | .endsWith => (operandText id op v).map endsWith
  | .regex =>
    match v with
    | .string pattern =>
      match PatternEngine.compile pattern with
      | .ok _ => .ok (regexp pattern)
      | .error reason => .error (.invalidValue id (.invalidPattern reason))
    | _ => .error (.invalidValue id .patternRequired)
  | .isIn => (operandList id op limits v).map isIn
  | .notIn => (operandList id op limits v).map notIn
  | .between =>
    match v with
    | .array [low, high] => .ok (range low high)
    | _ => .error (.invalidValue id .pairRequired)
  | .isNull => .ok isNull
  | .isNotNull => .ok isNotNull

/-- The constraint of an operator and its operand, for the condition `id`. -/
def ofOperator (id : String) (op : Operator) (value : Option Json) (dialect : Dialect)
    (limits : Limits) : Except CompileError Constraint :=
  if !op.needsOperand then ofOperand id op .null dialect limits
  else
    match value.filter fun v => !v.isNull with
    | none => .error (.invalidValue id (.valueRequired op))
    | some v =>
      let longest := longestListed v
      if limits.maxStringLength < longest then
        .error (.stringTooLong id longest limits.maxStringLength)
      else ofOperand id op v dialect limits

end Constraint

end RowFilter
