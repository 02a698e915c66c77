import RowFilter.Condition.Tree
import RowFilter.Handler
import RowFilter.Operand
import RowFilter.Security.RawText

/-! # Validation of filters

A validator goes through a forest and reports every fault it finds, in document order. Faults
that look hostile raise security events besides. Nothing below a node that is too deep or a
group that is too large is looked at. -/

namespace RowFilter

/-- The stable code of a fault. -/
inductive ErrorCode where
  | maxDepthExceeded
  | tooManyConditions
  | invalidLogic
  | notRequiresOne
  | dangerousSql
  | paramMismatch
  | fieldRequired
  | fieldNotAllowed
  | unknownField
  | operatorRequired
  | invalidOperator
  | invalidValue
  deriving DecidableEq, Repr

namespace ErrorCode

def all : List ErrorCode :=
  [maxDepthExceeded, tooManyConditions, invalidLogic, notRequiresOne, dangerousSql, paramMismatch,
   fieldRequired, fieldNotAllowed, unknownField, operatorRequired, invalidOperator, invalidValue]

def tag : ErrorCode → String
  | maxDepthExceeded => "MAX_DEPTH_EXCEEDED"
  | tooManyConditions => "TOO_MANY_CONDITIONS"
  | invalidLogic => "INVALID_LOGIC"
  | notRequiresOne => "NOT_REQUIRES_ONE"
  | dangerousSql => "DANGEROUS_SQL"
  | paramMismatch => "PARAM_MISMATCH"
  | fieldRequired => "FIELD_REQUIRED"
  | fieldNotAllowed => "FIELD_NOT_ALLOWED"
  | unknownField => "UNKNOWN_FIELD"
  | operatorRequired => "OPERATOR_REQUIRED"
  | invalidOperator => "INVALID_OPERATOR"
  | invalidValue => "INVALID_VALUE"

def ofJson? (v : Json) : Option ErrorCode :=
  v.asTag?.bind fun tag => all.find? fun c => c.tag == tag

end ErrorCode

/-- Why a node is refused. -/
inductive Fault where
  | tooDeep (max : Nat)
  | tooManyConditions (count max : Nat)
  | invalidLogic (tag : String)
  | notRequiresOne
  | dangerousText (pattern : DangerousPattern)
  | paramMismatch (expected given : Nat)
  | refusedByHandler (reason : String)
  | relationFieldRequired
  | fieldRequired
  | notAllowed (field : String)
  | unknownRelation (relation : String)
  | unknownField (field : String)
  | operatorRequired
  /-- An operator that is unknown or does not suit the kind of field. -/
  | invalidOperator (tag kind : String)
  | badOperand (fault : OperandFault)

namespace Fault

def code : Fault → ErrorCode
  | tooDeep _ => .maxDepthExceeded
  | tooManyConditions .. => .tooManyConditions
  | invalidLogic _ => .invalidLogic
  | notRequiresOne => .notRequiresOne
  | dangerousText _ => .dangerousSql
  | paramMismatch .. => .paramMismatch
  | refusedByHandler _ => .invalidValue
  | relationFieldRequired | fieldRequired => .fieldRequired
  | notAllowed _ => .fieldNotAllowed
  | unknownRelation _ | unknownField _ => .unknownField
  | operatorRequired => .operatorRequired
  | invalidOperator .. => .invalidOperator
  | badOperand _ => .invalidValue

def message : Fault → String
  | tooDeep max => s!"Maximum nesting depth of {max} exceeded"
  | tooManyConditions count max => s!"Too many conditions in group ({count}), maximum is {max}"
  | invalidLogic tag => s!"Invalid logic operator '{tag}'"
  | notRequiresOne => "NOT operator requires exactly one condition"
  | dangerousText pattern => s!"Raw SQL contains a dangerous pattern ({pattern.name})"
  | paramMismatch expected given =>
    s!"Raw SQL expects {expected} parameters but {given} were given"
  | refusedByHandler reason => reason
  | relationFieldRequired => "Relation field is required"
  | fieldRequired => "Field is required"
  | notAllowed field => s!"Field '{field}' is not allowed"
  | unknownRelation relation => s!"Unknown relation '{relation}'"
  | unknownField field => s!"Unknown field '{field}'"
  | operatorRequired => "Operator is required"
  | invalidOperator tag kind => s!"Operator '{tag}' is not valid for {kind} fields"
  | badOperand fault => fault.message

/-- The event that a fault raises, if it looks hostile. -/
def eventKind? : Fault → Option SecurityEventKind
  | tooDeep _ => some .maxDepthExceeded
  | tooManyConditions .. => some .tooManyConditions
  | dangerousText _ => some .dangerousSql
  | badOperand fault => fault.eventKind?
  | _ => none

end Fault

/-- A fault of one node: the field it is about and the value that an event would show. -/
structure Finding where
  conditionId : String
  field : Option String := none
  fault : Fault
  shown : Option Json := none

/-- One reason why a filter is refused. -/
structure ValidationError where
  conditionId : String
  field : Option String
  message : String
  code : ErrorCode
  deriving DecidableEq

namespace ValidationError

def display (e : ValidationError) : String := s!"[{e.code.tag}] {e.conditionId}: {e.message}"

def ofJson? (v : Json) : Option ValidationError := do
  let r ← v.record? ["conditionId", "field", "message", "code"]
  let conditionId ← Json.required? r "conditionId" Json.asString?
  let field ← Json.optional? r "field" Json.asString?
  let message ← Json.required? r "message" Json.asString?
  let code ← Json.required? r "code" ErrorCode.ofJson?
  some { conditionId, field, message, code }

def toJson (e : ValidationError) : Json :=
  Json.objectOf
    [("conditionId", some (.string e.conditionId)), ("field", e.field.map .string),
     ("message", some (.string e.message)), ("code", some (.string e.code.tag))]

end ValidationError

namespace Finding

def error (f : Finding) : ValidationError :=
  { conditionId := f.conditionId, field := f.field, message := f.fault.message,
    code := f.fault.code }

def event? (f : Finding) : Option SecurityEvent :=
  f.fault.eventKind?.map fun kind =>
    { kind, conditionId := f.conditionId, details := f.fault.message,
      value := f.shown.map SecurityEvent.shortened }

end Finding

/-- The outcome of a validation. -/
structure Validation where
  valid : Bool
  errors : List ValidationError
  events : List SecurityEvent

namespace Validation

def ofParts (errors : List ValidationError) (events : List SecurityEvent) : Validation :=
  { valid := errors.isEmpty, errors, events }

/-- Events are written only where there are any. -/
def toJson (v : Validation) : Json :=
  Json.objectOf
    [("valid", some (.bool v.valid)),
     ("errors", some (.array (v.errors.map ValidationError.toJson))),
     ("securityEvents",
      if v.events.isEmpty then none else some (.array (v.events.map SecurityEvent.toJson)))]

end Validation

structure Validator where
  fields : Fields
  limits : Limits := {}
  /-- The fields and relations that may be tested, where that is restricted. -/
  allowed : Option (List String) := none
  registry : Option Registry := none
  logger : Logger := .discarding

namespace Validator

variable [PatternEngine]

def allows (v : Validator) (field : String) : Bool :=
  match v.allowed with
  | none => true
  | some names => names.contains field

/-- A text that is there and not empty. -/
def given? (text : Option String) : Option String := text.filter fun s => !s.isEmpty

/-- The fault of a group itself. -/
def groupFault? (v : Validator) (logic : Option String) (children : Nat) : Option Fault :=
  if v.limits.maxConditionsPerGroup < children then
    some (.tooManyConditions children v.limits.maxConditionsPerGroup)
  else
    match logic with
    | none => none
    | some tag =>
      match Logic.ofTag? tag with
      | none => some (.invalidLogic tag)
      | some .not => if children = 1 then none else some .notRequiresOne
      | some _ => none

def rawFault? (text : String) (params : Option (List Json)) : Option Fault :=
  match DangerousPattern.find? text with
  | some pattern => some (.dangerousText pattern)
  | none =>
    match params with
    | none => none
    | some params =>
      let expected := RawText.placeholderCount text
      if expected = params.length then none else some (.paramMismatch expected params.length)

/-- A registered handler may refuse an operand; one that is not registered is no fault. -/
def customFault? (v : Validator) (handler : String) (value : Option Json) : Option Fault :=
  match v.registry.bind fun r => r.get? handler with
  | none => none
  | some h =>
    match h.validate (value.getD .null) with
    | .ok () => none
    | .error reason => some (.refusedByHandler reason)

/-- The fault of an operator and its operand on a field of the given configuration. -/
def testFault? (v : Validator) (operator : Option String) (value : Option Json)
    (config : Option FieldConfig) : Option Fault :=
  match given? operator with
  | none => some .operatorRequired
  | some tag =>
    match (Operator.ofTag? tag).filter fun op => config.all fun c => c.kind.allows op with
    | none => some (.invalidOperator tag ((config.map fun c => c.kind.tag).getD "relation"))
    | some op =>
      match Operand.check op value config v.limits with
      | .ok () => none
      | .error fault => some (.badOperand fault)

/-- The fault of a leaf, with the field it is reported on. -/
def leafFault? (v : Validator) : Predicate → Option (Option String × Fault)
  | .raw text params => (rawFault? text params).map (none, ·)
  | .custom handler _ value _ => (v.customFault? handler value).map (none, ·)
  | .relation relation field operator value =>
    match given? field with
    | none => some (some relation, .relationFieldRequired)
    | some field =>
      if !v.allows relation then some (some relation, .notAllowed relation)
      else if !((v.fields.get? relation).any fun c => c.kind.isReference) then
        some (some relation, .unknownRelation relation)
      else (v.testFault? operator value none).map (some field, ·)
  | .field field operator value =>
    match given? field with
    | none => some (none, .fieldRequired)
    | some field =>
      if !v.allows field then some (some field, .notAllowed field)
      else
        match v.fields.get? field with
        | none => some (some field, .unknownField field)
        | some config => (v.testFault? operator value (some config)).map (some field, ·)

/-- The value that an event about a leaf shows. -/
def shownValue : Predicate → Option Json
  | .raw text _ => some (.string text)
  | .custom _ _ value _ | .relation _ _ _ value | .field _ _ value => value

/-- What has been reported so far, and the log. -/
structure Progress where
  errors : List ValidationError := []
  events : List SecurityEvent := []
  log : List SecurityEvent

/-- Reports a finding; an event is logged as it is raised. -/
def Progress.report (p : Progress) (logger : Logger) (f : Finding) : Progress :=
  match f.event? with
  | none => { p with errors := p.errors ++ [f.error] }
  | some e =>
    { errors := p.errors ++ [f.error], events := p.events ++ [e], log := logger p.log e }

/-- The finding about a node itself at a given depth, and whether its children are visited. -/
def inspect (v : Validator) (depth : Nat) (c : Condition) : Option Finding × Bool :=
  if v.limits.maxDepth < depth then
    (some { conditionId := c.id, fault := .tooDeep v.limits.maxDepth }, false)
  else
    match c with
    | .group clause children =>
      ((v.groupFault? clause.logic children.length).map fun fault => { conditionId := c.id, fault },
        children.length ≤ v.limits.maxConditionsPerGroup)
    | .leaf clause =>
      ((v.leafFault? clause.predicate).map fun (field, fault) =>
        { conditionId := c.id, field, fault, shown := shownValue clause.predicate }, false)

/-- Visits pending trees, each at its own depth. -/
def visit (v : Validator) (p : Progress) : List (Nat × Condition) → Progress
  | [] => p
  | (depth, c) :: pending =>
    let (finding, descend) := v.inspect depth c
    let p := match finding with
      | none => p
      | some f => p.report v.logger f
    let below := if descend then c.children.map fun child => (depth + 1, child) else []
    v.visit p (below ++ pending)
termination_by pending => Condition.forestSize (pending.map Prod.snd)
decreasing_by
  have smaller : Condition.forestSize c.children < c.size := by
    cases c <;> simp [Condition.children, Condition.size, Condition.forestSize]
  have := c.size_pos
  split <;> simp [Condition.forestSize, Function.comp_def] <;> omega

/-- Validates a forest, logging events on the way. -/
def validate (v : Validator) (forest : List Condition) : Logged Validation := fun log =>
  let p := v.visit { log } (forest.map fun c => (0, c))
  (Validation.ofParts p.errors p.events, p.log)

end Validator

end RowFilter
