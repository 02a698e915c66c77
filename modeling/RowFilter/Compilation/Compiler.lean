import RowFilter.Compilation.Search
import RowFilter.Condition.Tree
import RowFilter.Config
import RowFilter.Query.Request

/-! # Compilation of filters

A forest is compiled to criteria for the rows of one schema. Parts that say nothing are dropped
on the way, and a group of one part is that part. -/

namespace RowFilter

/-- A function that may replace the display of a field: given the name, the raw value and the
whole row. -/
abbrev CellFormatter := String → Json → Row → Option Json

structure Compiler where
  schema : Schema
  config : Config := {}
  registry : Registry := .empty
  formatter : Option CellFormatter := none

namespace Compiler

variable [PatternEngine]

/-- The id of the group around the top-level conditions. -/
def rootId : String := "root"

/-- A text that is there and not empty. -/
def named (id : String) (text : Option String) (fault : PredicateFault) :
    Except CompileError String :=
  match text.filter fun s => !s.isEmpty with
  | some s => .ok s
  | none => .error (.invalidValue id fault)

def operator (id : String) (tag : Option String) : Except CompileError Operator :=
  let tag := tag.getD ""
  match Operator.ofTag? tag with
  | some op => .ok op
  | none => .error (.unknownOperator id tag)

def constraint (k : Compiler) (id : String) (tag : Option String) (value : Option Json) :
    Except CompileError Constraint := do
  let op ← operator id tag
  Constraint.ofOperator id op value k.config.dialect k.config.limits

/-- A predicate of a handler that is not registered says nothing. -/
def criteriaOfHandler (k : Compiler) (handler : String) (tag : Option String)
    (value params : Option Json) : Except CompileError Criteria :=
  match k.registry.get? handler with
  | none => .ok .empty
  | some h =>
    match h.build (tag.getD Operator.custom.tag) (value.getD .null) k.config.dialect params with
    | .ok c => .ok c
    | .error e => .error (.handler handler e)

def criteriaOfPredicate (k : Compiler) (id : String) : Predicate → Except CompileError Criteria
  | .raw text params =>
    match DangerousPattern.find? text with
    | some pattern => .error (.dangerousSql id pattern)
    | none => .ok (.raw text (params.getD []))
  | .custom handler tag value params => k.criteriaOfHandler handler tag value params
  | .relation relation field tag value => do
    let field ← named id field .relationFieldRequired
    return .relation relation field (← k.constraint id tag value)
  | .field field tag value => do
    let field ← named id field .fieldRequired
    return .field field (← k.constraint id tag value)

/-- The logic of a group: conjunction where none is given. -/
def groupLogic (id : String) (tag : Option String) : Except CompileError Logic :=
  match tag with
  | none => .ok .and
  | some tag =>
    match Logic.ofTag? tag with
    | some logic => .ok logic
    | none => .error (.invalidLogic id tag)

def checkGroupSize (k : Compiler) (id : String) (count : Nat) : Except CompileError Unit :=
  if k.config.limits.maxConditionsPerGroup < count then
    .error (.tooManyConditions id count k.config.limits.maxConditionsPerGroup)
  else .ok ()

/-- The criteria of a group from those of its children. A negation takes at most one part that
says anything. -/
def join (id : String) (logic : Logic) (compiled : List Criteria) : Except CompileError Criteria :=
  match logic with
  | .and => .ok (.and compiled)
  | .or => .ok (.or compiled)
  | .not =>
    match compiled.filter fun c => !c.isEmpty with
    | [] => .ok .empty
    | [c] => .ok (.negate c)
    | parts => .error (.notRequiresOne id parts.length)

mutual

def criteriaOfNode (k : Compiler) (depth : Nat) : Condition → Except CompileError Criteria
  | .leaf clause =>
    if k.config.limits.maxDepth < depth then
      .error (.maxDepthExceeded clause.id k.config.limits.maxDepth)
    else k.criteriaOfPredicate clause.id clause.predicate
  | .group clause children =>
    if k.config.limits.maxDepth < depth then
      .error (.maxDepthExceeded clause.id k.config.limits.maxDepth)
    else do
      let logic ← groupLogic clause.id clause.logic
      k.checkGroupSize clause.id children.length
      join clause.id logic (← criteriaOfAll k (depth + 1) children)

/-- The criteria of each of a group's children, up to the first error. -/
def criteriaOfAll (k : Compiler) (depth : Nat) :
    List Condition → Except CompileError (List Criteria)
  | [] => .ok []
  | c :: rest => do
    let compiled ← criteriaOfNode k depth c
    return compiled :: (← criteriaOfAll k depth rest)

end

/-- The criteria of one condition on its own. -/
def criteriaOfCondition (k : Compiler) (c : Condition) : Except CompileError Criteria :=
  k.criteriaOfNode 0 c

/-- The criteria of a forest under one logic. -/
def criteriaOfForest (k : Compiler) (forest : List Condition) (logic : Logic) :
    Except CompileError Criteria := do
  k.checkGroupSize rootId forest.length
  join rootId logic (← k.criteriaOfAll 0 forest)

/-- The criteria of a request: its filters and its search together. -/
def criteriaOfRequest (k : Compiler) (p : PageRequest) : Except CompileError Criteria := do
  let filters ← k.criteriaOfForest p.filters .and
  match p.globalSearch with
  | none => return .and [filters]
  | some search =>
    match ← GlobalSearch.build k.schema search p.searchFields k.config.limits with
    | none => return .and [filters]
    | some fragment => return .and [filters, fragment]

/-- The order of a request: by the field asked for, if rows can be ordered by it, and else by the
primary key with the last row first. -/
def rowOrder (schema : Schema) (field : Option String) (direction : SortDirection) : RowOrder :=
  match field.filter fun f => !f.isEmpty && schema.canOrderBy f with
  | some field => { field, direction }
  | none => { field := schema.primaryKey, direction := .descending }

end Compiler

end RowFilter
