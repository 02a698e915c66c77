import RowFilter.Catalog.Schema
import RowFilter.Condition.Record

/-! # Sanitizing filters

Nodes that can no longer be honoured are taken out of a forest, and every removal is recorded
with its reason. A group that has lost all its children goes too. -/

namespace RowFilter

structure SanitizingPolicy where
  /-- Whether tests of unknown fields or with unknown operators are removed. -/
  removeInvalid : Bool := true
  removeRawSql : Bool := true
  /-- The deepest nesting that is kept. -/
  maxDepth : Nat := 10
  deriving DecidableEq, Repr

namespace SanitizingPolicy

def ofJson? (v : Json) : Option SanitizingPolicy := do
  let r ← v.record? ["removeInvalid", "removeRawSql", "maxDepth"]
  let std : SanitizingPolicy := {}
  let removeInvalid ← Json.defaulted? r "removeInvalid" std.removeInvalid Json.asBool?
  let removeRawSql ← Json.defaulted? r "removeRawSql" std.removeRawSql Json.asBool?
  let maxDepth ← Json.defaulted? r "maxDepth" std.maxDepth Json.asNat64?
  some { removeInvalid, removeRawSql, maxDepth }

def toJson (o : SanitizingPolicy) : Json :=
  .object [("removeInvalid", .bool o.removeInvalid), ("removeRawSql", .bool o.removeRawSql),
    ("maxDepth", .ofNat o.maxDepth)]

end SanitizingPolicy

/-- Why a node is removed. -/
inductive RemovalReason where
  | tooDeep (max : Nat)
  | emptyGroup
  | rawText
  | unknownRelation (relation : String)
  | missingRelationField
  | missingField
  | unknownField (field : String)
  | missingOperator
  | unknownOperator (tag : String)
  deriving DecidableEq, Repr

def RemovalReason.message : RemovalReason → String
  | tooDeep max => s!"nested deeper than {max}"
  | emptyGroup => "group has no remaining conditions"
  | rawText => "raw SQL conditions are not allowed"
  | unknownRelation relation => s!"unknown relation '{relation}'"
  | missingRelationField => "missing relation field"
  | missingField => "missing field"
  | unknownField field => s!"unknown field '{field}'"
  | missingOperator => "missing operator"
  | unknownOperator tag => s!"unknown operator '{tag}'"

structure Removal where
  conditionId : String
  reason : RemovalReason
  deriving DecidableEq, Repr

structure Sanitized where
  conditions : List Condition
  removed : List Removal

namespace Sanitized

def toJson (r : Sanitized) : Json :=
  .object
    [("conditions", Condition.listToJson r.conditions),
     ("removed", .array (r.removed.map fun x =>
       .object [("conditionId", .string x.conditionId), ("reason", .string x.reason.message)]))]

/-- Two reports one after the other. -/
def append (a b : Sanitized) : Sanitized :=
  ⟨a.conditions ++ b.conditions, a.removed ++ b.removed⟩

end Sanitized

namespace Sanitizer

def operatorReason? (tag : Option String) : Option RemovalReason :=
  match tag with
  | none => some .missingOperator
  | some tag => if Operator.isTag tag then none else some (.unknownOperator tag)

/-- The reason to remove a leaf, if there is one. -/
def leafReason? (fields : Fields) (o : SanitizingPolicy) : Predicate → Option RemovalReason
  | .custom .. => none
  | .raw .. => if o.removeRawSql then some .rawText else none
  | .relation relation field tag _ =>
    if !o.removeInvalid then none
    else if !((fields.get? relation).any fun c => c.kind.isReference) then
      some (.unknownRelation relation)
    else if field.all String.isEmpty then some .missingRelationField
    else operatorReason? tag
  | .field field tag _ =>
    if !o.removeInvalid then none
    else
      match field.filter fun f => !f.isEmpty with
      | none => some .missingField
      | some f => if fields.contains f then operatorReason? tag else some (.unknownField f)

mutual

/-- What is left of a node at a given depth. -/
def pruneNode (fields : Fields) (o : SanitizingPolicy) (depth : Nat) : Condition → Sanitized
  | .leaf c =>
    if o.maxDepth < depth then ⟨[], [⟨c.id, .tooDeep o.maxDepth⟩]⟩
    else
      match leafReason? fields o c.predicate with
      | some reason => ⟨[], [⟨c.id, reason⟩]⟩
      | none => ⟨[.leaf c], []⟩
  | .group c children =>
    if o.maxDepth < depth then ⟨[], [⟨c.id, .tooDeep o.maxDepth⟩]⟩
    else
      let below := pruneForest fields o (depth + 1) children
      if below.conditions.isEmpty then ⟨[], below.removed ++ [⟨c.id, .emptyGroup⟩]⟩
      else ⟨[.group c below.conditions], below.removed⟩

def pruneForest (fields : Fields) (o : SanitizingPolicy) (depth : Nat) :
    List Condition → Sanitized
  | [] => ⟨[], []⟩
  | c :: rest => (pruneNode fields o depth c).append (pruneForest fields o depth rest)

end

/-- Takes out of a forest what the fields and the options do not admit. -/
def sanitize (fields : Fields) (o : SanitizingPolicy) (forest : List Condition) : Sanitized :=
  pruneForest fields o 0 forest

end Sanitizer

end RowFilter
