import RowFilter.Condition.Tree

/-! # Conditions as JSON records

Members that are absent are not written. In a record read from JSON null counts as absence. -/

namespace RowFilter

namespace Clause

def memberNames : List String :=
  ["id", "logic", "children", "field", "operator", "value", "relation", "relationField",
   "customHandler", "customHandlerParams", "rawSQL", "rawSQLParams"]

/-- The attributes of a node; its children are read apart. -/
def ofJson? (v : Json) : Option Clause := do
  let r ← v.record? memberNames
  let id ← Json.defaulted? r "id" "" Json.asString?
  let logic ← Json.optional? r "logic" Json.asString?
  let field ← Json.optional? r "field" Json.asString?
  let operator ← Json.optional? r "operator" Json.asString?
  let value ← Json.optional? r "value" Json.asValue?
  let relation ← Json.optional? r "relation" Json.asString?
  let relationField ← Json.optional? r "relationField" Json.asString?
  let handler ← Json.optional? r "customHandler" Json.asString?
  let handlerParams ← Json.optional? r "customHandlerParams" Json.asValue?
  let rawText ← Json.optional? r "rawSQL" Json.asString?
  let rawParams ← Json.optional? r "rawSQLParams" (Json.asArray? Json.asValue?)
  some { id, logic, field, operator, value, relation, relationField, handler, handlerParams,
         rawText, rawParams }

/-- The members of a node's record. -/
def members (c : Clause) (children : Option Json) : List (String × Option Json) :=
  [("id", some (.string c.id)),
   ("logic", c.logic.map .string),
   ("children", children),
   ("field", c.field.map .string),
   ("operator", c.operator.map .string),
   ("value", c.value),
   ("relation", c.relation.map .string),
   ("relationField", c.relationField.map .string),
   ("customHandler", c.handler.map .string),
   ("customHandlerParams", c.handlerParams),
   ("rawSQL", c.rawText.map .string),
   ("rawSQLParams", c.rawParams.map .array)]

end Clause

namespace Condition

mutual

def toJson : Condition → Json
  | leaf c => Json.objectOf (c.members none)
  | group c children => Json.objectOf (c.members (some (.array (forestToJson children))))

def forestToJson : List Condition → List Json
  | [] => []
  | c :: rest => toJson c :: forestToJson rest

end

/-- A node of the attributes and the children read for it. -/
def assemble (clause : Option Clause) (children : Option (Option (List Condition))) :
    Option Condition := do
  let clause ← clause
  match ← children with
  | none => some (leaf clause)
  | some children => some (group clause children)

mutual

def ofJson? : Json → Option Condition
  | .object members => assemble (Clause.ofJson? (.object members)) (namedChildren? members)
  | .array items => assemble (Clause.ofJson? (.array items)) (placedChildren? items)
  | _ => none

/-- The children of a record written as an object. -/
def namedChildren? : List (String × Json) → Option (Option (List Condition))
  | [] => some none
  | (name, v) :: rest => if name == "children" then childList? v else namedChildren? rest

/-- The children of a record written as an array: they are its third value. -/
def placedChildren? : List Json → Option (Option (List Condition))
  | _ :: _ :: v :: _ => childList? v
  | _ => some none

def childList? : Json → Option (Option (List Condition))
  | .null => some none
  | .array items => (forestOfJson? items).map some
  | _ => none

def forestOfJson? : List Json → Option (List Condition)
  | [] => some []
  | v :: rest => do
    let c ← ofJson? v
    let cs ← forestOfJson? rest
    some (c :: cs)

end

/-- A list of conditions. -/
def listOfJson? : Json → Option (List Condition)
  | .array items => forestOfJson? items
  | _ => none

def listToJson (forest : List Condition) : Json := .array (forestToJson forest)

end Condition

end RowFilter
