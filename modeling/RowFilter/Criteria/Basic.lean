import RowFilter.Json.Record

/-! # Criteria

What a filter is compiled to: constraints on fields and related fields under Boolean
connectives, beside fragments that only some interpreters understand. -/

namespace RowFilter

/-- A condition on one value. -/
inductive Constraint where
  | eq (v : Json)
  | ne (v : Json)
  | gt (v : Json)
  | gte (v : Json)
  | lt (v : Json)
  | lte (v : Json)
  | contains (text : String)
  /-- Containment in any letter case, left to the store. -/
  | iContains (text : String)
  /-- Containment of an operand in lower case in the value's lower case. -/
  | lowerContains (text : String)
  | startsWith (text : String)
  | endsWith (text : String)
  | regexp (pattern : String)
  | isIn (vs : List Json)
  | notIn (vs : List Json)
  /-- Between two bounds, both included. -/
  | range (low high : Json)
  | isNull
  | isNotNull

/-- A test on whole rows, known outside by its label. -/
structure RowTest where
  label : String
  holds : Row → Bool

inductive Criteria where
  /-- No constraint. -/
  | empty
  | field (field : String) (constraint : Constraint)
  | allOf (parts : List Criteria)
  | anyOf (parts : List Criteria)
  | complement (part : Criteria)
  /-- Text for the store alone. -/
  | raw (text : String) (params : List Json)
  | relation (relation field : String) (constraint : Constraint)
  /-- A test made after rows are fetched. -/
  | inMemory (test : RowTest)

namespace Constraint

def toJson : Constraint → Json
  | eq v => .object [("eq", v)]
  | ne v => .object [("ne", v)]
  | gt v => .object [("gt", v)]
  | gte v => .object [("gte", v)]
  | lt v => .object [("lt", v)]
  | lte v => .object [("lte", v)]
  | contains text => .object [("contains", .string text)]
  | iContains text => .object [("iContains", .string text)]
  | lowerContains text => .object [("lowerContains", .string text)]
  | startsWith text => .object [("startsWith", .string text)]
  | endsWith text => .object [("endsWith", .string text)]
  | regexp pattern => .object [("regexp", .string pattern)]
  | isIn vs => .object [("in", .array vs)]
  | notIn vs => .object [("notIn", .array vs)]
  | range low high => .object [("range", .object [("gte", low), ("lte", high)])]
  | isNull => .string "isNull"
  | isNotNull => .string "isNotNull"

end Constraint

namespace Criteria

instance : Inhabited Criteria := ⟨empty⟩

def isEmpty : Criteria → Bool
  | empty => true
  | _ => false

/-- The parts that say anything, joined by `wrap` if there are several. -/
def combine (wrap : List Criteria → Criteria) (parts : List Criteria) : Criteria :=
  match parts.filter fun c => !c.isEmpty with
  | [] => empty
  | [c] => c
  | kept => wrap kept

def and (parts : List Criteria) : Criteria := combine allOf parts

def or (parts : List Criteria) : Criteria := combine anyOf parts

/-- The negation of nothing is nothing. -/
def negate (c : Criteria) : Criteria := if c.isEmpty then empty else complement c

mutual

def usesRaw : Criteria → Bool
  | raw .. => true
  | allOf parts | anyOf parts => anyRaw parts
  | complement part => usesRaw part
  | _ => false

def anyRaw : List Criteria → Bool
  | [] => false
  | c :: rest => usesRaw c || anyRaw rest

end

mutual

def usesInMemory : Criteria → Bool
  | inMemory _ => true
  | allOf parts | anyOf parts => anyInMemory parts
  | complement part => usesInMemory part
  | _ => false

def anyInMemory : List Criteria → Bool
  | [] => false
  | c :: rest => usesInMemory c || anyInMemory rest

end

mutual

def toJson : Criteria → Json
  | empty => .string "empty"
  | field f c => .object [("field", .object [("field", .string f), ("constraint", c.toJson)])]
  | allOf parts => .object [("and", .array (partsToJson parts))]
  | anyOf parts => .object [("or", .array (partsToJson parts))]
  | complement part => .object [("not", toJson part)]
  | raw text params =>
    .object [("raw", .object [("sql", .string text), ("params", .array params)])]
  | relation r f c =>
    .object [("relation", .object
      [("relation", .string r), ("field", .string f), ("constraint", c.toJson)])]
  | inMemory test => .object [("inMemory", .string test.label)]

def partsToJson : List Criteria → List Json
  | [] => []
  | c :: rest => toJson c :: partsToJson rest

end

end Criteria

end RowFilter
