import RowFilter.Operator

/-! # Condition trees

A filter is a forest of conditions. Every node carries the same attributes, its clause, and a
group has children besides. Tags inside a clause stay texts, so that a stored tree with tags
of another time can be read, judged and mended. -/

namespace RowFilter

/-- What a node says apart from its children. -/
structure Clause where
  id : String := ""
  logic : Option String := none
  field : Option String := none
  operator : Option String := none
  value : Option Json := none
  relation : Option String := none
  relationField : Option String := none
  handler : Option String := none
  handlerParams : Option Json := none
  rawText : Option String := none
  rawParams : Option (List Json) := none

/-- A node of a filter: a group exactly if it has a list of children, even an empty one. -/
inductive Condition where
  | leaf (clause : Clause)
  | group (clause : Clause) (children : List Condition)

/-- The reading of a leaf: what it tests. -/
inductive Predicate where
  /-- Text handed on as it is. -/
  | raw (text : String) (params : Option (List Json))
  /-- A test left to a registered handler. -/
  | custom (handler : String) (operator : Option String) (value params : Option Json)
  /-- A test on a field of an associated record. -/
  | relation (relation : String) (field operator : Option String) (value : Option Json)
  /-- A test on a field of the row itself. -/
  | field (field operator : Option String) (value : Option Json)

/-- A clause with several readings is raw text before a handler, a handler before a relation
and a relation before a field. -/
def Clause.predicate (c : Clause) : Predicate :=
  match c.rawText, c.handler, c.relation with
  | some text, _, _ => .raw text c.rawParams
  | none, some handler, _ => .custom handler c.operator c.value c.handlerParams
  | none, none, some relation => .relation relation c.relationField c.operator c.value
  | none, none, none => .field c.field c.operator c.value

/-- An operand as a clause holds it: JSON null is no operand. -/
def operand (v : Json) : Option Json := if v.isNull then none else some v

namespace Condition

instance : Inhabited Condition := ⟨leaf {}⟩

def clause : Condition → Clause
  | leaf c => c
  | group c _ => c

def id (c : Condition) : String := c.clause.id

def children : Condition → List Condition
  | leaf _ => []
  | group _ children => children

def onField (id field : String) (op : Operator) (value : Json) : Condition :=
  leaf { id, field := some field, operator := some op.tag, value := operand value }

/-- A test without an operand. -/
def withoutOperand (id field : String) (op : Operator) : Condition :=
  leaf { id, field := some field, operator := some op.tag }

def combining (id : String) (logic : Logic) (children : List Condition) : Condition :=
  group { id, logic := some logic.tag } children

def raw (id text : String) (params : Option (List Json)) : Condition :=
  leaf { id, rawText := some text, rawParams := params }

def custom (id handler : String) (op : Operator) (value : Json) : Condition :=
  leaf { id, handler := some handler, operator := some op.tag, value := some value }

def onRelation (id relation field : String) (op : Operator) (value : Json) : Condition :=
  leaf { id, relation := some relation, relationField := some field, operator := some op.tag,
         value := operand value }

def withParams (params : Json) : Condition → Condition
  | leaf c => leaf { c with handlerParams := some params }
  | group c children => group { c with handlerParams := some params } children

/-- The kind of a node, by name. -/
def kindName : Condition → String
  | group _ _ => "group"
  | leaf c =>
    match c.predicate with
    | .raw .. => "raw"
    | .custom .. => "custom"
    | .relation .. => "relation"
    | .field .. => "field"

mutual

/-- The number of nodes of a tree. -/
def size : Condition → Nat
  | leaf _ => 1
  | group _ children => 1 + forestSize children

def forestSize : List Condition → Nat
  | [] => 0
  | c :: rest => size c + forestSize rest

end

@[simp] theorem forestSize_append (xs ys : List Condition) :
    forestSize (xs ++ ys) = forestSize xs + forestSize ys := by
  induction xs with
  | nil => simp [forestSize]
  | cons x xs ih => simp only [List.cons_append, forestSize, ih, Nat.add_assoc]

theorem size_pos (c : Condition) : 0 < c.size := by
  cases c with
  | leaf _ => exact Nat.one_pos
  | group _ children =>
    unfold size
    omega

end Condition

end RowFilter
