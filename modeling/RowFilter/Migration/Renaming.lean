import RowFilter.Condition.Walk

/-! # Renamed operators

Operators that were once written otherwise. Renaming gives every node the current tag; a tag that
is neither current nor known from before is left and noted. -/

namespace RowFilter

/-- The former tags of operators. -/
def formerTags : List (String × Operator) :=
  [("equals", .eq), ("notEquals", .neq), ("ne", .neq), ("contains", .like), ("icontains", .ilike),
   ("greaterThan", .gt), ("greaterThanOrEqual", .gte), ("lessThan", .lt),
   ("lessThanOrEqual", .lte), ("starts_with", .startsWith), ("ends_with", .endsWith),
   ("not_in", .notIn), ("nin", .notIn), ("is_null", .isNull), ("is_not_null", .isNotNull)]

/-- The operator that a former tag stands for. -/
def Operator.ofFormerTag? (tag : String) : Option Operator := formerTags.lookup tag

def Operator.isFormerTag (tag : String) : Bool := (ofFormerTag? tag).isSome

/-- What renaming has to say about a node. -/
inductive RenameNote where
  | renamed (id tag : String) (op : Operator)
  | unknown (id tag : String)

namespace Clause

def renameNote? (c : Clause) : Option RenameNote :=
  match c.operator with
  | none => none
  | some tag =>
    if Operator.isTag tag then none
    else
      match Operator.ofFormerTag? tag with
      | some op => some (.renamed c.id tag op)
      | none => some (.unknown c.id tag)

def renamed (c : Clause) : Clause :=
  match c.renameNote? with
  | some (.renamed _ _ op) => { c with operator := some op.tag }
  | _ => c

end Clause

namespace Condition

def renameTags (forest : List Condition) : List Condition := mapForest Clause.renamed forest

def renameNotes (forest : List Condition) : List RenameNote :=
  (nodes forest).filterMap fun c => c.clause.renameNote?

end Condition

end RowFilter
