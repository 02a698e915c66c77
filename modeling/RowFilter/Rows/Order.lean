import RowFilter.Criteria.Evaluation
import RowFilter.Query.Request

/-! # Ordering rows

Rows are ordered by the value of one field. Rows without a value come after all others; values
that cannot be compared count as equal. -/

namespace RowFilter

/-- The value of a field, if it is there and not null. -/
def Row.value? (row : Row) (field : String) : Option Json :=
  (Json.member? row field).filter fun v => !v.isNull

namespace RowOrder

def comparePresent (a b : Option Json) : Ordering :=
  match a, b with
  | none, none => .eq
  | none, some _ => .gt
  | some _, none => .lt
  | some x, some y => (x.order? y).getD .eq

def ordering (s : RowOrder) (a b : Row) : Ordering :=
  let ordering := comparePresent (Row.value? a s.field) (Row.value? b s.field)
  match s.direction with
  | .ascending => ordering
  | .descending => ordering.swap

/-- Puts a row into a list that is sorted from its last row to its first, after all rows that do
not come after it. -/
def insertRow (s : RowOrder) (row : Row) : List Row → List Row
  | [] => [row]
  | last :: before =>
    if s.ordering row last = .lt then last :: insertRow s row before else row :: last :: before

/-- Sorts rows; rows that compare as equal keep their order. -/
def sortRows (s : RowOrder) (rows : List Row) : List Row :=
  (rows.foldl (fun sorted row => s.insertRow row sorted) []).reverse

end RowOrder

end RowFilter
