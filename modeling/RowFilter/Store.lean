import RowFilter.Rows.Display
import RowFilter.Rows.Order

/-! # Rows in memory, and the requests run on them -/

namespace RowFilter

/-- A store that holds its rows in memory. -/
structure Store where
  rows : List Row := []

/-- A page of the rows that satisfy criteria, in an order. -/
structure RowQuery where
  criteria : Criteria
  sort : RowOrder
  offset : Nat := 0
  limit : Nat

namespace Store

variable [PatternEngine]

def rowsOfJson (index : Nat) : List Json → Except StoreError (List Row)
  | [] => .ok []
  | .object members :: rest => (rowsOfJson (index + 1) rest).map (members :: ·)
  | v :: _ => .error (.notAnObject index v)

/-- A store of rows given as JSON objects. -/
def ofJson (values : List Json) : Except StoreError Store := (rowsOfJson 0 values).map mk

def insert (s : Store) (row : Row) : Store := ⟨s.rows ++ [row]⟩

def size (s : Store) : Nat := s.rows.length

/-- The rows that satisfy criteria. -/
def select (c : Criteria) : List Row → Except StoreError (List Row)
  | [] => .ok []
  | row :: rest => do
    let hit ← c.evaluate row
    let hits ← select c rest
    return if hit then row :: hits else hits

/-- The number of rows that satisfy criteria; empty criteria are not evaluated. -/
def count (s : Store) (c : Criteria) : Except StoreError Nat :=
  if c.isEmpty then .ok s.size else (select c s.rows).map List.length

def find (s : Store) (r : RowQuery) : Except StoreError (List Row) :=
  (select r.criteria s.rows).map fun rows =>
    ((r.sort.sortRows rows).drop r.offset).take r.limit

end Store

/-- Why a request fails. -/
inductive QueryError where
  | compile (error : CompileError)
  | store (error : StoreError)

def QueryError.message : QueryError → String
  | compile error => error.message
  | store error => "store error: " ++ error.message

/-- Compiles a request and fetches its page, with the number of rows with and without the
filter. -/
def Compiler.answer [PatternEngine] (k : Compiler) (store : Store) (p : PageRequest) :
    Except QueryError Page := do
  let criteria ← (k.criteriaOfRequest p).mapError .compile
  let sort := rowOrder k.schema p.sort p.sortDirection
  let window := k.config.window p.page p.limit
  let total ← (store.count .empty).mapError .store
  let filtered ← (store.count criteria).mapError .store
  let rows ← (store.find
    { criteria, sort, offset := window.offset, limit := window.limit.toNat }).mapError .store
  let data := rows.map fun row => displayRow k.schema row p.selectFields k.formatter
  return .new data total filtered window.page window.limit

end RowFilter
