import RowFilter.Condition.Record

/-! # Requests for a page of rows, and their answers -/

namespace RowFilter

/-- The field that orders rows, and its direction. -/
structure RowOrder where
  field : String
  direction : SortDirection
  deriving DecidableEq, Repr

namespace RowOrder

def ofJson? (v : Json) : Option RowOrder := do
  let r ← v.record? ["field", "direction"]
  let field ← Json.required? r "field" Json.asString?
  let direction ← Json.required? r "direction" SortDirection.ofJson?
  some { field, direction }

def toJson (s : RowOrder) : Json :=
  .object [("field", .string s.field), ("direction", .string s.direction.tag)]

end RowOrder

/-- A request for one page of filtered, sorted rows. -/
structure PageRequest where
  page : UInt32 := 1
  /-- The size of the page; zero asks for the standard size. -/
  limit : UInt32 := 0
  sort : Option String := none
  sortDirection : SortDirection := .ascending
  filters : List Condition := []
  globalSearch : Option String := none
  searchFields : Option (List String) := none
  selectFields : Option (List String) := none

namespace PageRequest

def ofJson? (v : Json) : Option PageRequest := do
  let r ← v.record? ["page", "limit", "sort", "sortDirection", "filters", "globalSearch",
    "searchFields", "selectFields"]
  let page ← Json.defaulted? r "page" 1 Json.asUInt32?
  let limit ← Json.defaulted? r "limit" 0 Json.asUInt32?
  let sort ← Json.optional? r "sort" Json.asString?
  let sortDirection ← Json.defaulted? r "sortDirection" .ascending SortDirection.ofJson?
  let filters ← Json.defaulted? r "filters" [] Condition.listOfJson?
  let globalSearch ← Json.optional? r "globalSearch" Json.asString?
  let searchFields ← Json.optional? r "searchFields" (Json.asArray? Json.asString?)
  let selectFields ← Json.optional? r "selectFields" (Json.asArray? Json.asString?)
  some { page, limit, sort, sortDirection, filters, globalSearch, searchFields, selectFields }

def toJson (p : PageRequest) : Json :=
  Json.objectOf
    [("page", some (.ofUInt32 p.page)),
     ("limit", some (.ofUInt32 p.limit)),
     ("sort", p.sort.map .string),
     ("sortDirection", some (.string p.sortDirection.tag)),
     ("filters", some (Condition.listToJson p.filters)),
     ("globalSearch", p.globalSearch.map .string),
     ("searchFields", p.searchFields.map Json.ofStrings),
     ("selectFields", p.selectFields.map Json.ofStrings)]

end PageRequest

/-- One page of rows and the counts it belongs to. -/
structure Page where
  data : List Row
  /-- The number of rows without any filter. -/
  total : Nat
  /-- The number of rows that match. -/
  filtered : Nat
  page : UInt32
  limit : UInt32
  pages : Nat

namespace Page

/-- How many pages of a size hold a number of rows; no page has size zero. -/
def pageCount (filtered limit : Nat) : Nat :=
  if limit = 0 then 0 else (filtered + limit - 1) / limit

def new (data : List Row) (total filtered : Nat) (page limit : UInt32) : Page :=
  { data, total, filtered, page, limit, pages := pageCount filtered limit.toNat }

def ofJson? (v : Json) : Option Page := do
  let r ← v.record? ["data", "total", "filtered", "page", "limit", "pages"]
  let data ← Json.required? r "data" (Json.asArray? Json.asRow?)
  let total ← Json.required? r "total" Json.asNat64?
  let filtered ← Json.required? r "filtered" Json.asNat64?
  let page ← Json.required? r "page" Json.asUInt32?
  let limit ← Json.required? r "limit" Json.asUInt32?
  let pages ← Json.required? r "pages" Json.asNat64?
  some { data, total, filtered, page, limit, pages }

def toJson (q : Page) : Json :=
  .object
    [("data", .array (q.data.map .object)), ("total", .ofNat q.total),
     ("filtered", .ofNat q.filtered), ("page", .ofUInt32 q.page), ("limit", .ofUInt32 q.limit),
     ("pages", .ofNat q.pages)]

end Page

end RowFilter
