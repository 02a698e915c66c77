import RowFilter.Json.Record

/-! # Limits on the size of filters -/

namespace RowFilter

/-- Ceilings that keep a filter from exhausting its reader. -/
structure Limits where
  /-- The deepest nesting of groups. -/
  maxDepth : Nat := 10
  /-- The most values in the list of a membership test. -/
  maxInValues : Nat := 1000
  /-- The most children of one group. -/
  maxConditionsPerGroup : Nat := 100
  /-- The most characters in a string operand. -/
  maxStringLength : Nat := 10000
  deriving DecidableEq, Repr

namespace Limits

def ofJson? (v : Json) : Option Limits := do
  let r ← v.record? ["maxDepth", "maxInValues", "maxConditionsPerGroup", "maxStringLength"]
  let std : Limits := {}
  let maxDepth ← Json.defaulted? r "maxDepth" std.maxDepth Json.asNat64?
  let maxInValues ← Json.defaulted? r "maxInValues" std.maxInValues Json.asNat64?
  let maxConditionsPerGroup ←
    Json.defaulted? r "maxConditionsPerGroup" std.maxConditionsPerGroup Json.asNat64?
  let maxStringLength ← Json.defaulted? r "maxStringLength" std.maxStringLength Json.asNat64?
  some { maxDepth, maxInValues, maxConditionsPerGroup, maxStringLength }

def toJson (l : Limits) : Json :=
  .object
    [("maxDepth", .ofNat l.maxDepth), ("maxInValues", .ofNat l.maxInValues),
     ("maxConditionsPerGroup", .ofNat l.maxConditionsPerGroup),
     ("maxStringLength", .ofNat l.maxStringLength)]

end Limits

end RowFilter
