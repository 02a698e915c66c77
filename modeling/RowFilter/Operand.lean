import RowFilter.Catalog.Schema
import RowFilter.Json.Printer
import RowFilter.Security.Event
import RowFilter.Security.Limits
import RowFilter.Unicode.CodePoints

/-! # Operands of predicates

What an operand has to look like for its operator, for the kind and bounds of its field, and
under the limits. `Operand.check` names the first fault. -/

namespace RowFilter

inductive OperandFault where
  | valueRequired (op : Operator)
  | tooManyValues (count max : Nat)
  | stringTooLong (length max : Nat)
  /-- A string longer than its field admits. -/
  | lengthExceeded (max : Nat)
  | arrayRequired (op : Operator)
  | pairRequired
  | patternRequired
  /-- A text that the engine does not take as a pattern, with its reason. -/
  | invalidPattern (reason : String)
  | singleValueRequired (op : Operator)
  | notANumber (v : Json)
  | notAnInteger (v : Json)
  | belowMinimum (v : Json) (min : ExtendedDouble)
  | aboveMaximum (v : Json) (max : ExtendedDouble)
  /-- A range whose lower bound is greater than the upper one. -/
  | boundsReversed
  | notABoolean (v : Json)

namespace OperandFault

def message : OperandFault → String
  | valueRequired op => s!"Operator '{op.tag}' requires a value"
  | tooManyValues count max => s!"Too many values ({count}), maximum is {max}"
  | stringTooLong length max =>
    s!"String value too long ({length} characters), maximum is {max}"
  | lengthExceeded max => s!"Value exceeds maximum length of {max}"
  | arrayRequired op => s!"Operator '{op.tag}' requires an array"
  | pairRequired => "Operator 'between' requires an array of exactly two values"
  | patternRequired => "Operator 'regex' requires a string pattern"
  | invalidPattern reason => "Invalid regular expression: " ++ reason
  | singleValueRequired op => s!"Operator '{op.tag}' requires a single value"
  | notANumber v => s!"Value {v.compact} is not a valid number"
  | notAnInteger v => s!"Value {v.compact} is not an integer"
  | belowMinimum v min => s!"Value {v.compact} is below the minimum of {min.positional}"
  | aboveMaximum v max => s!"Value {v.compact} is above the maximum of {max.positional}"
  | boundsReversed => "Operator 'between' requires the lower bound first"
  | notABoolean v => s!"Value {v.compact} is not a valid boolean"

/-- Operands over a ceiling are security events. -/
def eventKind? : OperandFault → Option SecurityEventKind
  | tooManyValues .. => some .tooManyInValues
  | stringTooLong .. => some .stringTooLong
  | _ => none

end OperandFault

namespace Operand

variable [PatternEngine]

/-- Whether an operand counts as absent. -/
def isEmpty : Option Json → Bool
  | none | some .null => true
  | some (.string s) => s.isEmpty
  | some (.array items) => items.isEmpty
  | some _ => false

/-- A number, or a text of one with blanks around it; infinities are no numbers here. -/
def number? : Json → Option Double
  | .number n => n.toExtended.finite?
  | .string s => (ExtendedDouble.ofText? (Unicode.trim s)).bind ExtendedDouble.finite?
  | _ => none

mutual

/-- The length of the longest string in an operand and its nested arrays. -/
def longestText : Json → Nat
  | .string s => s.length
  | .array items => longestIn items
  | _ => 0

def longestIn : List Json → Nat
  | [] => 0
  | v :: rest => max (longestText v) (longestIn rest)

end

/-- The values that the field's kind has to admit. -/
def scalars (op : Operator) (v : Json) : Except OperandFault (List Json) :=
  match op, v with
  | .isIn, .array items | .notIn, .array items => .ok items
  | .isIn, _ | .notIn, _ => .error (.arrayRequired op)
  | .between, .array [low, high] => .ok [low, high]
  | .between, _ => .error .pairRequired
  | .regex, .string pattern =>
    match PatternEngine.compile pattern with
    | .ok _ => .ok [v]
    | .error reason => .error (.invalidPattern reason)
  | .regex, _ => .error .patternRequired
  | .custom, _ => .ok []
  | _, .array _ | _, .object _ => .error (.singleValueRequired op)
  | _, _ => .ok [v]

/-- The number that a value stands for, within the bounds of its field. -/
def checkNumber (config : FieldConfig) (v : Json) : Except OperandFault Double := do
  let some d := number? v | throw (.notANumber v)
  if config.kind == .integer && !d.isIntegral then throw (.notAnInteger v)
  if let some min := config.min then
    if (ExtendedDouble.finite d).isLess min then throw (.belowMinimum v min)
  if let some max := config.max then
    if max.isLess (.finite d) then throw (.aboveMaximum v max)
  return d

def checkBoolean (v : Json) : Except OperandFault Unit :=
  match v with
  | .bool _ => .ok ()
  | .string s => if s == "true" || s == "false" then .ok () else .error (.notABoolean v)
  | _ => .error (.notABoolean v)

/-- Checks values against the kind of their field. -/
def checkKind (op : Operator) (config : FieldConfig) (vs : List Json) :
    Except OperandFault Unit := do
  if config.kind.isNumeric then
    let numbers ← vs.mapM (checkNumber config)
    if op == .between then
      if let [low, high] := numbers then
        if high.key < low.key then throw .boundsReversed
  if config.kind == .boolean then
    vs.forM checkBoolean

/-- The ceilings on an operand: those of the limits first, then that of its field. -/
def checkSize (op : Operator) (v : Json) (config : Option FieldConfig) (limits : Limits) :
    Except OperandFault Unit := do
  if let .array items := v then
    if (op == .isIn || op == .notIn) && limits.maxInValues < items.length then
      throw (.tooManyValues items.length limits.maxInValues)
  let longest := longestText v
  if limits.maxStringLength < longest then
    throw (.stringTooLong longest limits.maxStringLength)
  if let some max := config.bind fun c => c.maxLength then
    if max < longest then throw (.lengthExceeded max)

/-- Checks an operand. Without a configuration, as for fields of related records, the rules
that depend on the kind of the field are left out. -/
def check (op : Operator) (value : Option Json) (config : Option FieldConfig) (limits : Limits) :
    Except OperandFault Unit := do
  if op.needsOperand then
    match value with
    | none => throw (.valueRequired op)
    | some v =>
      if isEmpty (some v) then throw (.valueRequired op)
      checkSize op v config limits
      let vs ← scalars op v
      if let some config := config then checkKind op config vs

end Operand

end RowFilter
