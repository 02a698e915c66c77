import RowFilter.Proofs.Json.Settled
import RowFilter.Proofs.Validation.Events

/-! # Legal operands

The check of an operand tries one rule after the other and names the first that is broken. Whether
an operand passes does not depend on that order: it is legal if it is there, keeps every ceiling,
has the shape that its operator asks for, and has values that its field admits, each said on its
own. Which operands raise a security event can be told in the same way.
-/

namespace RowFilter

open Outcome

namespace Operand

/-- A string is an operand, or stands in one at some nesting of arrays. -/
inductive Holds (s : String) : Json → Prop where
  | text : Holds s (.string s)
  | item {items : List Json} {v : Json} : v ∈ items → Holds s v → Holds s (.array items)

/-- The list of a membership test has more values than the limits admit. -/
def ListsTooMany (op : Operator) (limits : Limits) (v : Json) : Prop :=
  (op = .isIn ∨ op = .notIn) ∧ limits.maxInValues < valueCount v

/-- The shape that an operator asks of its operand. -/
def Shaped [PatternEngine] (op : Operator) (limits : Limits) (v : Json) : Prop :=
  match op with
  | .isIn | .notIn => ∃ items, v = .array items ∧ items.length ≤ limits.maxInValues
  | .between => ∃ low high, v = .array [low, high]
  | .regex => ∃ pattern test, v = .string pattern ∧ PatternEngine.compile pattern = .ok test
  | .custom => True
  | _ => (∀ items, v ≠ .array items) ∧ ∀ members, v ≠ .object members

/-- The values that the field has to admit: the items of a list, and else the operand itself. -/
def values : Json → List Json
  | .array items => items
  | v => [v]

/-- A value stands for a number that a numeric field admits. A bound that is no number keeps nothing
out. -/
structure Counts (config : FieldConfig) (v : Json) (d : Double) : Prop where
  reads : number? v = some d
  whole : config.kind = .integer → d.isIntegral = true
  atLeast : ∀ min ∈ config.min, ∀ place ∈ min.key?, place ≤ d.key
  atMost : ∀ max ∈ config.max, ∀ place ∈ max.key?, d.key ≤ place

/-- A value stands for a truth value. -/
def IsTruth (v : Json) : Prop := (∃ b, v = .bool b) ∨ v = .string "true" ∨ v = .string "false"

/-- What makes an operand legal for an operator that takes one, on a field and under limits. -/
structure Legal [PatternEngine] (op : Operator) (config : FieldConfig) (limits : Limits)
    (v : Json) : Prop where
  present : v ≠ .null ∧ v ≠ .string "" ∧ v ≠ .array []
  short : ∀ s, Holds s v →
    s.length ≤ limits.maxStringLength ∧ ∀ max ∈ config.maxLength, s.length ≤ max
  shaped : Shaped op limits v
  numbers : op ≠ .custom → config.kind.isNumeric = true → ∀ x ∈ values v, ∃ d, Counts config x d
  ordered : op = .between → config.kind.isNumeric = true → ∀ low high a b,
    v = .array [low, high] → number? low = some a → number? high = some b → a.key ≤ b.key
  truths : op ≠ .custom → config.kind = .boolean → ∀ x ∈ values v, IsTruth x

/-- An operand is over a ceiling of the limits, and the event that this raises: one about the number
of its values, or else one about the length of a string in it. -/
def Exceeds (op : Operator) (limits : Limits) (v : Json) (kind : SecurityEventKind) : Prop :=
  (kind = .tooManyInValues ∧ ListsTooMany op limits v) ∨
    (kind = .stringTooLong ∧ ¬ ListsTooMany op limits v ∧
      ∃ s, Holds s v ∧ limits.maxStringLength < s.length)

section Parts

variable {op : Operator} {v : Json} {limits : Limits} {config : FieldConfig}

theorem longestIn_le_iff {items : List Json} {n : Nat} :
    longestIn items ≤ n ↔ ∀ v ∈ items, longestText v ≤ n := by
  induction items with
  | nil => simp [longestIn]
  | cons v rest ih => rw [longestIn, Nat.max_le, ih, List.forall_mem_cons]

theorem longestText_le_iff {n : Nat} :
    longestText v ≤ n ↔ ∀ s, Holds s v → s.length ≤ n := by
  induction v using Json.value_induction with
  | null | bool | number | object =>
      refine ⟨fun _ s held => ?_, fun _ => Nat.zero_le n⟩
      cases held
  | string text =>
      refine ⟨fun fits s held => ?_, fun fits => fits text .text⟩
      cases held
      exact fits
  | array items ih =>
      rw [longestText, longestIn_le_iff]
      constructor
      · intro fits s held
        cases held with
        | item inside held => exact (ih _ inside).mp (fits _ inside) s held
      · intro fits v inside
        exact (ih v inside).mpr fun s held => fits s (.item inside held)

theorem needsOperand_eq_false : op.needsOperand = false ↔ op = .isNull ∨ op = .isNotNull := by
  cases op <;> simp [Operator.needsOperand]

theorem isEmpty_eq_false :
    isEmpty (some v) = false ↔ v ≠ .null ∧ v ≠ .string "" ∧ v ≠ .array [] := by
  cases v with
  | string s => simp [isEmpty]
  | array items => simp [isEmpty]
  | null | bool | number | object => simp [isEmpty]

theorem countFault?_eq_none_iff : countFault? op limits v = none ↔ ¬ ListsTooMany op limits v := by
  rw [countFault?_eq_none, ListsTooMany, not_and, Nat.not_lt]

theorem lengthFault?_eq_none :
    lengthFault? limits v = none ↔ ∀ s, Holds s v → s.length ≤ limits.maxStringLength := by
  rw [← longestText_le_iff, lengthFault?]
  simp

theorem fieldLengthFault?_eq_none :
    fieldLengthFault? (some config) v = none ↔
      ∀ max ∈ config.maxLength, ∀ s, Holds s v → s.length ≤ max := by
  simp only [← longestText_le_iff, fieldLengthFault?, Option.bind_some]
  cases config.maxLength <;> simp

theorem sizeFault?_eq_none :
    sizeFault? op v (some config) limits = none ↔
      ¬ ListsTooMany op limits v ∧ ∀ s, Holds s v →
        s.length ≤ limits.maxStringLength ∧ ∀ max ∈ config.maxLength, s.length ≤ max := by
  rw [sizeFault?, Option.or_eq_none_iff, Option.or_eq_none_iff, countFault?_eq_none_iff,
    lengthFault?_eq_none, fieldLengthFault?_eq_none]
  constructor
  · rintro ⟨few, short, within⟩
    exact ⟨few, fun s held => ⟨short s held, fun max given => within max given s held⟩⟩
  · rintro ⟨few, short⟩
    exact ⟨few, fun s held => (short s held).1, fun max given s held => (short s held).2 max given⟩

/-- Two ways of settling what a run returns, when the run returns something. -/
theorem ok_iff_of {p q : Prop} (hp : p) (hq : q) {vs given : List Json} :
    p ∧ (.ok given : Except OperandFault (List Json)) = .ok vs ↔ q ∧ vs = given := by
  constructor
  · rintro ⟨_, ⟨⟩⟩
    exact ⟨hq, rfl⟩
  · rintro ⟨_, rfl⟩
    exact ⟨hp, rfl⟩

/-- The shape and the number of values are looked at in two places, and a handler's operand has
any shape. -/
theorem scalars_eq_ok [PatternEngine] {vs : List Json} :
    ¬ ListsTooMany op limits v ∧ scalars op v = .ok vs ↔
      Shaped op limits v ∧ vs = if op = .custom then [] else values v := by
  unfold scalars
  -- One case for each branch; only the first two have a list whose values are counted.
  split
  case h_1 items | h_2 items => simp [ListsTooMany, valueCount, Shaped, values, eq_comm]
  case h_3 other | h_4 other => simpa [Shaped] using fun items same => absurd same (other items)
  case h_5 low high => exact ok_iff_of (by simp [ListsTooMany]) ⟨low, high, rfl⟩
  case h_6 other => simpa [Shaped] using fun low high same => absurd same (other low high)
  case h_7 pattern =>
      split
      · rename_i readable
        exact ok_iff_of (by simp [ListsTooMany]) ⟨pattern, _, rfl, readable⟩
      · rename_i unreadable
        simp [Shaped, unreadable]
  case h_8 other => simpa [Shaped] using fun pattern same => absurd same (other pattern)
  case h_9 => exact ok_iff_of (by simp [ListsTooMany]) trivial
  case h_10 | h_11 => cases op <;> simp_all [Shaped]
  case h_12 single plain _ _ _ _ =>
      -- Neither a list nor an object, under an operator that asks for a single value.
      have own : (if op = .custom then [] else values v) = [v] := by
        cases v <;> simp_all [values]
      rw [own]
      have uncounted : valueCount v = 0 := by
        cases v <;> simp_all [valueCount]
      refine ok_iff_of ?_ ?_
      · rw [ListsTooMany, uncounted]
        exact fun many => Nat.not_lt_zero _ many.2
      · cases op <;> simp_all [Shaped]

end Parts

section Kinds

variable {op : Operator} {v : Json} {config : FieldConfig} {vs : List Json}

/-- The fault of a number that its field does not admit. -/
def numberFault? (config : FieldConfig) (v : Json) (d : Double) : Option OperandFault :=
  (if config.kind == .integer && !d.isIntegral then some (.notAnInteger v) else none).or
    ((config.min.bind fun min =>
        if (ExtendedDouble.finite d).isLess min then some (.belowMinimum v min) else none).or
      (config.max.bind fun max =>
        if max.isLess (.finite d) then some (.aboveMaximum v max) else none))

theorem isLess_finite_left {d : Double} {bound : ExtendedDouble} :
    (ExtendedDouble.finite d).isLess bound = false ↔ ∀ place ∈ bound.key?, place ≤ d.key := by
  unfold ExtendedDouble.isLess
  cases bound.key? <;> simp [ExtendedDouble.key?]

theorem isLess_finite_right {d : Double} {bound : ExtendedDouble} :
    bound.isLess (.finite d) = false ↔ ∀ place ∈ bound.key?, d.key ≤ place := by
  unfold ExtendedDouble.isLess
  cases bound.key? <;> simp [ExtendedDouble.key?]

theorem numberFault?_eq_none {d : Double} :
    numberFault? config v d = none ↔ (config.kind = .integer → d.isIntegral = true) ∧
      (∀ min ∈ config.min, ∀ place ∈ min.key?, place ≤ d.key) ∧
      ∀ max ∈ config.max, ∀ place ∈ max.key?, d.key ≤ place := by
  rw [numberFault?, Option.or_eq_none_iff, Option.or_eq_none_iff]
  simp only [← isLess_finite_left, ← isLess_finite_right]
  simp [Option.bind_eq_none_iff]

/-- A guard that only stands where there is a bound. -/
theorem guarded_bound {α : Type} {bound : Option ExtendedDouble} {exceeds : ExtendedDouble → Prop}
    [DecidablePred exceeds] {fault : ExtendedDouble → OperandFault}
    {next : Except OperandFault α} :
    (match bound with
      | some b =>
        if exceeds b then (.error (fault b) : Except OperandFault Unit) >>= fun _ => next else next
      | _ => next) =
      raise (bound.bind fun b => if exceeds b then some (fault b) else none) >>= fun _ => next := by
  cases bound with
  | none => rfl
  | some b => exact guarded _ _

/-- A number is read, and then its fraction and its two bounds are looked at. -/
theorem checkNumber_eq :
    checkNumber config v = match number? v with
      | none => .error (.notANumber v)
      | some d => raise (numberFault? config v d) >>= fun _ => .ok d := by
  unfold checkNumber
  cases number? v with
  | none => rfl
  | some d =>
      simp only [numberFault?, raise_or, bind_assoc]
      rw [← guarded, ← guarded_bound, ← guarded_bound]
      rfl

theorem checkNumber_eq_ok {d : Double} : checkNumber config v = .ok d ↔ Counts config v d := by
  rw [checkNumber_eq]
  constructor
  · intro passed
    cases read : number? v with
    | none =>
        rw [read] at passed
        cases passed
    | some e =>
        rw [read] at passed
        obtain ⟨_, admitted, ⟨⟩⟩ := bind_eq_ok.mp passed
        obtain ⟨whole, atLeast, atMost⟩ := numberFault?_eq_none.mp (raise_eq_ok.mp admitted)
        exact ⟨read, whole, atLeast, atMost⟩
  · rintro ⟨read, whole, atLeast, atMost⟩
    rw [read]
    have admitted : numberFault? config v d = none :=
      numberFault?_eq_none.mpr ⟨whole, atLeast, atMost⟩
    exact bind_eq_ok.mpr ⟨(), raise_eq_ok.mpr admitted, rfl⟩

theorem checkBoolean_eq_ok : checkBoolean v = .ok () ↔ IsTruth v := by
  unfold IsTruth
  cases v with
  | bool b => simp [checkBoolean]
  | string s => by_cases yes : s = "true" <;> simp [checkBoolean, yes]
  | null | number | array | object => simp [checkBoolean]

theorem orderFault?_eq_none {ds : List Double} :
    orderFault? op ds = none ↔ (op = .between → ∀ a b, ds = [a, b] → a.key ≤ b.key) := by
  rcases ds with _ | ⟨a, _ | ⟨b, _ | _⟩⟩ <;> simp [orderFault?]

/-- The two values of a range are numbers in order. -/
def Ascending (vs : List Json) : Prop :=
  ∀ low high a b, vs = [low, high] → number? low = some a → number? high = some b → a.key ≤ b.key

theorem numbers_eq_ok :
    (∃ ds, vs.mapM (checkNumber config) = .ok ds ∧ orderFault? op ds = none) ↔
      (∀ x ∈ vs, ∃ d, Counts config x d) ∧ (op = .between → Ascending vs) := by
  simp only [orderFault?_eq_none, mapM_eq_ok_iff]
  constructor
  · rintro ⟨ds, read, ordered⟩
    refine ⟨fun x inside => ?_, ?_⟩
    · have listed : checkNumber config x ∈ ds.map Except.ok := read ▸ List.mem_map_of_mem inside
      obtain ⟨d, _, passed⟩ := List.mem_map.mp listed
      exact ⟨d, checkNumber_eq_ok.mp passed.symm⟩
    · rintro range low high a b rfl readLow readHigh
      rcases ds with _ | ⟨a', _ | ⟨b', _ | _⟩⟩ <;>
        simp only [List.map_cons, List.map_nil, List.cons.injEq, reduceCtorEq, and_false] at read
      have low := (checkNumber_eq_ok.mp read.1).reads
      have high := (checkNumber_eq_ok.mp read.2.1).reads
      rw [readLow] at low
      rw [readHigh] at high
      cases low
      cases high
      exact ordered range a b rfl
  · rintro ⟨counts, ordered⟩
    have each : ∀ x ∈ vs, ∃ d, checkNumber config x = .ok d := fun x inside =>
      (counts x inside).imp fun _ => checkNumber_eq_ok.mpr
    obtain ⟨ds, read⟩ := exists_map_ok each
    refine ⟨ds, read, ?_⟩
    rintro range a b rfl
    rcases vs with _ | ⟨low, _ | ⟨high, _ | _⟩⟩ <;>
      simp only [List.map_cons, List.map_nil, List.cons.injEq, reduceCtorEq, and_false] at read
    exact ordered range low high a b rfl (checkNumber_eq_ok.mp read.1).reads
      (checkNumber_eq_ok.mp read.2.1).reads

theorem checkKind_eq_ok :
    checkKind op config vs = .ok () ↔
      (config.kind.isNumeric = true →
        (∀ x ∈ vs, ∃ d, Counts config x d) ∧ (op = .between → Ascending vs)) ∧
      (config.kind = .boolean → ∀ x ∈ vs, IsTruth x) := by
  rw [checkKind_eq, bind_eq_ok, exists_and_right]
  apply and_congr
  · by_cases numeric : config.kind.isNumeric = true
    · rw [if_pos numeric, forall_prop_of_true numeric, ← numbers_eq_ok]
      simp only [bind_eq_ok, raise_eq_ok, exists_const]
    · rw [if_neg numeric, forall_prop_of_false numeric]
      exact iff_true_intro ⟨(), rfl⟩
  · by_cases truth : config.kind = .boolean
    · rw [if_pos (beq_iff_eq.mpr truth), forall_prop_of_true truth, forM_eq_ok]
      simp only [checkBoolean_eq_ok]
    · rw [if_neg (mt beq_iff_eq.mp truth), forall_prop_of_false truth]
      exact iff_true_intro rfl

end Kinds

section Legality

variable {op : Operator} {v : Json} {config : FieldConfig} {limits : Limits}

/-- The two values of a range are the items of its operand. -/
theorem ascending_iff :
    Ascending (values v) ↔ ∀ low high a b,
      v = .array [low, high] → number? low = some a → number? high = some b → a.key ≤ b.key := by
  cases v with
  | array items => simp [Ascending, values]
  | null | bool | number | string | object => simp [Ascending, values]

theorem legal_iff [PatternEngine] :
    Legal op config limits v ↔
      isEmpty (some v) = false ∧
      (∀ s, Holds s v →
        s.length ≤ limits.maxStringLength ∧ ∀ max ∈ config.maxLength, s.length ≤ max) ∧
      Shaped op limits v ∧
      checkKind op config (if op = .custom then [] else values v) = .ok () := by
  rw [isEmpty_eq_false, checkKind_eq_ok]
  by_cases custom : op = .custom
  · subst custom
    constructor
    · intro h
      exact ⟨h.present, h.short, h.shaped, by simp, by simp⟩
    · rintro ⟨present, short, shaped, _⟩
      exact ⟨present, short, shaped, by simp, by simp, by simp⟩
  · rw [if_neg custom, ascending_iff]
    constructor
    · intro h
      exact ⟨h.present, h.short, h.shaped,
        fun numeric => ⟨h.numbers custom numeric, fun range => h.ordered range numeric⟩,
        h.truths custom⟩
    · rintro ⟨present, short, shaped, numeric, truth⟩
      exact ⟨present, short, shaped, fun _ kind => (numeric kind).1,
        fun range kind => (numeric kind).2 range, fun _ => truth⟩

/-- An operand that is there passes exactly if it is legal. -/
theorem passes_iff_legal [PatternEngine] :
    (∃ vs, isEmpty (some v) = false ∧ sizeFault? op v (some config) limits = none ∧
      scalars op v = .ok vs ∧ checkKind op config vs = .ok ()) ↔ Legal op config limits v := by
  rw [legal_iff]
  constructor
  · rintro ⟨vs, present, sized, listed, suited⟩
    obtain ⟨few, short⟩ := sizeFault?_eq_none.mp sized
    obtain ⟨shaped, rfl⟩ := scalars_eq_ok.mp ⟨few, listed⟩
    exact ⟨present, short, shaped, suited⟩
  · rintro ⟨present, short, shaped, suited⟩
    obtain ⟨few, listed⟩ := scalars_eq_ok.mpr ⟨shaped, rfl⟩
    exact ⟨_, present, sizeFault?_eq_none.mpr ⟨few, short⟩, listed, suited⟩

theorem lt_longestText_iff {n : Nat} : n < longestText v ↔ ∃ s, Holds s v ∧ n < s.length := by
  rw [← Nat.not_le, longestText_le_iff]
  simp only [not_forall, Nat.not_le, exists_prop]

/-- The number of values is asked before their length. -/
theorem ceilingFault?_kind {kind : SecurityEventKind} :
    (∃ fault, ceilingFault? op v limits = some fault ∧ fault.eventKind? = some kind) ↔
      Exceeds op limits v kind := by
  rw [ceilingFault?, Exceeds, ← lt_longestText_iff]
  by_cases many : ListsTooMany op limits v
  · have counted : ∃ count, countFault? op limits v =
        some (.tooManyValues count limits.maxInValues) := by
      cases v with
      | array items =>
          exact ⟨items.length, by simpa [countFault?, ListsTooMany, valueCount] using many⟩
      | null | bool | number | string | object => exact absurd many.2 (Nat.not_lt_zero _)
    obtain ⟨count, counted⟩ := counted
    simp [counted, many, OperandFault.eventKind?, eq_comm]
  · rw [countFault?_eq_none_iff.mpr many, Option.none_or, lengthFault?]
    by_cases long : limits.maxStringLength < longestText v
    · simp [long, many, OperandFault.eventKind?, eq_comm]
    · simp [long, many]

/-- A refusal raises an event of some kind exactly if the operand is over a ceiling of the
limits. -/
theorem check_raises_iff [PatternEngine] {value : Option Json} {fault : OperandFault}
    {kind : SecurityEventKind} :
    check op value (some config) limits = .error fault ∧ fault.eventKind? = some kind ↔
      op.needsOperand = true ∧ ∃ v, value = some v ∧ ceilingFault? op v limits = some fault ∧
        fault.eventKind? = some kind := by
  constructor
  · rintro ⟨refused, raised⟩
    have loud : ¬ Quiet fault := fun quiet => by simp [Quiet, raised] at quiet
    obtain ⟨needed, v, rfl, _, sized⟩ := sizeFault?_of_event refused loud
    rw [sizeFault?_eq, Option.or_eq_some_iff] at sized
    rcases sized with found | ⟨_, exceeding⟩
    · exact ⟨needed, v, rfl, found, raised⟩
    · exact absurd (fieldLengthFault?_quiet exceeding) loud
  · rintro ⟨needed, v, rfl, found, raised⟩
    have present : isEmpty (some v) = false :=
      isEmpty_of_isOversized (isOversized_eq.trans (by rw [found]; rfl))
    refine ⟨?_, raised⟩
    rw [check_some, needed, present, sizeFault?_eq, found]
    rfl

end Legality

/-- The check of an operand passes the legal ones and no others, and raises an event for those over
a ceiling of the limits and no others. -/
theorem check_decides_legal [PatternEngine] (op : Operator) (value : Option Json)
    (config : FieldConfig) (limits : Limits) :
    (check op value (some config) limits = .ok () ↔
      (op = .isNull ∨ op = .isNotNull) ∨ ∃ v, value = some v ∧ Legal op config limits v) ∧
    ∀ kind, (∃ fault, check op value (some config) limits = .error fault ∧
        fault.eventKind? = some kind) ↔
      (op ≠ .isNull ∧ op ≠ .isNotNull) ∧ ∃ v, value = some v ∧ Exceeds op limits v kind := by
  refine ⟨?_, fun kind => ?_⟩
  · rw [check_eq_ok, needsOperand_eq_false]
    simp [← passes_iff_legal]
  · have needed : (op ≠ .isNull ∧ op ≠ .isNotNull) ↔ op.needsOperand = true := by
      rw [← not_or, ← needsOperand_eq_false, Bool.not_eq_false]
    -- The fault is determined by the operand, so it may be named before or after it.
    simp only [check_raises_iff, needed, ← ceilingFault?_kind]
    tauto

end Operand

end RowFilter
