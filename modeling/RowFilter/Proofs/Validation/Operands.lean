import RowFilter.Compilation.Constraint
import RowFilter.Operand
import RowFilter.Proofs.Outcome

/-! # Operands that pass their check compile

The validator and the compiler look at an operand independently. The check is the stricter of
the two: it measures strings at every nesting of arrays, and it does without the leniency that
takes a scalar for a list of one. So what it passes gives a constraint, and the ceiling on the
number of values is enforced by both.
-/

namespace RowFilter

open Outcome

namespace Operand

/-- The fault of a list over the ceiling on values. -/
def countFault? (op : Operator) (limits : Limits) : Json → Option OperandFault
  | .array items =>
    if (op == .isIn || op == .notIn) && limits.maxInValues < items.length then
      some (.tooManyValues items.length limits.maxInValues)
    else none
  | _ => none

/-- The fault of a string over the ceiling of the limits. -/
def lengthFault? (limits : Limits) (v : Json) : Option OperandFault :=
  if limits.maxStringLength < longestText v then
    some (.stringTooLong (longestText v) limits.maxStringLength)
  else none

/-- The fault of a string over the ceiling of its field. -/
def fieldLengthFault? (config : Option FieldConfig) (v : Json) : Option OperandFault :=
  (config.bind fun c => c.maxLength).bind fun max =>
    if max < longestText v then some (.lengthExceeded max) else none

/-- The first fault in the size of an operand. -/
def sizeFault? (op : Operator) (v : Json) (config : Option FieldConfig) (limits : Limits) :
    Option OperandFault :=
  (countFault? op limits v).or ((lengthFault? limits v).or (fieldLengthFault? config v))

/-- Fails with a fault, if there is one. -/
def raise : Option OperandFault → Except OperandFault Unit
  | none => .ok ()
  | some fault => .error fault

theorem raise_eq_ok {found : Option OperandFault} {u : Unit} :
    raise found = .ok u ↔ found = none := by
  cases found <;> simp [raise]

theorem raise_eq_error {found : Option OperandFault} {fault : OperandFault} :
    raise found = .error fault ↔ found = some fault := by
  cases found <;> simp [raise]

theorem raise_or (first second : Option OperandFault) :
    raise (first.or second) = raise first >>= fun _ => raise second := by
  cases first <;> rfl

theorem guarded {α : Type} {p : Prop} [Decidable p] (fault : OperandFault)
    (next : Except OperandFault α) :
    (if p then (.error fault : Except OperandFault Unit) >>= fun _ => next else next) =
      raise (if p then some fault else none) >>= fun _ => next := by
  split <;> rfl

private theorem fieldLengthFault?_raise (config : Option FieldConfig) (v : Json) :
    (match config.bind fun c => c.maxLength with
      | some max =>
        if max < longestText v then (.error (.lengthExceeded max) : Except OperandFault Unit)
        else .ok ()
      | _ => .ok ()) = raise (fieldLengthFault? config v) := by
  unfold fieldLengthFault?
  cases config.bind fun c => c.maxLength with
  | none => rfl
  | some max => by_cases beyond : max < longestText v <;> simp [beyond, raise]

/-- The ceilings are tried one after the other, and the first that is exceeded counts. -/
theorem checkSize_eq (op : Operator) (v : Json) (config : Option FieldConfig) (limits : Limits) :
    checkSize op v config limits = raise (sizeFault? op v config limits) := by
  rw [sizeFault?, raise_or, raise_or, ← fieldLengthFault?_raise, lengthFault?]
  unfold checkSize
  simp only [pure, Except.pure, throw, throwThe, MonadExceptOf.throw, guarded]
  cases v <;> rfl

section

variable [PatternEngine]

/-- An operand that is needed and there is checked for its size, then for the shape that its
operator asks for, and then for the kind of its field. -/
theorem check_some (op : Operator) (v : Json) (config : Option FieldConfig) (limits : Limits) :
    check op (some v) config limits =
      if op.needsOperand then
        raise (if isEmpty (some v) then some (.valueRequired op) else none) >>= fun _ =>
        raise (sizeFault? op v config limits) >>= fun _ =>
        scalars op v >>= fun vs =>
        match config with
        | some config => checkKind op config vs
        | none => .ok ()
      else .ok () := by
  rw [← checkSize_eq]
  unfold check
  simp only [pure, Except.pure, throw, throwThe, MonadExceptOf.throw, guarded]
  cases config <;> rfl

theorem check_none (op : Operator) (config : Option FieldConfig) (limits : Limits) :
    check op none config limits =
      if op.needsOperand then .error (.valueRequired op) else .ok () := rfl

/-- An operand passes if its operator takes none, or if it is there, keeps the ceilings, has the
shape that its operator asks for, and suits the kind of its field. -/
theorem check_eq_ok {op : Operator} {value : Option Json} {config : Option FieldConfig}
    {limits : Limits} :
    check op value config limits = .ok () ↔
      op.needsOperand = false ∨
        ∃ v vs, value = some v ∧ isEmpty (some v) = false ∧ sizeFault? op v config limits = none ∧
          scalars op v = .ok vs ∧ ∀ c ∈ config, checkKind op c vs = .ok () := by
  cases needed : op.needsOperand with
  | false => cases value <;> simp [check_none, check_some, needed]
  | true =>
      cases value with
      | none => simp [check_none, needed]
      | some v =>
          rw [check_some, needed, if_pos rfl]
          simp only [bind_eq_ok, raise_eq_ok]
          constructor
          · rintro ⟨_, present, _, sized, vs, shaped, suited⟩
            refine .inr ⟨v, vs, rfl, by simpa using present, sized, shaped, ?_⟩
            rintro c ⟨⟩
            exact suited
          · rintro (impossible | ⟨_, vs, ⟨⟩, present, sized, shaped, suited⟩)
            · cases impossible
            · refine ⟨(), by simpa using present, (), sized, vs, shaped, ?_⟩
              cases config with
              | none => rfl
              | some c => exact suited c rfl

/-- A fault that raises no security event. -/
def Quiet (fault : OperandFault) : Prop := fault.eventKind? = none

theorem scalars_quiet (op : Operator) (v : Json) : FailsOnly Quiet (scalars op v) := by
  unfold scalars
  repeat' split
  all_goals first | exact .ok Quiet _ | exact .error rfl

end

theorem checkNumber_quiet (config : FieldConfig) (v : Json) :
    FailsOnly Quiet (checkNumber config v) := by
  unfold checkNumber
  simp only [pure, Except.pure, throw, throwThe, MonadExceptOf.throw]
  repeat' split
  all_goals first | exact .ok Quiet _ | exact .error rfl

theorem checkBoolean_quiet (v : Json) : FailsOnly Quiet (checkBoolean v) := by
  unfold checkBoolean
  repeat' split
  all_goals first | exact .ok Quiet _ | exact .error rfl

/-- The fault of a range whose bounds stand in the wrong order. -/
def orderFault? (op : Operator) : List Double → Option OperandFault
  | [low, high] => if op == .between && high.key < low.key then some .boundsReversed else none
  | _ => none

/-- Numbers are read and ordered before truth values are looked at. -/
theorem checkKind_eq (op : Operator) (config : FieldConfig) (vs : List Json) :
    checkKind op config vs =
      (if config.kind.isNumeric then
        vs.mapM (checkNumber config) >>= fun numbers => raise (orderFault? op numbers)
      else .ok ()) >>= fun _ =>
      if config.kind == .boolean then vs.forM checkBoolean else .ok () := by
  unfold checkKind
  simp only [pure, Except.pure, throw, throwThe, MonadExceptOf.throw]
  cases config.kind.isNumeric with
  | false => rfl
  | true =>
      rw [if_pos rfl, if_pos rfl]
      cases vs.mapM (checkNumber config) with
      | error e => rfl
      | ok numbers =>
          simp only [bind, Except.bind]
          by_cases range : (op == .between) = true
          · rw [if_pos range]
            rcases numbers with _ | ⟨low, _ | ⟨high, _ | _⟩⟩
            · rfl
            · rfl
            · by_cases reversed : high.key < low.key <;>
                simp [orderFault?, range, reversed, raise]
            · rfl
          · rw [if_neg range]
            have kept : orderFault? op numbers = none := by
              unfold orderFault?
              split <;> simp [range]
            rw [kept]
            rfl

theorem raise_quiet {found : Option OperandFault} (h : ∀ fault ∈ found, Quiet fault) :
    FailsOnly Quiet (raise found) :=
  fun fault refused => h fault (raise_eq_error.mp refused)

theorem checkKind_quiet (op : Operator) (config : FieldConfig) (vs : List Json) :
    FailsOnly Quiet (checkKind op config vs) := by
  have ordered (numbers : List Double) : FailsOnly Quiet (raise (orderFault? op numbers)) := by
    apply raise_quiet
    intro fault found
    unfold orderFault? at found
    split at found
    · split at found <;> cases found
      rfl
    · cases found
  rw [checkKind_eq]
  apply FailsOnly.bind
  · split
    · exact (FailsOnly.mapM fun v _ => checkNumber_quiet config v).bind fun ns _ => ordered ns
    · exact .ok Quiet _
  · intro _ _
    split
    · exact .forM fun v _ => checkBoolean_quiet v
    · exact .ok Quiet _

/-- What raises a security event is the size of an operand that is there. -/
theorem sizeFault?_of_event [PatternEngine] {op : Operator} {value : Option Json}
    {config : Option FieldConfig}
    {limits : Limits} {fault : OperandFault} (refused : check op value config limits = .error fault)
    (loud : ¬ Quiet fault) :
    op.needsOperand = true ∧
      ∃ v, value = some v ∧ isEmpty (some v) = false ∧
        sizeFault? op v config limits = some fault := by
  cases needed : op.needsOperand with
  | false => cases value <;> simp [check_none, check_some, needed] at refused
  | true =>
      refine ⟨rfl, ?_⟩
      cases value with
      | none =>
          rw [check_none, needed] at refused
          cases refused
          exact absurd rfl loud
      | some v =>
          refine ⟨v, rfl, ?_⟩
          rw [check_some, needed, if_pos rfl, bind_eq_error, raise_eq_error] at refused
          rcases refused with absent | ⟨_, present, refused⟩
          · split at absent <;> cases absent
            exact absurd rfl loud
          · rw [bind_eq_error, raise_eq_error] at refused
            rcases refused with oversized | ⟨_, _, refused⟩
            · exact ⟨by simpa [raise_eq_ok] using present, oversized⟩
            · refine absurd ?_ loud
              refine (scalars_quiet op v).bind (fun vs _ => ?_) fault refused
              cases config with
              | none => exact .ok Quiet _
              | some c => exact checkKind_quiet op c vs

/-- Of all faults only that of a list over the ceiling raises an event about its length. -/
theorem sizeFault?_kind {op : Operator} {v : Json} {config : Option FieldConfig} {limits : Limits}
    {fault : OperandFault} (found : sizeFault? op v config limits = some fault)
    (fits : countFault? op limits v = none) : fault.eventKind? ≠ some .tooManyInValues := by
  rw [sizeFault?, fits, Option.none_or, Option.or_eq_some_iff] at found
  rcases found with long | ⟨_, exceeding⟩
  · rw [lengthFault?] at long
    split at long <;> cases long
    intro same
    cases same
  · obtain ⟨max, _, exceeded⟩ := Option.bind_eq_some_iff.mp exceeding
    split at exceeded <;> cases exceeded
    intro same
    cases same

end Operand

namespace Constraint

theorem foldl_listed_le (items : List Json) (found : Nat) :
    items.foldl (fun n v => match v with
      | .string s => max n s.length
      | _ => n) found ≤ max found (Operand.longestIn items) := by
  induction items generalizing found with
  | nil => exact Nat.le_max_left _ _
  | cons v rest ih =>
      rw [List.foldl_cons, Operand.longestIn]
      refine Nat.le_trans (ih _) ?_
      cases v <;> simp only [Operand.longestText] <;> omega

/-- The compiler measures the strings of a list and not those of lists within it, so it finds
none longer than the validator does. -/
theorem longestListed_le (v : Json) : longestListed v ≤ Operand.longestText v := by
  cases v with
  | string s => exact Nat.le_refl _
  | array items =>
      have listed := foldl_listed_le items 0
      rw [Nat.zero_max] at listed
      exact listed
  | _ => exact Nat.zero_le _

/-- An operand that counts as present is none that compilation takes for absent. -/
theorem isNull_of_present {v : Json} (h : Operand.isEmpty (some v) = false) : v.isNull = false := by
  cases v with
  | null => cases h
  | _ => rfl

theorem operandText_total (id : String) {op : Operator} {v : Json}
    (present : Operand.isEmpty (some v) = false) (single : ∀ items, v ≠ .array items)
    (plain : ∀ members, v ≠ .object members) : ∃ s, operandText id op v = .ok s := by
  cases v with
  | null => cases present
  | array items => exact absurd rfl (single items)
  | object members => exact absurd rfl (plain members)
  | _ => exact ⟨_, rfl⟩

/-- A list is taken for a membership test as it is, if it has a value and not too many. -/
theorem operandList_array {id : String} {op : Operator} {limits : Limits} {items vs : List Json} :
    operandList id op limits (.array items) = .ok vs ↔
      items.isEmpty = false ∧ items.length ≤ limits.maxInValues ∧ vs = items := by
  simp only [operandList]
  cases filled : items.isEmpty with
  | true => simp
  | false =>
      by_cases beyond : limits.maxInValues < items.length
      · simp [beyond, Nat.not_le.mpr beyond]
      · simpa [beyond, eq_comm] using fun _ => Nat.not_lt.mp beyond

variable [PatternEngine]

/-- An operand in the shape that the validator asks for gives a constraint. -/
theorem ofOperand_of_scalars (id : String) {op : Operator} {v : Json} {vs : List Json}
    (dialect : Dialect) {limits : Limits} (present : Operand.isEmpty (some v) = false)
    (fits : Operand.countFault? op limits v = none) (shaped : Operand.scalars op v = .ok vs) :
    ∃ c, ofOperand id op v dialect limits = .ok c := by
  cases op with
  | like | ilike | startsWith | endsWith =>
      have single : ∀ items, v ≠ .array items := by rintro items rfl; cases shaped
      have plain : ∀ members, v ≠ .object members := by rintro members rfl; cases shaped
      obtain ⟨s, text⟩ := operandText_total id present single plain
      exact ⟨_, map_eq_ok.mpr ⟨s, text, rfl⟩⟩
  | isIn | notIn =>
      cases v with
      | array items =>
          have count : items.length ≤ limits.maxInValues := by
            simpa [Operand.countFault?] using fits
          exact ⟨_, map_eq_ok.mpr ⟨items, operandList_array.mpr ⟨present, count, rfl⟩, rfl⟩⟩
      | _ => cases shaped
  | regex =>
      cases v with
      | string pattern =>
          simp only [Operand.scalars] at shaped
          split at shaped
          · rename_i test compiled
            exact ⟨.regexp pattern, by rw [ofOperand, compiled]⟩
          · cases shaped
      | _ => cases shaped
  | between =>
      cases v with
      | array items =>
          rcases items with _ | ⟨low, _ | ⟨high, _ | _⟩⟩
          · cases shaped
          · cases shaped
          · exact ⟨_, rfl⟩
          · cases shaped
      | _ => cases shaped
  | _ => exact ⟨_, rfl⟩

/-- Of an operand that is there the strings are measured before anything else. -/
theorem ofOperator_some {op : Operator} {v : Json} (id : String) (dialect : Dialect)
    (limits : Limits) (needed : op.needsOperand = true) (given : v.isNull = false) :
    ofOperator id op (some v) dialect limits =
      if limits.maxStringLength < longestListed v then
        .error (.stringTooLong id (longestListed v) limits.maxStringLength)
      else ofOperand id op v dialect limits := by
  simp only [ofOperator, needed, Option.filter, given, Bool.not_true, Bool.not_false,
    Bool.false_eq_true, if_false, if_true]

/-- An operand that passes its check compiles under the same limits, in every dialect. -/
theorem ofOperator_of_check {op : Operator} {value : Option Json} {config : Option FieldConfig}
    {limits : Limits} (id : String) (dialect : Dialect)
    (passed : Operand.check op value config limits = .ok ()) :
    ∃ c, ofOperator id op value dialect limits = .ok c := by
  cases needed : op.needsOperand with
  | false =>
      cases op with
      | isNull | isNotNull => exact ⟨_, rfl⟩
      | _ => cases needed
  | true =>
      rcases Operand.check_eq_ok.mp passed with unneeded | ⟨v, vs, rfl, present, sized, shaped, _⟩
      · rw [needed] at unneeded
        cases unneeded
      · rw [Operand.sizeFault?, Option.or_eq_none_iff, Option.or_eq_none_iff] at sized
        obtain ⟨fits, short, _⟩ := sized
        have within : ¬ limits.maxStringLength < longestListed v := by
          have bounded := longestListed_le v
          rw [Operand.lengthFault?] at short
          split at short
          · cases short
          · omega
        obtain ⟨c, compiled⟩ := ofOperand_of_scalars id dialect present fits shaped
        refine ⟨c, ?_⟩
        rw [ofOperator_some id dialect limits needed (isNull_of_present present), if_neg within,
          compiled]

/-- A list over the ceiling on values gives no constraint. -/
theorem countFault?_of_ofOperator {id : String} {op : Operator} {v : Json} {dialect : Dialect}
    {limits : Limits} {c : Constraint}
    (compiled : ofOperator id op (some v) dialect limits = .ok c) :
    Operand.countFault? op limits v = none := by
  cases v with
  | array items =>
      cases op with
      | isIn | notIn =>
          rw [ofOperator_some id dialect limits rfl rfl] at compiled
          split at compiled
          · cases compiled
          · obtain ⟨vs, listed, _⟩ := map_eq_ok.mp compiled
            obtain ⟨_, fits, _⟩ := operandList_array.mp listed
            exact if_neg (by simpa using fits)
      | _ => rfl
  | _ => rfl

/-- An operand that compiles may be refused by its check, but not for the number of values. -/
theorem eventKind?_of_ofOperator {id : String} {op : Operator} {value : Option Json}
    {config : Option FieldConfig} {dialect : Dialect} {limits : Limits} {c : Constraint}
    {fault : OperandFault} (compiled : ofOperator id op value dialect limits = .ok c)
    (refused : Operand.check op value config limits = .error fault) :
    fault.eventKind? ≠ some .tooManyInValues := by
  by_cases quiet : Operand.Quiet fault
  · intro loud
    rw [quiet] at loud
    cases loud
  · obtain ⟨_, v, rfl, _, oversized⟩ := Operand.sizeFault?_of_event refused quiet
    exact Operand.sizeFault?_kind oversized (countFault?_of_ofOperator compiled)

end Constraint

end RowFilter
