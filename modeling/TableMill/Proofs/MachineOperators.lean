import TableMill.Proofs.MachineDecimals
import TableMill.Proofs.OperandKinds

/-!
# Operators on the machine

The operators, done on machine integers. A checked operation that has no result is reported as an
error, and no other one stops the machine. What an operator comes to is what exact integers give, and
is no stop of the program.
-/

namespace TableMill

/-- Whether an outcome is a stop of the program instead of a value or a report. -/
def stopped {α : Type} : Except EvalError α → Bool
  | .ok _ => false
  | .error e => e.stops

section Stops

variable {α β : Type} {x : Except EvalError α}

theorem stopped_bind {f : α → Except EvalError β} (hx : stopped x = false)
    (hf : ∀ a, stopped (f a) = false) : stopped (x >>= f) = false := by
  cases x with
  | ok a => exact hf a
  | error e => exact hx

theorem stopped_map {f : α → β} (hx : stopped x = false) : stopped (x.map f) = false := by
  cases x with
  | ok a => rfl
  | error e => exact hx

end Stops

/-- A calculation on the machine that may fail. -/
abbrev Calculation := ExceptT EvalError Machine

namespace Calculation

variable {α β : Type}

/-- A result that takes no arithmetic on machine integers. -/
def exactly (x : Except EvalError α) : Calculation α := ExceptT.mk (.ok x)

def machine (m : Machine α) : Calculation α := ExceptT.lift m

@[simp] theorem pure_eq (a : α) : (pure a : Calculation α) = exactly (.ok a) := rfl

@[simp] theorem machine_ok (a : α) : machine (.ok a) = exactly (.ok a) := rfl

@[simp] theorem exactly_ok_bind (a : α) (f : α → Calculation β) : exactly (.ok a) >>= f = f a := rfl

theorem exactly_bind (x : Except EvalError α) (f : α → Except EvalError β) :
    (exactly x >>= fun a => exactly (f a)) = exactly (x >>= f) := by
  cases x <;> rfl

end Calculation

namespace Machine

open Number Width Calculation

def toDecimal : Value → Calculation Decimal
  | .int v => exactly (match ofWord? v with
    | some d => .ok d
    | none => .error (.overflow (.castToDecimal v)))
  | .float v => do
    let d ← machine (ofFloat? v)
    exactly (match d with
      | some d => .ok d
      | none => .error (.type (.decimalRange v)))
  | v => exactly v.toDecimal

def pair (left right : Value) : Calculation NumericPair :=
  match left, right with
  | .int _, .int _ | .float _, _ | _, .float _ => exactly (NumericPair.of left right)
  | .decimal _, _ | _, .decimal _ => do
    let a ← toDecimal left
    let b ← toDecimal right
    pure (.decimals a b)
  | _, _ => exactly (NumericPair.of left right)

/-- Integer arithmetic is checked. -/
def onInts (op : BinaryOp) (a b : Int64) : Except EvalError Int64 :=
  let result (m : Machine Int) := BinaryOp.orOverflow (.intResult op a b) (checked m)
  match op with
  | .add => result (i64.sum a.toInt b.toInt)
  | .subtract => result (i64.difference a.toInt b.toInt)
  | .multiply => result (i64.product a.toInt b.toInt)
  | .divide => if b = 0 then .error .intDivideByZero else result (i64.quotient a.toInt b.toInt)
  | .remainder =>
    if b = 0 then .error .intDivideByZero else result (i64.remainder a.toInt b.toInt)
  | _ => .error (.type (.intOperator op))

def onDecimals (op : BinaryOp) (a b : Decimal) : Calculation Decimal :=
  let result (d : Option Decimal) : Calculation Decimal :=
    exactly (BinaryOp.orOverflow (.decimalResult op a b) d)
  match op with
  | .add => result (add? a b)
  | .subtract => result (sub? a b)
  | .multiply => machine (mul? a b) >>= result
  | .divide =>
    if b.isZero then exactly (.error .decimalDivideByZero) else machine (div? a b) >>= result
  | .remainder => if b.isZero then exactly (.error .decimalDivideByZero) else result (rem? a b)
  | _ => exactly (.error (.type (.decimalOperator op)))

def onPair (op : BinaryOp) : NumericPair → Calculation Value
  | .ints a b => exactly ((onInts op a b).map Value.int)
  | .floats a b => exactly ((op.onFloats a b).map Value.float)
  | .decimals a b => do
    let d ← onDecimals op a b
    pure (.decimal d)

def arithmetic (op : BinaryOp) (left right : Value) : Calculation Value :=
  if left.isNumeric && right.isNumeric then pair left right >>= onPair op
  else exactly (op.arithmetic left right)

def comparison (op : BinaryOp) (left right : Value) : Calculation Bool :=
  if left.isNumeric && right.isNumeric then do
    let p ← pair left right
    pure (op.holds (BinaryOp.pairOrder p))
  else exactly (op.comparison left right)

def binary (op : BinaryOp) (left right : Value) : Calculation Value :=
  match op with
  | .add | .subtract | .multiply | .divide | .remainder => arithmetic op left right
  | .equal | .notEqual | .less | .lessEqual | .greater | .greaterEqual => do
    let b ← comparison op left right
    pure (.bool b)
  | .and | .or => exactly (op.logic left right)

def unary (op : UnaryOp) (v : Value) : Except EvalError Value :=
  match op, v with
  | .negate, .int n => match checked (i64.negative n.toInt) with
    | some w => .ok (.int w)
    | none => .error (.overflow (.negateInt n))
  | .negate, .decimal d => match neg? d with
    | some e => .ok (.decimal e)
    | none => .error (.overflow (.negateDecimal d))
  | op, v => op.apply v

@[simp] theorem toDecimal_value (v : Value) : toDecimal v = exactly v.toDecimal := by
  cases v with
  | float x =>
    rw [toDecimal, ofFloat?_value]
    rfl
  | int n =>
    rw [toDecimal, ofWord?_value]
    rfl
  | _ => rfl

theorem pair_decimals (left right : Value) :
    (do
      let a ← toDecimal left
      let b ← toDecimal right
      pure (.decimals a b) : Calculation NumericPair) =
    exactly (do
      let a ← left.toDecimal
      let b ← right.toDecimal
      .ok (.decimals a b)) := by
  simp only [toDecimal_value, pure_eq, exactly_bind]

@[simp] theorem pair_value (left right : Value) :
    pair left right = exactly (NumericPair.of left right) := by
  cases left <;> cases right <;> first | rfl | exact pair_decimals _ _

@[simp] theorem onInts_value (op : BinaryOp) (a b : Int64) : onInts op a b = op.onInts a b := by
  unfold onInts BinaryOp.onInts
  cases op with
  | add | subtract | multiply => simp only [sum, difference, product, checked_perform]
  | divide =>
    by_cases hb : b = 0
    · simp only [if_pos hb]
    · simp only [if_neg hb, quotient, if_neg (toInt_ne_zero hb), checked_perform]
  | remainder =>
    by_cases hb : b = 0
    · simp only [if_pos hb]
    · simp only [if_neg hb, checked_remainder a hb]
      split <;> rfl
  | _ => rfl

@[simp] theorem onDecimals_value (op : BinaryOp) (a b : Decimal) :
    onDecimals op a b = exactly (op.onDecimals a b) := by
  cases op with
  | add | subtract | multiply => simp [onDecimals, BinaryOp.onDecimals]
  | divide | remainder =>
    unfold onDecimals BinaryOp.onDecimals
    by_cases hb : b.isZero
    · simp [hb]
    · simp [hb]
  | _ => rfl

@[simp] theorem onPair_value (op : BinaryOp) (p : NumericPair) :
    onPair op p = exactly (op.onPair p) := by
  cases p with
  | ints a b => exact congrArg (fun x => exactly (x.map Value.int)) (onInts_value op a b)
  | floats a b => rfl
  | decimals a b =>
    rw [onPair, onDecimals_value]
    exact exactly_bind _ _

theorem common?_of_isNumeric {left right : Value} (h : (left.isNumeric && right.isNumeric) = true) :
    ∃ k, Kind.common? left.kind right.kind = some k := by
  rw [NumericPair.isNumeric_and] at h
  exact Option.isSome_iff_exists.1 h

theorem arithmetic_value (op : BinaryOp) (left right : Value) :
    arithmetic op left right = exactly (op.arithmetic left right) := by
  unfold arithmetic
  split
  · next h =>
    obtain ⟨k, hk⟩ := common?_of_isNumeric h
    simp only [BinaryOp.arithmetic_eq_onPair hk, pair_value, funext (onPair_value op), exactly_bind]
  · rfl

theorem comparison_value (op : BinaryOp) (left right : Value) :
    comparison op left right = exactly (op.comparison left right) := by
  unfold comparison
  split
  · next h =>
    obtain ⟨k, hk⟩ := common?_of_isNumeric h
    rw [BinaryOp.comparison_eq_pairOrder hk, pair_value]
    cases NumericPair.of left right <;> rfl
  · rfl

@[simp] theorem binary_value (op : BinaryOp) (left right : Value) :
    binary op left right = exactly (op.apply left right) := by
  cases op with
  | add | subtract | multiply | divide | remainder => exact arithmetic_value _ left right
  | and | or => rfl
  | _ =>
    unfold binary BinaryOp.apply
    dsimp only
    rw [comparison_value]
    cases BinaryOp.comparison _ left right <;> rfl

@[simp] theorem unary_value (op : UnaryOp) (v : Value) : unary op v = op.apply v := by
  cases op with
  | not => cases v <;> rfl
  | negate =>
    cases v with
    | int n =>
      cases h : narrow? (-n.toInt) <;>
        simp only [unary, UnaryOp.apply, negative, checked_perform, h]
    | decimal d =>
      cases h : d.neg? <;> simp only [unary, UnaryOp.apply, neg?_value, h]
    | _ => rfl

end Machine

/-! ## Operators do not stop -/

theorem Value.stopped_toDecimal (v : Value) : stopped v.toDecimal = false := by
  cases v with
  | int n =>
    simp only [Value.toDecimal]
    split <;> rfl
  | float x =>
    simp only [Value.toDecimal]
    split <;> rfl
  | _ => rfl

theorem NumericPair.stopped_of (left right : Value) :
    stopped (NumericPair.of left right) = false := by
  have hdecimals : stopped (do
      let a ← left.toDecimal
      let b ← right.toDecimal
      .ok (.decimals a b) : Except EvalError NumericPair) = false :=
    stopped_bind left.stopped_toDecimal fun _ =>
      stopped_bind right.stopped_toDecimal fun _ => rfl
  cases left <;> cases right <;> first | rfl | exact hdecimals

namespace BinaryOp

theorem stopped_orOverflow {α : Type} {what : Overflow}
    (hwhat : (EvalError.overflow what).stops = false) (o : Option α) :
    stopped (orOverflow what o) = false := by
  cases o with
  | some a => rfl
  | none => exact hwhat

theorem stopped_onInts (op : BinaryOp) (a b : Int64) : stopped (op.onInts a b) = false := by
  unfold onInts
  cases op with
  | add | subtract | multiply => exact stopped_orOverflow rfl _
  | divide =>
    dsimp only
    split
    · rfl
    · exact stopped_orOverflow rfl _
  | remainder =>
    dsimp only
    split
    · rfl
    · split
      · rfl
      · exact stopped_orOverflow rfl _
  | _ => rfl

theorem stopped_onDecimals (op : BinaryOp) (a b : Decimal) :
    stopped (op.onDecimals a b) = false := by
  unfold onDecimals
  cases op with
  | add | subtract | multiply => exact stopped_orOverflow rfl _
  | divide | remainder =>
    dsimp only
    split
    · rfl
    · exact stopped_orOverflow rfl _
  | _ => rfl

theorem stopped_onPair (op : BinaryOp) (p : NumericPair) : stopped (op.onPair p) = false := by
  cases p with
  | ints a b => exact stopped_map (stopped_onInts op a b)
  | floats a b => cases op <;> rfl
  | decimals a b => exact stopped_map (stopped_onDecimals op a b)

theorem stopped_arithmetic (op : BinaryOp) (left right : Value) :
    stopped (op.arithmetic left right) = false := by
  by_cases h : (left.isNumeric && right.isNumeric) = true
  · obtain ⟨k, hk⟩ := Machine.common?_of_isNumeric h
    rw [arithmetic_eq_onPair hk]
    exact stopped_bind (NumericPair.stopped_of left right) (stopped_onPair op)
  · unfold arithmetic
    split
    · split <;> rfl
    · rw [if_neg h]
      rfl

theorem stopped_comparison (op : BinaryOp) (left right : Value) :
    stopped (op.comparison left right) = false := by
  by_cases h : (left.isNumeric && right.isNumeric) = true
  · obtain ⟨k, hk⟩ := Machine.common?_of_isNumeric h
    rw [comparison_eq_pairOrder hk]
    exact stopped_map (NumericPair.stopped_of left right)
  · unfold comparison
    split
    · rfl
    · rfl
    · split <;> rfl
    · rw [if_neg h]
      rfl

theorem stopped_apply (op : BinaryOp) (left right : Value) :
    stopped (op.apply left right) = false := by
  cases op with
  | add | subtract | multiply | divide | remainder => exact stopped_arithmetic _ left right
  | equal | notEqual | less | lessEqual | greater | greaterEqual =>
    exact stopped_map (stopped_comparison _ left right)
  | and | or =>
    unfold apply logic
    dsimp only
    split
    · split <;> rfl
    · rfl

end BinaryOp

theorem UnaryOp.stopped_apply (op : UnaryOp) (v : Value) : stopped (op.apply v) = false := by
  cases op with
  | not => cases v <;> rfl
  | negate =>
    cases v with
    | int n | decimal d =>
      simp only [UnaryOp.apply]
      split <;> rfl
    | _ => rfl

end TableMill
