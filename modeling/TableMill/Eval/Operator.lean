import TableMill.Eval.Numeric

/-!
# Operators

Arithmetic, comparison and logic on values. Results that leave the range of their
type are errors.
-/

namespace TableMill

namespace UnaryOp

def apply : UnaryOp → Value → Except EvalError Value
  | not, .bool b => .ok (.bool (!b))
  | not, v => .error (.type (.notOperand v))
  | negate, .int v => match Number.narrow? (-v.toInt) with
    | some w => .ok (.int w)
    | none => .error (.overflow (.negateInt v))
  | negate, .float v => .ok (.float (-v))
  | negate, .decimal d => match d.neg? with
    | some e => .ok (.decimal e)
    | none => .error (.overflow (.negateDecimal d))
  | negate, v => .error (.type (.minusOperand v))

end UnaryOp

namespace BinaryOp

/-- The result or, where there is none, an overflow. -/
def orOverflow {α : Type} (what : Overflow) : Option α → Except EvalError α
  | some a => .ok a
  | none => .error (.overflow what)

/-- Integer arithmetic; division is cut toward zero. The least word by minus one
overflows, as a quotient and as a remainder. -/
def onInts (op : BinaryOp) (a b : Int64) : Except EvalError Int64 :=
  let result (n : Int) := orOverflow (.intResult op a b) (Number.narrow? n)
  match op with
  | add => result (a.toInt + b.toInt)
  | subtract => result (a.toInt - b.toInt)
  | multiply => result (a.toInt * b.toInt)
  | divide =>
    if b = 0 then .error .intDivideByZero else result (a.toInt.tdiv b.toInt)
  | remainder =>
    if b = 0 then .error .intDivideByZero
    else if a = Int64.minValue ∧ b = -1 then .error (.overflow (.intResult op a b))
    else result (a.toInt.tmod b.toInt)
  | _ => .error (.type (.intOperator op))

/-- Float arithmetic. There is no remainder. -/
def onFloats (op : BinaryOp) (a b : Float) : Except EvalError Float :=
  match op with
  | add => .ok (a + b)
  | subtract => .ok (a - b)
  | multiply => .ok (a * b)
  | divide => .ok (a / b)
  | _ => .error (.type (.floatOperator op))

def onDecimals (op : BinaryOp) (a b : Decimal) : Except EvalError Decimal :=
  let result : Option Decimal → Except EvalError Decimal := orOverflow (.decimalResult op a b)
  match op with
  | add => result (a.add? b)
  | subtract => result (a.sub? b)
  | multiply => result (a.mul? b)
  | divide => if b.isZero then .error .decimalDivideByZero else result (a.div? b)
  | remainder => if b.isZero then .error .decimalDivideByZero else result (a.rem? b)
  | _ => .error (.type (.decimalOperator op))

/-- Arithmetic on two values: numbers in their common type, and texts joined by `+`. -/
def arithmetic (op : BinaryOp) (left right : Value) : Except EvalError Value :=
  match left, right with
  | .text a, .text b =>
    if op = add then .ok (.text (a ++ b)) else .error (.type (.arithmetic op left right))
  | _, _ =>
    if left.isNumeric && right.isNumeric then
      match NumericPair.of left right with
      | .error e => .error e
      | .ok (.ints a b) => (op.onInts a b).map Value.int
      | .ok (.floats a b) => (op.onFloats a b).map Value.float
      | .ok (.decimals a b) => (op.onDecimals a b).map Value.decimal
    else .error (.type (.arithmetic op left right))

/-- Removes one quotation mark at each end. -/
def trimQuotes (cs : List Char) : List Char :=
  let cs := match cs with
    | '"' :: rest => rest
    | _ => cs
  match cs.reverse with
  | '"' :: rest => rest.reverse
  | _ => cs

/-- The order of two texts, taken without the quotation marks around them. -/
def compareTexts (a b : String) : Ordering :=
  compare (String.ofList (trimQuotes a.toList)) (String.ofList (trimQuotes b.toList))

/-- The order of two floats; there is none with a number that is not one. -/
def compareFloats (a b : Float) : Option Ordering :=
  if a < b then some .lt
  else if a == b then some .eq
  else if b < a then some .gt
  else none

/-- Whether an order of the operands satisfies a comparison. Operands without an order
are unequal and nothing else. -/
def holds (op : BinaryOp) : Option Ordering → Bool
  | none => op == notEqual
  | some o => match op with
    | equal => o == .eq
    | notEqual => o != .eq
    | less => o == .lt
    | lessEqual => o != .gt
    | greater => o == .gt
    | greaterEqual => o != .lt
    | _ => false

def comparison (op : BinaryOp) (left right : Value) : Except EvalError Bool :=
  match left, right with
  | .datetime a, .datetime b => .ok (op.holds (some (a.cmp b)))
  | .text a, .text b => .ok (op.holds (some (compareTexts a b)))
  | .bool a, .bool b =>
    match op with
    | equal => .ok (a == b)
    | notEqual => .ok (a != b)
    | _ => .error (.type (.boolOrder op))
  | _, _ =>
    if left.isNumeric && right.isNumeric then
      match NumericPair.of left right with
      | .error e => .error e
      | .ok (.ints a b) => .ok (op.holds (some (compare a.toInt b.toInt)))
      | .ok (.floats a b) => .ok (op.holds (compareFloats a b))
      | .ok (.decimals a b) => .ok (op.holds (some (compare a b)))
    else .error (.type (.comparison op left right))

def logic (op : BinaryOp) (left right : Value) : Except EvalError Value :=
  match left with
  | .bool l => match right with
    | .bool r => .ok (.bool (if op = and then l && r else l || r))
    | _ => .error (.type (.rightNotBool op right))
  | _ => .error (.type (.leftNotBool op left))

def apply (op : BinaryOp) (left right : Value) : Except EvalError Value :=
  match op with
  | add | subtract | multiply | divide | remainder => op.arithmetic left right
  | equal | notEqual | less | lessEqual | greater | greaterEqual =>
    (op.comparison left right).map Value.bool
  | and | or => op.logic left right

end BinaryOp
end TableMill
