import TableMill.Eval.Error

/-!
# Numbers in common

Two numbers meet in the wider of their types: a float takes both to floats, else a
decimal takes both to decimals.
-/

namespace TableMill

inductive NumericPair
  | ints (a b : Int64)
  | floats (a b : Float)
  | decimals (a b : Decimal)
  deriving DecidableEq

namespace Value

/-- The number as an integer. Floats are cut toward zero; a decimal must be whole. -/
def toInt : Value → Except EvalError Int64
  | int v => .ok v
  | float v => .ok (Number.truncate v)
  | decimal d => if d.isInteger then .ok d.trunc else .error (.type (.inexactInt d))
  | v => .error (.type (.notANumber v))

def toFloat : Value → Except EvalError Float
  | int v => .ok (Number.ofWord v)
  | float v => .ok v
  | decimal d => .ok d.toFloat
  | v => .error (.type (.notANumber v))

def toDecimal : Value → Except EvalError Decimal
  | int v => match Decimal.ofWord? v with
    | some d => .ok d
    | none => .error (.overflow (.castToDecimal v))
  | float v => match Decimal.ofFloat? v with
    | some d => .ok d
    | none => .error (.type (.decimalRange v))
  | decimal d => .ok d
  | v => .error (.type (.notANumber v))

end Value

/-- Takes two values to their common number type. -/
def NumericPair.of (left right : Value) : Except EvalError NumericPair :=
  match left, right with
  | .int a, .int b => .ok (.ints a b)
  | .float _, _ | _, .float _ => do
    let a ← left.toFloat
    let b ← right.toFloat
    .ok (.floats a b)
  | .decimal _, _ | _, .decimal _ => do
    let a ← left.toDecimal
    let b ← right.toDecimal
    .ok (.decimals a b)
  | _, _ => .error (.type (.notANumber (if left.isNumeric then right else left)))

end TableMill
