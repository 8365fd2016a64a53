import TableMill.Function.Argument

/-!
# Conversions between types
-/

namespace TableMill
namespace Function

def convertToText : List Value → Result Value
  | [v] => .ok (.text v.toText)
  | args => wrongArity "string" 1 args

/-- An integer from a number, a truth value or a text. Numbers are cut toward zero. -/
def convertToInt : List Value → Result Value
  | [.int v] => .ok (.int v)
  | [.float v] => .ok (.int (Number.truncate v))
  | [.decimal d] => .ok (.int d.trunc)
  | [.bool b] => .ok (.int (if b then 1 else 0))
  | [.text s] => match Number.readWord s with
    | .ok n => .ok (.int n)
    | .error fault => fail "int" (.notInt s fault)
  | [v] => fail "int" (.unsupportedArg v)
  | args => wrongArity "int" 1 args

/-- A float from a number, a truth value or a text. -/
def convertToFloat : List Value → Result Value
  | [.int v] => .ok (.float (Number.ofWord v))
  | [.float v] => .ok (.float v)
  | [.decimal d] => .ok (.float d.toFloat)
  | [.bool b] => .ok (.float (if b then 1 else 0))
  | [.text s] => match Number.readFloat s with
    | .ok x => .ok (.float x)
    | .error fault => fail "float" (.notFloat s fault)
  | [v] => fail "float" (.unsupportedArg v)
  | args => wrongArity "float" 1 args

/-- A decimal from a number, a truth value or a text, rounded to two places. -/
def convertToDecimal : List Value → Result Value
  | [.bool b] => .ok (.decimal ⟨if b then 100 else 0⟩)
  | [.text s] => match Decimal.ofText? s with
    | some d => .ok (.decimal d)
    | none => fail "decimal2" (.notDecimal s)
  | [.datetime t] => fail "decimal2" (.unsupportedArg (.datetime t))
  | [v] => v.toDecimal.map Value.decimal
  | args => wrongArity "decimal2" 1 args

end Function
end TableMill
