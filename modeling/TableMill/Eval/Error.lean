import TableMill.Expr.Token

/-!
# Evaluation errors

What can go wrong when an expression is parsed or evaluated, by cause. The wording of
every cause is in `message`.
-/

namespace TableMill

inductive ArgShape
  | string | int | number | datetime
  deriving DecidableEq, Repr

def ArgShape.name : ArgShape → String
  | string => "string"
  | int => "int"
  | number => "number"
  | datetime => "datetime"

inductive CallFault
  | wrongArg (want : ArgShape) (got : Value)
  | notBoolFirst (got : Value)
  | wrongBranch (want : Kind) (got : Value)
  | tooFewArgs (supplied : Nat)
  | notInt (input : String) (fault : Number.IntFault)
  | notFloat (input : String) (fault : Number.FloatFault)
  | notDecimal (input : String)
  | unsupportedArg (got : Value)
  | badPattern (pattern reason : String)
  | unparsedTime (layout value : String)
  | badLayout (layout : String)
  | unformattable (layout : String)
  | invalidDate (year month day hour minute second nanos offset : Int64)
  | zoneRange (offset : Int64)
  | unsupportedValue (got : Value)
  | onlyStrings (got : Value)
  | conditionNotBool (got : Value)
  | separatorNotLiteral
  | wrongParameters (func : String) (count : Nat)
  deriving DecidableEq

/-- A time that does not match its layout. -/
def unparsedTimeMessage (layout value : String) : String :=
  "cannot parse " ++ Text.quoted value ++ " with layout " ++ Text.quoted layout

def CallFault.message : CallFault → String
  | wrongArg want got => "expected " ++ want.name ++ " arg, got " ++ got.describe
  | notBoolFirst got => "first arg must be bool, got " ++ got.describe
  | wrongBranch want got => "expected " ++ want.name ++ " branches, got " ++ got.describe
  | tooFewArgs supplied => "requires at least 2 args, " ++ toString supplied ++ " supplied"
  | notInt input fault => "cannot parse " ++ Text.quoted input ++ ": " ++ fault.message
  | notFloat input fault => "cannot parse " ++ Text.quoted input ++ ": " ++ fault.message
  | notDecimal input => Decimal.unreadable input
  | unsupportedArg got => "unsupported arg type " ++ got.describe
  | badPattern pattern reason => "invalid pattern " ++ Text.quoted pattern ++ ": " ++ reason
  | unparsedTime layout value => unparsedTimeMessage layout value
  | badLayout layout => "invalid layout " ++ Text.quoted layout
  | unformattable layout => "cannot format with layout " ++ Text.quoted layout
  | invalidDate year month day hour minute second nanos offset =>
    "invalid date " ++ toString year.toInt ++ "-" ++ toString month.toInt ++ "-"
      ++ toString day.toInt ++ " " ++ toString hour.toInt ++ ":" ++ toString minute.toInt
      ++ ":" ++ toString second.toInt ++ "." ++ toString nanos.toInt
      ++ " offset " ++ toString offset.toInt
  | zoneRange offset => "zone offset " ++ toString offset.toInt ++ "s out of range"
  | unsupportedValue got => "unsupported value " ++ got.describe
  | onlyStrings got =>
    "unsupported value " ++ got.describe ++ ", only strings can be aggregated"
  | conditionNotBool got => "condition must be bool, got " ++ got.describe
  | separatorNotLiteral => "second parameter must be a constant string"
  | wrongParameters func count =>
    func ++ " must have " ++ toString count ++ " parameters"

inductive TypeFault
  | notANumber (got : Value)
  | inexactInt (d : Decimal)
  | decimalRange (x : Float)
  | notOperand (got : Value)
  | minusOperand (got : Value)
  | leftNotBool (op : BinaryOp) (got : Value)
  | rightNotBool (op : BinaryOp) (got : Value)
  | arithmetic (op : BinaryOp) (left right : Value)
  | comparison (op : BinaryOp) (left right : Value)
  | boolOrder (op : BinaryOp)
  | intOperator (op : BinaryOp)
  | floatOperator (op : BinaryOp)
  | decimalOperator (op : BinaryOp)
  deriving DecidableEq

/-- Two operands that no operator of a sort takes together. -/
def incompatible (sort : String) (op : BinaryOp) (left right : Value) : String :=
  "cannot perform binary " ++ sort ++ " op, incompatible arg types '" ++ left.describe
    ++ "' " ++ op.symbol ++ " '" ++ right.describe ++ "'"

def TypeFault.message : TypeFault → String
  | notANumber got =>
    "cannot cast " ++ got.describe ++ " to standard number type, unsupported type"
  | inexactInt d => "cannot cast decimal '" ++ d.toText ++ "' to int, exact conversion impossible"
  | decimalRange x =>
    "cannot cast float " ++ Number.floatText x ++ " to decimal2, value out of range"
  | notOperand got =>
    "cannot evaluate unary bool not expression with " ++ got.describe ++ " on the right"
  | minusOperand got =>
    "cannot evaluate unary minus expression with " ++ got.describe ++ " on the right"
  | leftNotBool op got =>
    "cannot perform binary op " ++ op.symbol ++ " against " ++ got.describe ++ " on the left"
  | rightNotBool op got =>
    "cannot perform binary op " ++ op.symbol ++ " against " ++ got.describe ++ " on the right"
  | arithmetic op left right => incompatible "arithmetic" op left right
  | comparison op left right => incompatible "comparison" op left right
  | boolOrder op =>
    "cannot perform bool comparison op " ++ op.symbol ++ ", only == and != are supported"
  | intOperator op => "cannot perform int op " ++ op.symbol
  | floatOperator op => "cannot perform float op " ++ op.symbol
  | decimalOperator op => "cannot perform decimal op " ++ op.symbol

/-- What leaves the range of its type. A magnitude that does is not reported: the program stops
there. -/
inductive Overflow
  | castToDecimal (v : Int64)
  | negateInt (v : Int64)
  | negateDecimal (d : Decimal)
  | intResult (op : BinaryOp) (a b : Int64)
  | decimalResult (op : BinaryOp) (a b : Decimal)
  | accumulator (func : String)
  | magnitude (v : Int64)
  deriving DecidableEq

def Overflow.message : Overflow → String
  | castToDecimal v => "cannot cast " ++ toString v.toInt ++ " to decimal2"
  | negateInt v => "cannot negate " ++ toString v.toInt
  | negateDecimal d => "cannot negate " ++ d.toText
  | intResult op a b => toString a.toInt ++ " " ++ op.symbol ++ " " ++ toString b.toInt
  | decimalResult op a b => a.toText ++ " " ++ op.symbol ++ " " ++ b.toText
  | accumulator func => func ++ "() accumulator"
  | magnitude v => "magnitude of " ++ toString v.toInt

inductive EvalError
  | parse (fault : ParseFault)
  | unknownIdentifier (name : String)
  | unknownAlias (table field : String)
  | unknownField (table field : String)
  | unknownFunction (name : String)
  | arity (func : String) (expected actual : Nat)
  | function (func : String) (fault : CallFault)
  | type (fault : TypeFault)
  | intDivideByZero
  | decimalDivideByZero
  | overflow (what : Overflow)
  | aggregateDisabled (func : String)
  | multipleAggregates (extra used : String)
  | aggregateTypeChange (func started got : String) (value : Value)
  deriving DecidableEq

/-- Whether the program stops at an error instead of reporting it. -/
def EvalError.stops : EvalError → Bool
  | overflow (.magnitude _) => true
  | _ => false

def EvalError.message : EvalError → String
  | parse fault => "parse error: " ++ fault.message
  | unknownIdentifier name => "cannot evaluate identifier " ++ name
  | unknownAlias table field =>
    "cannot evaluate expression '" ++ table ++ "." ++ field
      ++ "', variable not supplied, check table/alias name"
  | unknownField table field =>
    "cannot evaluate expression '" ++ table ++ "." ++ field ++ "', field not supplied"
  | unknownFunction name => "cannot evaluate unsupported func '" ++ name ++ "'"
  | arity func expected actual =>
    "cannot evaluate " ++ func ++ "(), requires " ++ toString expected ++ " args, "
      ++ toString actual ++ " supplied"
  | function func fault => "cannot evaluate " ++ func ++ "(): " ++ fault.message
  | type fault => "type error: " ++ fault.message
  | intDivideByZero => "integer divide by zero"
  | decimalDivideByZero => "decimal division by zero"
  | overflow what => "overflow: " ++ what.message
  | aggregateDisabled func =>
    "context aggregate not enabled, cannot evaluate " ++ func ++ "()"
  | multipleAggregates extra used =>
    "more than one aggregate function is not allowed, extra " ++ extra
      ++ "() found besides already used " ++ used ++ "()"
  | aggregateTypeChange func started got value =>
    "cannot evaluate " ++ func ++ "(), it started with type " ++ started ++ ", now got "
      ++ got ++ " value " ++ value.toText

end TableMill
