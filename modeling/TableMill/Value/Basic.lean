import TableMill.Value.Decimal
import TableMill.Value.DateTime

/-!
# Scalar values

The values of columns, variables and expressions.
-/

namespace TableMill

inductive Kind
  | int | float | decimal | text | bool | datetime
  deriving DecidableEq, Repr

namespace Kind

def name : Kind → String
  | int => "int"
  | float => "float"
  | decimal => "decimal2"
  | text => "string"
  | bool => "bool"
  | datetime => "datetime"

def ofName? : String → Option Kind
  | "int" => some int
  | "float" => some float
  | "decimal2" => some decimal
  | "string" => some text
  | "bool" => some bool
  | "datetime" => some datetime
  | _ => none

theorem ofName?_name (k : Kind) : ofName? k.name = some k := by
  cases k <;> rfl

/-- What is said of a name that is no type. -/
def unknown (name : String) : String :=
  "unknown value type " ++ Text.quoted name

end Kind

inductive Value
  | int (v : Int64)
  | float (v : Float)
  | decimal (v : Decimal)
  | text (v : String)
  | bool (v : Bool)
  | datetime (v : DateTime)
  deriving DecidableEq, Inhabited

namespace Value

def kind : Value → Kind
  | int _ => .int
  | float _ => .float
  | decimal _ => .decimal
  | text _ => .text
  | bool _ => .bool
  | datetime _ => .datetime

def isNumeric : Value → Bool
  | int _ | float _ | decimal _ => true
  | _ => false

def toText : Value → String
  | int v => toString v.toInt
  | float v => Number.floatText v
  | decimal v => v.toText
  | text v => v
  | bool v => if v then "true" else "false"
  | datetime v => v.toText

/-- The value with its type, as messages name it. -/
def describe (v : Value) : String :=
  v.toText ++ "(" ++ v.kind.name ++ ")"

end Value

/-- The value that a column of a type has where nothing was stored. -/
def Kind.zero : Kind → Value
  | int => .int 0
  | float => .float 0
  | decimal => .decimal .zero
  | text => .text ""
  | bool => .bool false
  | datetime => .datetime .unset

@[simp] theorem Kind.kind_zero (k : Kind) : k.zero.kind = k := by
  cases k <;> rfl

end TableMill
