import TableMill.Eval.Numeric

/-!
# Arguments of functions
-/

namespace TableMill
namespace Function

abbrev Result := Except EvalError

def fail {α : Type} (func : String) (fault : CallFault) : Result α :=
  .error (.function func fault)

def wrongArity {α : Type} (func : String) (expected : Nat) (args : List Value) : Result α :=
  .error (.arity func expected args.length)

def stringArg (func : String) : Value → Result String
  | .text s => .ok s
  | v => fail func (.wrongArg .string v)

def intArg (func : String) : Value → Result Int64
  | .int n => .ok n
  | v => fail func (.wrongArg .int v)

def timeArg (func : String) : Value → Result DateTime
  | .datetime t => .ok t
  | v => fail func (.wrongArg .datetime v)

/-- A number of any type, as a float. -/
def numberArg (func : String) (v : Value) : Result Float :=
  match v.toFloat with
  | .ok x => .ok x
  | .error _ => fail func (.wrongArg .number v)

end Function
end TableMill
