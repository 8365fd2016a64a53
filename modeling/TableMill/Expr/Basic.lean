import TableMill.Value.Record

/-!
# Expressions

The syntax trees of field expressions, filters and conditions.
-/

namespace TableMill

/-- The place of a call: the expression it stands in and its place there. An aggregate
call is told from another by its site. -/
structure CallSite where
  source : Nat
  place : Nat
  deriving DecidableEq, Repr, Inhabited

inductive UnaryOp
  | not | negate
  deriving DecidableEq, Repr

inductive BinaryOp
  | add | subtract | multiply | divide | remainder
  | equal | notEqual | less | lessEqual | greater | greaterEqual
  | and | or
  deriving DecidableEq, Repr

def UnaryOp.symbol : UnaryOp → String
  | not => "!"
  | negate => "-"

def BinaryOp.symbol : BinaryOp → String
  | add => "+"
  | subtract => "-"
  | multiply => "*"
  | divide => "/"
  | remainder => "%"
  | equal => "=="
  | notEqual => "!="
  | less => "<"
  | lessEqual => "<="
  | greater => ">"
  | greaterEqual => ">="
  | and => "&&"
  | or => "||"

/-- How tightly an operator binds; every level associates to the left. -/
def BinaryOp.level : BinaryOp → Nat
  | or => 1
  | and => 2
  | equal | notEqual | less | lessEqual | greater | greaterEqual => 3
  | add | subtract => 4
  | multiply | divide | remainder => 5

/-- An expression. A bare identifier has a value only if it names a truth value; a
selector names a field of a table alias or a constant of a package. -/
inductive Expr
  | int (v : Int64)
  | float (v : Float)
  | text (s : String)
  | ident (name : String)
  | selector (table field : String)
  | call (site : CallSite) (name : String) (args : List Expr)
  | unary (op : UnaryOp) (operand : Expr)
  | binary (op : BinaryOp) (left right : Expr)
  deriving Inhabited

namespace Expr

mutual

/-- Every selector of an expression, from left to right, with repetitions. -/
def selectors : Expr → List (String × String)
  | int _ | float _ | text _ | ident _ => []
  | selector table field => [(table, field)]
  | call _ _ args => selectorsAll args
  | unary _ e => e.selectors
  | binary _ l r => l.selectors ++ r.selectors

def selectorsAll : List Expr → List (String × String)
  | [] => []
  | e :: es => e.selectors ++ selectorsAll es

end

def addNew {α : Type} [DecidableEq α] (seen : List α) (x : α) : List α :=
  if x ∈ seen then seen else seen ++ [x]

/-- The selectors of an expression in order of first use. -/
def usedFields (e : Expr) : List (String × String) :=
  e.selectors.foldl addNew []

end Expr
end TableMill
