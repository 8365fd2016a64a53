import TableMill.Eval.Aggregate
import TableMill.Eval.Operator
import TableMill.Function.Builtin

/-!
# Evaluation

An expression is evaluated under bindings and, where its field has one, with an
aggregation. What an evaluation did to the aggregation stays done if it fails later.
-/

namespace TableMill

/-- A computation that may fail and may change an aggregation on its way. -/
abbrev Eval (α : Type) := ExceptT EvalError (StateM (Option Aggregation)) α

namespace Eval

/-- Changes the aggregation of a call; without one, aggregates are refused. -/
def step (f : Aggregate) (change : Aggregation → Except EvalError Aggregation) : Eval Unit := do
  match ← get with
  | none => throw (.aggregateDisabled f.name)
  | some s => match change s with
    | .ok s => set (some s)
    | .error e => throw e

def current (f : Aggregate) : Eval Value := do
  match ← get with
  | none => throw (.aggregateDisabled f.name)
  | some s => s.current f

end Eval

/-- The named constants: the months, and the offset of UTC. -/
def constant? (package name : String) : Option Value :=
  if package = "time" then
    match name with
    | "January" => some (.int 1)
    | "February" => some (.int 2)
    | "March" => some (.int 3)
    | "April" => some (.int 4)
    | "May" => some (.int 5)
    | "June" => some (.int 6)
    | "July" => some (.int 7)
    | "August" => some (.int 8)
    | "September" => some (.int 9)
    | "October" => some (.int 10)
    | "November" => some (.int 11)
    | "December" => some (.int 12)
    | "UTC" => some (.int 0)
    | _ => none
  else none

/-- The value of a selector. Constants come before variables. -/
def select (vars : Bindings) (table field : String) : Except EvalError Value :=
  match constant? table field with
  | some v => .ok v
  | none => match Assoc.get? vars table with
    | none => .error (.unknownAlias table field)
    | some r => match Assoc.get? r field with
      | none => .error (.unknownField table field)
      | some v => .ok v

def identifierValue : String → Except EvalError Value
  | "true" => .ok (.bool true)
  | "false" => .ok (.bool false)
  | name => .error (.unknownIdentifier name)

namespace Expr

mutual

/-- Evaluates an expression, its operands from left to right. -/
def evalM (now : DateTime) (vars : Bindings) : Expr → Eval Value
  | int v => pure (.int v)
  | float v => pure (.float v)
  | text s => pure (.text s)
  | ident name => identifierValue name
  | selector table field => select vars table field
  | unary op e => do
    let v ← evalM now vars e
    op.apply v
  | binary op l r => do
    let a ← evalM now vars l
    let b ← evalM now vars r
    op.apply a b
  | call site name args =>
    match Aggregate.ofName? name with
    | some f => do
      Eval.step f fun s => s.bind site f
      if args.length ≠ f.arity then throw (.arity f.name f.arity args.length)
      if f.base = .count then
        let included ← if f.conditional then evalCondition now vars f args 0 else pure true
        if included then Eval.step f fun s => .ok { s with count := s.count + 1 }
      else
        let v ← evalNth now vars args 0
        let separator ← if f.base = .join then f.separator args else pure ""
        Eval.step f fun s => s.lock f v
        let included ←
          if f.conditional then evalCondition now vars f args f.plainArity else pure true
        if included then Eval.step f fun s => s.accumulate f v separator
      Eval.current f
    | none => match Builtin.ofName? name with
      | some f => do
        let values ← evalAll now vars args
        f.apply now values
      | none => throw (.unknownFunction name)

def evalAll (now : DateTime) (vars : Bindings) : List Expr → Eval (List Value)
  | [] => pure []
  | e :: es => do
    let v ← evalM now vars e
    let vs ← evalAll now vars es
    pure (v :: vs)

def evalNth (now : DateTime) (vars : Bindings) : List Expr → Nat → Eval Value
  | [], _ => pure (.bool false)
  | e :: _, 0 => evalM now vars e
  | _ :: es, n + 1 => evalNth now vars es n

def evalCondition (now : DateTime) (vars : Bindings) (f : Aggregate) :
    List Expr → Nat → Eval Bool
  | [], _ => pure false
  | e :: _, 0 => do
    match ← evalM now vars e with
    | .bool b => pure b
    | v => throw (.function f.name (.conditionNotBool v))
  | _ :: es, n + 1 => evalCondition now vars f es n

end

/-- Evaluates an expression with an aggregation, or without one. -/
def evalWith (now : DateTime) (vars : Bindings) (s : Option Aggregation) (e : Expr) :
    Except EvalError Value × Option Aggregation :=
  (e.evalM now vars).run.run s

/-- Evaluates an expression in which aggregates are refused. -/
def eval (now : DateTime) (vars : Bindings) (e : Expr) : Except EvalError Value :=
  (e.evalWith now vars none).1

end Expr
end TableMill
