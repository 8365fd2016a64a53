import TableMill.Eval.Error

/-!
# Aggregates

An aggregation belongs to one output field of one group. The first aggregate call that
reaches it binds it; evaluated again, the same call goes on accumulating, and any other
aggregate call is an error. The type of the total is the type of the first value.
-/

namespace TableMill

inductive AggregateBase
  | sum | avg | min | max | count | join
  deriving DecidableEq, Repr

/-- An aggregate function; a conditional one takes a condition as its last argument and
only includes the values where it holds. -/
structure Aggregate where
  base : AggregateBase
  conditional : Bool
  deriving DecidableEq, Repr

namespace Aggregate

def name : Aggregate → String
  | ⟨.sum, false⟩ => "sum"
  | ⟨.sum, true⟩ => "sum_if"
  | ⟨.avg, false⟩ => "avg"
  | ⟨.avg, true⟩ => "avg_if"
  | ⟨.min, false⟩ => "min"
  | ⟨.min, true⟩ => "min_if"
  | ⟨.max, false⟩ => "max"
  | ⟨.max, true⟩ => "max_if"
  | ⟨.count, false⟩ => "count"
  | ⟨.count, true⟩ => "count_if"
  | ⟨.join, false⟩ => "string_agg"
  | ⟨.join, true⟩ => "string_agg_if"

def ofName? : String → Option Aggregate
  | "sum" => some ⟨.sum, false⟩
  | "sum_if" => some ⟨.sum, true⟩
  | "avg" => some ⟨.avg, false⟩
  | "avg_if" => some ⟨.avg, true⟩
  | "min" => some ⟨.min, false⟩
  | "min_if" => some ⟨.min, true⟩
  | "max" => some ⟨.max, false⟩
  | "max_if" => some ⟨.max, true⟩
  | "count" => some ⟨.count, false⟩
  | "count_if" => some ⟨.count, true⟩
  | "string_agg" => some ⟨.join, false⟩
  | "string_agg_if" => some ⟨.join, true⟩
  | _ => none

theorem ofName?_name (f : Aggregate) : ofName? f.name = some f := by
  obtain ⟨base, conditional⟩ := f
  cases base <;> cases conditional <;> rfl

/-- How many arguments come before the condition: the value, and the separator. -/
def plainArity (f : Aggregate) : Nat :=
  match f.base with
  | .count => 0
  | .sum | .avg | .min | .max => 1
  | .join => 2

def arity (f : Aggregate) : Nat :=
  f.plainArity + if f.conditional then 1 else 0

/-- The value and the separator of a `string_agg` call, whose separator is a literal. -/
def separator (f : Aggregate) : List Expr → Except EvalError String
  | _ :: .text s :: _ => .ok s
  | _ :: _ :: _ => .error (.function f.name .separatorNotLiteral)
  | _ => .error (.function f.name (.wrongParameters f.name f.arity))

end Aggregate

/-- The aggregate function that is called at the root of an expression. -/
def Expr.rootAggregate? : Expr → Option Aggregate
  | call _ name _ => Aggregate.ofName? name
  | _ => none

/-- What was accumulated so far, in the type of the first value. -/
inductive Total
  | int (v : Int64)
  | float (v : Float)
  | decimal (v : Decimal)
  | text (s : String)
  deriving DecidableEq

namespace Total

def kind : Total → Kind
  | int _ => .int
  | float _ => .float
  | decimal _ => .decimal
  | text _ => .text

def toValue : Total → Value
  | int v => .int v
  | float v => .float v
  | decimal v => .decimal v
  | text s => .text s

/-- The total before the first value: the greatest number for a minimum, the least one
for a maximum, and zero or the empty text else. -/
def start (base : AggregateBase) : Value → Option Total
  | .int _ => match base with
    | .min => some (int Int64.maxValue)
    | .max => some (int Int64.minValue)
    | .join => none
    | _ => some (int 0)
  | .float _ => match base with
    | .min => some (float Number.greatestFinite)
    | .max => some (float (-Number.greatestFinite))
    | .join => none
    | _ => some (float 0)
  | .decimal _ => match base with
    | .min => some (decimal .greatest)
    | .max => some (decimal .least)
    | .join => none
    | _ => some (decimal .zero)
  | .text _ => match base with
    | .min | .max | .join => some (text "")
    | _ => none
  | .bool _ | .datetime _ => none

/-- The total with a value added, unless it overflows. -/
def add? : Total → Value → Option Total
  | int a, .int v => (Number.narrow? (a.toInt + v.toInt)).map int
  | float a, .float v => some (float (a + v))
  | decimal a, .decimal v => (a.add? v).map decimal
  | t, _ => some t

/-- The lesser of the total and a value. An empty text counts as no text yet. -/
def least : Total → Value → Total
  | int a, .int v => int (if v < a then v else a)
  | float a, .float v => float (Number.least a v)
  | decimal a, .decimal v => decimal (if v.cents < a.cents then v else a)
  | text a, .text v => text (if a = "" ∨ v < a then v else a)
  | t, _ => t

def greatest : Total → Value → Total
  | int a, .int v => int (if a < v then v else a)
  | float a, .float v => float (Number.greatest a v)
  | decimal a, .decimal v => decimal (if a.cents < v.cents then v else a)
  | text a, .text v => text (if a < v then v else a)
  | t, _ => t

/-- The total with a text after it. The separator stands between two texts if the
first is not empty. -/
def append (separator : String) : Total → Value → Total
  | text a, .text v => text (if a = "" then v else a ++ separator ++ v)
  | t, _ => t

/-- The total over the count of its values; integers are cut toward zero. -/
def mean? (count : Nat) : Total → Option Value
  | int a => some (.int (if count = 0 then 0 else Int64.ofInt (a.toInt.tdiv count)))
  | float a =>
    some (.float (if count = 0 then 0 else a / Number.ofWord (Int64.ofNat count)))
  | decimal a =>
    if count = 0 then some (.decimal .zero)
    else (a.divCount? (Int64.ofNat count)).map Value.decimal
  | text _ => some (.int 0)

end Total

/-- The state of an aggregation: the call that it is bound to, the total, and the count
of the values in it. -/
structure Aggregation where
  bound : Option (CallSite × Aggregate)
  total : Option Total
  count : Nat
  deriving DecidableEq

namespace Aggregation

def fresh : Aggregation := ⟨none, none, 0⟩

/-- Binds the aggregation to a call. -/
def bind (s : Aggregation) (site : CallSite) (f : Aggregate) : Except EvalError Aggregation :=
  match s.bound with
  | none => .ok { s with bound := some (site, f) }
  | some (used, g) =>
    if used = site then .ok s else .error (.multipleAggregates f.name g.name)

/-- Lets the first value decide the type of the total, and refuses a value of another
type. -/
def lock (s : Aggregation) (f : Aggregate) (v : Value) : Except EvalError Aggregation :=
  match Total.start f.base v with
  | none =>
    .error (.function f.name
      (if f.base = .join ∧ v.isNumeric then .onlyStrings v else .unsupportedValue v))
  | some t => match s.total with
    | none => .ok { s with total := some t }
    | some u =>
      if u.kind = t.kind then .ok s
      else .error (.aggregateTypeChange f.name u.kind.name t.kind.name v)

def accumulate (s : Aggregation) (f : Aggregate) (v : Value) (separator : String) :
    Except EvalError Aggregation :=
  match s.total with
  | none => .ok s
  | some t => match f.base with
    | .count => .ok s
    | .sum | .avg => match t.add? v with
      | some u => .ok { s with total := some u, count := s.count + 1 }
      | none => .error (.overflow (.accumulator f.name))
    | .min => .ok { s with total := some (t.least v) }
    | .max => .ok { s with total := some (t.greatest v) }
    | .join => .ok { s with total := some (t.append separator v) }

def current (s : Aggregation) (f : Aggregate) : Except EvalError Value :=
  match f.base, s.total with
  | .count, _ => .ok (.int (Int64.ofNat s.count))
  | .avg, some t => match t.mean? s.count with
    | some v => .ok v
    | none => .error (.overflow (.accumulator "avg"))
  | _, some t => .ok t.toValue
  | _, none => .ok (.int 0)

/-- A fresh aggregation for an expression with an aggregate at its root. The parameters
of `string_agg` are checked here already. -/
def forExpr (e : Expr) : Except EvalError (Option Aggregation) :=
  match e, e.rootAggregate? with
  | .call _ _ args, some f =>
    if f.base = .join then
      if args.length ≠ f.arity then
        .error (.function f.name (.wrongParameters f.name f.arity))
      else (f.separator args).map fun _ => some fresh
    else .ok (some fresh)
  | _, _ => .ok none

end Aggregation
end TableMill
