import TableMill.Proofs.CallSites
import TableMill.Proofs.Foretelling

/-!
# The parts of a call

The evaluation of an aggregate call by its parts: the call is bound to the aggregation, its
arguments are evaluated, its value is taken in. What holds of every change of an aggregation, and
of computations one after another, holds of every evaluation.
-/

namespace TableMill

namespace Expr

/-- Induction over an expression, with what holds of all arguments of a call. -/
theorem induct {P : Expr → Prop} (int : ∀ v, P (.int v)) (float : ∀ v, P (.float v))
    (text : ∀ s, P (.text s)) (ident : ∀ name, P (.ident name))
    (selector : ∀ table field, P (.selector table field))
    (unary : ∀ op e, P e → P (.unary op e))
    (binary : ∀ op l r, P l → P r → P (.binary op l r))
    (call : ∀ site name args, (∀ e ∈ args, P e) → P (.call site name args)) (e : Expr) : P e :=
  @Expr.rec P (fun es => ∀ e ∈ es, P e) int float text ident selector call unary binary
    (fun _ he => nomatch he) (fun _ _ he hes => List.forall_mem_cons.2 ⟨he, hes⟩) e

variable (now : DateTime) (vars : Bindings)

def included (f : Aggregate) (args : List Expr) (n : Nat) : Eval Bool :=
  if f.conditional then evalCondition now vars f args n else pure true

def countCall (f : Aggregate) (args : List Expr) : Eval Unit := do
  if ← included now vars f args 0 then Eval.step f fun s => .ok { s with count := s.count + 1 }
  else pure ()

def takeValue (f : Aggregate) (args : List Expr) (v : Value) (separator : String) :
    Eval Unit := do
  if ← included now vars f args f.plainArity then Eval.step f fun s => s.accumulate f v separator
  else pure ()

def totalCall (f : Aggregate) (args : List Expr) : Eval Unit := do
  let v ← evalNth now vars args 0
  let separator ← (liftM (if f.base = .join then f.separator args else .ok "") : Eval String)
  Eval.step f fun s => s.lock f v
  takeValue now vars f args v separator

def tally (f : Aggregate) (args : List Expr) : Eval Unit :=
  if f.base = .count then countCall now vars f args else totalCall now vars f args

def aggregateCall (site : CallSite) (f : Aggregate) (args : List Expr) : Eval Value := do
  Eval.step f fun s => s.bind site f
  (liftM (if args.length = f.arity then .ok () else
    .error (.arity f.name f.arity args.length) : Except EvalError Unit) : Eval Unit)
  tally now vars f args
  Eval.current f

theorem evalM_aggregate {name : String} {f : Aggregate} (h : Aggregate.ofName? name = some f)
    (site : CallSite) (args : List Expr) :
    evalM now vars (.call site name args) = aggregateCall now vars site f args := by
  rw [evalM, h]
  unfold aggregateCall tally countCall totalCall takeValue included
  by_cases harity : args.length = f.arity
  · cases hcond : f.conditional
    · by_cases hcount : f.base = .count
      · simp [harity, hcond, hcount, Eval.lift_ok]
      · by_cases hjoin : f.base = .join
        · simp [harity, hcond, hjoin, Eval.lift_ok]
        · simp [harity, hcond, hcount, hjoin, Eval.lift_ok]
    · by_cases hcount : f.base = .count
      · simp [harity, hcond, hcount, Eval.lift_ok, Eval.ite_bind]
      · by_cases hjoin : f.base = .join
        · simp [harity, hcond, hjoin, Eval.lift_ok, Eval.ite_bind]
        · simp [harity, hcond, hcount, hjoin, Eval.lift_ok, Eval.ite_bind]
  · simp [harity, Eval.lift_error]

end Expr

namespace Eval

variable {α : Type} {P : (α : Type) → Eval α → Prop}

/-- A property of computations that holds of all that do not touch the aggregation, and of
computations one after another. -/
structure Sequential (P : (α : Type) → Eval α → Prop) : Prop where
  lift {α : Type} (x : Except EvalError α) : P α (liftM x)
  bind {α β : Type} {m : Eval α} {f : α → Eval β} (hm : P α m) (hf : ∀ a, P β (f a)) :
    P β (m >>= f)

/-- A property that also holds of every change that an aggregate call makes, and of its result. -/
structure Stepwise (P : (α : Type) → Eval α → Prop) : Prop extends Sequential P where
  bound (f : Aggregate) (site : CallSite) : P Unit (step f fun s => s.bind site f)
  counted (f : Aggregate) : P Unit (step f fun s => .ok { s with count := s.count + 1 })
  locked (f : Aggregate) (v : Value) : P Unit (step f fun s => s.lock f v)
  taken (f : Aggregate) (v : Value) (separator : String) :
    P Unit (step f fun s => s.accumulate f v separator)
  result (f : Aggregate) : P Value (current f)

theorem Sequential.pure (h : Sequential P) (a : α) : P α (Pure.pure a) := h.lift (.ok a)

theorem Sequential.throw (h : Sequential P) (e : EvalError) :
    P α (MonadExcept.throw e : Eval α) := h.lift (.error e)

theorem Sequential.ite (_ : Sequential P) {p : Prop} [Decidable p] {m n : Eval α} (hm : P α m)
    (hn : P α n) : P α (if p then m else n) := by
  by_cases hp : p
  · rw [if_pos hp]
    exact hm
  · rw [if_neg hp]
    exact hn

end Eval

namespace Expr

open Eval

variable {now : DateTime} {vars : Bindings} {P : (α : Type) → Eval α → Prop} {args : List Expr}

section Sequential

variable (hP : Sequential P) (h : ∀ e ∈ args, P Value (evalM now vars e))
include hP h

theorem sequential_evalAll : P (List Value) (evalAll now vars args) := by
  induction args with
  | nil =>
    rw [evalAll]
    exact hP.pure _
  | cons e es ih =>
    obtain ⟨he, hes⟩ := List.forall_mem_cons.1 h
    rw [evalAll]
    exact hP.bind he fun v => hP.bind (ih hes) fun vs => hP.pure _

theorem sequential_evalNth (n : Nat) : P Value (evalNth now vars args n) := by
  induction args generalizing n with
  | nil =>
    rw [evalNth]
    exact hP.pure _
  | cons e es ih =>
    obtain ⟨he, hes⟩ := List.forall_mem_cons.1 h
    cases n with
    | zero =>
      rw [evalNth]
      exact he
    | succ n =>
      rw [evalNth]
      exact ih hes n

theorem sequential_evalCondition (f : Aggregate) (n : Nat) :
    P Bool (evalCondition now vars f args n) := by
  induction args generalizing n with
  | nil =>
    rw [evalCondition]
    exact hP.pure _
  | cons e es ih =>
    obtain ⟨he, hes⟩ := List.forall_mem_cons.1 h
    cases n with
    | zero =>
      rw [evalCondition]
      refine hP.bind he fun v => ?_
      cases v with
      | bool b => exact hP.pure b
      | _ => exact hP.throw _
    | succ n =>
      rw [evalCondition]
      exact ih hes n

theorem sequential_included (f : Aggregate) (n : Nat) : P Bool (included now vars f args n) :=
  hP.ite (sequential_evalCondition hP h f n) (hP.pure true)

end Sequential

/-- What holds of computations one after another, and of the aggregate calls of an expression if it
holds of their arguments, holds of its evaluation. -/
theorem sequential_evalM (hP : Sequential P) {e : Expr}
    (hcalls : ∀ c ∈ e.calls, ∀ f, c.aggregate? = some f →
      (∀ a ∈ c.args, P Value (evalM now vars a)) →
        P Value (aggregateCall now vars c.site f c.args)) :
    P Value (evalM now vars e) := by
  induction e using induct with
  | int v | float v | text s =>
    rw [evalM]
    exact hP.pure _
  | ident name =>
    rw [evalM]
    exact hP.lift _
  | selector table field =>
    rw [evalM]
    exact hP.lift _
  | unary op e ih =>
    rw [evalM]
    exact hP.bind (ih hcalls) fun v => hP.lift _
  | binary op l r hl hr =>
    obtain ⟨hleft, hright⟩ := List.forall_mem_append.1 hcalls
    rw [evalM]
    exact hP.bind (hl hleft) fun a => hP.bind (hr hright) fun b => hP.lift _
  | call site name args ih =>
    rw [calls, callsAll_eq] at hcalls
    obtain ⟨hroot, hinner⟩ := List.forall_mem_cons.1 hcalls
    have hargs : ∀ a ∈ args, P Value (evalM now vars a) := fun a ha =>
      ih a ha fun c hc => hinner c (List.mem_flatMap.2 ⟨a, ha, hc⟩)
    cases hf : Aggregate.ofName? name with
    | some f =>
      rw [evalM_aggregate now vars hf]
      exact hroot f hf hargs
    | none =>
      simp only [evalM, hf]
      cases Builtin.ofName? name with
      | some f => exact hP.bind (sequential_evalAll hP hargs) fun vs => hP.lift _
      | none => exact hP.throw _

section Stepwise

variable (hP : Stepwise P)
include hP

theorem stepwise_count (f : Aggregate) (b : Bool) :
    P Unit (if b then Eval.step f fun s => .ok { s with count := s.count + 1 } else pure ()) :=
  hP.ite (hP.counted f) (hP.pure ())

theorem stepwise_accumulate (f : Aggregate) (v : Value) (separator : String) (b : Bool) :
    P Unit (if b then Eval.step f fun s => s.accumulate f v separator else pure ()) :=
  hP.ite (hP.taken f v separator) (hP.pure ())

variable (h : ∀ e ∈ args, P Value (evalM now vars e))
include h

theorem stepwise_countCall (f : Aggregate) : P Unit (countCall now vars f args) :=
  hP.bind (sequential_included hP.toSequential h f 0) (stepwise_count hP f)

theorem stepwise_takeValue (f : Aggregate) (v : Value) (separator : String) :
    P Unit (takeValue now vars f args v separator) :=
  hP.bind (sequential_included hP.toSequential h f _) (stepwise_accumulate hP f v separator)

theorem stepwise_totalCall (f : Aggregate) : P Unit (totalCall now vars f args) := by
  refine hP.bind (sequential_evalNth hP.toSequential h 0) fun v => hP.bind (hP.lift _) fun sep => ?_
  exact hP.bind (hP.locked f v) fun _ => stepwise_takeValue hP h f v sep

theorem stepwise_tally (f : Aggregate) : P Unit (tally now vars f args) :=
  hP.ite (stepwise_countCall hP h f) (stepwise_totalCall hP h f)

theorem stepwise_aggregateCall (site : CallSite) (f : Aggregate) :
    P Value (aggregateCall now vars site f args) := by
  refine hP.bind (hP.bound f site) fun _ => hP.bind (hP.lift _) fun _ => ?_
  exact hP.bind (stepwise_tally hP h f) fun _ => hP.result f

end Stepwise

/-- What holds of every change of an aggregation and of computations one after another holds of
every evaluation. -/
theorem stepwise_evalM (hP : Stepwise P) (e : Expr) : P Value (evalM now vars e) :=
  sequential_evalM hP.toSequential fun c _ f _ hargs => stepwise_aggregateCall hP hargs c.site f

end Expr
end TableMill
