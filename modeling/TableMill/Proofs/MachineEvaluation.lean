import TableMill.Proofs.FailedCalls
import TableMill.Proofs.MachineFunctions

/-!
# Evaluation on the machine

The evaluation of expressions, done on machine integers throughout, and what it is for such an
evaluation to do what the evaluation of exact integers does.
-/

namespace TableMill

abbrev MachineEval (α : Type) := ExceptT EvalError (StateT (Option Aggregation) Machine) α

namespace MachineEval

open Calculation (exactly)

variable {α β : Type}

/-- A calculation that has nothing to do with the aggregation. -/
def calculate (c : Calculation α) : MachineEval α := ExceptT.mk (StateT.lift c.run)

def step (f : Aggregate) (change : Aggregation → Calculation Aggregation) : MachineEval Unit := do
  match ← get with
  | none => throw (.aggregateDisabled f.name)
  | some s => do
    let t ← calculate (change s)
    set (some t)

def current (f : Aggregate) : MachineEval Value := do
  match ← get with
  | none => throw (.aggregateDisabled f.name)
  | some s => calculate (Machine.current s f)

def inOrder : List (MachineEval Value) → MachineEval (List Value)
  | [] => pure []
  | m :: ms => do
    let v ← m
    let vs ← inOrder ms
    pure (v :: vs)

section Call

variable (f : Aggregate) (args : List Expr) (values : List (MachineEval Value))

def condition (n : Nat) : MachineEval Bool :=
  match values[n]? with
  | none => pure false
  | some m => do
    match ← m with
    | .bool b => pure b
    | v => throw (.function f.name (.conditionNotBool v))

def included (n : Nat) : MachineEval Bool :=
  if f.conditional then condition f values n else pure true

def countCall : MachineEval Unit := do
  if ← included f values 0 then step f Machine.count else pure ()

def takeValue (v : Value) (separator : String) : MachineEval Unit := do
  if ← included f values f.plainArity then step f fun s => Machine.accumulate s f v separator
  else pure ()

def totalCall : MachineEval Unit := do
  let v ← values.headD (pure (.bool false))
  let separator ← calculate (exactly (if f.base = .join then f.separator args else .ok ""))
  step f fun s => exactly (s.lock f v)
  takeValue f values v separator

def tally : MachineEval Unit :=
  if f.base = .count then countCall f values else totalCall f args values

def aggregateCall (site : CallSite) : MachineEval Value := do
  step f fun s => exactly (s.bind site f)
  calculate (exactly (if args.length = f.arity then .ok () else
    .error (.arity f.name f.arity args.length)))
  tally f args values
  current f

end Call
end MachineEval

namespace Expr

open Calculation (exactly)
open MachineEval (calculate)

mutual

/-- Evaluates an expression on the machine, its operands from left to right. -/
def onMachine (now : DateTime) (vars : Bindings) : Expr → MachineEval Value
  | int v => pure (.int v)
  | float v => pure (.float v)
  | text s => pure (.text s)
  | ident name => calculate (exactly (identifierValue name))
  | selector table field => calculate (exactly (select vars table field))
  | unary op e => do
    let v ← onMachine now vars e
    calculate (exactly (Machine.unary op v))
  | binary op l r => do
    let a ← onMachine now vars l
    let b ← onMachine now vars r
    calculate (Machine.binary op a b)
  | call site name args =>
    match Aggregate.ofName? name with
    | some f => MachineEval.aggregateCall f args (allOnMachine now vars args) site
    | none => match Builtin.ofName? name with
      | some f => do
        let values ← MachineEval.inOrder (allOnMachine now vars args)
        calculate (Machine.builtin now f values)
      | none => throw (.unknownFunction name)

def allOnMachine (now : DateTime) (vars : Bindings) : List Expr → List (MachineEval Value)
  | [] => []
  | e :: es => onMachine now vars e :: allOnMachine now vars es

end

theorem allOnMachine_eq (now : DateTime) (vars : Bindings) (es : List Expr) :
    allOnMachine now vars es = es.map (onMachine now vars) := by
  induction es with
  | nil => rfl
  | cons e es ih => rw [allOnMachine, ih, List.map_cons]

theorem sites_binary (op : BinaryOp) (l r : Expr) :
    (binary op l r).sites = l.sites ++ r.sites := by
  rw [sites, calls, List.map_append, sites, sites]

theorem sites_call (site : CallSite) (name : String) (args : List Expr) :
    (call site name args).sites = site :: args.flatMap sites := by
  rw [sites, calls, callsAll_eq, List.map_cons, List.map_flatMap]
  rfl

end Expr

/-- Whether a call makes a zone of the least offset, with some aggregation. -/
def Call.MakesLeastZone (now : DateTime) (vars : Bindings) (c : Call) : Prop :=
  ∃ f values, Builtin.ofName? c.name = some f ∧ Machine.LeastZone f values ∧
    ∃ s t, (Expr.evalAll now vars c.args).run.run s = (.ok values, t)

namespace MachineEval

open Machine (zoneTrap)
open Calculation (exactly)

variable {α β : Type}

theorem run_bind (c : MachineEval α) (g : α → MachineEval β) (s : Option Aggregation) :
    (c >>= g).run.run s = c.run.run s >>= fun p => match p with
      | (.ok a, t) => (g a).run.run t
      | (.error e, t) => .ok (.error e, t) := by
  rw [ExceptT.run_bind, StateT.run_bind]
  congr 1
  funext p
  rcases p with ⟨e | a, t⟩ <;> rfl

theorem run_calculate (c : Calculation α) (s : Option Aggregation) :
    (calculate c).run.run s = c.run >>= fun r => .ok (r, s) := rfl

theorem run_step_some (f : Aggregate) (change : Aggregation → Calculation Aggregation)
    (a : Aggregation) :
    (step f change).run.run (some a) = (change a).run >>= fun r => match r with
      | .ok b => .ok (.ok (), some b)
      | .error e => .ok (.error e, some a) := by
  change (calculate (change a) >>= fun t => (set (some t) : MachineEval Unit)).run.run (some a) = _
  rw [run_bind, run_calculate]
  rcases (change a).run with trap | e | b <;> rfl

theorem run_current_some (f : Aggregate) (a : Aggregation) :
    (current f).run.run (some a) = (Machine.current a f).run >>= fun r => .ok (r, some a) := rfl

/-- What the machine comes to where an evaluation ends: it does not go on where the program stops. -/
def unlessStopped (p : Except EvalError α × Option Aggregation) :
    Machine (Except EvalError α × Option Aggregation) :=
  if stopped p.1 then .error zoneTrap else .ok p

theorem unlessStopped_of_not {p : Except EvalError α × Option Aggregation}
    (h : stopped p.1 = false) : unlessStopped p = .ok p := by
  simp only [unlessStopped, h, Bool.false_eq_true, if_false]

/-- Whether a machine, from some aggregations, does what an evaluation does, which leads to some
aggregations. Both may be stopped by a zone of the least offset, if there is a call that makes
zones. -/
def Follows (zones : Prop) (S : Option Aggregation → Prop) (c : MachineEval α) (m : Eval α)
    (T : Option Aggregation → Prop) : Prop :=
  ∀ s, S s → T (m.run.run s).2 ∧ (stopped (m.run.run s).1 = true → zones) ∧
    c.run.run s = unlessStopped (m.run.run s)

namespace Follows

variable {zones : Prop} {S S' T T' U : Option Aggregation → Prop} {c : MachineEval α} {m : Eval α}

theorem mono (h : Follows zones S c m T) (hS : ∀ s, S' s → S s) (hT : ∀ s, T s → T' s) :
    Follows zones S' c m T' := fun s hs =>
  ⟨hT _ (h s (hS s hs)).1, (h s (hS s hs)).2⟩

theorem of_not_stopped (h : ∀ s, S s → T (m.run.run s).2 ∧ stopped (m.run.run s).1 = false ∧
    c.run.run s = .ok (m.run.run s)) : Follows zones S c m T := by
  intro s hs
  obtain ⟨ht, hgoes, hrun⟩ := h s hs
  refine ⟨ht, fun hstop => ?_, hrun.trans (unlessStopped_of_not hgoes).symm⟩
  rw [hgoes] at hstop
  cases hstop

theorem pure (a : α) : Follows zones S (Pure.pure a) (Pure.pure a) S :=
  of_not_stopped fun _ hs => ⟨hs, rfl, rfl⟩

theorem throw {e : EvalError} (he : e.stops = false) :
    Follows zones S (MonadExcept.throw e : MachineEval α) (MonadExcept.throw e) S :=
  of_not_stopped fun _ hs => ⟨hs, he, rfl⟩

theorem calculate {c : Calculation α} {x : Except EvalError α}
    (h : stopped x = false ∧ c = Calculation.exactly x ∨
      zones ∧ stopped x = true ∧ c.run = .error zoneTrap) :
    Follows zones S (calculate c) (liftM x) S := by
  rcases h with ⟨hgoes, rfl⟩ | ⟨hzones, hstop, hc⟩
  · refine of_not_stopped fun s hs => ?_
    rw [Eval.run_lift]
    exact ⟨hs, hgoes, rfl⟩
  · intro s hs
    rw [Eval.run_lift, run_calculate, hc, unlessStopped, if_pos hstop]
    exact ⟨hs, fun _ => hzones, rfl⟩

theorem exactly {x : Except EvalError α} (hx : stopped x = false) :
    Follows zones S (MachineEval.calculate (Calculation.exactly x)) (liftM x) S :=
  calculate (.inl ⟨hx, rfl⟩)

/-- Computations one after another. A failure of the first leaves an aggregation of which what
holds in the end has to hold. -/
theorem bind_of (h : Follows zones S c m T) {g : α → MachineEval β} {f : α → Eval β}
    (hnext : ∀ a, (∃ s t, m.run.run s = (.ok a, t)) → Follows zones T (g a) (f a) U)
    (hfail : ∀ s, T s → U s) : Follows zones S (c >>= g) (m >>= f) U := by
  intro s hs
  obtain ⟨ht, hzones, hrun⟩ := h s hs
  rw [run_bind, Eval.run_bind, hrun]
  rcases hm : m.run.run s with ⟨e | a, t⟩ <;> rw [hm] at ht hzones
  · refine ⟨hfail t ht, hzones, ?_⟩
    cases he : e.stops <;> simp only [unlessStopped, stopped, he] <;> rfl
  · exact hnext a ⟨s, t, hm⟩ t ht

theorem bind (h : Follows zones S c m T) {g : α → MachineEval β} {f : α → Eval β}
    (hnext : ∀ a, Follows zones T (g a) (f a) U) (hfail : ∀ s, T s → U s) :
    Follows zones S (c >>= g) (m >>= f) U :=
  h.bind_of (fun a _ => hnext a) hfail

theorem step (f : Aggregate) {change : Aggregation → Except EvalError Aggregation}
    {onMachine : Aggregation → Calculation Aggregation}
    (hgoes : ∀ a, stopped (change a) = false)
    (hchange : ∀ a, S (some a) → onMachine a = Calculation.exactly (change a))
    (hT : ∀ a b, S (some a) → change a = .ok b → T (some b)) (hST : ∀ s, S s → T s) :
    Follows zones S (MachineEval.step f onMachine) (Eval.step f change) T := by
  refine of_not_stopped fun s hs => ?_
  cases s with
  | none => exact ⟨hST _ hs, rfl, rfl⟩
  | some a =>
    rw [Eval.run_step_some, run_step_some, hchange a hs]
    have hgoes := hgoes a
    cases hc : change a with
    | error e =>
      rw [hc] at hgoes
      exact ⟨hST _ hs, hgoes, rfl⟩
    | ok b => exact ⟨hT a b hs hc, rfl, rfl⟩

theorem step_then (f : Aggregate) {change : Aggregation → Except EvalError Aggregation}
    (hgoes : ∀ a, stopped (change a) = false)
    (hchange : ∀ a b, S (some a) → change a = .ok b → T (some b)) (hfail : ∀ s, S s → U s)
    (h : Follows zones T c m U) :
    Follows zones S (do MachineEval.step f fun s => Calculation.exactly (change s); c)
      (do Eval.step f change; m) U := by
  intro s hs
  cases s with
  | none => exact ⟨hfail _ hs, nofun, rfl⟩
  | some a =>
    rw [run_bind, Eval.run_bind, run_step_some, Eval.run_step_some]
    have hgoes := hgoes a
    cases hc : change a with
    | error e =>
      rw [hc] at hgoes
      refine ⟨hfail _ hs, fun hstop => ?_, (unlessStopped_of_not hgoes).symm⟩
      cases hgoes.symm.trans hstop
    | ok b => exact h (some b) (hchange a b hs hc)

theorem current (f : Aggregate) :
    Follows zones S (MachineEval.current f) (Eval.current f) S := by
  refine of_not_stopped fun s hs => ?_
  cases s with
  | none => exact ⟨hs, rfl, rfl⟩
  | some a =>
    rw [Eval.run_current_some, run_current_some, Machine.current_value]
    exact ⟨hs, a.stopped_current f, rfl⟩

theorem ite (b : Bool) {c' : MachineEval α} {m' : Eval α} (h : Follows zones S c m T)
    (h' : Follows zones S c' m' T) :
    Follows zones S (if b then c else c') (if b then m else m') T := by
  cases b with
  | true => exact h
  | false => exact h'

end Follows
end MachineEval
end TableMill
