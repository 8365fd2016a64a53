import TableMill.Proofs.ProbeSoundness

/-!
# Steps of an aggregate call

An evaluation of an aggregate call feeds it the value of its argument and tells whether the value
is included. What the arguments come to does not depend on the aggregation and does not change
it. So a run of evaluations is a run of small steps of the aggregation, and what one step keeps
to, the run keeps to.
-/

namespace TableMill

namespace Eval

variable {α β : Type}

theorem run_bind_ok {m : Eval α} {s t : Option Aggregation} {a : α}
    (h : m.run.run s = (.ok a, t)) (f : α → Eval β) :
    (m >>= f).run.run s = (f a).run.run t := by
  rw [run_bind, h]

theorem run_step_ok (f : Aggregate) {change : Aggregation → Except EvalError Aggregation}
    {a b : Aggregation} (h : change a = .ok b) :
    (step f change).run.run (some a) = (.ok (), some b) := by
  rw [run_step_some, h]

theorem run_step_error (f : Aggregate) {change : Aggregation → Except EvalError Aggregation}
    {a : Aggregation} {e : EvalError} (h : change a = .error e) :
    (step f change).run.run (some a) = (.error e, some a) := by
  rw [run_step_some, h]

/-- Whether a computation that succeeds without an aggregation does the same with any, and leaves
it as it is. -/
def Steady (m : Eval α) : Prop :=
  ∀ a t, m.run.run none = (.ok a, t) → t = none ∧ ∀ s, m.run.run s = (.ok a, s)

namespace Steady

theorem lift (x : Except EvalError α) : Steady (liftM x : Eval α) := by
  intro b t h
  rw [run_lift] at h
  obtain ⟨rfl, rfl⟩ := Prod.mk.inj h
  exact ⟨rfl, fun s => run_lift _ s⟩

theorem bind {m : Eval α} {f : α → Eval β} (hm : Steady m) (hf : ∀ a, Steady (f a)) :
    Steady (m >>= f) := by
  intro b u h
  obtain ⟨a, t, hma, hfb⟩ := of_bind_ok h
  obtain ⟨rfl, hms⟩ := hm a t hma
  obtain ⟨rfl, hfs⟩ := hf a b u hfb
  refine ⟨rfl, fun s => ?_⟩
  rw [run_bind_ok (hms s)]
  exact hfs s

theorem step_bind {f : Aggregate} {change : Aggregation → Except EvalError Aggregation}
    (k : Unit → Eval α) : Steady (Eval.step f change >>= k) := by
  intro a t h
  obtain ⟨u, s, hstep, -⟩ := of_bind_ok h
  obtain ⟨b, c, hnone, -⟩ := of_step_ok hstep
  cases hnone

end Steady
end Eval

namespace Expr

open Eval

theorem steady : Sequential fun _ m => Steady m := ⟨.lift, .bind⟩

/-- An expression that has a value where aggregates are refused has this value everywhere. -/
theorem steady_evalM (now : DateTime) (vars : Bindings) (e : Expr) : Steady (evalM now vars e) :=
  sequential_evalM steady fun _ _ _ _ _ => .step_bind _

theorem run_of_eval {now : DateTime} {vars : Bindings} {e : Expr} {v : Value}
    (h : e.eval now vars = .ok v) (s : Option Aggregation) :
    (evalM now vars e).run.run s = (.ok v, s) := by
  have hnone : (evalM now vars e).run.run none =
      (.ok v, ((evalM now vars e).run.run none).2) := by
    rw [← h]
    rfl
  exact (steady_evalM now vars e v _ hnone).2 s

end Expr

/-- What an evaluation feeds an aggregate call: a value, and whether it is included. A count
ignores the value. -/
structure Input where
  value : Value
  included : Bool

/-- Whether the arguments of an aggregate call come to an input, at a time and under bindings. They
are evaluated without the aggregation: it is bound to the call already, and refuses any other one
in the arguments. -/
structure Aggregate.Feeds (f : Aggregate) (args : List Expr) (run : DateTime × Bindings)
    (u : Input) : Prop where
  arity : args.length = f.arity
  value (h : f.base ≠ .count) : ∃ e, args[0]? = some e ∧ e.eval run.1 run.2 = .ok u.value
  condition (h : f.conditional = true) :
    ∃ e, args[f.plainArity]? = some e ∧ e.eval run.1 run.2 = .ok (.bool u.included)
  plain (h : f.conditional = false) : u.included = true

namespace Aggregation

/-- One step of the aggregation that a call is bound to, with its outcome. The value settles the
kind of the total also if it is not included, and also if it overflows. -/
inductive Steps (site : CallSite) (f : Aggregate) (separator : String) (u : Input)
    (s : Aggregation) : Except EvalError Value → Aggregation → Prop
  | count {b : Aggregation} (hbase : f.base = .count) (hbind : s.bind site f = .ok b) :
    Steps site f separator u s
      (Aggregation.current { b with count := b.count + u.included.toNat } f)
      { b with count := b.count + u.included.toNat }
  | skip {b t : Aggregation} (hbase : f.base ≠ .count) (hbind : s.bind site f = .ok b)
    (hlock : b.lock f u.value = .ok t) (hu : u.included = false) :
    Steps site f separator u s (t.current f) t
  | take {b t w : Aggregation} (hbase : f.base ≠ .count) (hbind : s.bind site f = .ok b)
    (hlock : b.lock f u.value = .ok t) (hu : u.included = true)
    (htake : t.accumulate f u.value separator = .ok w) :
    Steps site f separator u s (w.current f) w
  | fail {b t : Aggregation} {e : EvalError} (hbase : f.base ≠ .count)
    (hbind : s.bind site f = .ok b) (hlock : b.lock f u.value = .ok t) (hu : u.included = true)
    (htake : t.accumulate f u.value separator = .error e) :
    Steps site f separator u s (.error e) t

variable {s : Aggregation} {site : CallSite} {f : Aggregate} {k : Kind} {separator : String}
  {u : Input} {t₀ : Total}

/-- Whether a call may go on with an aggregation: no other call has bound it, and its total, if it
has one, is of the kind of the values. -/
structure Awaits (s : Aggregation) (site : CallSite) (f : Aggregate) (k : Kind) : Prop where
  bound : s.bound = none ∨ s.bound = some (site, f)
  kind : ∀ t, s.total = some t → t.kind = k

/-- The aggregation with a call that is bound to it, and a total to start with. -/
def started (s : Aggregation) (site : CallSite) (f : Aggregate) (t₀ : Total) : Aggregation :=
  ⟨some (site, f), some (s.total.getD t₀), s.count⟩

namespace Awaits

theorem bind (h : s.Awaits site f k) : s.bind site f = .ok { s with bound := some (site, f) } := by
  unfold Aggregation.bind
  rcases h.bound with hbound | hbound
  · rw [hbound]
  · rw [hbound]
    simp only [if_true, ← hbound]

theorem lock (h : s.Awaits site f k) {v : Value} (hv : v.kind = k)
    (hstart : Total.start f.base v = some t₀) :
    lock { s with bound := some (site, f) } f v = .ok (s.started site f t₀) := by
  have hkind : t₀.kind = k := (Total.kind_start hstart).trans hv
  unfold Aggregation.lock started
  simp only [hstart]
  cases htotal : s.total with
  | none => rfl
  | some t => exact if_pos ((h.kind t htotal).trans hkind.symm)

variable (h : s.Awaits site f k) (hbase : f.base ≠ .count) (hv : u.value.kind = k)
  (hstart : Total.start f.base u.value = some t₀)
include h hbase hv hstart

theorem skip (hu : u.included = false) :
    s.Steps site f separator u ((s.started site f t₀).current f) (s.started site f t₀) :=
  .skip hbase h.bind (h.lock hv hstart) hu

theorem take (hu : u.included = true) {w : Aggregation}
    (htake : (s.started site f t₀).accumulate f u.value separator = .ok w) :
    s.Steps site f separator u (w.current f) w :=
  .take hbase h.bind (h.lock hv hstart) hu htake

theorem fail (hu : u.included = true) {e : EvalError}
    (htake : (s.started site f t₀).accumulate f u.value separator = .error e) :
    s.Steps site f separator u (.error e) (s.started site f t₀) :=
  .fail hbase h.bind (h.lock hv hstart) hu htake

end Awaits
end Aggregation

namespace Expr

variable {now : DateTime} {vars : Bindings} {f : Aggregate} {args : List Expr} {u : Input}
  {separator : String}

theorem run_evalNth {e : Expr} (he : args[0]? = some e) {v : Value}
    (hv : e.eval now vars = .ok v) (s : Option Aggregation) :
    (evalNth now vars args 0).run.run s = (.ok v, s) := by
  cases args with
  | nil => simp at he
  | cons a rest =>
    obtain rfl : a = e := by simpa using he
    rw [evalNth]
    exact run_of_eval hv s

theorem run_evalCondition {n : Nat} {e : Expr} (he : args[n]? = some e) {b : Bool}
    (hb : e.eval now vars = .ok (.bool b)) (s : Option Aggregation) :
    (evalCondition now vars f args n).run.run s = (.ok b, s) := by
  induction args generalizing n with
  | nil => simp at he
  | cons a rest ih =>
    cases n with
    | zero =>
      obtain rfl : a = e := by simpa using he
      rw [evalCondition, Eval.run_bind_ok (run_of_eval hb s)]
      rfl
    | succ n =>
      rw [evalCondition]
      exact ih (by simpa using he)

theorem run_included (h : f.Feeds args (now, vars) u) (s : Option Aggregation) :
    (included now vars f args f.plainArity).run.run s = (.ok u.included, s) := by
  unfold included
  cases hcond : f.conditional with
  | false =>
    rw [h.plain hcond]
    rfl
  | true =>
    obtain ⟨e, he, hb⟩ := h.condition hcond
    exact run_evalCondition he hb s

/-- What an evaluation of an aggregate call does once the aggregation is bound to it. -/
theorem evalWith_call {site : CallSite} (harity : args.length = f.arity) {s b t : Aggregation}
    (hbind : s.bind site f = .ok b) {r : Except EvalError Unit}
    (htally : (tally now vars f args).run.run (some b) = (r, some t)) :
    (Expr.call site f.name args).evalWith now vars (some s) =
      (r >>= fun _ => t.current f, some t) := by
  have hbound : (Eval.step f fun s => s.bind site f).run.run (some s) = (.ok (), some b) :=
    Eval.run_step_ok f hbind
  unfold evalWith
  rw [evalM_aggregate now vars (Aggregate.ofName?_name f), aggregateCall, if_pos harity,
    Eval.run_bind_ok hbound, Eval.run_bind_ok (Eval.run_lift _ _), Eval.run_bind, htally]
  cases r with
  | error e => rfl
  | ok _ => exact Eval.run_current_some f t

theorem run_countCall (h : f.Feeds args (now, vars) u) (hbase : f.base = .count)
    (b : Aggregation) :
    (countCall now vars f args).run.run (some b) =
      (.ok (), some { b with count := b.count + u.included.toNat }) := by
  have hplace : f.plainArity = 0 := by simp [Aggregate.plainArity, hbase]
  have hincluded := run_included h (some b)
  rw [hplace] at hincluded
  rw [countCall, Eval.run_bind_ok hincluded]
  cases u.included with
  | false => rfl
  | true =>
    rw [if_pos rfl]
    exact Eval.run_step_ok f rfl

theorem run_totalCall (h : f.Feeds args (now, vars) u) (hbase : f.base ≠ .count)
    (hsep : (if f.base = .join then f.separator args else .ok "") = .ok separator)
    {b t : Aggregation} (hlock : b.lock f u.value = .ok t) :
    (totalCall now vars f args).run.run (some b) =
      (if u.included then Eval.step f fun s => s.accumulate f u.value separator
        else pure ()).run.run (some t) := by
  obtain ⟨e, he, hv⟩ := h.value hbase
  have hlocked : (Eval.step f fun s => s.lock f u.value).run.run (some b) = (.ok (), some t) :=
    Eval.run_step_ok f hlock
  rw [totalCall, Eval.run_bind_ok (run_evalNth he hv _), hsep,
    Eval.run_bind_ok (Eval.run_lift _ _), Eval.run_bind_ok hlocked, takeValue,
    Eval.run_bind_ok (run_included h _)]

/-- An evaluation of an aggregate call makes the step that its input calls for. -/
theorem evalWith_of_steps {site : CallSite} (h : f.Feeds args (now, vars) u)
    (hsep : (if f.base = .join then f.separator args else .ok "") = .ok separator)
    {s t : Aggregation} {out : Except EvalError Value} (hs : s.Steps site f separator u out t) :
    (Expr.call site f.name args).evalWith now vars (some s) = (out, some t) := by
  have htotal (hbase : f.base ≠ .count) : tally now vars f args = totalCall now vars f args :=
    if_neg hbase
  cases hs with
  | @count b hbase hbind =>
    have htally : tally now vars f args = countCall now vars f args := if_pos hbase
    have hrun := run_countCall h hbase b
    rw [← htally] at hrun
    exact evalWith_call h.arity hbind hrun
  | skip hbase hbind hlock hu =>
    have hrun := run_totalCall h hbase hsep hlock
    rw [hu, ← htotal hbase] at hrun
    exact evalWith_call h.arity hbind hrun
  | take hbase hbind hlock hu htake =>
    have hrun := run_totalCall h hbase hsep hlock
    rw [hu, if_pos rfl, Eval.run_step_ok f htake, ← htotal hbase] at hrun
    exact evalWith_call h.arity hbind hrun
  | fail hbase hbind hlock hu htake =>
    have hrun := run_totalCall h hbase hsep hlock
    rw [hu, if_pos rfl, Eval.run_step_error f htake, ← htotal hbase] at hrun
    exact evalWith_call h.arity hbind hrun

/-- Evaluations one after another: what every step keeps to, from where the ones before it have
led, every evaluation keeps to. -/
theorem outcomes_of_steps {site : CallSite}
    {Holds : List Input → Aggregation → Prop}
    {Gives : List Input → Input → Except EvalError Value → Prop} {runs : List (DateTime × Bindings)}
    {inputs : List Input} (hfeeds : List.Forall₂ (f.Feeds args) runs inputs)
    (hsep : (if f.base = .join then f.separator args else .ok "") = .ok separator)
    (hstep : ∀ before u s, before ++ [u] <+: inputs → Holds before s →
      ∃ out t, s.Steps site f separator u out t ∧ Holds (before ++ [u]) t ∧ Gives before u out)
    {s : Aggregation} (hs : Holds [] s) {i : Nat} {u : Input} (hu : inputs[i]? = some u) :
    ∃ out, ((Expr.call site f.name args).outcomes (some s) runs)[i]? = some out ∧
      Gives (inputs.take i) u out := by
  -- the induction is on the inputs that are left, after those that led to the aggregation
  have hrest {runs : List (DateTime × Bindings)} {rest : List Input}
      (hrest : List.Forall₂ (f.Feeds args) runs rest) :
      ∀ (before : List Input) (s : Aggregation), before ++ rest = inputs → Holds before s →
        ∀ (i : Nat) (u : Input), rest[i]? = some u →
          ∃ out, ((Expr.call site f.name args).outcomes (some s) runs)[i]? = some out ∧
            Gives (before ++ rest.take i) u out := by
    induction hrest with
    | nil => intro before s _ _ i u hu; simp at hu
    | @cons run v runs rest hfed _ ih =>
      intro before s hall hs i u hu
      have hprefix : before ++ [v] <+: inputs := ⟨rest, by rw [← hall, List.append_assoc]; rfl⟩
      obtain ⟨out, t, hst, ht, hgives⟩ := hstep before v s hprefix hs
      have heval := evalWith_of_steps hfed hsep hst
      cases i with
      | zero =>
        obtain rfl : v = u := by simpa using hu
        exact ⟨out, by simp [outcomes, heval], by simpa using hgives⟩
      | succ i =>
        have hafter : (before ++ [v]) ++ rest = inputs := by
          rw [← hall, List.append_assoc]
          rfl
        obtain ⟨out', hout, hgives'⟩ := ih (before ++ [v]) t hafter ht i u (by simpa using hu)
        rw [List.append_assoc] at hgives'
        exact ⟨out', by simpa [outcomes, heval] using hout, hgives'⟩
  simpa using hrest hfeeds [] s rfl hs i u hu

end Expr
end TableMill
