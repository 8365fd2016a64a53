import Mathlib.Logic.Relation
import TableMill.Proofs.Probe

/-!
# One call to an aggregation

An evaluation leaves out no part of its expression. So one that succeeds has bound its aggregation
to every aggregate call in the expression, and an expression with two of them never succeeds. An
aggregation stays bound to its call, and only evaluations of that call change it.
-/

namespace TableMill

namespace Eval

variable {α β : Type} {p : CallSite} {m : Eval α} {f : α → Eval β}

/-- Whether a computation that succeeds leaves an aggregation that is bound at a site. -/
def Binds (p : CallSite) (m : Eval α) : Prop :=
  ∀ s a t, m.run.run s = (.ok a, t) → ∃ b, t = some b ∧ b.site? = some p

namespace Binds

theorem first (hm : Binds p m) (hf : ∀ a, Growing (f a)) : Binds p (m >>= f) := by
  intro s b t h
  obtain ⟨a, u, hma, hfb⟩ := of_bind_ok h
  obtain ⟨c, rfl, hc⟩ := hm s a u hma
  obtain ⟨d, rfl, hcd⟩ := ((hf a).of_run hfb).some_left
  exact ⟨d, rfl, hcd.site p hc⟩

/-- The second computation may use that the first one has succeeded. -/
theorem second (hf : ∀ s a t, m.run.run s = (.ok a, t) → Binds p (f a)) : Binds p (m >>= f) := by
  intro s b t h
  obtain ⟨a, u, hma, hfb⟩ := of_bind_ok h
  exact hf s a u hma u b t hfb

theorem step (f : Aggregate) (site : CallSite) :
    Binds site (Eval.step f fun s => s.bind site f) := by
  intro s a t h
  obtain ⟨a, b, rfl, rfl, hb⟩ := of_step_ok h
  exact ⟨b, rfl, (Aggregation.bind_ok hb).1⟩

end Binds
end Eval

theorem Aggregate.places {f : Aggregate} {args : List Expr} (harity : args.length = f.arity)
    {j : Nat} (hj : j < args.length) :
    f.base ≠ .count ∧ j = 0 ∨ f.conditional = true ∧ j = f.plainArity ∨ f.base = .join ∧ j = 1 := by
  rw [harity] at hj
  unfold arity plainArity at *
  cases hcond : f.conditional <;> cases hbase : f.base <;> simp [hcond, hbase] at hj ⊢ <;> omega

theorem Aggregate.calls_separator {f : Aggregate} {args : List Expr} {separator : String}
    (h : f.separator args = .ok separator) {e : Expr} (he : args[1]? = some e) : e.calls = [] := by
  match args, h with
  | _ :: .text s :: _, _ =>
    obtain rfl : Expr.text s = e := by simpa using he
    rfl

namespace Expr

open Eval

variable {now : DateTime} {vars : Bindings} {p : CallSite} {args : List Expr} {e : Expr}

theorem binds_evalAll (he : e ∈ args) (h : Binds p (evalM now vars e)) :
    Binds p (evalAll now vars args) := by
  induction args with
  | nil => cases he
  | cons a rest ih =>
    rw [evalAll]
    have hrest : Growing (evalAll now vars rest) :=
      sequential_evalAll growing.toSequential fun e _ => growing_evalM e
    rcases List.mem_cons.1 he with rfl | he
    · exact h.first fun v => hrest.bind fun vs => .pure _
    · exact .second fun _ _ _ _ => (ih he).first fun vs => .pure _

theorem binds_evalNth (he : args[0]? = some e) (h : Binds p (evalM now vars e)) :
    Binds p (evalNth now vars args 0) := by
  cases args with
  | nil => simp at he
  | cons a rest =>
    obtain rfl : a = e := by simpa using he
    rw [evalNth]
    exact h

theorem binds_evalCondition {n : Nat} (he : args[n]? = some e) (h : Binds p (evalM now vars e))
    (f : Aggregate) : Binds p (evalCondition now vars f args n) := by
  induction args generalizing n with
  | nil => simp at he
  | cons a rest ih =>
    cases n with
    | zero =>
      obtain rfl : a = e := by simpa using he
      rw [evalCondition]
      refine h.first fun v => ?_
      cases v with
      | bool b => exact .pure b
      | _ => exact .throw _
    | succ n =>
      rw [evalCondition]
      exact ih (by simpa using he)

theorem binds_included {f : Aggregate} {n : Nat} (hcond : f.conditional = true)
    (he : args[n]? = some e) (h : Binds p (evalM now vars e)) :
    Binds p (included now vars f args n) := by
  rw [included, if_pos hcond]
  exact binds_evalCondition he h f

theorem binds_aggregateCall (he : e ∈ args) (hcalls : e.calls ≠ [])
    (h : Binds p (evalM now vars e)) (site : CallSite) (f : Aggregate) :
    Binds p (aggregateCall now vars site f args) := by
  have hgrow (e : Expr) (_ : e ∈ args) : Growing (evalM now vars e) := growing_evalM e
  obtain ⟨j, hj, he⟩ := List.mem_iff_getElem.1 he
  have he : args[j]? = some e := he ▸ List.getElem?_eq_getElem hj
  refine .second fun _ _ _ _ => .second fun s _ t harity => .first ?_ fun _ => .current f
  have harity : args.length = f.arity := by
    rw [run_lift] at harity
    by_contra hne
    rw [if_neg hne] at harity
    cases harity
  unfold tally
  split
  · next hcount =>
    have hplace : f.conditional = true ∧ j = f.plainArity := by
      simpa [hcount] using Aggregate.places harity hj
    have hzero : f.plainArity = 0 := by simp [Aggregate.plainArity, hcount]
    rw [hplace.2, hzero] at he
    exact (binds_included hplace.1 he h).first (stepwise_count growing f)
  · next hcount =>
    have htake (v : Value) (sep : String) : Growing (takeValue now vars f args v sep) :=
      stepwise_takeValue growing hgrow f v sep
    rcases Aggregate.places harity hj with ⟨-, rfl⟩ | ⟨hcond, rfl⟩ | ⟨hjoin, rfl⟩
    · exact (binds_evalNth he h).first fun v => (Growing.lift _).bind fun sep =>
        (growing.locked f v).bind fun _ => htake v sep
    · refine .second fun _ v _ _ => .second fun _ sep _ _ => .second fun _ _ _ _ => ?_
      exact (binds_included hcond he h).first (stepwise_accumulate growing f v sep)
    · refine .second fun _ v _ _ => .second fun _ sep _ hsep => ?_
      rw [run_lift, if_pos hjoin] at hsep
      exact absurd (Aggregate.calls_separator (Prod.mk.inj hsep).1 he) hcalls

/-- An evaluation that succeeds has bound its aggregation at every aggregate call. -/
theorem binds_evalM {c : Call} (hc : c ∈ e.calls) (hagg : c.aggregate?.isSome) :
    Binds c.site (evalM now vars e) := by
  induction e using induct with
  | int v | float v | text s | ident name | selector table field => cases hc
  | unary op e ih =>
    rw [evalM]
    exact (ih hc).first fun v => .lift _
  | binary op l r hl hr =>
    rw [evalM]
    rcases List.mem_append.1 hc with hc | hc
    · exact (hl hc).first fun a => (growing_evalM r).bind fun b => .lift _
    · exact .second fun _ _ _ _ => (hr hc).first fun b => .lift _
  | call site name args ih =>
    rw [calls, callsAll_eq] at hc
    cases hf : Aggregate.ofName? name with
    | some f =>
      rw [evalM_aggregate now vars hf]
      rcases List.mem_cons.1 hc with rfl | hc
      · refine (Binds.step f site).first fun _ => (Growing.lift _).bind fun _ => ?_
        exact (stepwise_tally growing (fun e _ => growing_evalM e) f).bind fun _ => .current f
      · obtain ⟨e, he, hce⟩ := List.mem_flatMap.1 hc
        exact binds_aggregateCall he (List.ne_nil_of_mem hce) (ih e he hce) site f
    | none =>
      simp only [evalM, hf]
      rcases List.mem_cons.1 hc with rfl | hc
      · rw [Call.aggregate?, hf] at hagg
        cases hagg
      · obtain ⟨e, he, hce⟩ := List.mem_flatMap.1 hc
        cases Builtin.ofName? name with
        | some f => exact (binds_evalAll he (ih e he hce)).first fun vs => .lift _
        | none =>
          intro s a t h
          cases h

/-- An expression with aggregate calls at two sites has no value. -/
theorem error_of_sites {c d : Call} (hc : c ∈ e.calls) (hcagg : c.aggregate?.isSome)
    (hd : d ∈ e.calls) (hdagg : d.aggregate?.isSome) (hne : c.site ≠ d.site)
    (s : Option Aggregation) : ∃ err, (e.evalWith now vars s).1 = .error err := by
  rcases hrun : e.evalWith now vars s with ⟨r, t⟩
  cases r with
  | error err => exact ⟨err, rfl⟩
  | ok v =>
    obtain ⟨b, rfl, hbc⟩ := binds_evalM hc hcagg s v t hrun
    obtain ⟨b', hb', hbd⟩ := binds_evalM hd hdagg s v _ hrun
    obtain rfl := Option.some.inj hb'
    exact absurd (Option.some.inj (hbc.symm.trans hbd)) hne

end Expr

/-- Whether an evaluation of one of some calls, an aggregate call at a site, takes an aggregation
to another one. -/
def Call.Takes (now : DateTime) (vars : Bindings) (calls : List Call) (site : CallSite)
    (a b : Aggregation) : Prop :=
  ∃ c ∈ calls, c.site = site ∧ c.aggregate?.isSome ∧
    (c.toExpr.evalWith now vars (some a)).2 = some b

namespace Eval

variable {α β : Type} {m : Eval α} {f : α → Eval β}
  {R : CallSite → Aggregation → Aggregation → Prop}

/-- Whether a computation keeps a bound aggregation bound to its call, and takes it on by some
steps only. -/
def Keeps (R : CallSite → Aggregation → Aggregation → Prop) (m : Eval α) : Prop :=
  ∀ a site g, a.bound = some (site, g) →
    ∃ b, (m.run.run (some a)).2 = some b ∧ b.bound = some (site, g) ∧
      Relation.ReflTransGen (R site) a b

namespace Keeps

theorem lift (x : Except EvalError α) : Keeps R (liftM x : Eval α) := by
  intro a site g ha
  rw [run_lift]
  exact ⟨a, rfl, ha, .refl⟩

theorem bind (hm : Keeps R m) (hf : ∀ a, Keeps R (f a)) : Keeps R (m >>= f) := by
  intro a site g ha
  obtain ⟨b, hb, hbound, hab⟩ := hm a site g ha
  rw [run_bind]
  rcases hrun : m.run.run (some a) with ⟨r, t⟩
  rw [hrun] at hb
  subst hb
  cases r with
  | error e => exact ⟨b, rfl, hbound, hab⟩
  | ok x =>
    obtain ⟨c, hc, hcbound, hbc⟩ := hf x b site g hbound
    exact ⟨c, hc, hcbound, hab.trans hbc⟩

theorem sequential (R : CallSite → Aggregation → Aggregation → Prop) :
    Sequential fun _ m => Keeps R m := ⟨lift, bind⟩

/-- A change that keeps the aggregation bound, whatever else it does. -/
theorem step (f : Aggregate) {change : Aggregation → Except EvalError Aggregation}
    (h : ∀ a b x, a.bound = some x → change a = .ok b → b.bound = some x) :
    Keeps (fun _ _ _ => True) (Eval.step f change) := by
  intro a site g ha
  rw [run_step_some]
  cases hc : change a with
  | error e => exact ⟨a, rfl, ha, .refl⟩
  | ok b => exact ⟨b, rfl, h a b _ ha hc, .single trivial⟩

end Keeps
end Eval

namespace Aggregation

variable {a b : Aggregation} {f : Aggregate} {x : CallSite × Aggregate}

theorem bound_of_bind {site : CallSite} (ha : a.bound = some x) (h : a.bind site f = .ok b) :
    b.bound = some x := by
  unfold bind at h
  rw [ha] at h
  dsimp only at h
  split at h
  · cases h
    exact ha
  · cases h

theorem bound_of_lock {v : Value} (h : a.lock f v = .ok b) : b.bound = a.bound := by
  unfold lock at h
  split at h
  · cases h
  · split at h
    · cases h
      rfl
    · split at h
      · cases h
        rfl
      · cases h

theorem bound_of_accumulate {v : Value} {separator : String}
    (h : a.accumulate f v separator = .ok b) : b.bound = a.bound := by
  unfold accumulate at h
  split at h
  · cases h
    rfl
  · split at h
    · cases h
      rfl
    case h_2 | h_3 =>
      split at h
      · cases h
        rfl
      · cases h
    all_goals
      cases h
      rfl

end Aggregation

namespace Expr

open Eval

variable {now : DateTime} {vars : Bindings} {args : List Expr} {e : Expr}

theorem keeps_bound : Stepwise fun _ m => Keeps (fun _ _ _ => True) m where
  toSequential := Keeps.sequential _
  bound f site := .step f fun _ _ _ => Aggregation.bound_of_bind
  counted f := .step f fun _ _ _ ha h => by
    cases h
    exact ha
  locked f v := .step f fun _ _ _ ha h => (Aggregation.bound_of_lock h).trans ha
  taken f v separator := .step f fun _ _ _ ha h => (Aggregation.bound_of_accumulate h).trans ha
  result f := fun a site g ha => by
    rw [run_current_some]
    exact ⟨a, rfl, ha, .refl⟩

theorem evalWith_refused {site used : CallSite} {name : String} {f g : Aggregate} {a : Aggregation}
    (hf : Aggregate.ofName? name = some f) (ha : a.bound = some (used, g)) (hne : used ≠ site) :
    (Expr.call site name args).evalWith now vars (some a) =
      (.error (.multipleAggregates f.name g.name), some a) := by
  have hbind : a.bind site f = .error (.multipleAggregates f.name g.name) := by
    unfold Aggregation.bind
    rw [ha]
    exact if_neg hne
  unfold evalWith
  rw [evalM_aggregate now vars hf, aggregateCall, run_bind, run_step_some, hbind]

/-- An evaluation keeps a bound aggregation bound to its call, and only evaluations of that call
take it on. -/
theorem keeps_evalM (e : Expr) : Keeps (Call.Takes now vars e.calls) (evalM now vars e) := by
  refine sequential_evalM (Keeps.sequential _) fun c hc f hf _ => ?_
  obtain ⟨site, name, args⟩ := c
  rw [← evalM_aggregate now vars hf]
  intro a used g ha
  by_cases hsite : used = site
  · have hkeeps : Keeps (fun _ _ _ => True) (evalM now vars (.call site name args)) :=
      stepwise_evalM keeps_bound _
    obtain ⟨b, hb, hbound, -⟩ := hkeeps a used g ha
    exact ⟨b, hb, hbound, .single ⟨_, hc, hsite.symm, Option.isSome_of_eq_some hf, hb⟩⟩
  · exact ⟨a, congrArg Prod.snd (evalWith_refused hf ha hsite), ha, .refl⟩

/-- What evaluations of expressions, one after another, leave of an aggregation. -/
def leave (runs : List (Expr × DateTime × Bindings)) (s : Option Aggregation) :
    Option Aggregation :=
  runs.foldl (fun s r => (r.1.evalWith r.2.1 r.2.2 s).2) s

end Expr

namespace TwoCallsSample

/-! A sum over orders, and then evaluations of an expression with another call. The second order
has no amount. -/

def total : Expr := .call ⟨0, 4⟩ "sum" [.selector "o" "amount"]

def both : Expr :=
  .binary .add (.call ⟨1, 9⟩ "sum" [.selector "o" "amount"]) (.call ⟨1, 4⟩ "count" [])

def order (amount : Int64) : DateTime × Bindings := (.unset, [("o", [("amount", .int amount)])])

def started : Aggregation := ⟨some (⟨0, 4⟩, ⟨.sum, false⟩), some (.int 5), 1⟩

def runs : List (Expr × DateTime × Bindings) :=
  [(both, order 3), (total, .unset, []), (total, order 20), (both, order 7)]

end TwoCallsSample
end TableMill
