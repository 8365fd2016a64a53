import TableMill.Proofs.BoundCalls
import TableMill.Proofs.RunningTotals

/-!
# Failed evaluations of an aggregate call

An evaluation that fails may bind the aggregation to its call and settle the kind of the total, and
it does nothing else. If all values are of one kind, the evaluations that succeed settle the same.
So they give what they give where those that fail are left out.
-/

namespace TableMill

namespace Eval

variable {α : Type} {m : Eval α}

/-- Whether a computation gives the same with every aggregation and without one, and leaves it as
it is. -/
def Detached (m : Eval α) : Prop := ∃ r, ∀ s, m.run.run s = (r, s)

theorem Detached.sequential : Sequential fun _ m => Detached m where
  lift x := ⟨x, run_lift x⟩
  bind := by
    rintro α β m f ⟨r, hr⟩ hf
    cases r with
    | error e => exact ⟨.error e, fun s => by rw [run_bind, hr]⟩
    | ok a =>
      obtain ⟨r', hr'⟩ := hf a
      exact ⟨r', fun s => by rw [run_bind, hr]; exact hr' s⟩

end Eval

namespace Expr

open Eval

theorem detached_evalM {now : DateTime} {vars : Bindings} {e : Expr}
    (h : ∀ c ∈ e.calls, c.aggregate? = none) : Detached (evalM now vars e) :=
  sequential_evalM Detached.sequential fun c hc f hf _ => by
    rw [h c hc] at hf
    cases hf

end Expr

namespace Aggregation

variable {s t u b : Aggregation} {site : CallSite} {f : Aggregate} {k : Kind} {v w : Value}

theorem bind_of_site (h : s.site? = some site) : s.bind site f = .ok s := by
  unfold site? at h
  obtain ⟨⟨used, g⟩, hbound, rfl⟩ := Option.map_eq_some_iff.1 h
  unfold bind
  rw [hbound]
  exact if_pos rfl

/-- A value is not refused if the total is not started yet, or is of its kind. -/
theorem lock_eq_ok_iff : s.lock f v = .ok t ↔ ∃ t₀, Total.start f.base v = some t₀ ∧
    (∀ x, s.total = some x → x.kind = t₀.kind) ∧
    t = { s with total := some (s.total.getD t₀) } := by
  obtain ⟨bound, total, count⟩ := s
  unfold lock
  cases hstart : Total.start f.base v with
  | none => simp
  | some t₀ =>
    cases total with
    | none => simp [eq_comm]
    | some x =>
      by_cases hkind : x.kind = t₀.kind
      · simp [hkind, eq_comm]
      · simp [hkind]

theorem lock_congr (h : v.kind = w.kind) (hlock : s.lock f v = .ok t) : s.lock f w = .ok t := by
  rw [lock_eq_ok_iff] at hlock ⊢
  rwa [Total.start_congr h] at hlock

/-- A second value of one kind changes nothing. -/
theorem lock_again (h : v.kind = w.kind) (hlock : s.lock f v = .ok t) : t.lock f w = .ok t := by
  obtain ⟨t₀, hstart, hkind, rfl⟩ := lock_eq_ok_iff.1 hlock
  rw [Total.start_congr h] at hstart
  refine lock_eq_ok_iff.2 ⟨t₀, hstart, fun x hx => ?_, rfl⟩
  obtain rfl := Option.some.inj hx
  cases htotal : s.total with
  | none => rfl
  | some y => exact hkind y htotal

/-- Whether an aggregation is left of another one by evaluations that failed: it may be bound to
the call, and the kind of its total may be settled. -/
inductive Touched (site : CallSite) (f : Aggregate) (k : Kind) (s : Aggregation) :
    Aggregation → Prop
  | same : Touched site f k s s
  | bound {b : Aggregation} (hbind : s.bind site f = .ok b) : Touched site f k s b
  | locked {b t : Aggregation} {v : Value} (hbase : f.base ≠ .count)
    (hbind : s.bind site f = .ok b) (hv : v.kind = k) (hlock : b.lock f v = .ok t) :
    Touched site f k s t

theorem site_of_lock (hbind : s.bind site f = .ok b) (hlock : b.lock f v = .ok t) :
    t.site? = some site :=
  (lock_ok hlock).2.2.site site (bind_ok hbind).1

namespace Touched

theorem trans (h : s.Touched site f k t) (h' : t.Touched site f k u) : s.Touched site f k u := by
  cases h with
  | same => exact h'
  | bound hbind =>
    have hagain := bind_of_site (f := f) (bind_ok hbind).1
    cases h' with
    | same => exact .bound hbind
    | bound hbind' =>
      obtain rfl := Except.ok.inj (hagain.symm.trans hbind')
      exact .bound hbind
    | locked hbase hbind' hv hlock =>
      obtain rfl := Except.ok.inj (hagain.symm.trans hbind')
      exact .locked hbase hbind hv hlock
  | locked hbase hbind hv hlock =>
    have hagain := bind_of_site (f := f) (site_of_lock hbind hlock)
    cases h' with
    | same => exact .locked hbase hbind hv hlock
    | bound hbind' =>
      obtain rfl := Except.ok.inj (hagain.symm.trans hbind')
      exact .locked hbase hbind hv hlock
    | locked _ hbind' hv' hlock' =>
      obtain rfl := Except.ok.inj (hagain.symm.trans hbind')
      obtain rfl := Except.ok.inj ((lock_again (hv.trans hv'.symm) hlock).symm.trans hlock')
      exact .locked hbase hbind hv hlock

theorem count_eq (h : s.Touched site f k t) : t.count = s.count := by
  have hbound {b : Aggregation} (hbind : s.bind site f = .ok b) : b.count = s.count := by
    unfold Aggregation.bind at hbind
    split at hbind
    · cases hbind
      rfl
    · split at hbind
      · cases hbind
        rfl
      · cases hbind
  cases h with
  | same => rfl
  | bound hbind => exact hbound hbind
  | locked _ hbind _ hlock =>
    obtain ⟨t₀, -, -, rfl⟩ := lock_eq_ok_iff.1 hlock
    have hcount := hbound hbind
    exact hcount

/-- Binding the aggregation and settling the kind of its total does again what was done. -/
theorem bind_lock (h : s.Touched site f k t) (hbind : t.bind site f = .ok b) (hv : v.kind = k)
    (hlock : b.lock f v = .ok u) : ∃ c, s.bind site f = .ok c ∧ c.lock f v = .ok u := by
  cases h with
  | same => exact ⟨b, hbind, hlock⟩
  | bound hbind' =>
    obtain rfl := Except.ok.inj ((bind_of_site (bind_ok hbind').1).symm.trans hbind)
    exact ⟨t, hbind', hlock⟩
  | @locked c _ w _ hbind' hw hlock' =>
    obtain rfl := Except.ok.inj ((bind_of_site (site_of_lock hbind' hlock')).symm.trans hbind)
    have hkind : w.kind = v.kind := hw.trans hv.symm
    obtain rfl := Except.ok.inj ((lock_again hkind hlock').symm.trans hlock)
    exact ⟨c, hbind', lock_congr hkind hlock'⟩

theorem bind_count (h : s.Touched site f k t) (hbase : f.base = .count)
    (hbind : t.bind site f = .ok b) : s.bind site f = .ok b := by
  cases h with
  | same => exact hbind
  | bound hbind' =>
    obtain rfl := Except.ok.inj ((bind_of_site (bind_ok hbind').1).symm.trans hbind)
    exact hbind'
  | locked hne => exact absurd hbase hne

/-- A step that gives a value gives it from before the evaluations that failed. -/
theorem steps {separator : String} {input : Input} {out : Except EvalError Value}
    (h : s.Touched site f k t) (hv : f.base ≠ .count → input.value.kind = k)
    (hsteps : t.Steps site f separator input out u) (hout : out.isOk) :
    s.Steps site f separator input out u := by
  cases hsteps with
  | count hbase hbind => exact .count hbase (h.bind_count hbase hbind)
  | skip hbase hbind hlock hu =>
    obtain ⟨c, hc, hlock'⟩ := h.bind_lock hbind (hv hbase) hlock
    exact .skip hbase hc hlock' hu
  | take hbase hbind hlock hu htake =>
    obtain ⟨c, hc, hlock'⟩ := h.bind_lock hbind (hv hbase) hlock
    exact .take hbase hc hlock' hu htake
  | fail => cases hout

end Touched

theorem count_of_accumulate {separator : String} (h : s.accumulate f v separator = .ok t) :
    t.count ≤ s.count + 1 := by
  unfold accumulate at h
  split at h
  · cases h
    exact Nat.le_succ _
  · split at h
    case h_2 | h_3 =>
      split at h
      · cases h
        exact Nat.le_refl _
      · cases h
    all_goals
      cases h
      exact Nat.le_succ _

theorem Steps.count_le {separator : String} {input : Input} {out : Except EvalError Value}
    (h : s.Steps site f separator input out t) : t.count ≤ s.count + 1 := by
  have hlocked {b l : Aggregation} (hbase : f.base ≠ .count) (hbind : s.bind site f = .ok b)
      (hlock : b.lock f input.value = .ok l) : l.count = s.count :=
    (Touched.locked hbase hbind rfl hlock).count_eq
  cases h with
  | @count b _ hbind =>
    have hcount : b.count = s.count := (Touched.bound (k := .int) hbind).count_eq
    have hone : input.included.toNat ≤ 1 := Bool.toNat_le _
    exact hcount ▸ Nat.add_le_add_left hone _
  | skip hbase hbind hlock => exact (hlocked hbase hbind hlock).le.trans (Nat.le_succ _)
  | take hbase hbind hlock _ htake =>
    exact (count_of_accumulate htake).trans (hlocked hbase hbind hlock ▸ Nat.le_refl _)
  | fail hbase hbind hlock => exact (hlocked hbase hbind hlock).le.trans (Nat.le_succ _)

theorem Steps.kind_eq {separator : String} {input : Input} {out : Except EvalError Value}
    (h : s.Steps site f separator input out t) (hbase : f.base ≠ .count) :
    t.kind? = some input.value.kind := by
  cases h with
  | count hcount => exact absurd hcount hbase
  | skip _ _ hlock => exact (lock_ok hlock).2.1
  | @take _ l _ _ _ hlock _ htake =>
    have hsame := foreseen_accumulate l f input.value separator
    rw [htake] at hsame
    exact hsame.2.trans (lock_ok hlock).2.1
  | fail _ _ hlock => exact (lock_ok hlock).2.1

/-- An aggregation has a result, if a mean of decimals is over a count that is a word. -/
theorem exists_current
    (h : f.base = .avg → s.kind? = some .decimal → (s.count : ℤ) ≤ Number.wordMax) :
    ∃ v, s.current f = .ok v := by
  unfold current
  split
  · exact ⟨_, rfl⟩
  · next t hbase htotal =>
    have hmean : ∃ v, t.mean? s.count = some v := by
      cases t with
      | decimal d =>
        have hcount := h hbase (by rw [kind?, htotal]; rfl)
        obtain ⟨w, hw, -⟩ := Total.mean?_ofUnits (k := .decimal) (.inr rfl) d.cents hcount
        exact ⟨_, hw⟩
      | int a => exact ⟨_, rfl⟩
      | float a => exact ⟨_, rfl⟩
      | text a => exact ⟨_, rfl⟩
    obtain ⟨v, hv⟩ := hmean
    rw [hv]
    exact ⟨_, rfl⟩
  · exact ⟨_, rfl⟩
  · exact ⟨_, rfl⟩

end Aggregation

namespace Aggregate

theorem arity_pos {f : Aggregate} (h : f.base ≠ .count) : 0 < f.arity := by
  rw [arity, plainArity]
  split
  · next hcount => exact absurd hcount h
  all_goals omega

/-- Whether the value of an aggregate call, if it has one, is of a kind. -/
def ValuedIn (f : Aggregate) (args : List Expr) (k : Kind) (run : DateTime × Bindings) : Prop :=
  f.base ≠ .count → ∀ e, args[0]? = some e → ∀ v, e.eval run.1 run.2 = .ok v → v.kind = k

theorem ValuedIn.of_feeds {f : Aggregate} {args : List Expr} {k : Kind}
    {run : DateTime × Bindings} {u : Input} (h : f.ValuedIn args k run) (hu : f.Feeds args run u)
    (hbase : f.base ≠ .count) : u.value.kind = k := by
  obtain ⟨e, he, hv⟩ := hu.value hbase
  exact h hbase e he _ hv

theorem name_of_ofName? {name : String} {f : Aggregate} (h : ofName? name = some f) :
    f.name = name := by
  unfold ofName? at h
  split at h <;> cases h <;> rfl

end Aggregate

namespace Expr

open Eval

variable {now : DateTime} {vars : Bindings} {f : Aggregate} {args : List Expr} {site : CallSite}
  {k : Kind} {s : Aggregation} {t : Option Aggregation}

theorem eval_of_run {e : Expr} {v : Value} (h : (evalM now vars e).run.run none = (.ok v, t)) :
    e.eval now vars = .ok v :=
  congrArg Prod.fst h

theorem eval_of_evalNth (hargs : 0 < args.length) {v : Value}
    (h : (evalNth now vars args 0).run.run none = (.ok v, t)) :
    ∃ e, args[0]? = some e ∧ e.eval now vars = .ok v := by
  cases args with
  | nil => cases hargs
  | cons a rest =>
    rw [evalNth] at h
    exact ⟨a, rfl, eval_of_run h⟩

theorem eval_of_evalCondition {n : Nat} (hn : n < args.length) {b : Bool}
    (h : (evalCondition now vars f args n).run.run none = (.ok b, t)) :
    ∃ e, args[n]? = some e ∧ e.eval now vars = .ok (.bool b) := by
  induction args generalizing n with
  | nil => cases hn
  | cons a rest ih =>
    cases n with
    | zero =>
      rw [evalCondition] at h
      obtain ⟨v, t', hv, h⟩ := of_bind_ok h
      cases v with
      | bool b' =>
        cases h
        exact ⟨a, rfl, eval_of_run hv⟩
      | _ => cases h
    | succ n =>
      rw [evalCondition] at h
      exact ih (by simpa using hn) h

theorem feeds_of_included (harity : args.length = f.arity) {b : Bool}
    (h : (included now vars f args f.plainArity).run.run none = (.ok b, t)) {v : Value}
    (hvalue : f.base ≠ .count → ∃ e, args[0]? = some e ∧ e.eval now vars = .ok v) :
    f.Feeds args (now, vars) ⟨v, b⟩ where
  arity := harity
  value := hvalue
  condition hcond := by
    rw [included, if_pos hcond] at h
    exact eval_of_evalCondition (by simp [harity, Aggregate.arity, hcond]) h
  plain hcond := by
    rw [included, if_neg (by simp [hcond])] at h
    cases h
    rfl

/-- How what follows the binding of a call ends: it fails and only touches the aggregation, or it
has taken a step of it. -/
inductive Tallied (now : DateTime) (vars : Bindings) (f : Aggregate) (args : List Expr)
    (site : CallSite) (k : Kind) (s b : Aggregation) (m : Eval Unit) : Prop
  | failed (err : EvalError) {u : Aggregation}
    (hrun : m.run.run (some b) = (.error err, some u)) (htouched : s.Touched site f k u)
  | done {input : Input} {separator : String} {w : Aggregation}
    (hrun : m.run.run (some b) = (.ok (), some w)) (hfeeds : f.Feeds args (now, vars) input)
    (hsep : (if f.base = .join then f.separator args else .ok "") = .ok separator)
    (hsteps : s.Steps site f separator input (w.current f) w)

section Detached

variable (hargs : ∀ e ∈ args, Detached (evalM now vars e)) (harity : args.length = f.arity)
  {b : Aggregation} (hbind : s.bind site f = .ok b)
include hargs harity hbind

theorem tallied_countCall (hbase : f.base = .count) :
    Tallied now vars f args site k s b (countCall now vars f args) := by
  have hplace : f.plainArity = 0 := by simp [Aggregate.plainArity, hbase]
  obtain ⟨r, hr⟩ := sequential_included Detached.sequential hargs f 0
  cases r with
  | error err => exact .failed err (by rw [countCall, run_bind, hr]) (.bound hbind)
  | ok c =>
    have hfeeds : f.Feeds args (now, vars) ⟨.int 0, c⟩ :=
      feeds_of_included harity (hplace ▸ hr none) fun hne => absurd hbase hne
    exact .done (run_countCall hfeeds hbase b) hfeeds (if_neg (by simp [hbase]))
      (.count hbase hbind)

/-- Each part of the call may fail. Up to the kind of the total the aggregation is bound only, and
after it the kind is settled as well. -/
theorem tallied_totalCall (hkind : f.ValuedIn args k (now, vars)) (hbase : f.base ≠ .count) :
    Tallied now vars f args site k s b (totalCall now vars f args) := by
  have hpos : 0 < args.length := harity ▸ f.arity_pos hbase
  obtain ⟨r, hr⟩ := sequential_evalNth Detached.sequential hargs 0
  cases r with
  | error err => exact .failed err (by rw [totalCall, run_bind, hr]) (.bound hbind)
  | ok v =>
    obtain ⟨e, he, hv⟩ := eval_of_evalNth hpos (hr none)
    cases hsep : if f.base = .join then f.separator args else .ok "" with
    | error err =>
      refine .failed err ?_ (.bound hbind)
      rw [totalCall, run_bind_ok (hr _), hsep]
      rfl
    | ok separator =>
      cases hlock : b.lock f v with
      | error err =>
        refine .failed err ?_ (.bound hbind)
        rw [totalCall, run_bind_ok (hr _), hsep, run_bind_ok (run_lift _ _), run_bind,
          run_step_error f hlock]
      | ok l =>
        have hlocked : s.Touched site f k l := .locked hbase hbind (hkind hbase e he v hv) hlock
        obtain ⟨r, hc⟩ := sequential_included Detached.sequential hargs f f.plainArity
        cases r with
        | error err =>
          refine .failed err ?_ hlocked
          rw [totalCall, run_bind_ok (hr _), hsep, run_bind_ok (run_lift _ _),
            run_bind_ok (run_step_ok f hlock), takeValue, run_bind, hc]
        | ok c =>
          have hfeeds : f.Feeds args (now, vars) ⟨v, c⟩ :=
            feeds_of_included harity (hc none) fun _ => ⟨e, he, hv⟩
          have hrun := run_totalCall hfeeds hbase hsep hlock
          cases c with
          | false => exact .done hrun hfeeds hsep (.skip hbase hbind hlock rfl)
          | true =>
            rw [if_pos rfl] at hrun
            cases htake : l.accumulate f v separator with
            | error err => exact .failed err (hrun.trans (run_step_error f htake)) hlocked
            | ok w =>
              exact .done (hrun.trans (run_step_ok f htake)) hfeeds hsep
                (.take hbase hbind hlock rfl htake)

theorem tallied_tally (hkind : f.ValuedIn args k (now, vars)) :
    Tallied now vars f args site k s b (tally now vars f args) := by
  unfold tally
  split
  · next hbase => exact tallied_countCall hargs harity hbind hbase
  · next hbase => exact tallied_totalCall hargs harity hbind hkind hbase

omit harity hbind in
/-- An evaluation that fails touches the aggregation only, and one that succeeds makes a step. -/
theorem evalWith_cases (hkind : f.ValuedIn args k (now, vars))
    (hcount : f.base = .avg → k = .decimal → ((s.count + 1 : ℕ) : ℤ) ≤ Number.wordMax) :
    (∃ err u, (Expr.call site f.name args).evalWith now vars (some s) = (.error err, some u) ∧
      s.Touched site f k u) ∨
    ∃ v input separator w,
      (Expr.call site f.name args).evalWith now vars (some s) = (.ok v, some w) ∧
      f.Feeds args (now, vars) input ∧
      (if f.base = .join then f.separator args else .ok "") = .ok separator ∧
      s.Steps site f separator input (.ok v) w := by
  have hcall := evalM_aggregate now vars (Aggregate.ofName?_name f) site args
  cases hbind : s.bind site f with
  | error err =>
    refine .inl ⟨err, s, ?_, .same⟩
    rw [evalWith, hcall, aggregateCall, run_bind, run_step_error f hbind]
  | ok b =>
    by_cases harity : args.length = f.arity
    · cases tallied_tally hargs harity hbind hkind with
      | failed err hrun htouched =>
        exact .inl ⟨err, _, evalWith_call harity hbind hrun, htouched⟩
      | @done input separator w hrun hfeeds hsep hsteps =>
        have hword (havg : f.base = .avg) (hdecimal : w.kind? = some .decimal) :
            (w.count : ℤ) ≤ Number.wordMax := by
          have hbase : f.base ≠ .count := by simp [havg]
          rw [hsteps.kind_eq hbase, hkind.of_feeds hfeeds hbase] at hdecimal
          exact (Int.ofNat_le.2 hsteps.count_le).trans (hcount havg (Option.some.inj hdecimal))
        obtain ⟨v, hv⟩ := Aggregation.exists_current hword
        refine .inr ⟨v, input, separator, w, ?_, hfeeds, hsep, hv ▸ hsteps⟩
        rw [evalWith_call harity hbind hrun, ← hv]
        rfl
    · refine .inl ⟨.arity f.name f.arity args.length, b, ?_, .bound hbind⟩
      rw [evalWith, hcall, aggregateCall, run_bind_ok (run_step_ok f hbind), if_neg harity]
      rfl

end Detached

def succeeding (e : Expr) (s : Option Aggregation) (runs : List (DateTime × Bindings)) :
    List (DateTime × Bindings) :=
  ((runs.zip (e.outcomes s runs)).filter fun r => r.2.isOk).map Prod.fst

theorem succeeding_cons_ok {e : Expr} {s t : Option Aggregation} {v : Value}
    {runs : List (DateTime × Bindings)} (h : e.evalWith now vars s = (.ok v, t)) :
    e.succeeding s ((now, vars) :: runs) = (now, vars) :: e.succeeding t runs := by
  simp [succeeding, outcomes, h, Except.isOk, Except.toBool]

theorem succeeding_cons_error {e : Expr} {s t : Option Aggregation} {err : EvalError}
    {runs : List (DateTime × Bindings)} (h : e.evalWith now vars s = (.error err, t)) :
    e.succeeding s ((now, vars) :: runs) = e.succeeding t runs := by
  simp [succeeding, outcomes, h, Except.isOk, Except.toBool]

/-- What is left of an aggregation by evaluations that failed gives what the aggregation gives. -/
theorem outcomes_touched {runs : List (DateTime × Bindings)}
    (hargs : ∀ e ∈ args, ∀ c ∈ e.calls, c.aggregate? = none)
    (hkinds : ∀ r ∈ runs, f.ValuedIn args k r) {s t : Aggregation}
    (hcount : f.base = .avg → k = .decimal →
      ((s.count + runs.length : ℕ) : ℤ) ≤ Number.wordMax)
    (h : s.Touched site f k t) :
    (Expr.call site f.name args).outcomes (some s)
        ((Expr.call site f.name args).succeeding (some t) runs) =
      ((Expr.call site f.name args).outcomes (some t) runs).filter (·.isOk) := by
  -- the failures so far are kept in the relation of the two aggregations, so a run that fails
  -- extends it, and one that succeeds makes the two equal
  induction runs generalizing s t with
  | nil => rfl
  | cons r runs ih =>
    obtain ⟨now, vars⟩ := r
    obtain ⟨hkind, hrest⟩ := List.forall_mem_cons.1 hkinds
    have hdetached (e : Expr) (he : e ∈ args) : Detached (evalM now vars e) :=
      detached_evalM (hargs e he)
    rw [List.length_cons] at hcount
    have hnext (havg : f.base = .avg) (hk : k = .decimal) :
        ((t.count + 1 : ℕ) : ℤ) ≤ Number.wordMax := by
      rw [h.count_eq]
      exact le_trans (by omega) (hcount havg hk)
    rcases evalWith_cases hdetached hkind hnext with
      ⟨err, u, heval, htouched⟩ | ⟨v, input, separator, w, heval, hfeeds, hsep, hsteps⟩
    · have hafter (havg : f.base = .avg) (hk : k = .decimal) :
          ((s.count + runs.length : ℕ) : ℤ) ≤ Number.wordMax :=
        le_trans (by omega) (hcount havg hk)
      rw [succeeding_cons_error heval, outcomes, heval]
      exact ih hrest hafter (h.trans htouched)
    · have hstraight := evalWith_of_steps hfeeds hsep (h.steps (hkind.of_feeds hfeeds) hsteps rfl)
      have hle : w.count ≤ s.count + 1 := h.count_eq ▸ hsteps.count_le
      have hafter (havg : f.base = .avg) (hk : k = .decimal) :
          ((w.count + runs.length : ℕ) : ℤ) ≤ Number.wordMax :=
        le_trans (by omega) (hcount havg hk)
      rw [succeeding_cons_ok heval, outcomes, outcomes, heval, hstraight]
      exact congrArg (.ok v :: ·) (ih hrest hafter .same)

/-- An aggregate call with another one in its arguments has no value. -/
theorem error_of_nested {name : String} (hagg : (Aggregate.ofName? name).isSome) {e : Expr}
    (he : e ∈ args) {c : Call} (hc : c ∈ e.calls) (hcagg : c.aggregate?.isSome)
    (hsite : c.site ≠ site) (s : Option Aggregation) :
    ∃ err, ((Expr.call site name args).evalWith now vars s).1 = .error err := by
  have hroot : (⟨site, name, args⟩ : Call) ∈ (Expr.call site name args).calls := by simp [calls]
  have hinner : c ∈ (Expr.call site name args).calls := by
    rw [calls, callsAll_eq]
    exact List.mem_cons_of_mem _ (List.mem_flatMap.2 ⟨e, he, hc⟩)
  exact error_of_sites hinner hcagg hroot hagg hsite s

theorem outcomes_of_errors {e : Expr}
    (h : ∀ now vars s, ∃ err, (e.evalWith now vars s).1 = .error err)
    (s : Option Aggregation) (runs : List (DateTime × Bindings)) :
    (e.outcomes s runs).filter (·.isOk) = [] ∧ e.succeeding s runs = [] := by
  induction runs generalizing s with
  | nil => exact ⟨rfl, rfl⟩
  | cons r runs ih =>
    obtain ⟨now, vars⟩ := r
    obtain ⟨err, herr⟩ := h now vars s
    have heval : e.evalWith now vars s = (.error err, (e.evalWith now vars s).2) := by
      rw [← herr]
    rw [succeeding_cons_error heval, outcomes, herr]
    exact ih _

/-- The evaluations of an aggregate call, one after another on one aggregation: if its argument has
values of one kind only, then those that succeed give what they give where the runs that fail are
left out. No call in the arguments stands at the site of the call itself, as in every parsed
expression, and a mean of decimals is over a count that is a word. -/
theorem outcomes_succeeding {name : String} {runs : List (DateTime × Bindings)}
    (hf : Aggregate.ofName? name = some f) (hsites : ∀ e ∈ args, site ∉ e.sites)
    (hkinds : ∀ r ∈ runs, f.ValuedIn args k r)
    (hcount : f.base = .avg → k = .decimal →
      ((s.count + runs.length : ℕ) : ℤ) ≤ Number.wordMax) :
    (Expr.call site name args).outcomes (some s)
        ((Expr.call site name args).succeeding (some s) runs) =
      ((Expr.call site name args).outcomes (some s) runs).filter (·.isOk) := by
  by_cases hargs : ∀ e ∈ args, ∀ c ∈ e.calls, c.aggregate? = none
  · obtain rfl := Aggregate.name_of_ofName? hf
    exact outcomes_touched hargs hkinds hcount .same
  · push Not at hargs
    obtain ⟨e, he, c, hc, hagg⟩ := hargs
    have hne : c.site ≠ site := fun h => hsites e he (h ▸ List.mem_map_of_mem hc)
    have herrors (now : DateTime) (vars : Bindings) (s : Option Aggregation) :
        ∃ err, ((Expr.call site name args).evalWith now vars s).1 = .error err :=
      error_of_nested (by simp [hf]) he hc (Option.isSome_iff_ne_none.2 hagg) hne s
    obtain ⟨hnone, hleft⟩ := outcomes_of_errors herrors (some s) runs
    rw [hnone, hleft]
    rfl

end Expr

namespace RefusedSample

/-! The mean price of open orders. It is not known of the first order whether it is open, the third
one has no price, and the price of the fourth one is too large for the total. -/

def mean : Aggregate := ⟨.avg, true⟩

def args : List Expr := [.selector "o" "price", .selector "o" "open"]

def call : Expr := .call ⟨0, 0⟩ "avg_if" args

def order (fields : List (String × Value)) : DateTime × Bindings := (.unset, [("o", fields)])

def price (cents : Int64) : String × Value := ("price", .decimal ⟨cents⟩)

def isOpen : String × Value := ("open", .bool true)

def orders : List (DateTime × Bindings) :=
  [order [price 700, ("open", .text "?")], order [price 100, isOpen], order [isOpen],
    order [price Int64.maxValue, isOpen], order [price 300, isOpen]]

theorem valuedIn_orders : ∀ r ∈ orders, mean.ValuedIn args .decimal r := by
  intro r hr _ e he v hv
  obtain rfl : Expr.selector "o" "price" = e := by simpa [args] using he
  simp only [orders, List.mem_cons, List.not_mem_nil, or_false] at hr
  rcases hr with rfl | rfl | rfl | rfl | rfl <;> cases hv <;> rfl

theorem outcomes_succeeding_orders :
    Aggregate.ofName? "avg_if" = some mean ∧ (∀ e ∈ args, (⟨0, 0⟩ : CallSite) ∉ e.sites) ∧
      (∀ r ∈ orders, mean.ValuedIn args .decimal r) ∧
      ((Aggregation.fresh.count + orders.length : ℕ) : ℤ) ≤ Number.wordMax ∧
      call.outcomes (some .fresh) (call.succeeding (some .fresh) orders) =
        (call.outcomes (some .fresh) orders).filter (·.isOk) ∧
      call.succeeding (some .fresh) orders =
        [order [price 100, isOpen], order [price 300, isOpen]] ∧
      (call.outcomes (some .fresh) orders).filter (·.isOk) =
        [.ok (.decimal ⟨100⟩), .ok (.decimal ⟨200⟩)] := by
  have hsites : ∀ e ∈ args, (⟨0, 0⟩ : CallSite) ∉ e.sites := by decide
  have hcount : ((Aggregation.fresh.count + orders.length : ℕ) : ℤ) ≤ Number.wordMax := by decide
  exact ⟨rfl, hsites, valuedIn_orders, hcount,
    Expr.outcomes_succeeding rfl hsites valuedIn_orders fun _ _ => hcount, by decide +kernel,
    by decide +kernel⟩

end RefusedSample
end TableMill
