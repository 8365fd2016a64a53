import Mathlib.Data.List.Nodup
import TableMill.Proofs.BoundCalls
import TableMill.Proofs.MachineEvaluation

/-!
# Runs on the machine

An aggregation counts at most one value in an evaluation, so that its count stays below the greatest
word for as many evaluations as there are words above zero. So no evaluation of a run stops the
machine, but for a zone of the least offset.
-/

namespace TableMill

namespace Aggregation

variable {a b : Aggregation} {f : Aggregate} {v : Value}

theorem count_of_lock (h : a.lock f v = .ok b) : b.count = a.count := by
  obtain ⟨t, -, -, rfl⟩ := lock_eq_ok_iff.1 h
  rfl

/-- Whether an aggregation, if there is one, has counted fewer values than a number, or as many and
is bound to a call at none of the sites. -/
def Room (n : Nat) (sites : List CallSite) (s : Option Aggregation) : Prop :=
  ∀ a, s = some a → a.count < n ∨ a.count = n ∧ ∃ p g, a.bound = some (p, g) ∧ p ∉ sites

def Held (n : Nat) (p : CallSite) (s : Option Aggregation) : Prop :=
  ∃ a g, s = some a ∧ a.bound = some (p, g) ∧ a.count < n

variable {n : Nat} {sites sites' : List CallSite} {p : CallSite} {s : Option Aggregation}

theorem Room.mono (h : Room n sites s) (hsites : sites' ⊆ sites) : Room n sites' s := by
  intro a ha
  rcases h a ha with hlt | ⟨hn, q, g, hbound, hq⟩
  · exact .inl hlt
  · exact .inr ⟨hn, q, g, hbound, fun hmem => hq (hsites hmem)⟩

theorem Room.count_le (h : Room n sites s) (ha : s = some a) : a.count ≤ n := by
  rcases h a ha with hlt | ⟨hn, -⟩
  · exact hlt.le
  · exact hn.le

theorem Held.room (h : Held n p s) (sites : List CallSite) : Room n sites s := by
  obtain ⟨a, g, rfl, -, hlt⟩ := h
  intro b hb
  cases hb
  exact .inl hlt

theorem Room.held (h : Room n (p :: sites) (some a)) (hbind : a.bind p f = .ok b) :
    Held n p (some b) := by
  unfold bind at hbind
  rcases h a rfl with hlt | ⟨-, q, g, hbound, hq⟩
  · split at hbind
    · cases hbind
      exact ⟨_, f, rfl, rfl, hlt⟩
    · next used g hbound =>
      split at hbind
      · next hused =>
        cases hbind
        exact ⟨a, g, rfl, hused ▸ hbound, hlt⟩
      · cases hbind
  · rw [hbound] at hbind
    have hne : q ≠ p := fun h => hq (h ▸ List.mem_cons_self)
    simp only [if_neg hne, reduceCtorEq] at hbind

theorem Held.mono (h : Held n p s) : Held (n + 1) p s := by
  obtain ⟨a, g, hs, hbound, hlt⟩ := h
  exact ⟨a, g, hs, hbound, Nat.lt_succ_of_lt hlt⟩

theorem Held.step {k : Nat} (h : Held n p (some a)) (hbound : b.bound = a.bound)
    (hcount : b.count ≤ a.count + k) : Held (n + k) p (some b) := by
  obtain ⟨c, g, hc, hp, hlt⟩ := h
  cases hc
  exact ⟨b, g, rfl, hbound.trans hp, by omega⟩

theorem Held.leaves (h : Held (n + 1) p s) (hp : p ∉ sites) : Room n sites s := by
  obtain ⟨a, g, rfl, hbound, hlt⟩ := h
  intro b hb
  cases hb
  rcases Nat.lt_or_eq_of_le (Nat.le_of_lt_succ hlt) with hlt | heq
  · exact .inl hlt
  · exact .inr ⟨heq, p, g, hbound, hp⟩

end Aggregation

namespace MachineEval

open Aggregation (Room Held)
open TableMill.Expr (evalM evalNth evalAll evalCondition onMachine)

variable {zones : Prop} {now : DateTime} {vars : Bindings} {n : Nat} {p : CallSite}
  {args : List Expr}

/-! ## Calls of aggregates

The arguments of a call are evaluated while the aggregation is bound to it. -/

section Held

variable (hargs : ∀ e ∈ args,
  Follows zones (Held n p) (onMachine now vars e) (evalM now vars e) (Held n p))
include hargs

theorem follows_condition (f : Aggregate) (k : Nat) :
    Follows zones (Held n p) (condition f (args.map (onMachine now vars)) k)
      (evalCondition now vars f args k) (Held n p) := by
  induction args generalizing k with
  | nil =>
    rw [evalCondition]
    exact .pure false
  | cons e es ih =>
    obtain ⟨he, hes⟩ := List.forall_mem_cons.1 hargs
    cases k with
    | zero =>
      rw [evalCondition]
      refine he.bind (fun v => ?_) fun _ => id
      cases v with
      | bool b => exact .pure b
      | _ => exact .throw rfl
    | succ k =>
      rw [evalCondition]
      exact ih hes k

theorem follows_included (f : Aggregate) (k : Nat) :
    Follows zones (Held n p) (included f (args.map (onMachine now vars)) k)
      (Expr.included now vars f args k) (Held n p) :=
  .ite _ (follows_condition hargs f k) (.pure true)

theorem follows_first : Follows zones (Held n p)
    ((args.map (onMachine now vars)).headD (pure (.bool false))) (evalNth now vars args 0)
    (Held n p) := by
  cases args with
  | nil =>
    rw [evalNth]
    exact .pure _
  | cons e es =>
    rw [evalNth]
    exact hargs e List.mem_cons_self

variable (hn : (n : Int) ≤ Number.wordMax)
include hn

theorem follows_countCall (f : Aggregate) :
    Follows zones (Held n p) (countCall f (args.map (onMachine now vars)))
      (Expr.countCall now vars f args) (Held (n + 1) p) := by
  refine (follows_included hargs f 0).bind (fun b => .ite b ?_ ?_) fun _ => Held.mono
  · refine .step f (fun _ => rfl) (fun a ha => ?_) (fun a b ha hb => ?_) fun _ => Held.mono
    · obtain ⟨c, g, hc, -, hlt⟩ := ha
      cases hc
      exact Machine.count_value (by omega)
    · cases hb
      exact ha.step rfl le_rfl
  · exact (Follows.pure ()).mono (fun _ => id) fun _ => Held.mono

theorem follows_takeValue (f : Aggregate) (v : Value) (separator : String) :
    Follows zones (Held n p) (takeValue f (args.map (onMachine now vars)) v separator)
      (Expr.takeValue now vars f args v separator) (Held (n + 1) p) := by
  refine (follows_included hargs f _).bind (fun b => .ite b ?_ ?_) fun _ => Held.mono
  · refine .step f (fun a => a.stopped_accumulate f v separator) (fun a ha => ?_)
      (fun a b ha hb => ?_) fun _ => Held.mono
    · obtain ⟨c, g, hc, -, hlt⟩ := ha
      cases hc
      exact Machine.accumulate_value (by omega) f v separator
    · exact ha.step (Aggregation.bound_of_accumulate hb) (Aggregation.count_of_accumulate hb)
  · exact (Follows.pure ()).mono (fun _ => id) fun _ => Held.mono

theorem follows_totalCall (f : Aggregate) :
    Follows zones (Held n p) (totalCall f args (args.map (onMachine now vars)))
      (Expr.totalCall now vars f args) (Held (n + 1) p) := by
  refine (follows_first hargs).bind (fun v => ?_) fun _ => Held.mono
  have hseparator : stopped (if f.base = .join then f.separator args else .ok "") = false := by
    split
    · exact f.stopped_separator args
    · rfl
  refine (Follows.exactly hseparator).bind (fun separator => ?_) fun _ => Held.mono
  refine Follows.bind (.step f (fun a => a.stopped_lock f v) (fun _ _ => rfl)
    (fun a b ha hb => ?_) fun _ => id)
    (fun _ => follows_takeValue hargs hn f v separator) fun _ => Held.mono
  exact ha.step (k := 0) (Aggregation.bound_of_lock hb) (Aggregation.count_of_lock hb).le

theorem follows_tally (f : Aggregate) :
    Follows zones (Held n p) (tally f args (args.map (onMachine now vars)))
      (Expr.tally now vars f args) (Held (n + 1) p) := by
  unfold tally Expr.tally
  split
  · exact follows_countCall hargs hn f
  · exact follows_totalCall hargs hn f

end Held

/-- A call of an aggregate takes one value at most into the aggregation, and none if another call
has bound it. -/
theorem follows_aggregateCall {site : CallSite} {sites : List CallSite} (hsite : site ∉ sites)
    (hn : (n : Int) ≤ Number.wordMax) (hargs : ∀ e ∈ args,
      Follows zones (Held n site) (onMachine now vars e) (evalM now vars e) (Held n site))
    (f : Aggregate) :
    Follows zones (Room n (site :: sites))
      (aggregateCall f args (args.map (onMachine now vars)) site)
      (Expr.aggregateCall now vars site f args) (Room n sites) := by
  have hcount : stopped (if args.length = f.arity then .ok () else
      .error (.arity f.name f.arity args.length)) = false := by
    split <;> rfl
  refine .step_then f (fun a => a.stopped_bindTo f site) (fun a b ha hb => ha.held hb)
    (fun s h => h.mono (List.subset_cons_self _ _)) ?_
  refine (Follows.exactly hcount).bind (fun _ => ?_) fun _ h => h.mono.leaves hsite
  refine (follows_tally hargs hn f).bind (fun _ => ?_) fun _ h => h.leaves hsite
  exact (Follows.current f).mono (fun _ => id) fun _ h => h.leaves hsite

/-! ## Expressions -/

theorem stays {e : Expr} (hp : p ∉ e.sites) {a : Aggregation} {g : Aggregate}
    (ha : a.bound = some (p, g)) : ((evalM now vars e).run.run (some a)).2 = some a := by
  obtain ⟨b, hb, -, hab⟩ := Expr.keeps_evalM e a p g ha
  obtain rfl : b = a := by
    refine (Relation.reflTransGen_iff_eq fun b hstep => ?_).1 hab
    obtain ⟨c, hc, hsite, -⟩ := hstep
    exact hp (hsite ▸ List.mem_map_of_mem hc)
  exact hb

theorem follows_held {e : Expr} (hp : p ∉ e.sites)
    (he : Follows zones (Room n (e.sites ++ [])) (onMachine now vars e) (evalM now vars e)
      (Room n [])) :
    Follows zones (Held n p) (onMachine now vars e) (evalM now vars e) (Held n p) := by
  intro s hs
  refine ⟨?_, (he s (hs.room _)).2⟩
  obtain ⟨a, g, rfl, hbound, hlt⟩ := hs
  rw [stays hp hbound]
  exact ⟨a, g, rfl, hbound, hlt⟩

theorem follows_inOrder {sites : List CallSite}
    (hargs : ∀ e ∈ args, ∀ rest, (e.sites ++ rest).Nodup →
      Follows zones (Room n (e.sites ++ rest)) (onMachine now vars e) (evalM now vars e)
        (Room n rest))
    (hsites : (args.flatMap Expr.sites ++ sites).Nodup) :
    Follows zones (Room n (args.flatMap Expr.sites ++ sites))
      (inOrder (args.map (onMachine now vars))) (evalAll now vars args) (Room n sites) := by
  induction args with
  | nil =>
    rw [evalAll]
    exact .pure []
  | cons e es ih =>
    obtain ⟨he, hes⟩ := List.forall_mem_cons.1 hargs
    rw [List.flatMap_cons, List.append_assoc] at hsites ⊢
    rw [evalAll]
    refine (he _ hsites).bind (fun v => ?_) fun s h => h.mono (List.subset_append_right _ _)
    refine (ih hes (hsites.sublist (List.sublist_append_right _ _))).bind (fun vs => ?_) fun _ => id
    exact .pure _

theorem follows_builtin {c : Call} {f : Builtin} (hf : Builtin.ofName? c.name = some f)
    (hzones : c.MakesLeastZone now vars → zones) {sites : List CallSite}
    (hargs : ∀ e ∈ c.args, ∀ rest, (e.sites ++ rest).Nodup →
      Follows zones (Room n (e.sites ++ rest)) (onMachine now vars e) (evalM now vars e)
        (Room n rest))
    (hsites : (c.args.flatMap Expr.sites ++ sites).Nodup) :
    Follows zones (Room n (c.args.flatMap Expr.sites ++ sites))
      (do
        let values ← inOrder (c.args.map (onMachine now vars))
        calculate (Machine.builtin now f values))
      (do
        let values ← evalAll now vars c.args
        f.apply now values) (Room n sites) := by
  refine (follows_inOrder hargs hsites).bind_of (fun values hvalues => .calculate ?_) fun _ => id
  by_cases hleast : Machine.LeastZone f values
  · obtain ⟨hrun, happly⟩ := Machine.builtin_leastZone now hleast
    rw [happly]
    exact .inr ⟨hzones ⟨f, values, hf, hleast, hvalues⟩, rfl, hrun⟩
  · exact .inl ⟨f.stopped_apply now hleast, Machine.builtin_value now hleast⟩

/-- An evaluation on the machine does what the evaluation does, and takes one value at most into the
aggregation. -/
theorem follows_evalM (hn : (n : Int) ≤ Number.wordMax) (e : Expr)
    (hzones : ∀ c ∈ e.calls, c.MakesLeastZone now vars → zones) {sites : List CallSite}
    (hsites : (e.sites ++ sites).Nodup) :
    Follows zones (Room n (e.sites ++ sites)) (onMachine now vars e) (evalM now vars e)
      (Room n sites) := by
  induction e using Expr.induct generalizing sites with
  | int v | float v | text s =>
    rw [onMachine, evalM]
    exact .pure _
  | ident name =>
    rw [onMachine, evalM]
    exact .exactly (stopped_identifierValue name)
  | selector table field =>
    rw [onMachine, evalM]
    exact .exactly (stopped_select vars table field)
  | unary op e ih =>
    rw [onMachine, evalM]
    refine (ih hzones hsites).bind (fun v => ?_) fun _ => id
    rw [Machine.unary_value]
    exact .exactly (op.stopped_apply v)
  | binary op l r hl hr =>
    rw [Expr.sites_binary, List.append_assoc] at hsites ⊢
    rw [Expr.calls, List.forall_mem_append] at hzones
    rw [onMachine, evalM]
    refine (hl hzones.1 hsites).bind (fun a => ?_) fun s h => h.mono (List.subset_append_right _ _)
    refine (hr hzones.2 (hsites.sublist (List.sublist_append_right _ _))).bind (fun b => ?_)
      fun _ => id
    rw [Machine.binary_value]
    exact .exactly (op.stopped_apply a b)
  | call site name args ih =>
    rw [Expr.sites_call, List.cons_append] at hsites ⊢
    obtain ⟨hsite, hsites⟩ := List.nodup_cons.1 hsites
    rw [Expr.calls, Expr.callsAll_eq, List.forall_mem_cons] at hzones
    have hparts : ∀ e ∈ args, ∀ c ∈ e.calls, c.MakesLeastZone now vars → zones :=
      fun e he c hc => hzones.2 c (List.mem_flatMap_of_mem he hc)
    cases hf : Aggregate.ofName? name with
    | some f =>
      rw [Expr.evalM_aggregate now vars hf, onMachine, hf, Expr.allOnMachine_eq]
      dsimp only
      refine (follows_aggregateCall hsite hn (fun e he => ?_) f).mono (fun _ => id) fun s h =>
        h.mono (List.subset_append_right _ _)
      have hnodup := (List.nodup_flatMap.1 (hsites.sublist (List.sublist_append_left _ _))).1 e he
      have hout : site ∉ e.sites := fun hmem =>
        hsite (List.mem_append_left _ (List.mem_flatMap_of_mem he hmem))
      exact follows_held hout (ih e he (hparts e he) ((List.append_nil _).symm ▸ hnodup))
    | none =>
      rw [onMachine, evalM, hf, Expr.allOnMachine_eq]
      dsimp only
      refine Follows.mono ?_ (fun s h => h.mono (List.subset_cons_self _ _)) fun _ => id
      cases hb : Builtin.ofName? name with
      | none =>
        exact Follows.mono (.throw rfl) (fun _ => id) fun s h =>
          h.mono (List.subset_append_right _ _)
      | some f =>
        exact follows_builtin hb hzones.1 (fun e he rest => ih e he (hparts e he)) hsites

end MachineEval

/-! ## Runs -/

namespace Expr

open MachineEval (Follows follows_evalM unlessStopped)
open Aggregation (Room)
open Machine (zoneTrap LeastZone)

/-- Evaluations of expressions, one after another: their outcomes, and what they leave of an
aggregation. -/
def history : List (Expr × DateTime × Bindings) → Option Aggregation →
    List (Except EvalError Value) × Option Aggregation
  | [], s => ([], s)
  | (e, now, vars) :: runs, s =>
    let first := e.evalWith now vars s
    let rest := history runs first.2
    (first.1 :: rest.1, rest.2)

def historyOnMachine : List (Expr × DateTime × Bindings) → Option Aggregation →
    Machine (List (Except EvalError Value) × Option Aggregation)
  | [], s => pure ([], s)
  | (e, now, vars) :: runs, s => do
    let first ← (e.onMachine now vars).run.run s
    let rest ← historyOnMachine runs first.2
    pure (first.1 :: rest.1, rest.2)

def Stopped (h : List (Except EvalError Value) × Option Aggregation) : Prop :=
  ∃ outcome ∈ h.1, stopped outcome = true

instance (h : List (Except EvalError Value) × Option Aggregation) : Decidable (Stopped h) :=
  inferInstanceAs (Decidable (∃ outcome ∈ h.1, _))

/-- After `k` evaluations an aggregation has counted `k` values at most. -/
theorem history_onMachine_from {zones : Prop} {runs : List (Expr × DateTime × Bindings)}
    (hsites : ∀ r ∈ runs, r.1.sites.Nodup)
    (hzones : ∀ r ∈ runs, ∀ c ∈ r.1.calls, c.MakesLeastZone r.2.1 r.2.2 → zones)
    (k : Nat) (hlength : k + runs.length < 2 ^ 63) {s : Option Aggregation}
    (hs : ∀ a, s = some a → a.count ≤ k) :
    (Stopped (history runs s) → zones) ∧
    historyOnMachine runs s =
      if Stopped (history runs s) then .error zoneTrap else .ok (history runs s) := by
  induction runs generalizing s k with
  | nil =>
    have hgoes : ¬Stopped (history [] s) := by
      rw [history]
      rintro ⟨outcome, hmem, -⟩
      cases hmem
    exact ⟨fun h => (hgoes h).elim, (if_neg hgoes).symm⟩
  | cons r runs ih =>
    obtain ⟨e, now, vars⟩ := r
    obtain ⟨he, hsites⟩ := List.forall_mem_cons.1 hsites
    obtain ⟨hzone, hzones⟩ := List.forall_mem_cons.1 hzones
    rw [List.length_cons] at hlength
    have hk : ((k + 1 : Nat) : Int) ≤ Number.wordMax := by
      simp only [Number.wordMax]
      omega
    have hfollows : Follows zones (Room (k + 1) (e.sites ++ [])) (onMachine now vars e)
        (evalM now vars e) (Room (k + 1) []) :=
      follows_evalM hk e hzone ((List.append_nil _).symm ▸ he)
    obtain ⟨hleft, hstop, hrun⟩ := hfollows s fun a ha => .inl (Nat.lt_succ_of_le (hs a ha))
    rw [historyOnMachine, history, evalWith]
    generalize (evalM now vars e).run.run s = p at hleft hstop hrun ⊢
    obtain ⟨hstops, hruns⟩ := ih hsites hzones (k + 1) (by omega) fun a ha => hleft.count_le ha
    have hcons : Stopped (p.1 :: (history runs p.2).1, (history runs p.2).2) ↔
        stopped p.1 = true ∨ Stopped (history runs p.2) := List.exists_mem_cons_iff ..
    refine ⟨fun h => (hcons.1 h).elim hstop hstops, ?_⟩
    rw [hrun, unlessStopped]
    by_cases hfirst : stopped p.1 = true
    · rw [if_pos hfirst, if_pos (hcons.2 (.inl hfirst))]
      rfl
    · rw [if_neg hfirst, Machine.ok_bind, hruns]
      by_cases hlater : Stopped (history runs p.2)
      · rw [if_pos hlater, if_pos (hcons.2 (.inr hlater))]
        rfl
      · rw [if_neg hlater, if_neg fun h => (hcons.1 h).elim hfirst hlater]
        rfl

/-- Runs of evaluations from a fresh aggregation, or without one, do the same on the machine if they
are fewer than the words above zero, and no two calls in an expression stand at one site. The one
operation that stops the machine is the magnitude of the least word, which is taken where a zone is
made of that offset, and no error is reported there: the program stops. Otherwise a zone is refused
unless there are dates with its offset, which is shorter than a day then. -/
theorem history_onMachine {runs : List (Expr × DateTime × Bindings)} {s : Option Aggregation}
    (hs : s = none ∨ s = some .fresh) (hsites : ∀ r ∈ runs, r.1.sites.Nodup)
    (hlength : runs.length < 2 ^ 63) :
    (historyOnMachine runs s =
      if Stopped (history runs s) then .error zoneTrap else .ok (history runs s)) ∧
    (Stopped (history runs s) → ∃ r ∈ runs, ∃ c ∈ r.1.calls, c.MakesLeastZone r.2.1 r.2.2) ∧
    (∀ (now : DateTime) (f : Builtin) (args : List Value),
      (¬LeastZone f args → Machine.builtin now f args = .exactly (f.apply now args) ∧
        stopped (f.apply now args) = false) ∧
      (LeastZone f args → (Machine.builtin now f args).run = .error zoneTrap ∧
        f.apply now args = .error (.overflow (.magnitude Int64.minValue)))) ∧
    (∀ (name : String) (offset : Int64), Function.fixedZone [.text name, .int offset] =
      if -DateTime.offsetLimit < offset.toInt ∧ offset.toInt < DateTime.offsetLimit then
        .ok (.int offset)
      else if offset = Int64.minValue then .error (.overflow (.magnitude offset))
      else Function.fail "time.FixedZone" (.zoneRange offset)) ∧
    ∀ (name : String) (offset : Int64),
      Function.fixedZone [.text name, .int offset] = .ok (.int offset) ↔
        ∃ year month day hour minute second nanos : Int,
          (Function.dateOf? year month day hour minute second nanos offset.toInt).isSome := by
  have hcount : ∀ a, s = some a → a.count ≤ 0 := by
    intro a ha
    rcases hs with rfl | rfl <;> cases ha
    exact le_rfl
  have hzones : ∀ r ∈ runs, ∀ c ∈ r.1.calls, c.MakesLeastZone r.2.1 r.2.2 →
      ∃ r ∈ runs, ∃ c ∈ r.1.calls, c.MakesLeastZone r.2.1 r.2.2 :=
    fun r hr c hc h => ⟨r, hr, c, hc, h⟩
  obtain ⟨hstops, hrun⟩ := history_onMachine_from hsites hzones 0 (by omega) hcount
  refine ⟨hrun, hstops, fun now f args => ⟨fun h => ?_, Machine.builtin_leastZone now⟩,
    Machine.fixedZone_offsets, Machine.fixedZone_accepts_iff⟩
  exact ⟨Machine.builtin_value now h, f.stopped_apply now h⟩

end Expr

namespace FarZoneSample

/-! Means of prices, and then a zone of the least offset. -/

def mean : Expr := .call ⟨0, 0⟩ "avg" [.selector "o" "price"]

def zone : Expr := .call ⟨1, 0⟩ "time.FixedZone"
  [.text "far", .binary .subtract (.unary .negate (.int Int64.maxValue)) (.int 1)]

def order (cents : Int64) : DateTime × Bindings := (.unset, [("o", [("price", .decimal ⟨cents⟩)])])

def runs : List (Expr × DateTime × Bindings) := [(mean, order 1050), (mean, order 1025)]

def far : List (Expr × DateTime × Bindings) := runs ++ [(zone, .unset, [])]

theorem history_onMachine_means :
    Expr.historyOnMachine runs (some .fresh) = .ok (Expr.history runs (some .fresh)) ∧
      (Expr.history runs (some .fresh)).1 = [.ok (.decimal ⟨1050⟩), .ok (.decimal ⟨1038⟩)] ∧
      Expr.historyOnMachine far (some .fresh) = .error Machine.zoneTrap := by
  have hsites : ∀ r ∈ far, r.1.sites.Nodup := by decide
  have hlength : far.length < 2 ^ 63 := by decide
  obtain ⟨hmeans, -⟩ := Expr.history_onMachine (.inr rfl)
    (fun r hr => hsites r (List.mem_append_left _ hr)) (by decide)
  obtain ⟨hfar, -⟩ := Expr.history_onMachine (.inr rfl) hsites hlength
  rw [if_neg (by decide)] at hmeans
  rw [if_pos (by decide)] at hfar
  exact ⟨hmeans, rfl, hfar⟩

end FarZoneSample
end TableMill
