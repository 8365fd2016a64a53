import TableMill.Proofs.ColumnLists
import TableMill.Proofs.ProbeSoundness
import TableMill.Proofs.Selectors

/-!
# Names in checked expressions

The check of an expression binds all columns that the expression may use, while a run binds those
that it does use: the check holds for these alone. Where an alias is not bound at all, an
expression gives up at a selector of it or makes what it makes with the alias.
-/

namespace TableMill

namespace Expr

open Bindings

def usedColumns (e : Expr) (columns : Columns) : Columns :=
  columns.filter fun c => (c.table, c.name) ∈ e.selectors

/-- The check of an expression for a kind succeeds on samples of the columns, and takes the
aggregation of the expression from its start to an end. -/
structure Probed (e : Expr) (columns : Columns) (kind : Kind) (start done : Option Aggregation) :
    Prop where
  forExpr : Aggregation.forExpr e = .ok start
  probe : ∃ now v, e.evalWith now columns.sample start = (.ok v, done) ∧ v.kind = kind

variable {e : Expr} {columns : Columns} {kind : Kind} {start done t : Option Aggregation}
  {now : DateTime} {vars : Bindings}

theorem probed_of_checkKind (h : e.checkKind now columns kind = .ok ()) :
    ∃ start done, e.Probed columns kind start done := by
  unfold checkKind at h
  split at h
  · cases h
  · next start hstart =>
    rcases hprobe : e.evalWith now columns.sample start with ⟨r, done⟩
    rw [hprobe] at h
    dsimp only at h
    split at h
    · cases h
    · next v =>
      split at h
      · next hkind => exact ⟨start, done, hstart, now, v, hprobe, hkind⟩
      · cases h

theorem forExpr_of_root_none (h : e.rootAggregate? = none) : Aggregation.forExpr e = .ok none := by
  unfold Aggregation.forExpr
  split
  · next hsome =>
    rw [h] at hsome
    cases hsome
  · rfl

theorem kind_current_ne {s : Aggregation} {f : Aggregate} {v : Value} (h : s.current f = .ok v) :
    v.kind ≠ .bool := by
  have hkind : v.kind = f.resultKind s.kind? := by
    have hcurrent := s.ofKind_current f
    rwa [h] at hcurrent
  rw [hkind, Aggregation.kind?]
  cases s.total with
  | none => cases f with | mk base conditional => cases base <;> rintro ⟨⟩
  | some t => cases f with | mk base conditional => cases base <;> cases t <;> rintro ⟨⟩

theorem kind_ne_of_rootAggregate {f : Aggregate} (hroot : e.rootAggregate? = some f) {v : Value}
    (h : e.evalWith now vars start = (.ok v, done)) : v.kind ≠ .bool := by
  unfold rootAggregate? at hroot
  split at hroot
  · next site name args =>
    rw [evalWith, evalM_aggregate now vars hroot] at h
    obtain ⟨_, _, -, h⟩ := Eval.of_bind_ok h
    obtain ⟨_, _, -, h⟩ := Eval.of_bind_ok h
    obtain ⟨_, s, -, h⟩ := Eval.of_bind_ok h
    cases s with
    | none => cases h
    | some a =>
      rw [Eval.run_current_some] at h
      exact kind_current_ne (Prod.mk.inj h).1
  · cases hroot

namespace Probed

theorem grows (h : e.Probed columns kind start done) : Grows start done := by
  obtain ⟨now, v, hprobe, -⟩ := h.probe
  exact (growing_evalM e).of_run hprobe

/-- An evaluation on values of the columns gives a value of the kind or fails by its values, and
leaves the aggregation within what the check has settled. -/
theorem evalWith (h : e.Probed columns kind start done) (hvars : vars.Fill columns)
    (ht : Grows t done) :
    Grows (e.evalWith now vars t).2 done ∧ OfKind kind (e.evalWith now vars t).1 := by
  obtain ⟨now, v, hprobe, rfl⟩ := h.probe
  exact evalWith_foreseen hprobe hvars ht

/-- A condition is not an aggregate. -/
theorem start_eq_none (h : e.Probed columns .bool start done) : start = none := by
  obtain ⟨now, v, hprobe, hkind⟩ := h.probe
  cases hroot : e.rootAggregate? with
  | none =>
    have hforExpr := h.forExpr
    rw [forExpr_of_root_none hroot] at hforExpr
    exact (Except.ok.inj hforExpr).symm
  | some f => exact absurd hkind (kind_ne_of_rootAggregate hroot hprobe)

end Probed

/-- The samples of the used columns do for the selectors of an expression what those of all
columns do. -/
theorem sample_usedColumns (hdistinct : columns.Distinct)
    (hpackage : ∀ c ∈ columns, c.table ∉ Columns.constantPackages)
    (hknown : ∀ p ∈ e.selectors, p.1 ∉ Columns.constantPackages → columns.has p.1 p.2 = true) :
    AgreeOn e.selectors columns.sample (e.usedColumns columns).sample := by
  intro p hp
  refine select_eq_of_look ?_
  show (columns.bindBy fun c => c.kind.sample).look p.1 p.2 =
    ((e.usedColumns columns).bindBy fun c => c.kind.sample).look p.1 p.2
  have hsub : e.usedColumns columns ⊆ columns := List.filter_subset_self _
  by_cases hconst : p.1 ∈ Columns.constantPackages
  · have hother : ∀ c ∈ columns, c.table ≠ p.1 := fun c hc ht => hpackage c hc (ht ▸ hconst)
    rw [Columns.look_bindBy_none _ hother, Columns.look_bindBy_none _ fun c hc => hother c (hsub hc)]
  · obtain ⟨c, hc, ht, hn⟩ := Columns.has_iff.1 (hknown p hp hconst)
    have hused : c ∈ e.usedColumns columns :=
      List.mem_filter.2 ⟨hc, by simpa [ht, hn] using hp⟩
    have hsame : ∀ d ∈ columns, d.table = c.table → d.name = c.name → d.kind.sample = c.kind.sample :=
      fun d hd htable hname => by rw [hdistinct d hd c hc htable hname]
    rw [← ht, ← hn, Columns.look_bindBy _ hc hsame,
      Columns.look_bindBy _ hused fun d hd => hsame d (hsub hd)]

/-- What is checked on all columns is checked on the used ones. -/
theorem Probed.used (h : e.Probed columns kind start done) (hdistinct : columns.Distinct)
    (hpackage : ∀ c ∈ columns, c.table ∉ Columns.constantPackages)
    (hknown : ∀ p ∈ e.selectors, p.1 ∉ Columns.constantPackages → columns.has p.1 p.2 = true) :
    e.Probed (e.usedColumns columns) kind start done := by
  obtain ⟨now, v, hprobe, hkind⟩ := h.probe
  rw [evalWith_congr (sample_usedColumns hdistinct hpackage hknown)] at hprobe
  exact ⟨h.forExpr, now, v, hprobe, hkind⟩

end Expr

/-! ## Missing names -/

namespace Eval

variable {α β : Type} {P : EvalError → Prop}

/-- Whether a computation ends like another one or gives up with an error of some sort. -/
def EndsLike (P : EvalError → Prop) (m n : Eval α) : Prop :=
  ∀ s, m.run.run s = n.run.run s ∨ ∃ e, P e ∧ (m.run.run s).1 = .error e

namespace EndsLike

theorem refl (m : Eval α) : EndsLike P m m := fun _ => Or.inl rfl

theorem bind {m n : Eval α} {f g : α → Eval β} (hm : EndsLike P m n)
    (hf : ∀ a, EndsLike P (f a) (g a)) : EndsLike P (m >>= f) (n >>= g) := by
  intro s
  rw [run_bind, run_bind]
  rcases hm s with heq | ⟨e, he, herror⟩
  · rw [heq]
    rcases n.run.run s with ⟨e | a, t⟩
    · exact Or.inl rfl
    · exact hf a t
  · right
    rcases hrun : m.run.run s with ⟨r, t⟩
    rw [hrun] at herror
    obtain rfl : r = .error e := herror
    exact ⟨e, he, rfl⟩

theorem ite {p : Prop} [Decidable p] {m n m' n' : Eval α} (hm : EndsLike P m m')
    (hn : EndsLike P n n') : EndsLike P (if p then m else n) (if p then m' else n') := by
  by_cases hp : p
  · simpa only [if_pos hp] using hm
  · simpa only [if_neg hp] using hn

end EndsLike
end Eval

namespace Expr

open Eval Bindings

variable {P : EvalError → Prop} {now : DateTime} {b b' : Bindings}

theorem mem_selectorsAll {es : List Expr} {p : String × String} :
    p ∈ selectorsAll es ↔ ∃ e ∈ es, p ∈ e.selectors := by
  induction es with
  | nil => simp [selectorsAll]
  | cons e es ih => simp [selectorsAll, ih]

section Arguments

variable {args : List Expr} (h : ∀ e ∈ args, EndsLike P (evalM now b e) (evalM now b' e))

include h

theorem endsLike_evalAll : EndsLike P (evalAll now b args) (evalAll now b' args) := by
  induction args with
  | nil =>
    simp only [evalAll]
    exact .refl _
  | cons e es ih =>
    obtain ⟨he, hes⟩ := List.forall_mem_cons.1 h
    simp only [evalAll]
    exact he.bind fun v => (ih hes).bind fun vs => .refl _

theorem endsLike_evalNth (n : Nat) : EndsLike P (evalNth now b args n) (evalNth now b' args n) := by
  induction args generalizing n with
  | nil =>
    simp only [evalNth]
    exact .refl _
  | cons e es ih =>
    obtain ⟨he, hes⟩ := List.forall_mem_cons.1 h
    cases n with
    | zero => simpa only [evalNth] using he
    | succ n => simpa only [evalNth] using ih hes n

theorem endsLike_evalCondition (f : Aggregate) (n : Nat) :
    EndsLike P (evalCondition now b f args n) (evalCondition now b' f args n) := by
  induction args generalizing n with
  | nil =>
    simp only [evalCondition]
    exact .refl _
  | cons e es ih =>
    obtain ⟨he, hes⟩ := List.forall_mem_cons.1 h
    cases n with
    | zero =>
      simp only [evalCondition]
      exact he.bind fun v => .refl _
    | succ n => simpa only [evalCondition] using ih hes n

theorem endsLike_included (f : Aggregate) (n : Nat) :
    EndsLike P (included now b f args n) (included now b' f args n) :=
  .ite (endsLike_evalCondition h f n) (.refl _)

theorem endsLike_tally (f : Aggregate) : EndsLike P (tally now b f args) (tally now b' f args) := by
  refine .ite ?_ ?_
  · exact (endsLike_included h f 0).bind fun c => .refl _
  · refine (endsLike_evalNth h 0).bind fun v => EndsLike.bind (.refl _) fun separator =>
      EndsLike.bind (.refl _) fun _ => ?_
    exact (endsLike_included h f f.plainArity).bind fun c => .refl _

end Arguments

/-- Where some selectors of an expression are not answered, it gives up at one of them or comes to
what it comes to where they are. -/
theorem endsLike_evalM (e : Expr) (h : ∀ p ∈ e.selectors, select b p.1 p.2 = select b' p.1 p.2 ∨
    ∃ err, P err ∧ select b p.1 p.2 = .error err) :
    EndsLike P (evalM now b e) (evalM now b' e) := by
  induction e using induct with
  | int v | float v | text t | ident name =>
    simp only [evalM]
    exact .refl _
  | selector table field =>
    simp only [evalM]
    rcases h (table, field) (by simp [selectors]) with heq | ⟨err, herr, hb⟩
    · rw [heq]
      exact .refl _
    · intro s
      rw [run_lift, hb]
      exact Or.inr ⟨err, herr, rfl⟩
  | unary op e ih =>
    simp only [evalM]
    exact (ih (by simpa only [selectors] using h)).bind fun v => .refl _
  | binary op l r hl hr =>
    simp only [evalM]
    simp only [selectors] at h
    exact (hl fun p hp => h p (List.mem_append_left _ hp)).bind fun v =>
      (hr fun p hp => h p (List.mem_append_right _ hp)).bind fun w => .refl _
  | call site name args ih =>
    have hargs : ∀ e ∈ args, EndsLike P (evalM now b e) (evalM now b' e) := fun e he =>
      ih e he fun p hp => h p (by simpa only [selectors] using mem_selectorsAll.2 ⟨e, he, hp⟩)
    cases hf : Aggregate.ofName? name with
    | some f =>
      rw [evalM_aggregate now b hf, evalM_aggregate now b' hf]
      exact EndsLike.bind (.refl _) fun _ => EndsLike.bind (.refl _) fun _ =>
        (endsLike_tally hargs f).bind fun _ => .refl _
    | none =>
      simp only [evalM, hf]
      cases Builtin.ofName? name with
      | none => exact .refl _
      | some f => exact (endsLike_evalAll hargs).bind fun vs => .refl _

end Expr
end TableMill
