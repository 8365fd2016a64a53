import TableMill.Proofs.Settled

/-!
# Foretelling

A probe is an evaluation that succeeds. It foretells another evaluation that goes through
the same steps on other values: as long as the aggregation of the other one is settled on
nothing that the probe does not settle on, the other one gives a like result or fails by
its values, and stays settled on nothing else.
-/

namespace TableMill

variable {α β γ δ : Type}

namespace Eval

@[simp] theorem run_lift (x : Except EvalError α) (s : Option Aggregation) :
    (liftM x : Eval α).run.run s = (x, s) := by
  cases x <;> rfl

theorem lift_ok (a : α) : (liftM (.ok a : Except EvalError α) : Eval α) = pure a := rfl

theorem lift_error (e : EvalError) :
    (liftM (.error e : Except EvalError α) : Eval α) = MonadExcept.throw e := rfl

theorem ite_bind (b : Bool) (m : Eval Unit) (k : Eval α) :
    ((if b then m else pure ()) >>= fun _ => k) = if b then m >>= fun _ => k else k := by
  cases b <;> simp

theorem run_bind (m : Eval α) (f : α → Eval β) (s : Option Aggregation) :
    (m >>= f).run.run s = match m.run.run s with
      | (.ok a, t) => (f a).run.run t
      | (.error e, t) => (.error e, t) := by
  show (match m s with | (a, t) => ExceptT.bindCont f a t) = _
  cases h : m s with
  | mk a t =>
    simp only [ExceptT.run, StateT.run, h]
    cases a <;> rfl

theorem of_bind_ok {m : Eval α} {f : α → Eval β} {s u : Option Aggregation} {b : β}
    (h : (m >>= f).run.run s = (.ok b, u)) :
    ∃ a t, m.run.run s = (.ok a, t) ∧ (f a).run.run t = (.ok b, u) := by
  rw [run_bind] at h
  rcases hm : m.run.run s with ⟨r, t⟩
  rw [hm] at h
  cases r with
  | error e => cases h
  | ok a => exact ⟨a, t, rfl, h⟩

theorem run_step_some (f : Aggregate) (change : Aggregation → Except EvalError Aggregation)
    (a : Aggregation) :
    (step f change).run.run (some a) = match change a with
      | .ok b => (.ok (), some b)
      | .error e => (.error e, some a) := by
  show ((match change a with
    | .ok b => set (some b)
    | .error e => throw e : Eval Unit).run.run (some a)) = _
  cases change a <;> rfl

theorem run_step_none (f : Aggregate) (change : Aggregation → Except EvalError Aggregation) :
    (step f change).run.run none = (.error (.aggregateDisabled f.name), none) := rfl

/-- A step that succeeds has an aggregation and changes it. -/
theorem of_step_ok {f : Aggregate} {change : Aggregation → Except EvalError Aggregation}
    {s t : Option Aggregation} {u : Unit} (h : (step f change).run.run s = (.ok u, t)) :
    ∃ a b, s = some a ∧ t = some b ∧ change a = .ok b := by
  cases s with
  | none =>
    rw [run_step_none] at h
    cases h
  | some a =>
    rw [run_step_some] at h
    cases hc : change a with
    | error e =>
      rw [hc] at h
      cases h
    | ok b =>
      rw [hc] at h
      cases h
      exact ⟨a, b, rfl, rfl, hc⟩

theorem run_current_some (f : Aggregate) (a : Aggregation) :
    (current f).run.run (some a) = (a.current f, some a) := by
  show ((liftM (a.current f) : Eval Value).run.run (some a)) = _
  rw [run_lift]

end Eval

/-- Whether there is an aggregation in the second place if there is one in the first, settled
on all that the first is. -/
def Grows : Option Aggregation → Option Aggregation → Prop
  | none, none => True
  | some s, some t => s.Within t
  | _, _ => False

namespace Grows

variable {s t z : Option Aggregation}

theorem refl (s : Option Aggregation) : Grows s s := by
  cases s with
  | none => trivial
  | some a => exact Aggregation.Within.refl a

theorem trans (hst : Grows s t) (htz : Grows t z) : Grows s z := by
  cases s <;> cases t <;> cases z <;> first | trivial | cases hst; done | cases htz; done | skip
  exact Aggregation.Within.trans hst htz

theorem some_left {a : Aggregation} (h : Grows (some a) t) : ∃ b, t = some b ∧ a.Within b := by
  cases t with
  | none => cases h
  | some b => exact ⟨b, rfl, h⟩

end Grows

namespace Eval

def Growing (m : Eval α) : Prop := ∀ s, Grows s (m.run.run s).2

namespace Growing

theorem of_run {m : Eval α} (hm : Growing m) {s t : Option Aggregation}
    {r : Except EvalError α} (h : m.run.run s = (r, t)) : Grows s t := by
  have hs := hm s
  rw [h] at hs
  exact hs

theorem pure (a : α) : Growing (Pure.pure a) := Grows.refl

theorem throw (e : EvalError) : Growing (MonadExcept.throw e : Eval α) := Grows.refl

theorem lift (x : Except EvalError α) : Growing (liftM x : Eval α) := fun s => by
  rw [run_lift]
  exact Grows.refl s

theorem bind {m : Eval α} {f : α → Eval β} (hm : Growing m) (hf : ∀ a, Growing (f a)) :
    Growing (m >>= f) := fun s => by
  rw [run_bind]
  rcases h : m.run.run s with ⟨r, t⟩
  cases r with
  | error e => exact hm.of_run h
  | ok a => exact (hm.of_run h).trans (hf a t)

theorem step {f : Aggregate} {change : Aggregation → Except EvalError Aggregation}
    (h : ∀ a b, change a = .ok b → a.Within b) : Growing (Eval.step f change) := fun s => by
  cases s with
  | none => trivial
  | some a =>
    rw [run_step_some]
    cases hc : change a with
    | error e => exact Aggregation.Within.refl a
    | ok b => exact h a b hc

theorem current (f : Aggregate) : Growing (Eval.current f) := fun s => by
  cases s with
  | none => trivial
  | some a =>
    rw [run_current_some]
    exact Aggregation.Within.refl a

end Growing
end Eval

/-- Whether the probe `m` from `c` foretells `n` from `s`, results being alike by `R`. -/
def Foretells (c s : Option Aggregation) (R : α → β → Prop) (m : Eval α) (n : Eval β) : Prop :=
  ∀ a d, m.run.run c = (.ok a, d) → ∀ z, Grows d z → Grows s z →
    Grows (n.run.run s).2 z ∧ Foreseen (R a) (n.run.run s).1

namespace Foretells

variable {c s : Option Aggregation} {R : α → β → Prop} {Q : γ → δ → Prop}
  {m : Eval α} {n : Eval β}

theorem pure {a : α} {b : β} (h : R a b) : Foretells c s R (Pure.pure a) (Pure.pure b) := by
  intro a' d hrun z _ hs
  cases hrun
  exact ⟨hs, h⟩

theorem lift {x : Except EvalError α} {y : Except EvalError β}
    (h : ∀ a, x = .ok a → Foreseen (R a) y) : Foretells c s R (liftM x) (liftM y) := by
  intro a d hrun z _ hs
  rw [Eval.run_lift] at hrun ⊢
  obtain ⟨hx, -⟩ := Prod.mk.inj hrun
  exact ⟨hs, h a hx⟩

theorem throw (e : EvalError) (n : Eval β) : Foretells c s R (MonadExcept.throw e) n := by
  intro a d hrun
  cases hrun

theorem bind {f : α → Eval γ} {g : β → Eval δ} (hm : Foretells c s R m n)
    (hgrow : ∀ a, Eval.Growing (f a))
    (hf : ∀ a b d t, m.run.run c = (.ok a, d) → n.run.run s = (.ok b, t) → R a b →
      Foretells d t Q (f a) (g b)) :
    Foretells c s Q (m >>= f) (n >>= g) := by
  intro a' e hrun z hez hsz
  obtain ⟨a, d, hmc, hfd⟩ := Eval.of_bind_ok hrun
  have hde : Grows d e := (hgrow a).of_run hfd
  obtain ⟨htz, hr⟩ := hm a d hmc z (hde.trans hez) hsz
  rw [Eval.run_bind]
  rcases hns : n.run.run s with ⟨r, t⟩
  rw [hns] at htz hr
  cases r with
  | error err => exact ⟨htz, hr⟩
  | ok b => exact hf a b d t hmc hns hr a' e hfd z hez htz

theorem step {f : Aggregate} {change change' : Aggregation → Except EvalError Aggregation}
    (h : ∀ a b, change a = .ok b → ∀ s z : Aggregation, b.Within z → s.Within z →
      Foreseen (fun t => t.Within z) (change' s)) :
    Foretells c s (fun _ _ => True) (Eval.step f change) (Eval.step f change') := by
  intro u d hrun z hdz hsz
  obtain ⟨a, b, rfl, rfl, hc⟩ := Eval.of_step_ok hrun
  obtain ⟨z, rfl, hbz⟩ := hdz.some_left
  cases s with
  | none => cases hsz
  | some s =>
    have hs := h a b hc s z hbz hsz
    rw [Eval.run_step_some]
    cases hc' : change' s with
    | error e =>
      rw [hc'] at hs
      exact ⟨hsz, hs⟩
    | ok t =>
      rw [hc'] at hs
      exact ⟨hs, trivial⟩

/-- Anything with an aggregation foretells a step that settles nothing. -/
theorem step_or_skip {p : Eval γ} {a : Aggregation} (hp : Eval.Growing p) {f : Aggregate}
    {change : Aggregation → Except EvalError Aggregation} (b : Bool)
    (h : ∀ s, Foreseen (fun t => t.site? = s.site? ∧ t.kind? = s.kind?) (change s)) :
    Foretells (some a) s (fun _ _ => True) p
      (if b then Eval.step f change else Pure.pure ()) := by
  intro x d hrun z hdz hsz
  obtain ⟨z, rfl, -⟩ := ((hp.of_run hrun).trans hdz).some_left
  cases s with
  | none => cases hsz
  | some s =>
    cases b with
    | false => exact ⟨hsz, trivial⟩
    | true =>
      rw [if_pos rfl, Eval.run_step_some]
      have hs := h s
      cases hc : change s with
      | error e =>
        rw [hc] at hs
        exact ⟨hsz, hs⟩
      | ok t =>
        rw [hc] at hs
        have htz : t.Within z :=
          ⟨fun k hk => hsz.site k (hs.1.symm.trans hk), fun k hk => hsz.kind k (hs.2.symm.trans hk)⟩
        exact ⟨htz, trivial⟩

/-- What an aggregate amounts to is of the same kind, once the kinds of both totals are
settled; a count has no total. -/
theorem current {f : Aggregate}
    (h : f.base = .count ∨
      (∀ a, c = some a → a.kind?.isSome) ∧ ∀ b, s = some b → b.kind?.isSome) :
    Foretells c s (fun v w => w.kind = v.kind) (Eval.current f) (Eval.current f) := by
  intro v d hrun z hdz hsz
  cases c with
  | none => cases hrun
  | some a =>
    rw [Eval.run_current_some] at hrun
    obtain ⟨hv, rfl⟩ := Prod.mk.inj hrun
    obtain ⟨z, rfl, haz⟩ := hdz.some_left
    cases s with
    | none => cases hsz
    | some b =>
      have hkind : f.resultKind b.kind? = f.resultKind a.kind? := by
        rcases h with hcount | ⟨hc, hs⟩
        · simp only [Aggregate.resultKind, hcount]
        · obtain ⟨k, hk⟩ := Option.isSome_iff_exists.1 (hc a rfl)
          obtain ⟨l, hl⟩ := Option.isSome_iff_exists.1 (hs b rfl)
          have hkl : some k = some l := (haz.kind k hk).symm.trans (hsz.kind l hl)
          rw [hk, hl, hkl]
      have ha := a.ofKind_current f
      rw [hv] at ha
      have hb := b.ofKind_current f
      rw [hkind, ← show v.kind = _ from ha] at hb
      rw [Eval.run_current_some]
      exact ⟨hsz, hb⟩

end Foretells
end TableMill
