import TableMill.Proofs.ResultKinds

/-!
# What an aggregation is settled on

The first aggregate call settles the call site of an aggregation and the first value settles
the kind of its total. Neither changes afterwards, and together they decide which calls are
refused and of what kind the result is.
-/

namespace TableMill

namespace Total

theorem kind_start {base : AggregateBase} {v : Value} {t : Total}
    (h : start base v = some t) : t.kind = v.kind := by
  cases v <;> cases base <;> cases h <;> rfl

theorem start_congr {base : AggregateBase} {v w : Value} (h : v.kind = w.kind) :
    start base v = start base w := by
  cases v <;> cases w <;> cases h <;> cases base <;> rfl

theorem kind_add? {t u : Total} {v : Value} (h : t.add? v = some u) : u.kind = t.kind := by
  cases t <;> cases v <;> simp only [add?, Option.map_eq_some_iff, Option.some.injEq] at h
  case int.int | decimal.decimal =>
    obtain ⟨x, -, rfl⟩ := h
    rfl
  all_goals
    subst h
    rfl

theorem kind_least (t : Total) (v : Value) : (t.least v).kind = t.kind := by
  cases t <;> cases v <;> rfl

theorem kind_greatest (t : Total) (v : Value) : (t.greatest v).kind = t.kind := by
  cases t <;> cases v <;> rfl

theorem kind_append (separator : String) (t : Total) (v : Value) :
    (t.append separator v).kind = t.kind := by
  cases t <;> cases v <;> rfl

theorem kind_toValue (t : Total) : t.toValue.kind = t.kind := by
  cases t <;> rfl

/-- The kind of a mean; of texts there is none, and zero stands for it. -/
def meanKind : Kind → Kind
  | .text => .int
  | k => k

theorem kind_mean? {t : Total} {count : Nat} {v : Value} (h : t.mean? count = some v) :
    v.kind = meanKind t.kind := by
  cases t with
  | decimal d =>
    simp only [mean?] at h
    by_cases hc : count = 0
    · rw [if_pos hc] at h
      cases h
      rfl
    · rw [if_neg hc] at h
      obtain ⟨x, -, rfl⟩ := Option.map_eq_some_iff.1 h
      rfl
  | _ =>
    cases h
    rfl

end Total

namespace Aggregation

variable {s t z : Aggregation} {f : Aggregate}

def site? (s : Aggregation) : Option CallSite := s.bound.map Prod.fst

def kind? (s : Aggregation) : Option Kind := s.total.map Total.kind

/-- Whether all that an aggregation is settled on, another one is settled on. -/
structure Within (s z : Aggregation) : Prop where
  site : ∀ c, s.site? = some c → z.site? = some c
  kind : ∀ k, s.kind? = some k → z.kind? = some k

theorem Within.refl (s : Aggregation) : s.Within s := ⟨fun _ h => h, fun _ h => h⟩

theorem Within.trans (hst : s.Within t) (htz : t.Within z) : s.Within z :=
  ⟨fun c h => htz.site c (hst.site c h), fun k h => htz.kind k (hst.kind k h)⟩

theorem bind_ok {site : CallSite} (h : s.bind site f = .ok t) :
    t.site? = some site ∧ t.kind? = s.kind? ∧ s.Within t := by
  unfold bind at h
  split at h
  · rename_i hs
    cases h
    exact ⟨rfl, rfl, fun c hc => by simp [site?, hs] at hc, fun _ hk => hk⟩
  · rename_i used g hs
    by_cases hu : used = site
    · rw [if_pos hu] at h
      cases h
      exact ⟨by simp [site?, hs, hu], rfl, Within.refl s⟩
    · rw [if_neg hu] at h
      cases h

theorem bind_within {site : CallSite} (hz : z.site? = some site) (h : s.Within z) :
    ∃ t, s.bind site f = .ok t ∧ t.Within z := by
  unfold bind
  cases hs : s.bound with
  | none =>
    refine ⟨_, rfl, fun c hc => ?_, h.kind⟩
    rw [hz]
    exact hc
  | some p =>
    obtain ⟨used, g⟩ := p
    have hu : some site = some used := by
      rw [← hz]
      exact h.site used (by simp [site?, hs])
    exact ⟨s, if_pos (Option.some.inj hu).symm, h⟩

theorem lock_ok {v : Value} (h : s.lock f v = .ok t) :
    (Total.start f.base v).isSome ∧ t.kind? = some v.kind ∧ s.Within t := by
  unfold lock at h
  cases hv : Total.start f.base v with
  | none => simp [hv] at h
  | some u =>
    have hu := Total.kind_start hv
    simp only [hv] at h
    cases hs : s.total with
    | none =>
      simp only [hs] at h
      cases h
      exact ⟨rfl, by simp [kind?, hu], fun _ hc => hc, fun k hk => by simp [kind?, hs] at hk⟩
    | some w =>
      simp only [hs] at h
      by_cases hw : w.kind = u.kind
      · rw [if_pos hw] at h
        cases h
        exact ⟨rfl, by simp [kind?, hs, hw, hu], Within.refl s⟩
      · rw [if_neg hw] at h
        cases h

/-- A value is not refused where its kind is the settled one. -/
theorem lock_within {v : Value} (hv : (Total.start f.base v).isSome)
    (hz : z.kind? = some v.kind) (h : s.Within z) : ∃ t, s.lock f v = .ok t ∧ t.Within z := by
  obtain ⟨u, hu⟩ := Option.isSome_iff_exists.1 hv
  have hkind := Total.kind_start hu
  unfold lock
  simp only [hu]
  cases hs : s.total with
  | none =>
    refine ⟨_, rfl, h.site, fun k hk => ?_⟩
    rw [hz, ← hkind]
    exact hk
  | some w =>
    have hw : some v.kind = some w.kind := by
      rw [← hz]
      exact h.kind w.kind (by simp [kind?, hs])
    exact ⟨s, if_pos ((Option.some.inj hw).symm.trans hkind.symm), h⟩

/-- Including a value settles nothing, and fails only by an overflow. -/
theorem foreseen_accumulate (s : Aggregation) (f : Aggregate) (v : Value) (separator : String) :
    Foreseen (fun t => t.site? = s.site? ∧ t.kind? = s.kind?) (s.accumulate f v separator) := by
  unfold accumulate
  cases hs : s.total with
  | none => exact ⟨rfl, rfl⟩
  | some t =>
    have hkind : s.kind? = some t.kind := by simp [kind?, hs]
    cases f.base with
    | sum | avg =>
      simp only
      cases ht : t.add? v with
      | none => trivial
      | some u => exact ⟨rfl, by rw [hkind, ← Total.kind_add? ht]; rfl⟩
    | min => exact ⟨rfl, by rw [hkind, ← Total.kind_least t v]; rfl⟩
    | max => exact ⟨rfl, by rw [hkind, ← Total.kind_greatest t v]; rfl⟩
    | count => exact ⟨rfl, rfl⟩
    | join => exact ⟨rfl, by rw [hkind, ← Total.kind_append separator t v]; rfl⟩

end Aggregation

def Aggregate.resultKind (f : Aggregate) (k : Option Kind) : Kind :=
  match f.base, k with
  | .count, _ => .int
  | .avg, some k => Total.meanKind k
  | _, some k => k
  | _, none => .int

theorem Aggregation.ofKind_current (s : Aggregation) (f : Aggregate) :
    OfKind (f.resultKind s.kind?) (s.current f) := by
  unfold current kind? Aggregate.resultKind
  cases hs : s.total with
  | none => cases f.base <;> rfl
  | some t =>
    cases f.base with
    | count => rfl
    | avg =>
      simp only
      cases hm : t.mean? s.count with
      | none => trivial
      | some v => exact Total.kind_mean? hm
    | _ => exact t.kind_toValue

end TableMill
