import TableMill.Proofs.ColumnLists
import TableMill.Proofs.ProbeSoundness

/-!
# Completeness of the check of expressions

An expression that comes to a value of a kind, on some values of the declared kinds, may still be
refused for that kind: the samples are values too, and may be ones on which it fails. That is the
only reason. On the samples no other kind can come out, and no name is missing.
-/

namespace TableMill

namespace Columns

variable {columns : Columns} {value : Column → Value}

theorem bindBy_sameKinds (hdistinct : columns.Distinct)
    (hkinds : ∀ c ∈ columns, (value c).kind = c.kind) :
    (columns.bindBy value).SameKinds columns.sample := by
  intro table field v hv
  rcases Bindings.select_ok hv with hconstant | ⟨hconstant, hlook⟩
  · exact ⟨v, Bindings.select_of_constant hconstant, rfl⟩
  · obtain ⟨c, hc, rfl, rfl, rfl⟩ := of_look_bindBy hlook
    have hsample : columns.sample.look c.table c.name = some (some c.kind.sample) :=
      look_bindBy (fun d : Column => d.kind.sample) hc fun d hd ht hn => by
        rw [hdistinct d hd c hc ht hn]
    exact ⟨c.kind.sample, Bindings.select_of_look hconstant hsample,
      c.kind.kind_sample.trans (hkinds c hc).symm⟩

end Columns

namespace Expr

/-- On some values of the declared kinds, at some time, the first evaluation of an expression
gives a value of a kind. -/
def Usable (e : Expr) (columns : Columns) (kind : Kind) : Prop :=
  ∃ (now : DateTime) (value : Column → Value) (s : Option Aggregation) (v : Value),
    (∀ c ∈ columns, (value c).kind = c.kind) ∧ Aggregation.forExpr e = .ok s ∧
      (e.evalWith now (columns.bindBy value) s).1 = .ok v ∧ v.kind = kind

def FailsOnSample (e : Expr) (now : DateTime) (columns : Columns) (err : EvalError) : Prop :=
  ∃ s, Aggregation.forExpr e = .ok s ∧ (e.evalWith now columns.sample s).1 = .error err

variable {e : Expr} {now : DateTime} {columns : Columns} {kind : Kind}

/-- On the sample values, a usable expression comes to a value of the kind or fails by the
values. -/
theorem Usable.sample (h : e.Usable columns kind) (hdistinct : columns.Distinct)
    (now : DateTime) :
    ∃ s, Aggregation.forExpr e = .ok s ∧ OfKind kind (e.evalWith now columns.sample s).1 := by
  obtain ⟨now', value, s, v, hkinds, hs, hv, rfl⟩ := h
  rcases hrun : e.evalWith now' (columns.bindBy value) s with ⟨r, d⟩
  rw [hrun] at hv
  obtain rfl : r = .ok v := hv
  have hgrows : Grows s d := (growing_evalM e).of_run hrun
  exact ⟨s, hs, (foretold (Columns.bindBy_sameKinds hdistinct hkinds) e s s v d hrun d
    (Grows.refl d) hgrows).2⟩

theorem failsOnSample_iff {s : Option Aggregation} (hs : Aggregation.forExpr e = .ok s)
    {err : EvalError} :
    e.FailsOnSample now columns err ↔ (e.evalWith now columns.sample s).1 = .error err := by
  constructor
  · rintro ⟨t, ht, herr⟩
    rw [hs] at ht
    exact Except.ok.inj ht ▸ herr
  · exact fun herr => ⟨s, hs, herr⟩

theorem checkKind_of_error {s : Option Aggregation} (hs : Aggregation.forExpr e = .ok s)
    {err : EvalError} (h : (e.evalWith now columns.sample s).1 = .error err) :
    e.checkKind now columns kind = .error (.eval err) := by
  simp only [checkKind, hs, h]

theorem checkKind_of_ok {s : Option Aggregation} (hs : Aggregation.forExpr e = .ok s) {v : Value}
    (h : (e.evalWith now columns.sample s).1 = .ok v) (hv : v.kind = kind) :
    e.checkKind now columns kind = .ok () := by
  simp only [checkKind, hs, h, if_pos hv]

/-- A usable expression passes the check unless its evaluation on the sample values fails. Such a
failure is one of the values, such as a text that is no number or a divisor of zero, and the check
then fails with it. -/
theorem checkKind_of_usable (h : e.Usable columns kind) (hdistinct : columns.Distinct)
    (now : DateTime) :
    (e.checkKind now columns kind = .ok () ↔ ∀ err, ¬ e.FailsOnSample now columns err) ∧
      ∀ err, e.FailsOnSample now columns err →
        err.OfValues ∧ e.checkKind now columns kind = .error (.eval err) := by
  obtain ⟨s, hs, hkind⟩ := h.sample hdistinct now
  cases hrun : (e.evalWith now columns.sample s).1 with
  | error err =>
    have hcheck : e.checkKind now columns kind = .error (.eval err) := checkKind_of_error hs hrun
    have hvalues : err.OfValues := by rwa [hrun] at hkind
    constructor
    · constructor
      · intro hok
        rw [hcheck] at hok
        cases hok
      · intro hnone
        exact absurd ((failsOnSample_iff hs).2 hrun) (hnone err)
    · intro err' hfails
      rw [failsOnSample_iff hs, hrun] at hfails
      obtain rfl := Except.error.inj hfails
      exact ⟨hvalues, hcheck⟩
  | ok v =>
    have hv : v.kind = kind := by rwa [hrun] at hkind
    have hnone (err : EvalError) : ¬ e.FailsOnSample now columns err := by
      rw [failsOnSample_iff hs, hrun]
      exact nofun
    exact ⟨⟨fun _ => hnone, fun _ => checkKind_of_ok hs hrun hv⟩,
      fun err hfails => absurd hfails (hnone err)⟩

end Expr

namespace ProbeSample

/-! The sample of a text is a number, but not an integer. -/

def units : Expr := .call ⟨0, 3⟩ "int" [.selector "r" "units"]

def texts : Columns := [⟨"r", "units", .text⟩]

theorem usable_units : units.Usable texts .int :=
  ⟨.unset, fun _ => .text "7", none, .int 7, by decide, rfl, by decide +kernel, rfl⟩

theorem checkKind_of_usable_units :
    units.Usable texts .int ∧ texts.Distinct ∧
      ∃ err, units.FailsOnSample .unset texts err ∧ err.OfValues ∧
        units.checkKind .unset texts .int = .error (.eval err) := by
  have hdistinct : texts.Distinct := by
    intro c hc d hd _ _
    rw [List.mem_singleton.1 hc, List.mem_singleton.1 hd]
  obtain ⟨-, hfails⟩ := Expr.checkKind_of_usable usable_units hdistinct .unset
  have hsample : units.FailsOnSample .unset texts
      (.function "int" (.notInt "12345.67" .invalidDigit)) :=
    ⟨none, rfl, by decide +kernel⟩
  exact ⟨usable_units, hdistinct, _, hsample, hfails _ hsample⟩

end ProbeSample
end TableMill
