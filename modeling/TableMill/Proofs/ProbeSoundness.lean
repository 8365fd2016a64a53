import TableMill.Node.Basic
import TableMill.Proofs.Bindings
import TableMill.Proofs.Probe

/-!
# Soundness of the check of expressions

An expression is checked by one evaluation on sample values. That check holds for every
evaluation on values of the declared kinds, in any number and order, whether they share one
aggregation or not and whether those before failed or not.
-/

namespace TableMill

namespace Bindings

def Fill (vars : Bindings) (columns : Columns) : Prop :=
  ∀ c ∈ columns, ∃ v, vars.look c.table c.name = some (some v) ∧ v.kind = c.kind

theorem select_ok {vars : Bindings} {table field : String} {v : Value}
    (h : select vars table field = .ok v) :
    constant? table field = some v ∨
      constant? table field = none ∧ vars.look table field = some (some v) := by
  unfold select at h
  unfold look
  cases hc : constant? table field with
  | some w =>
    simp only [hc, Except.ok.injEq] at h
    exact Or.inl (congrArg some h)
  | none =>
    right
    simp only [hc] at h
    cases hr : Assoc.get? vars table with
    | none => simp [hr] at h
    | some r =>
      simp only [hr] at h
      cases hf : Assoc.get? r field with
      | none => simp [hf] at h
      | some w =>
        simp only [hf, Except.ok.injEq] at h
        simp [hf, h]

theorem select_of_constant {vars : Bindings} {table field : String} {v : Value}
    (h : constant? table field = some v) : select vars table field = .ok v := by
  simp only [select, h]

theorem select_of_look {vars : Bindings} {table field : String} {v : Value}
    (hc : constant? table field = none) (h : vars.look table field = some (some v)) :
    select vars table field = .ok v := by
  obtain ⟨r, hr, hf⟩ := Option.map_eq_some_iff.1 h
  simp only [select, hc, hr, hf]

end Bindings

namespace Columns

theorem of_look_bindBy {value : Column → Value} {cs : Columns} {table field : String} {v : Value}
    (h : (bindBy cs value).look table field = some (some v)) :
    ∃ c ∈ cs, c.table = table ∧ c.name = field ∧ value c = v := by
  induction cs using List.reverseRecOn with
  | nil => cases h
  | append_singleton cs d ih =>
    have hlast (h : (bindBy cs value).look table field = some (some v)) :
        ∃ c ∈ cs ++ [d], c.table = table ∧ c.name = field ∧ value c = v := by
      obtain ⟨c, hc, hv⟩ := ih h
      exact ⟨c, List.mem_append_left _ hc, hv⟩
    rw [bindBy_append, Bindings.look_bind] at h
    by_cases ht : d.table = table
    · by_cases hn : d.name = field
      · rw [if_pos ht, if_pos hn] at h
        exact ⟨d, by simp, ht, hn, Option.some.inj (Option.some.inj h)⟩
      · rw [if_pos ht, if_neg hn] at h
        exact hlast (Option.join_eq_some_iff.1 (Option.some.inj h))
    · rw [if_neg ht] at h
      exact hlast h

/-- The sample values stand for all values of the declared kinds. -/
theorem sample_sameKinds {columns : Columns} {vars : Bindings} (h : vars.Fill columns) :
    columns.sample.SameKinds vars := by
  intro table field v hv
  rcases Bindings.select_ok hv with hc | ⟨hc, hl⟩
  · exact ⟨v, Bindings.select_of_constant hc, rfl⟩
  · obtain ⟨c, hmem, rfl, rfl, rfl⟩ := of_look_bindBy hl
    obtain ⟨w, hw, hkind⟩ := h c hmem
    exact ⟨w, Bindings.select_of_look hc hw, hkind.trans c.kind.kind_sample.symm⟩

end Columns

namespace Expr

/-- The outcomes of evaluations one after another, each under its bindings and from what the
one before it left of the aggregation. -/
def outcomes (e : Expr) :
    Option Aggregation → List (DateTime × Bindings) → List (Except EvalError Value)
  | _, [] => []
  | s, (now, vars) :: rest =>
    (e.evalWith now vars s).1 :: outcomes e (e.evalWith now vars s).2 rest

variable {e : Expr} {now : DateTime} {columns : Columns} {v : Value}
  {s d : Option Aggregation}

/-- One evaluation after the probe: its outcome, and what it leaves to the next one. -/
theorem evalWith_foreseen (hprobe : e.evalWith now columns.sample s = (.ok v, d))
    {now' : DateTime} {vars : Bindings} (hvars : vars.Fill columns) {t : Option Aggregation}
    (ht : Grows t d) :
    Grows (e.evalWith now' vars t).2 d ∧ OfKind v.kind (e.evalWith now' vars t).1 :=
  foretold (Columns.sample_sameKinds hvars) e s t v d hprobe d (Grows.refl d) ht

end Expr

namespace ProbeSample

/-! A sum over three lines. The second line overflows, and the third is added to the first. -/

def total : Expr :=
  .call ⟨0, 7⟩ "sum" [.binary .multiply (.selector "l" "price") (.selector "l" "pieces")]

def columns : Columns := [⟨"l", "price", .decimal⟩, ⟨"l", "pieces", .int⟩]

def line (price pieces : Int64) : DateTime × Bindings :=
  (.unset, [("l", [("price", .decimal ⟨price⟩), ("pieces", .int pieces)])])

end ProbeSample
end TableMill
