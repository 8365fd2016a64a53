import TableMill.Table.Basic

/-!
# What an expression reads

An evaluation looks at its bindings only through the selectors of the expression.
-/

namespace TableMill

namespace Bindings

/-- The record of an alias, looked at under one field name. -/
def look (b : Bindings) (table field : String) : Option (Option Value) :=
  (Assoc.get? b table).map fun r => Assoc.get? r field

def AgreeOn (selectors : List (String × String)) (b b' : Bindings) : Prop :=
  ∀ p ∈ selectors, select b p.1 p.2 = select b' p.1 p.2

theorem AgreeOn.mono {few many : List (String × String)} {b b' : Bindings}
    (h : AgreeOn many b b') (hs : few ⊆ many) : AgreeOn few b b' :=
  fun p hp => h p (hs hp)

theorem select_eq_of_look {b b' : Bindings} {table field : String}
    (h : b.look table field = b'.look table field) :
    select b table field = select b' table field := by
  unfold look at h
  unfold select
  cases constant? table field with
  | some v => rfl
  | none =>
    cases hb : Assoc.get? b table with
    | none =>
      cases hb' : Assoc.get? b' table with
      | none => rfl
      | some r' => simp [hb, hb'] at h
    | some r =>
      cases hb' : Assoc.get? b' table with
      | none => simp [hb, hb'] at h
      | some r' =>
        have hr : Assoc.get? r field = Assoc.get? r' field := by simpa [hb, hb'] using h
        simp [hr]

end Bindings

namespace Expr

open Bindings

variable {now : DateTime} {b b' : Bindings}

mutual

/-- Bindings that agree on the selectors of an expression evaluate it alike. -/
theorem evalM_congr : (e : Expr) → AgreeOn e.selectors b b' →
    e.evalM now b = e.evalM now b'
  | int _, _ | float _, _ | text _, _ | ident _, _ => by simp only [evalM]
  | selector table field, h => by
    have hs := h (table, field) (by simp [selectors])
    simp only [evalM, hs]
  | unary op e, h => by
    have he := evalM_congr e (by simpa only [selectors] using h)
    simp only [evalM, he]
  | binary op l r, h => by
    simp only [selectors] at h
    have hl := evalM_congr l (h.mono (List.subset_append_left _ _))
    have hr := evalM_congr r (h.mono (List.subset_append_right _ _))
    simp only [evalM, hl, hr]
  | call site name args, h => by
    simp only [selectors] at h
    have hall := evalAll_congr args h
    have hnth := fun n => evalNth_congr args n h
    have hcond := fun f n => evalCondition_congr f args n h
    simp only [evalM, hall, hnth, hcond]

theorem evalAll_congr : (es : List Expr) → AgreeOn (selectorsAll es) b b' →
    evalAll now b es = evalAll now b' es
  | [], _ => by simp only [evalAll]
  | e :: es, h => by
    simp only [selectorsAll] at h
    have he := evalM_congr e (h.mono (List.subset_append_left _ _))
    have hes := evalAll_congr es (h.mono (List.subset_append_right _ _))
    simp only [evalAll, he, hes]

theorem evalNth_congr : (es : List Expr) → (n : Nat) → AgreeOn (selectorsAll es) b b' →
    evalNth now b es n = evalNth now b' es n
  | [], _, _ => by simp only [evalNth]
  | e :: es, 0, h => by
    simp only [selectorsAll] at h
    simpa only [evalNth] using evalM_congr e (h.mono (List.subset_append_left _ _))
  | e :: es, n + 1, h => by
    simp only [selectorsAll] at h
    simpa only [evalNth] using evalNth_congr es n (h.mono (List.subset_append_right _ _))

theorem evalCondition_congr (f : Aggregate) : (es : List Expr) → (n : Nat) →
    AgreeOn (selectorsAll es) b b' →
    evalCondition now b f es n = evalCondition now b' f es n
  | [], _, _ => by simp only [evalCondition]
  | e :: es, 0, h => by
    simp only [selectorsAll] at h
    have he := evalM_congr e (h.mono (List.subset_append_left _ _))
    simp only [evalCondition, he]
  | e :: es, n + 1, h => by
    simp only [selectorsAll] at h
    simpa only [evalCondition] using
      evalCondition_congr f es n (h.mono (List.subset_append_right _ _))

end

theorem evalWith_congr {e : Expr} (h : AgreeOn e.selectors b b') (s : Option Aggregation) :
    e.evalWith now b s = e.evalWith now b' s := by
  simp only [evalWith, evalM_congr e h]

theorem mem_addNew {α : Type} [DecidableEq α] {seen : List α} {x y : α} :
    y ∈ addNew seen x ↔ y ∈ seen ∨ y = x := by
  unfold addNew
  split
  · next hx =>
    constructor
    · exact Or.inl
    · rintro (h | rfl)
      · exact h
      · exact hx
  · simp

theorem mem_foldl_addNew {α : Type} [DecidableEq α] {xs seen : List α} {y : α} :
    y ∈ xs.foldl addNew seen ↔ y ∈ seen ∨ y ∈ xs := by
  induction xs generalizing seen with
  | nil => simp
  | cons x xs ih => simp only [List.foldl_cons, ih, mem_addNew, List.mem_cons, or_assoc]

theorem mem_usedFields {e : Expr} {p : String × String} : p ∈ e.usedFields ↔ p ∈ e.selectors := by
  simp [usedFields, mem_foldl_addNew]

end Expr

theorem Field.calculate_congr {f : Field} {now : DateTime} {b b' : Bindings}
    (h : Bindings.AgreeOn f.expr.selectors b b') (s : Option Aggregation) :
    f.calculate now b s = f.calculate now b' s := by
  simp only [Field.calculate, Expr.evalWith_congr h]

end TableMill
