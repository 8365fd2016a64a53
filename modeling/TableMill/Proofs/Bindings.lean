import Mathlib.Data.List.Induction
import TableMill.Batch.Scan
import TableMill.Proofs.Selectors

/-!
# Rows as bindings

A row of a table is bound column by column. The bindings of two rows under different
aliases are merged without touching each other.
-/

namespace TableMill

namespace Assoc

variable {α : Type}

theorem get?_eq_none_iff {m : Assoc α} {name : String} :
    m.get? name = none ↔ name ∉ m.map Prod.fst := by
  induction m with
  | nil => simp
  | cons e rest ih =>
    obtain ⟨k, b⟩ := e
    by_cases hk : k = name
    · simp [get?_cons, hk]
    · have hk' : name ≠ k := fun h => hk h.symm
      simp [get?_cons, hk, hk', ih]

/-- No name has two entries. -/
def Keyed (m : Assoc α) : Prop := (m.map Prod.fst).Nodup

@[simp] theorem keyed_nil : Keyed ([] : Assoc α) := by simp [Keyed]

theorem keyed_cons {key : String} {a : α} {m : Assoc α} :
    Keyed ((key, a) :: m) ↔ m.get? key = none ∧ Keyed m := by
  rw [get?_eq_none_iff]
  simp only [Keyed, List.map_cons, List.nodup_cons]

theorem keyed_set {m : Assoc α} (h : Keyed m) (key : String) (a : α) : Keyed (m.set key a) := by
  induction m with
  | nil => simp [set, keyed_cons]
  | cons e rest ih =>
    obtain ⟨k, b⟩ := e
    obtain ⟨hk, hrest⟩ := keyed_cons.1 h
    by_cases he : k = key
    · subst he
      simp only [set, if_true]
      exact keyed_cons.2 ⟨hk, hrest⟩
    · simp only [set, he, if_false]
      refine keyed_cons.2 ⟨?_, ih hrest⟩
      rw [get?_set, if_neg fun h => he h.symm]
      exact hk

theorem get?_merge {n : Assoc α} (hn : Keyed n) (m : Assoc α) (name : String) :
    (merge m n).get? name = (n.get? name).or (m.get? name) := by
  unfold merge
  induction n generalizing m with
  | nil => simp
  | cons e rest ih =>
    obtain ⟨k, a⟩ := e
    obtain ⟨hk, hrest⟩ := keyed_cons.1 hn
    simp only [List.foldl_cons]
    rw [ih hrest, get?_set, get?_cons]
    by_cases he : k = name
    · subst he
      simp [hk]
    · simp [he]

end Assoc

namespace Bindings

theorem look_bind (b : Bindings) (t f : String) (v : Value) (table field : String) :
    (b.bind t f v).look table field =
      if t = table then some (if f = field then some v else (b.look table field).join)
      else b.look table field := by
  unfold look bind
  rw [Assoc.get?_set]
  by_cases ht : t = table
  · subst ht
    cases hb : Assoc.get? b t with
    | none => simp [Assoc.get?_set]
    | some r => simp [Assoc.get?_set]
  · simp [ht]

theorem keyed_bind {b : Bindings} (h : Assoc.Keyed b) (t f : String) (v : Value) :
    Assoc.Keyed (b.bind t f v) :=
  Assoc.keyed_set h _ _

theorem look_merge {c : Bindings} (hc : Assoc.Keyed c) (b : Bindings) (table field : String) :
    look (Assoc.merge b c) table field = (c.look table field).or (b.look table field) := by
  unfold look
  rw [Assoc.get?_merge hc]
  cases Assoc.get? c table <;> simp

end Bindings

namespace Columns

def bindBy (cs : Columns) (value : Column → Value) : Bindings :=
  cs.foldl (fun vars c => vars.bind c.table c.name (value c)) []

variable (value : Column → Value)

theorem bindBy_append (cs : Columns) (c : Column) :
    bindBy (cs ++ [c]) value = (bindBy cs value).bind c.table c.name (value c) := by
  simp [bindBy]

theorem bindBy_congr {cs : Columns} {value value' : Column → Value}
    (h : ∀ c ∈ cs, value c = value' c) : bindBy cs value = bindBy cs value' := by
  induction cs using List.reverseRecOn with
  | nil => rfl
  | append_singleton cs c ih =>
    rw [bindBy_append, bindBy_append, h c (by simp), ih fun d hd => h d (List.mem_append_left _ hd)]

theorem keyed_bindBy (cs : Columns) : Assoc.Keyed (bindBy cs value) := by
  induction cs using List.reverseRecOn with
  | nil => exact Assoc.keyed_nil
  | append_singleton cs c ih =>
    rw [bindBy_append]
    exact Bindings.keyed_bind ih _ _ _

theorem look_bindBy_none {cs : Columns} {table : String} (h : ∀ c ∈ cs, c.table ≠ table)
    (field : String) : (bindBy cs value).look table field = none := by
  induction cs using List.reverseRecOn with
  | nil => rfl
  | append_singleton cs c ih =>
    rw [bindBy_append, Bindings.look_bind, if_neg (h c (by simp))]
    exact ih fun d hd => h d (List.mem_append_left _ hd)

theorem look_bindBy {cs : Columns} {c : Column} (hc : c ∈ cs)
    (hsame : ∀ d ∈ cs, d.table = c.table → d.name = c.name → value d = value c) :
    (bindBy cs value).look c.table c.name = some (some (value c)) := by
  induction cs using List.reverseRecOn with
  | nil => simp at hc
  | append_singleton cs d ih =>
    rw [bindBy_append, Bindings.look_bind]
    by_cases ht : d.table = c.table
    · by_cases hn : d.name = c.name
      · simp [ht, hn, hsame d (by simp) ht hn]
      · have hcs : c ∈ cs := by
          rcases List.mem_append.1 hc with h | h
          · exact h
          · exact absurd (congrArg Column.name (List.mem_singleton.1 h)).symm hn
        rw [ih hcs fun e he => hsame e (List.mem_append_left _ he)]
        simp [ht, hn]
    · have hcs : c ∈ cs := by
        rcases List.mem_append.1 hc with h | h
        · exact h
        · exact absurd (congrArg Column.table (List.mem_singleton.1 h)).symm ht
      rw [if_neg ht, ih hcs fun e he => hsame e (List.mem_append_left _ he)]

end Columns
end TableMill
