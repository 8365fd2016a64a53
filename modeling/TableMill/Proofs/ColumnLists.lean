import TableMill.Proofs.Outcome
import TableMill.Table.Basic

/-!
# Lists of columns

Columns are told apart by alias and name, and lists of columns are only grown by columns that
are new in that sense.
-/

namespace TableMill
namespace Columns

variable {cs more : Columns} {c d : Column}

theorem at?_eq_some {table name : String} (h : cs.at? table name = some c) :
    c ∈ cs ∧ c.table = table ∧ c.name = name := by
  have hat := List.find?_some h
  simp only [Column.isAt, Bool.and_eq_true, beq_iff_eq] at hat
  exact ⟨List.mem_of_find?_eq_some h, hat⟩

theorem has_iff {table name : String} :
    cs.has table name = true ↔ ∃ c ∈ cs, c.table = table ∧ c.name = name := by
  simp [has, at?, Column.isAt, List.find?_isSome]

def Distinct (cs : Columns) : Prop :=
  ∀ c ∈ cs, ∀ d ∈ cs, c.table = d.table → c.name = d.name → c = d

theorem Distinct.mono (h : Distinct more) (hs : cs ⊆ more) : Distinct cs :=
  fun c hc d hd => h c (hs hc) d (hs hd)

theorem mem_addNew (h : d ∈ cs.addNew c) : d ∈ cs ∨ d = c := by
  unfold addNew at h
  split at h
  · exact Or.inl h
  · simpa using h

theorem distinct_addNew (h : Distinct cs) (c : Column) : Distinct (cs.addNew c) := by
  unfold addNew
  split
  · exact h
  · next hnew =>
    have hother : ∀ d ∈ cs, d.table = c.table → d.name ≠ c.name := fun d hd ht hn =>
      hnew (has_iff.2 ⟨d, hd, ht, hn⟩)
    intro d hd e he ht hn
    rcases List.mem_append.1 hd with hd' | hd'
    · rcases List.mem_append.1 he with he' | he'
      · exact h d hd' e he' ht hn
      · obtain rfl := List.mem_singleton.1 he'
        exact absurd hn (hother d hd' ht)
    · obtain rfl := List.mem_singleton.1 hd'
      rcases List.mem_append.1 he with he' | he'
      · exact absurd hn.symm (hother e he' ht.symm)
      · exact (List.mem_singleton.1 he').symm

theorem addNew_covers (cs : Columns) (c : Column) :
    ∃ d ∈ cs.addNew c, d.table = c.table ∧ d.name = c.name := by
  unfold addNew
  split
  · next h => exact has_iff.1 h
  · exact ⟨c, by simp, rfl, rfl⟩

theorem mem_foldl_addNew (h : d ∈ more.foldl addNew cs) : d ∈ cs ∨ d ∈ more := by
  induction more generalizing cs with
  | nil => exact Or.inl h
  | cons c rest ih =>
    rcases ih h with h | h
    · rcases mem_addNew h with h | rfl
      · exact Or.inl h
      · exact Or.inr List.mem_cons_self
    · exact Or.inr (List.mem_cons_of_mem _ h)

theorem prefix_foldl_addNew (cs more : Columns) : cs <+: more.foldl addNew cs := by
  induction more generalizing cs with
  | nil => exact List.prefix_refl cs
  | cons c rest ih =>
    have hc : cs <+: cs.addNew c := by
      unfold addNew
      split
      · exact List.prefix_refl cs
      · exact List.prefix_append _ _
    exact hc.trans (ih _)

theorem foldl_addNew_covers (hc : c ∈ more) :
    ∃ d ∈ more.foldl addNew cs, d.table = c.table ∧ d.name = c.name := by
  induction more generalizing cs with
  | nil => simp at hc
  | cons e rest ih =>
    rcases List.mem_cons.1 hc with rfl | hc
    · obtain ⟨d, hd, h⟩ := addNew_covers cs c
      exact ⟨d, (prefix_foldl_addNew _ rest).subset hd, h⟩
    · exact ih hc

theorem distinct_foldl_addNew (h : Distinct cs) (more : Columns) :
    Distinct (more.foldl addNew cs) := by
  induction more generalizing cs with
  | nil => exact h
  | cons c rest ih => exact ih (distinct_addNew h c)

theorem mem_append_iff_or {table : Option String} (h : d ∈ cs.append more table) :
    d ∈ cs ∨ (d ∈ more ∧ table.all (· == d.table) = true) := by
  rcases mem_foldl_addNew h with h | h
  · exact Or.inl h
  · exact Or.inr (List.mem_filter.1 h)

theorem subset_append (cs more : Columns) (table : Option String) : cs ⊆ cs.append more table :=
  (prefix_foldl_addNew _ _).subset

theorem append_covers {table : Option String} (hc : c ∈ more)
    (ht : table.all (· == c.table) = true) :
    ∃ d ∈ cs.append more table, d.table = c.table ∧ d.name = c.name :=
  foldl_addNew_covers (List.mem_filter.2 ⟨hc, ht⟩)

theorem mem_ofList (h : d ∈ ofList more) : d ∈ more := by
  rcases mem_foldl_addNew h with h | h
  · simp at h
  · exact h

theorem distinct_ofList (more : List Column) : Distinct (ofList more) :=
  distinct_foldl_addNew (by simp [Distinct]) more

theorem ofList_covers (hc : c ∈ more) :
    ∃ d ∈ ofList more, d.table = c.table ∧ d.name = c.name :=
  foldl_addNew_covers hc

/-- Selectors are resolved only if every one of them names a known column or a constant. -/
theorem resolve_eq_ok {known used : Columns} {wanted : List (String × String)}
    {ignored : List String} (h : known.resolve wanted ignored = .ok used) :
    (∀ p ∈ wanted, p.1 ∉ ignored → known.has p.1 p.2 = true) ∧
    used = ofList ((wanted.filter fun p => !ignored.contains p.1).filterMap
      fun p => known.at? p.1 p.2) := by
  obtain ⟨_, hnone, h⟩ := bind_eq_ok.1 h
  refine ⟨fun p hp hi => ?_, (Except.ok.inj h).symm⟩
  have hempty := noErrors_eq_ok.1 hnone
  simp only [List.map_eq_nil_iff, List.filter_eq_nil_iff, List.mem_filter] at hempty
  simpa using hempty p ⟨hp, by simpa using hi⟩

theorem mem_resolve {known used : Columns} {wanted : List (String × String)}
    {ignored : List String} (h : known.resolve wanted ignored = .ok used) (hc : c ∈ used) :
    c ∈ known := by
  rw [(resolve_eq_ok h).2] at hc
  obtain ⟨p, -, hp⟩ := List.mem_filterMap.1 (mem_ofList hc)
  exact (at?_eq_some hp).1

theorem resolve_covers {known used : Columns} {wanted : List (String × String)}
    {ignored : List String} (h : known.resolve wanted ignored = .ok used) {p : String × String}
    (hp : p ∈ wanted) (hi : p.1 ∉ ignored) :
    ∃ d ∈ used, d.table = p.1 ∧ d.name = p.2 := by
  obtain ⟨hknown, rfl⟩ := resolve_eq_ok h
  obtain ⟨c, hc⟩ := Option.isSome_iff_exists.1 (hknown p hp hi)
  obtain ⟨-, ht, hn⟩ := at?_eq_some hc
  have hwanted : p ∈ wanted.filter fun p => !ignored.contains p.1 :=
    List.mem_filter.2 ⟨hp, by simpa using hi⟩
  have hfound : c ∈ (wanted.filter fun p => !ignored.contains p.1).filterMap
      fun p => known.at? p.1 p.2 := List.mem_filterMap.2 ⟨p, hwanted, hc⟩
  obtain ⟨d, hd, hdt, hdn⟩ := ofList_covers hfound
  exact ⟨d, hd, hdt.trans ht, hdn.trans hn⟩

end Columns

theorem Table.mem_columnsAs {t : Table} {table : String} {c : Column}
    (h : c ∈ t.columnsAs table) : c.table = table ∧ ∃ f ∈ t.fields, f.name = c.name := by
  obtain ⟨f, hf, rfl⟩ := List.mem_map.1 (Columns.mem_ofList h)
  exact ⟨rfl, f, hf, rfl⟩

theorem Table.distinct_columnsAs (t : Table) (table : String) :
    Columns.Distinct (t.columnsAs table) :=
  Columns.distinct_ofList _

end TableMill
