import TableMill.Proofs.ProbeSoundness
import TableMill.Proofs.StoredPage

/-!
# Typed pages

The operations of a page check the values that they put in. So every row of a page has a value of
the right type for every column, whatever was read, and binds every column to such a value.
-/

namespace TableMill

namespace Bindings

/-- Bindings have a value of the right kind for every column, and nothing under other aliases. -/
structure Covers (vars : Bindings) (columns : Columns) : Prop where
  fill : vars.Fill columns
  other {table : String} (h : ∀ c ∈ columns, c.table ≠ table) (field : String) :
    vars.look table field = none
  keyed : Assoc.Keyed vars

variable {vars : Bindings} {columns more : Columns}

theorem Fill.mono (h : vars.Fill more) (hs : columns ⊆ more) : vars.Fill columns :=
  fun c hc => h c (hs hc)

theorem covers_nil : Covers [] [] :=
  ⟨nofun, fun _ _ => rfl, Assoc.keyed_nil⟩

theorem Covers.bind (h : vars.Covers columns) {c : Column} {v : Value} (hv : v.kind = c.kind)
    (hdistinct : (columns ++ [c]).Distinct) :
    (vars.bind c.table c.name v).Covers (columns ++ [c]) where
  fill := by
    intro d hd
    rw [look_bind]
    by_cases ht : c.table = d.table
    · by_cases hn : c.name = d.name
      · obtain rfl : c = d := hdistinct c (by simp) d hd ht hn
        exact ⟨v, by simp, hv⟩
      · have hmem : d ∈ columns := by
          rcases List.mem_append.1 hd with hd | hd
          · exact hd
          · exact absurd (congrArg Column.name (List.mem_singleton.1 hd)).symm hn
        obtain ⟨w, hw, hkind⟩ := h.fill d hmem
        exact ⟨w, by simp [ht, hn, hw], hkind⟩
    · have hmem : d ∈ columns := by
        rcases List.mem_append.1 hd with hd | hd
        · exact hd
        · exact absurd (congrArg Column.table (List.mem_singleton.1 hd)).symm ht
      obtain ⟨w, hw, hkind⟩ := h.fill d hmem
      exact ⟨w, by rw [if_neg ht, hw], hkind⟩
  other {table} hother field := by
    rw [look_bind, if_neg (hother c (by simp))]
    exact h.other (fun d hd => hother d (List.mem_append_left _ hd)) field
  keyed := keyed_bind h.keyed _ _ _

theorem covers_foldl {pairs : List (Column × Value)} (hkinds : ∀ p ∈ pairs, p.2.kind = p.1.kind)
    (hdistinct : Columns.Distinct (pairs.map Prod.fst)) :
    Covers (pairs.foldl (fun vars p => vars.bind p.1.table p.1.name p.2) []) (pairs.map Prod.fst) := by
  induction pairs using List.reverseRecOn with
  | nil => exact covers_nil
  | append_singleton pairs p ih =>
    rw [List.foldl_append, List.map_append] at *
    have hpairs := ih (fun q hq => hkinds q (List.mem_append_left _ hq))
      (hdistinct.mono (List.subset_append_left _ _))
    exact hpairs.bind (hkinds p (by simp)) hdistinct

end Bindings

namespace RowPage

/-- A page that only its own operations have changed. -/
inductive Built (columns : Columns) : RowPage → Prop
  | new : Built columns (ofColumns columns)
  | init {page : RowPage} (h : Built columns page) (capacity : Nat) :
    Built columns (page.init capacity)
  | reset {page : RowPage} (h : Built columns page) : Built columns page.reset
  | append {page page' : RowPage} (h : Built columns page) {values : List Value}
    (hpage : page.append values = .ok page') : Built columns page'
  | setRow {page page' : RowPage} (h : Built columns page) {i : Nat} {values : List Value}
    (hpage : page.setRow i values = .ok page') : Built columns page'
  | setValue {page page' : RowPage} (h : Built columns page) {i : Nat} {table name : String}
    {v : Value} (hpage : page.setValue i table name v = .ok page') : Built columns page'

structure Typed (columns : Columns) (page : RowPage) : Prop where
  columns_eq : page.columns = columns
  rows : ∀ values ∈ page.rows, List.Forall₂ (fun c v => v.kind = c.kind) columns values

theorem checkKind_eq_ok {c : Column} {v : Value} : checkKind c v = .ok () ↔ v.kind = c.kind := by
  unfold checkKind
  split <;> simp_all

theorem checkKinds_eq_ok {columns : Columns} {values : List Value}
    (h : checkKinds columns values = .ok ()) (hlength : values.length = columns.length) :
    List.Forall₂ (fun c v => v.kind = c.kind) columns values := by
  induction columns generalizing values with
  | nil =>
    obtain rfl := List.length_eq_zero_iff.1 hlength
    exact .nil
  | cons c cs ih =>
    cases values with
    | nil => cases hlength
    | cons v vs =>
      obtain ⟨_, hc, hrest⟩ := bind_eq_ok.1 h
      exact .cons (checkKind_eq_ok.1 hc) (ih hrest (Nat.succ.inj hlength))

theorem checkRow_eq_ok {page : RowPage} {values : List Value} (h : page.checkRow values = .ok ()) :
    List.Forall₂ (fun c v => v.kind = c.kind) page.columns values := by
  unfold checkRow at h
  split at h
  · cases h
  · next hlength => exact checkKinds_eq_ok h (not_not.1 hlength)

theorem columnAt_eq_ok {page : RowPage} {table name : String} {n : Nat} {c : Column}
    (h : page.columnAt table name = .ok (n, c)) :
    page.columns[n]? = some c ∧ c.path = table ++ "." ++ name := by
  unfold columnAt at h
  split at h
  · cases h
  · next place hplace =>
    split at h
    · cases h
    · next d hd =>
      obtain ⟨rfl, rfl⟩ := Prod.mk.inj (Except.ok.inj h)
      obtain ⟨e, he, hpath⟩ := placeOf_spec hplace
      rw [hd] at he
      exact ⟨hd, Option.some.inj he ▸ hpath⟩

theorem mem_of_row {page : RowPage} {i : Nat} {values : List Value} (h : page.row i = .ok values) :
    values ∈ page.rows := by
  unfold row at h
  split at h
  · next hvalues => exact Except.ok.inj h ▸ List.mem_of_getElem? hvalues
  · cases h

theorem getElem?_of_forall₂ {α β : Type} {R : α → β → Prop} {xs : List α} {ys : List β}
    (h : List.Forall₂ R xs ys) {n : Nat} {x : α} (hx : xs[n]? = some x) :
    ∃ y, ys[n]? = some y ∧ R x y := by
  induction h generalizing n with
  | nil => cases hx
  | cons hhead _ ih =>
    cases n with
    | zero =>
      obtain rfl := Option.some.inj hx
      exact ⟨_, rfl, hhead⟩
    | succ n =>
      obtain ⟨y, hy, hR⟩ := ih (by simpa using hx)
      exact ⟨y, by simpa using hy, hR⟩

theorem forall₂_set {α β : Type} {R : α → β → Prop} {xs : List α} {ys : List β}
    (h : List.Forall₂ R xs ys) {n : Nat} {x : α} {y : β} (hx : xs[n]? = some x) (hy : R x y) :
    List.Forall₂ R xs (ys.set n y) := by
  induction h generalizing n with
  | nil => exact .nil
  | cons hhead htail ih =>
    cases n with
    | zero =>
      obtain rfl := Option.some.inj hx
      exact .cons hy htail
    | succ n => exact .cons hhead (ih (by simpa using hx))

namespace Typed

variable {columns : Columns} {page page' : RowPage} {values : List Value}

theorem empty (columns : Columns) (capacity : Nat) : Typed columns ⟨columns, [], capacity⟩ :=
  ⟨rfl, nofun⟩

theorem append (h : page.Typed columns) (hpage : page.append values = .ok page') :
    page'.Typed columns := by
  obtain ⟨_, hrow, hpage⟩ := bind_eq_ok.1 hpage
  have hvalues := checkRow_eq_ok hrow
  split at hpage
  · obtain rfl := Except.ok.inj hpage
    refine ⟨h.columns_eq, fun values hmem => ?_⟩
    rcases List.mem_append.1 hmem with hmem | hmem
    · exact h.rows values hmem
    · exact List.mem_singleton.1 hmem ▸ h.columns_eq ▸ hvalues
  · cases hpage

theorem setRow (h : page.Typed columns) {i : Nat} (hpage : page.setRow i values = .ok page') :
    page'.Typed columns := by
  obtain ⟨_, -, hpage⟩ := bind_eq_ok.1 hpage
  obtain ⟨_, hrow, hpage⟩ := bind_eq_ok.1 hpage
  have hvalues := checkRow_eq_ok hrow
  obtain rfl := Except.ok.inj hpage
  refine ⟨h.columns_eq, fun values hmem => ?_⟩
  rcases List.mem_or_eq_of_mem_set hmem with hmem | rfl
  · exact h.rows values hmem
  · exact h.columns_eq ▸ hvalues

theorem setValue (h : page.Typed columns) {i : Nat} {table name : String} {v : Value}
    (hpage : page.setValue i table name v = .ok page') : page'.Typed columns := by
  obtain ⟨values, hrow, hpage⟩ := bind_eq_ok.1 hpage
  obtain ⟨⟨n, c⟩, hplace, hpage⟩ := bind_eq_ok.1 hpage
  obtain ⟨_, hkind, hpage⟩ := bind_eq_ok.1 hpage
  obtain rfl := Except.ok.inj hpage
  have hcolumn := (columnAt_eq_ok hplace).1
  rw [h.columns_eq] at hcolumn
  refine ⟨h.columns_eq, fun values' hmem => ?_⟩
  rcases List.mem_or_eq_of_mem_set hmem with hmem | rfl
  · exact h.rows values' hmem
  · exact forall₂_set (h.rows values (mem_of_row hrow)) hcolumn (checkKind_eq_ok.1 hkind)

end Typed

/-- Every operation keeps the rows of a page typed. -/
theorem Built.typed {columns : Columns} {page : RowPage} (h : Built columns page) :
    page.Typed columns := by
  induction h with
  | new => exact .empty columns 0
  | init _ _ ih => exact ⟨ih.columns_eq, nofun⟩
  | reset _ ih => exact ⟨ih.columns_eq, nofun⟩
  | append _ hpage ih => exact ih.append hpage
  | setRow _ hpage ih => exact ih.setRow hpage
  | setValue _ hpage ih => exact ih.setValue hpage

theorem split_path {a b a' b' : List Char} (h : a' ++ '.' :: b' = a ++ '.' :: b) (ha : '.' ∉ a)
    (hb : '.' ∉ b) : a' = a ∧ b' = b := by
  rcases List.append_eq_append_iff.1 h with ⟨x, rfl, hx⟩ | ⟨x, rfl, hx⟩
  · cases x with
    | nil =>
      rw [List.nil_append, List.cons.injEq] at hx
      exact ⟨(List.append_nil _).symm, hx.2⟩
    | cons d x =>
      rw [List.cons_append, List.cons.injEq] at hx
      exact absurd (by simp [← hx.1]) ha
  · cases x with
    | nil =>
      rw [List.nil_append, List.cons.injEq] at hx
      exact ⟨List.append_nil _, hx.2.symm⟩
    | cons d x =>
      rw [List.cons_append, List.cons.injEq] at hx
      exact absurd (by simp [hx.2]) hb

theorem column_of_path {c d : Column} (hpath : d.path = c.path) (htable : '.' ∉ c.table.toList)
    (hname : '.' ∉ c.name.toList) : d.table = c.table ∧ d.name = c.name := by
  have hchars : d.table.toList ++ '.' :: d.name.toList = c.table.toList ++ '.' :: c.name.toList := by
    simpa [Column.path] using congrArg String.toList hpath
  obtain ⟨ht, hn⟩ := split_path hchars htable hname
  exact ⟨String.toList_inj.1 ht, String.toList_inj.1 hn⟩

/-- Every row has a value of the right type in a column whose path names no other. -/
theorem Typed.value_eq_ok {columns : Columns} {page : RowPage} (h : page.Typed columns)
    (hdistinct : columns.Distinct) {c : Column} (hc : c ∈ columns) (htable : '.' ∉ c.table.toList)
    (hname : '.' ∉ c.name.toList) {i : Nat} (hi : i < page.rowCount) :
    ∃ v, page.value i c.table c.name = .ok v ∧ v.kind = c.kind := by
  have hi' : i < page.rows.length := hi
  have hrow : page.row i = .ok page.rows[i] := by
    simp [row, List.getElem?_eq_getElem hi']
  obtain ⟨n, hn⟩ := placeOf_isSome hc
  obtain ⟨d, hd, hpath⟩ := placeOf_spec hn
  obtain ⟨ht, hnm⟩ := column_of_path hpath htable hname
  obtain rfl : d = c := hdistinct d (List.mem_of_getElem? hd) c hc ht hnm
  have hplace : page.columnAt d.table d.name = .ok (n, d) := by
    have hplace : page.place? d.table d.name = some n := by
      rw [place?, h.columns_eq]
      exact hn
    simp [columnAt, hplace, h.columns_eq, hd]
  obtain ⟨v, hv, hkind⟩ := getElem?_of_forall₂ (h.rows _ (List.getElem_mem hi')) hd
  refine ⟨v, bind_eq_ok.2 ⟨_, hrow, bind_eq_ok.2 ⟨_, hplace, ?_⟩⟩, hkind⟩
  simp [List.getD_eq_getElem?_getD, hv]

theorem Typed.rowid_error {columns : Columns} {page : RowPage} (h : page.Typed columns)
    {table : String} (hrowid : .rowid table ∈ columns) {i : Nat} {e : TableError}
    (he : page.rowid i = .error e) :
    (∃ count, e = .noRow i count) ∨ ∃ v, e = .fieldKind rowidName .int v := by
  unfold rowid at he
  cases hvalues : page.row i with
  | error e' =>
    rw [hvalues] at he
    obtain rfl := Except.error.inj he
    unfold row at hvalues
    split at hvalues
    · cases hvalues
    · exact Or.inl ⟨_, (Except.error.inj hvalues).symm⟩
  | ok values =>
    rw [hvalues] at he
    dsimp only [bind, Except.bind] at he
    split at he
    · next hnone =>
      have hlength := (h.rows values (mem_of_row hvalues)).length_eq
      obtain ⟨n, hn, hget⟩ := List.getElem_of_mem hrowid
      have hmem : (Column.rowid table, values.get ⟨n, hlength ▸ hn⟩) ∈ page.columns.zip values := by
        rw [h.columns_eq, ← hget]
        exact List.mem_iff_getElem.2 ⟨n, by simp [hn, ← hlength], by simp⟩
      exact absurd (List.find?_eq_none.1 hnone _ hmem) (by simp [Column.rowid])
    · cases he
    · exact Or.inr ⟨_, (Except.error.inj he).symm⟩

theorem Typed.bindRow_covers {columns : Columns} {page : RowPage} (h : page.Typed columns)
    (hdistinct : columns.Distinct) {i : Nat} {vars : Bindings}
    (hvars : page.bindRow i [] none = .ok vars) : vars.Covers columns := by
  obtain ⟨values, hrow, hvars⟩ := bind_eq_ok.1 hvars
  obtain rfl := Except.ok.inj hvars
  have hvalues := h.rows values (mem_of_row hrow)
  have hnames : (columns.zip values).map Prod.fst = columns :=
    List.map_fst_zip (Nat.le_of_eq hvalues.length_eq)
  have hcovers := @Bindings.covers_foldl (columns.zip values)
    (fun p hp => List.forall₂_zip hvalues hp) (by rwa [hnames])
  rw [hnames] at hcovers
  rw [h.columns_eq]
  exact hcovers

end RowPage
end TableMill
