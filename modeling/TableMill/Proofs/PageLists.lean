import Mathlib.Data.List.Nodup
import TableMill.Proofs.PageSlots

/-!
# Pages as lists

A page is a list of rows of bounded length, with a cell in every column, whatever changes were made
of it and whichever of them failed. Columns are found by their paths, so no alias may hold a dot:
the path of the column `b.c` under the alias `a` is also that of the column `c` under the alias
`a.b`.
-/

namespace TableMill

namespace Columns

variable {columns : Columns}

def Unique (columns : Columns) : Prop := (columns.map fun c => (c.table, c.name)).Nodup

def DotFree (columns : Columns) : Prop := ∀ c ∈ columns, '.' ∉ c.table.toList

abbrev Fit (columns : Columns) (values : List Value) : Prop :=
  List.Forall₂ (fun c v => v.kind = c.kind) columns values

theorem Unique.place_eq (h : columns.Unique) {m n : Nat} {c d : Column} (hc : columns[m]? = some c)
    (hd : columns[n]? = some d) (ht : c.table = d.table) (hn : c.name = d.name) : m = n := by
  obtain ⟨hm, -⟩ := List.getElem?_eq_some_iff.1 hc
  refine (List.getElem?_inj (by simpa using hm) h).1 ?_
  rw [List.getElem?_map, List.getElem?_map, hc, hd]
  exact congrArg some (Prod.ext ht hn)

theorem unique_addNew (h : columns.Unique) (c : Column) : (columns.addNew c).Unique := by
  unfold addNew
  split
  · exact h
  · next hnew =>
    have hother : (c.table, c.name) ∉ columns.map fun d => (d.table, d.name) := by
      intro hmem
      obtain ⟨d, hd, heq⟩ := List.mem_map.1 hmem
      exact hnew (has_iff.2 ⟨d, hd, congrArg Prod.fst heq, congrArg Prod.snd heq⟩)
    rw [Unique, List.map_append]
    exact h.append (List.nodup_singleton _) (by simpa using hother)

theorem unique_ofList (cs : List Column) : (ofList cs).Unique := by
  have hfold (more : Columns) {cs : Columns} (hcs : cs.Unique) :
      Unique (more.foldl addNew cs) := by
    induction more generalizing cs with
    | nil => exact hcs
    | cons c rest ih => exact ih (unique_addNew hcs c)
  exact hfold cs List.nodup_nil

theorem split_at_dot {a b a' b' : List Char} (h : a ++ '.' :: b = a' ++ '.' :: b') (ha : '.' ∉ a)
    (ha' : '.' ∉ a') : a = a' ∧ b = b' := by
  rcases List.append_eq_append_iff.1 h with ⟨x, rfl, hx⟩ | ⟨x, rfl, hx⟩
  · cases x with
    | nil => simpa using hx
    | cons d x =>
      rw [List.cons_append, List.cons.injEq] at hx
      exact absurd (by simp [← hx.1]) ha'
  · cases x with
    | nil => simpa [eq_comm] using hx
    | cons d x =>
      rw [List.cons_append, List.cons.injEq] at hx
      exact absurd (by simp [← hx.1]) ha

theorem path_eq_iff {c : Column} {table name : String} (hc : '.' ∉ c.table.toList)
    (htable : '.' ∉ table.toList) :
    c.path = table ++ "." ++ name ↔ c.table = table ∧ c.name = name := by
  constructor
  · intro hpath
    have hchars : c.table.toList ++ '.' :: c.name.toList = table.toList ++ '.' :: name.toList := by
      simpa [Column.path] using congrArg String.toList hpath
    obtain ⟨ht, hn⟩ := split_at_dot hchars hc htable
    exact ⟨String.toList_inj.1 ht, String.toList_inj.1 hn⟩
  · rintro ⟨rfl, rfl⟩
    rfl

end Columns

namespace Bindings

theorem value?_bind (b : Bindings) (t f : String) (v : Value) (table name : String) :
    (b.bind t f v).value? table name =
      if t = table ∧ f = name then some v else b.value? table name := by
  have hlook (b : Bindings) : b.value? table name = (b.look table name).join := by
    unfold value? look
    cases Assoc.get? b table <;> rfl
  rw [hlook, hlook, look_bind]
  by_cases ht : t = table
  · by_cases hf : f = name <;> simp [ht, hf]
  · simp [ht]

theorem value?_foldl {pairs : List (Column × Value)}
    (hunique : Columns.Unique (pairs.map Prod.fst)) (table name : String) (v : Value) :
    value? (pairs.foldl (fun vars p => vars.bind p.1.table p.1.name p.2) []) table name = some v ↔
      ∃ p ∈ pairs, p.1.table = table ∧ p.1.name = name ∧ p.2 = v := by
  induction pairs using List.reverseRecOn with
  | nil => simp [value?]
  | append_singleton pairs q ih =>
    rw [List.map_append, Columns.Unique, List.map_append, List.nodup_append] at hunique
    obtain ⟨hpairs, -, hother⟩ := hunique
    rw [List.foldl_append, List.foldl_cons, List.foldl_nil, value?_bind]
    by_cases hq : q.1.table = table ∧ q.1.name = name
    · have hlast : ∀ p ∈ pairs, p.1.table = table → p.1.name ≠ name := by
        intro p hp ht hn
        refine hother (p.1.table, p.1.name) ?_ (q.1.table, q.1.name) (by simp) ?_
        · exact List.mem_map_of_mem (List.mem_map_of_mem hp)
        · rw [ht, hn, hq.1, hq.2]
      rw [if_pos hq, Option.some.injEq]
      constructor
      · exact fun hv => ⟨q, by simp, hq.1, hq.2, hv⟩
      · rintro ⟨p, hp, ht, hn, hv⟩
        rcases List.mem_append.1 hp with hp | hp
        · exact absurd hn (hlast p hp ht)
        · exact List.mem_singleton.1 hp ▸ hv
    · rw [if_neg hq, ih hpairs]
      constructor
      · rintro ⟨p, hp, hfound⟩
        exact ⟨p, List.mem_append_left _ hp, hfound⟩
      · rintro ⟨p, hp, ht, hn, hv⟩
        rcases List.mem_append.1 hp with hp | hp
        · exact ⟨p, hp, ht, hn, hv⟩
        · obtain rfl := List.mem_singleton.1 hp
          exact absurd ⟨ht, hn⟩ hq

/-- Columns are bound under their aliases only. -/
theorem has_foldl (pairs : List (Column × Value)) (table : String) :
    Assoc.has (pairs.foldl (fun (vars : Bindings) p => vars.bind p.1.table p.1.name p.2) []) table =
      true ↔ ∃ p ∈ pairs, p.1.table = table := by
  induction pairs using List.reverseRecOn with
  | nil => simp [Assoc.has]
  | append_singleton pairs q ih =>
    rw [List.foldl_append, List.foldl_cons, List.foldl_nil, Assoc.has, Bindings.bind,
      Assoc.get?_set]
    by_cases hq : q.1.table = table
    · simp [hq]
    · rw [if_neg hq]
      simpa [hq, Assoc.has] using ih

end Bindings

namespace RowPage

variable {columns : Columns} {page : RowPage} {i : Nat} {values : List Value}

theorem row_eq_ok : page.row i = .ok values ↔ page.rows[i]? = some values := by
  unfold row
  cases page.rows[i]? <;> simp

theorem row_of_le (hi : page.rowCount ≤ i) : page.row i = .error (.noRow i page.rowCount) := by
  have hnone : page.rows[i]? = none := List.getElem?_eq_none hi
  rw [row, hnone]

theorem checkKinds_of_fit (h : columns.Fit values) : checkKinds columns values = .ok () := by
  induction h with
  | nil => rfl
  | cons hkind _ ih =>
    rw [checkKinds, checkKind_eq_ok.2 hkind]
    exact ih

theorem checkRow_iff : page.checkRow values = .ok () ↔ page.columns.Fit values := by
  refine ⟨checkRow_eq_ok, fun h => ?_⟩
  rw [checkRow, if_neg (not_not.2 h.length_eq.symm)]
  exact checkKinds_of_fit h

/-- A row of a page has a value in the column that is declared with an alias and a name. -/
def Cell (page : RowPage) (i : Nat) (table name : String) (v : Value) : Prop :=
  ∃ (n : Nat) (kind : Kind) (values : List Value), page.columns[n]? = some ⟨table, name, kind⟩ ∧
    page.rows[i]? = some values ∧ values[n]? = some v

/-- A page is a list of rows, no longer than its capacity, with the given columns. -/
structure IsList (columns : Columns) (page : RowPage) : Prop where
  columns_eq : page.columns = columns
  rowCount_le : page.rowCount ≤ page.capacity
  typed : ∀ values ∈ page.rows, columns.Fit values
  /-- A row is appended at the end, unless it does not fit the columns or there is no room. -/
  append_iff (values : List Value) (next : RowPage) :
    page.append values = .ok next ↔ columns.Fit values ∧ page.rowCount < page.capacity ∧
      next = { page with rows := page.rows ++ [values] }
  /-- The row with a number is replaced, unless the new one does not fit the columns. -/
  setRow_iff (i : Nat) (values : List Value) (next : RowPage) :
    page.setRow i values = .ok next ↔ columns.Fit values ∧ i < page.rowCount ∧
      next = { page with rows := page.rows.set i values }
  /-- One cell is replaced, unless the new value does not fit its column. -/
  setValue_iff (i : Nat) (table name : String) (v : Value) (next : RowPage)
    (htable : '.' ∉ table.toList) :
    page.setValue i table name v = .ok next ↔ ∃ (n : Nat) (values : List Value),
      columns[n]? = some ⟨table, name, v.kind⟩ ∧ page.rows[i]? = some values ∧
        next = { page with rows := page.rows.set i (values.set n v) }
  /-- A value that is asked for by a declared alias and name is that of the cell. -/
  value_iff (i : Nat) (table name : String) (v : Value) (htable : '.' ∉ table.toList) :
    page.value i table name = .ok v ↔ page.Cell i table name v
  /-- Every row has a cell of the right type in every column. -/
  cell (i : Nat) (hi : i < page.rowCount) (c : Column) (hc : c ∈ columns) :
    ∃ v, page.Cell i c.table c.name v ∧ v.kind = c.kind
  /-- The bindings of a row are its cells, under the aliases of the columns. -/
  bindRow_eq (i : Nat) (hi : i < page.rowCount) : ∃ vars, page.bindRow i [] none = .ok vars ∧
    (∀ table, Assoc.has vars table = true ↔ ∃ c ∈ columns, c.table = table) ∧
      ∀ table name v, vars.value? table name = some v ↔ page.Cell i table name v
  /-- There is nothing beyond the last row. -/
  refused (i : Nat) (hi : page.rowCount ≤ i) (table name : String) (v : Value)
    (values : List Value) (vars : Bindings) (alias? : Option String) :
    page.value i table name = .error (.noRow i page.rowCount) ∧
      page.bindRow i vars alias? = .error (.noRow i page.rowCount) ∧
      page.setRow i values = .error (.noRow i page.rowCount) ∧
      page.setValue i table name v = .error (.noRow i page.rowCount)

section Lists

variable {table name : String}

theorem append_eq_ok_iff {next : RowPage} :
    page.append values = .ok next ↔ page.columns.Fit values ∧ page.rowCount < page.capacity ∧
      next = { page with rows := page.rows ++ [values] } := by
  unfold append
  rw [bind_eq_ok]
  constructor
  · rintro ⟨_, hrow, hnext⟩
    split at hnext
    · next hroom => exact ⟨checkRow_iff.1 hrow, hroom, (Except.ok.inj hnext).symm⟩
    · cases hnext
  · rintro ⟨hfit, hroom, rfl⟩
    exact ⟨(), checkRow_iff.2 hfit, if_pos hroom⟩

theorem setRow_eq_ok_iff {next : RowPage} :
    page.setRow i values = .ok next ↔ page.columns.Fit values ∧ i < page.rowCount ∧
      next = { page with rows := page.rows.set i values } := by
  unfold setRow
  rw [bind_eq_ok]
  constructor
  · rintro ⟨old, hold, hnext⟩
    obtain ⟨_, hrow, hnext⟩ := bind_eq_ok.1 hnext
    obtain ⟨hi, -⟩ := List.getElem?_eq_some_iff.1 (row_eq_ok.1 hold)
    exact ⟨checkRow_iff.1 hrow, hi, (Except.ok.inj hnext).symm⟩
  · rintro ⟨hfit, hi, rfl⟩
    exact ⟨_, row_eq_ok.2 (List.getElem?_eq_getElem hi),
      bind_eq_ok.2 ⟨(), checkRow_iff.2 hfit, rfl⟩⟩

/-- Among columns whose aliases have no dots, an alias and a name lead to the column that is
declared with them. -/
theorem columnAt_eq_ok_iff (hunique : page.columns.Unique) (hdots : page.columns.DotFree)
    (htable : '.' ∉ table.toList) {n : Nat} {c : Column} :
    page.columnAt table name = .ok (n, c) ↔
      page.columns[n]? = some c ∧ c.table = table ∧ c.name = name := by
  constructor
  · intro hcolumn
    obtain ⟨hc, hpath⟩ := columnAt_eq_ok hcolumn
    have hmem := List.mem_of_getElem? hc
    exact ⟨hc, (Columns.path_eq_iff (hdots c hmem) htable).1 hpath⟩
  · rintro ⟨hc, rfl, rfl⟩
    obtain ⟨m, hm⟩ := placeOf_isSome (List.mem_of_getElem? hc)
    obtain ⟨d, hd, hpath⟩ := placeOf_spec hm
    obtain ⟨ht, hn⟩ := (Columns.path_eq_iff (hdots d (List.mem_of_getElem? hd)) htable).1 hpath
    obtain rfl : m = n := hunique.place_eq hd hc ht hn
    have hplace : page.place? c.table c.name = some m := hm
    simp [columnAt, hplace, hc]

theorem value_eq_ok_iff (h : page.Typed columns) (hunique : columns.Unique)
    (hdots : columns.DotFree) (htable : '.' ∉ table.toList) {v : Value} :
    page.value i table name = .ok v ↔ page.Cell i table name v := by
  obtain rfl := h.columns_eq
  unfold value
  rw [bind_eq_ok]
  constructor
  · rintro ⟨values, hrow, hrest⟩
    obtain ⟨⟨n, c⟩, hcolumn, hvalue⟩ := bind_eq_ok.1 hrest
    obtain ⟨hc, rfl, rfl⟩ := (columnAt_eq_ok_iff hunique hdots htable).1 hcolumn
    obtain ⟨w, hw, -⟩ := getElem?_of_forall₂ (h.rows values (mem_of_row hrow)) hc
    obtain rfl : w = v := by
      simpa [List.getD_eq_getElem?_getD, hw] using hvalue
    exact ⟨n, c.kind, values, hc, row_eq_ok.1 hrow, hw⟩
  · rintro ⟨n, kind, values, hc, hrow, hv⟩
    refine ⟨values, row_eq_ok.2 hrow, bind_eq_ok.2 ⟨(n, ⟨table, name, kind⟩), ?_, ?_⟩⟩
    · exact (columnAt_eq_ok_iff hunique hdots htable).2 ⟨hc, rfl, rfl⟩
    · simp [List.getD_eq_getElem?_getD, hv]

theorem setValue_eq_ok_iff (hunique : page.columns.Unique) (hdots : page.columns.DotFree)
    (htable : '.' ∉ table.toList) {v : Value} {next : RowPage} :
    page.setValue i table name v = .ok next ↔ ∃ (n : Nat) (values : List Value),
      page.columns[n]? = some ⟨table, name, v.kind⟩ ∧ page.rows[i]? = some values ∧
        next = { page with rows := page.rows.set i (values.set n v) } := by
  unfold setValue
  rw [bind_eq_ok]
  constructor
  · rintro ⟨values, hrow, hrest⟩
    obtain ⟨⟨n, c⟩, hcolumn, hrest⟩ := bind_eq_ok.1 hrest
    obtain ⟨_, hkind, hnext⟩ := bind_eq_ok.1 hrest
    obtain ⟨hc, rfl, rfl⟩ := (columnAt_eq_ok_iff hunique hdots htable).1 hcolumn
    rw [checkKind_eq_ok.1 hkind]
    exact ⟨n, values, hc, row_eq_ok.1 hrow, (Except.ok.inj hnext).symm⟩
  · rintro ⟨n, values, hc, hrow, rfl⟩
    refine ⟨values, row_eq_ok.2 hrow, bind_eq_ok.2 ⟨(n, ⟨table, name, v.kind⟩), ?_, ?_⟩⟩
    · exact (columnAt_eq_ok_iff hunique hdots htable).2 ⟨hc, rfl, rfl⟩
    · exact bind_eq_ok.2 ⟨(), checkKind_eq_ok.2 rfl, rfl⟩

end Lists

theorem Typed.cell (h : page.Typed columns) (hi : i < page.rowCount) {c : Column}
    (hc : c ∈ columns) : ∃ v, page.Cell i c.table c.name v ∧ v.kind = c.kind := by
  obtain rfl := h.columns_eq
  have hrow : page.rows[i]? = some page.rows[i] := List.getElem?_eq_getElem hi
  obtain ⟨n, hn⟩ := List.getElem?_of_mem hc
  obtain ⟨v, hv, hkind⟩ := getElem?_of_forall₂ (h.rows _ (List.getElem_mem hi)) hn
  exact ⟨v, ⟨n, c.kind, _, hn, hrow, hv⟩, hkind⟩

theorem Typed.bindRow_eq (h : page.Typed columns) (hunique : columns.Unique)
    (hi : i < page.rowCount) : ∃ vars, page.bindRow i [] none = .ok vars ∧
      (∀ table, Assoc.has vars table = true ↔ ∃ c ∈ columns, c.table = table) ∧
        ∀ table name v, vars.value? table name = some v ↔ page.Cell i table name v := by
  obtain rfl := h.columns_eq
  have hrow : page.rows[i]? = some page.rows[i] := List.getElem?_eq_getElem hi
  have hwidth := (h.rows _ (List.getElem_mem hi)).length_eq
  have hfirst : (page.columns.zip page.rows[i]).map Prod.fst = page.columns :=
    List.map_fst_zip (Nat.le_of_eq hwidth)
  have hzip (c : Column) (v : Value) : (c, v) ∈ page.columns.zip page.rows[i] ↔
      ∃ n : Nat, page.columns[n]? = some c ∧ page.rows[i][n]? = some v := by
    simp [List.mem_iff_getElem?, List.getElem?_zip_eq_some]
  refine ⟨_, bind_eq_ok.2 ⟨_, row_eq_ok.2 hrow, rfl⟩, fun table => ?_, fun table name v => ?_⟩
  · refine (Bindings.has_foldl _ table).trans ?_
    constructor
    · rintro ⟨p, hp, ht⟩
      exact ⟨p.1, hfirst ▸ List.mem_map_of_mem hp, ht⟩
    · rintro ⟨c, hc, ht⟩
      rw [← hfirst] at hc
      obtain ⟨p, hp, rfl⟩ := List.mem_map.1 hc
      exact ⟨p, hp, ht⟩
  · refine (Bindings.value?_foldl (by rwa [hfirst]) table name v).trans ?_
    constructor
    · rintro ⟨⟨c, w⟩, hp, rfl, rfl, rfl⟩
      obtain ⟨n, hc, hw⟩ := (hzip c w).1 hp
      exact ⟨n, c.kind, _, hc, hrow, hw⟩
    · rintro ⟨n, kind, values, hc, hvalues, hv⟩
      obtain rfl := Option.some.inj (hrow.symm.trans hvalues)
      exact ⟨(⟨table, name, kind⟩, v), (hzip _ v).2 ⟨n, hc, hv⟩, rfl, rfl, rfl⟩

theorem Typed.isList (h : page.Typed columns) (hroom : page.rowCount ≤ page.capacity)
    (hunique : columns.Unique) (hdots : columns.DotFree) : page.IsList columns := by
  obtain rfl := h.columns_eq
  exact {
    columns_eq := rfl
    rowCount_le := hroom
    typed := h.rows
    append_iff := fun _ _ => append_eq_ok_iff
    setRow_iff := fun _ _ _ => setRow_eq_ok_iff
    setValue_iff := fun _ _ _ _ _ htable => setValue_eq_ok_iff hunique hdots htable
    value_iff := fun _ _ _ _ htable => value_eq_ok_iff h hunique hdots htable
    cell := fun _ hi _ hc => h.cell hi hc
    bindRow_eq := fun _ hi => h.bindRow_eq hunique hi
    refused := fun i hi table name v values vars alias? => by
      have hrow := row_of_le hi
      simp [value, bindRow, RowPage.setRow, RowPage.setValue, hrow, bind, Except.bind] }

theorem Built.rowCount_le (h : Built columns page) : page.rowCount ≤ page.capacity := by
  induction h with
  | new => exact Nat.le_refl 0
  | init _ _ _ => exact Nat.zero_le _
  | reset _ _ => exact Nat.zero_le _
  | append _ hpage ih =>
    obtain ⟨-, hroom, rfl⟩ := append_eq_ok_iff.1 hpage
    simpa [rowCount] using Nat.succ_le_of_lt hroom
  | setRow _ hpage ih =>
    obtain ⟨-, -, rfl⟩ := setRow_eq_ok_iff.1 hpage
    simpa [rowCount] using ih
  | setValue _ hpage ih =>
    obtain ⟨values, -, hrest⟩ := bind_eq_ok.1 hpage
    obtain ⟨p, -, hrest⟩ := bind_eq_ok.1 hrest
    obtain ⟨_, -, hnext⟩ := bind_eq_ok.1 hrest
    obtain rfl := Except.ok.inj hnext
    simpa [rowCount] using ih

end RowPage

namespace SlotPage

variable {columns : Columns}

/-- A page of slots shows a page: every change of the one is a change of the other, and what is
read from the one is read from the other. -/
structure Shows (columns : Columns) (s : SlotPage) (page : RowPage) : Prop where
  view_eq : s.view = page
  mirrors (step : PageStep) :
    s.Mirrors columns step.onSlots (step.answer page) (step.onPage page)
  value_eq (i : Nat) (table name : String) : s.value i table name = page.value i table name
  bindRow_eq (i : Nat) (vars : Bindings) (table : Option String) :
    s.bindRow i vars table = page.bindRow i vars table

theorem Laid.shows {s : SlotPage} (h : s.Laid columns) (htyped : s.view.Typed columns) :
    s.Shows columns s.view :=
  ⟨rfl, h.mirrors_step, h.value_eq htyped, h.bindRow_eq⟩

/-- Whatever changes are made of a page, and whichever of them fail, its slots show a list of
rows: the list that the changes make of the empty list. Changes before a reset or before new
slots are made have no part in that list. -/
theorem run_isList (hunique : columns.Unique) (hdots : columns.DotFree) (steps : List PageStep) :
    ((ofColumns columns).run steps).Shows columns ((RowPage.ofColumns columns).run steps) ∧
      ((RowPage.ofColumns columns).run steps).IsList columns ∧
      (∀ before after, steps = before ++ .reset :: after →
        (RowPage.ofColumns columns).run steps =
          RowPage.run ⟨columns, [], ((ofColumns columns).run before).slots.length⟩ after) ∧
      ∀ before capacity after, steps = before ++ .init capacity :: after →
        (RowPage.ofColumns columns).run steps = RowPage.run ⟨columns, [], capacity⟩ after := by
  have hbuilt (steps : List PageStep) :
      ((RowPage.ofColumns columns).run steps).Built columns := RowPage.Built.new.run steps
  have hview (steps : List PageStep) :
      ((ofColumns columns).run steps).view = (RowPage.ofColumns columns).run steps :=
    ((laid_ofColumns columns).view_run steps).1
  have hlaid := ((laid_ofColumns columns).view_run steps).2
  have htyped := (hbuilt steps).typed
  refine ⟨?_, htyped.isList (hbuilt steps).rowCount_le hunique hdots, ?_, ?_⟩
  · rw [← hview] at htyped ⊢
    exact hlaid.shows htyped
  · rintro before after rfl
    have hcolumns := (hbuilt before).typed.columns_eq
    have hcapacity : ((RowPage.ofColumns columns).run before).capacity =
        ((ofColumns columns).run before).slots.length := by
      rw [← hview]
      rfl
    have hreset : PageStep.next ((RowPage.ofColumns columns).run before) .reset =
        ⟨columns, [], ((ofColumns columns).run before).slots.length⟩ := by
      rw [← hcapacity]
      exact congrArg (fun cs => (⟨cs, [], _⟩ : RowPage)) hcolumns
    rw [RowPage.run_append, ← hreset]
    rfl
  · rintro before capacity after rfl
    have hcolumns := (hbuilt before).typed.columns_eq
    have hinit : PageStep.next ((RowPage.ofColumns columns).run before) (.init capacity) =
        ⟨columns, [], capacity⟩ := congrArg (fun cs => (⟨cs, [], capacity⟩ : RowPage)) hcolumns
    rw [RowPage.run_append, ← hinit]
    rfl

end SlotPage

namespace PageSample

/-! Two rows are appended, and one more after a reset. The second slot keeps its old row. -/

def columns : Columns :=
  Columns.ofList [⟨"r", "id", .int⟩, ⟨"r", "name", .text⟩, ⟨"l", "name", .text⟩]

def steps : List PageStep :=
  [.init 2, .append [.int 1, .text "a", .text "b"], .append [.int 2],
    .append [.int 2, .text "c", .text "d"], .append [.int 3, .text "e", .text "f"], .reset,
    .append [.int 4, .text "g", .text "h"], .setValue 0 "l" "name" (.text "i"),
    .setRow 1 [.int 5, .text "j", .text "k"]]

theorem run_isList_reused :
    columns.Unique ∧ columns.DotFree ∧
      ((RowPage.ofColumns columns).run steps).IsList columns ∧
      ((SlotPage.ofColumns columns).run steps).Shows columns
        ((RowPage.ofColumns columns).run steps) ∧
      ((SlotPage.ofColumns columns).run steps).slots =
        [[.int 4, .text "g", .text "i"], [.int 2, .text "c", .text "d"]] ∧
      ((RowPage.ofColumns columns).run steps).rows = [[.int 4, .text "g", .text "i"]] ∧
      ((SlotPage.ofColumns columns).run steps).value 0 "l" "name" = .ok (.text "i") ∧
      ((SlotPage.ofColumns columns).run steps).value 1 "l" "name" = .error (.noRow 1 1) := by
  have hunique : columns.Unique := Columns.unique_ofList _
  have hdots : columns.DotFree := by
    unfold Columns.DotFree
    decide
  obtain ⟨hshows, hlist, -, -⟩ := SlotPage.run_isList hunique hdots steps
  have hrows : ((RowPage.ofColumns columns).run steps).rows =
      [[.int 4, .text "g", .text "i"]] := by decide +kernel
  refine ⟨hunique, hdots, hlist, hshows, by decide +kernel, hrows, ?_, ?_⟩
  · rw [hshows.value_eq, hlist.value_iff 0 "l" "name" (.text "i") (by decide)]
    exact ⟨2, .text, _, by rw [hlist.columns_eq]; rfl, by rw [hrows]; rfl, rfl⟩
  · rw [hshows.value_eq]
    have hcount : ((RowPage.ofColumns columns).run steps).rowCount = 1 := by
      rw [RowPage.rowCount, hrows]
      rfl
    have hrefused := hlist.refused 1 (Nat.le_of_eq hcount) "l" "name" (.int 0) [] [] none
    rw [hrefused.1, hcount]

/-- An alias with a dot finds a column of another alias. -/
example : RowPage.value ⟨[⟨"a", "b.c", .int⟩], [[.int 7]], 1⟩ 0 "a.b" "c" = .ok (.int 7) :=
  rfl

end PageSample
end TableMill
