import TableMill.Proofs.ColumnLists
import TableMill.Proofs.NestedLoop

/-!
# Pages of stored rows

A page that was filled with stored rows gives back what the rows hold.
-/

namespace TableMill

/-- What a page holds of a row in a column: its id in the column of ids. -/
def Row.pagedIn (r : Row) (c : Column) : Value :=
  if c.name = rowidName then .int r.rowid else r.valueIn c

theorem Row.valuesFor_eq (r : Row) (columns : Columns) :
    r.valuesFor columns = columns.map r.pagedIn := rfl

theorem Row.pagedIn_of_ne {r : Row} {c : Column} (h : c.name ≠ rowidName) :
    r.pagedIn c = r.valueIn c :=
  if_neg h

namespace RowPage

def ofRows (columns : Columns) (capacity : Nat) (rows : List Row) : RowPage :=
  ⟨columns, rows.map fun r => r.valuesFor columns, capacity⟩

variable {columns : Columns} {capacity : Nat} {rows : List Row} {i : Nat} {r : Row}

@[simp] theorem rowCount_ofRows : (ofRows columns capacity rows).rowCount = rows.length := by
  simp [ofRows, rowCount]

theorem checkKinds_valuesFor (h : ∀ c ∈ columns, (r.pagedIn c).kind = c.kind) :
    checkKinds columns (r.valuesFor columns) = .ok () := by
  rw [Row.valuesFor_eq]
  induction columns with
  | nil => rfl
  | cons c cs ih =>
    have hc : checkKind c (r.pagedIn c) = .ok () := if_pos (h c List.mem_cons_self)
    rw [List.map_cons, checkKinds, hc]
    exact ih fun d hd => h d (List.mem_cons_of_mem _ hd)

theorem append_ofRows (h : ∀ c ∈ columns, (r.pagedIn c).kind = c.kind)
    (hroom : rows.length < capacity) :
    (ofRows columns capacity rows).append (r.valuesFor columns) =
      .ok (ofRows columns capacity (rows ++ [r])) := by
  have hcheck : (ofRows columns capacity rows).checkRow (r.valuesFor columns) = .ok () := by
    rw [checkRow, if_neg (by simp [ofRows, Row.valuesFor])]
    exact checkKinds_valuesFor h
  have hroom' : (ofRows columns capacity rows).rowCount <
      (ofRows columns capacity rows).capacity := by
    rw [rowCount_ofRows]
    exact hroom
  refine bind_eq_ok.2 ⟨(), hcheck, ?_⟩
  rw [if_pos hroom']
  simp [ofRows]

theorem fill_ofRows {more : List Row}
    (h : ∀ r ∈ more, ∀ c ∈ columns, (r.pagedIn c).kind = c.kind)
    (hroom : rows.length + more.length ≤ capacity) :
    (ofRows columns capacity rows).fill more = .ok (ofRows columns capacity (rows ++ more)) := by
  induction more generalizing rows with
  | nil => simp [fill, pure, Except.pure]
  | cons r rest ih =>
    have hlt : rows.length < capacity := by
      simp only [List.length_cons] at hroom
      omega
    have happend := append_ofRows (h r List.mem_cons_self) hlt
    have hroom' : (rows ++ [r]).length + rest.length ≤ capacity := by
      simp only [List.length_cons, List.length_append, List.length_nil] at hroom ⊢
      omega
    have hrest := ih (fun q hq => h q (List.mem_cons_of_mem _ hq)) hroom'
    unfold fill at *
    rw [List.foldlM_cons]
    refine bind_eq_ok.2 ⟨_, happend, ?_⟩
    simpa using hrest

theorem row_ofRows (h : rows[i]? = some r) :
    (ofRows columns capacity rows).row i = .ok (r.valuesFor columns) := by
  simp [row, ofRows, h]

theorem bindRow_ofRows (h : rows[i]? = some r) :
    (ofRows columns capacity rows).bindRow i [] none = .ok (columns.bindBy r.pagedIn) := by
  refine bind_eq_ok.2 ⟨_, row_ofRows h, ?_⟩
  have hzip : columns.zip (r.valuesFor columns) = columns.map fun c => (c, r.pagedIn c) := by
    conv_lhs => rw [Row.valuesFor_eq, ← List.map_id columns, List.map_map]
    exact List.zip_map'
  show Except.ok (List.foldl _ _ (columns.zip (r.valuesFor columns))) = _
  rw [hzip, List.foldl_map]
  rfl

theorem rowid_ofRows {table : String} {cs : Columns} (h : rows[i]? = some r) :
    (ofRows (.rowid table :: cs) capacity rows).rowid i = .ok r.rowid := by
  refine bind_eq_ok.2 ⟨_, row_ofRows h, ?_⟩
  simp [ofRows, Row.valuesFor, Column.rowid]

theorem placeOf_spec {path : String} {n : Nat} (h : placeOf path columns = some n) :
    ∃ d, columns[n]? = some d ∧ d.path = path := by
  induction columns generalizing n with
  | nil => simp [placeOf] at h
  | cons c cs ih =>
    simp only [placeOf] at h
    split at h
    · next m hm =>
      obtain rfl := Option.some.inj h
      simpa using ih hm
    · split at h
      · next hpath =>
        obtain rfl := Option.some.inj h
        exact ⟨c, rfl, hpath⟩
      · simp at h

theorem placeOf_isSome {c : Column} (hc : c ∈ columns) : ∃ n, placeOf c.path columns = some n := by
  induction columns with
  | nil => simp at hc
  | cons d cs ih =>
    simp only [placeOf]
    rcases List.mem_cons.1 hc with rfl | hc
    · cases placeOf c.path cs with
      | none => exact ⟨0, by simp⟩
      | some n => exact ⟨n + 1, rfl⟩
    · obtain ⟨n, hn⟩ := ih hc
      exact ⟨n + 1, by rw [hn]⟩

theorem value_ofRows {c : Column} (h : rows[i]? = some r) (hc : c ∈ columns)
    (htable : ∀ d ∈ columns, d.table = c.table) (hdistinct : columns.Distinct) :
    (ofRows columns capacity rows).value i c.table c.name = .ok (r.pagedIn c) := by
  obtain ⟨n, hn⟩ := placeOf_isSome hc
  obtain ⟨d, hd, hpath⟩ := placeOf_spec hn
  have hmem : d ∈ columns := List.mem_of_getElem? hd
  have hname : d.name = c.name := by
    simpa [Column.path, htable d hmem, String.append_right_inj] using hpath
  obtain rfl : d = c := hdistinct d hmem c hc (htable d hmem) hname
  have hplace : (ofRows columns capacity rows).columnAt d.table d.name = .ok (n, d) := by
    have hplace : (ofRows columns capacity rows).place? d.table d.name = some n := hn
    have hget : (ofRows columns capacity rows).columns[n]? = some d := hd
    simp [columnAt, hplace, hget]
  refine bind_eq_ok.2 ⟨_, row_ofRows h, bind_eq_ok.2 ⟨_, hplace, ?_⟩⟩
  simp [Row.valuesFor_eq, List.getD_eq_getElem?_getD, hd]

end RowPage
end TableMill
