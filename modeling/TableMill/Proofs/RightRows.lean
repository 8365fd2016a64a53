import TableMill.Proofs.Arrivals
import TableMill.Proofs.Listing
import TableMill.Proofs.StoredPage

/-!
# Right rows of a page

The keys of the left rows are looked up chunk by chunk, and the right rows under them are read
chunk by chunk in the order of their ids. At every left row arrive exactly the rows that the
index lists under its key, by id.
-/

namespace TableMill

def ById (rows : List Row) : Prop := rows.Pairwise fun a b => a.rowid < b.rowid

theorem ById.ext {rows rows' : List Row} (h : ById rows) (h' : ById rows')
    (hmem : ∀ r, r ∈ rows ↔ r ∈ rows') : rows = rows' := by
  have hasymm : ∀ a b : Row, a.rowid < b.rowid → b.rowid < a.rowid → a = b :=
    fun a b hab hba => absurd (Int64.lt_trans hab hba) Int64.lt_irrefl
  have : Std.Antisymm fun a b : Row => a.rowid < b.rowid := ⟨hasymm⟩
  have : Std.Irrefl fun a b : Row => a.rowid < b.rowid := ⟨fun _ => Int64.lt_irrefl⟩
  exact List.Pairwise.eq_of_mem_iff h h' hmem

theorem ById.mergeSort {rows : List Row} (h : ById rows) :
    (rows.mergeSort fun a b => a.rowid ≤ b.rowid) = rows :=
  List.mergeSort_of_pairwise (h.imp fun hab => by simpa using Int64.le_of_lt hab)

namespace StoredTable

variable {t : StoredTable}

theorem Rising.rowid_ne {rows : List Row} (h : Rising rows) :
    rows.Pairwise fun a b => a.rowid ≠ b.rowid := by
  refine List.Pairwise.imp (fun {a b} hab hid => ?_) h
  have htoken : a.token = b.token := congrArg tokenOf hid
  exact absurd htoken (Int.ne_of_lt hab)

theorem Rising.eq_of_rowid {rows : List Row} (h : Rising rows) {a b : Row} (ha : a ∈ rows)
    (hb : b ∈ rows) (hid : a.rowid = b.rowid) : a = b := by
  have hnodup : (rows.map Row.rowid).Nodup := List.pairwise_map.2 h.rowid_ne
  exact List.inj_on_of_nodup_map hnodup ha hb hid

theorem row?_eq_some_iff (h : Rising t.rows) {rowid : Int64} {r : Row} :
    t.row? rowid = some r ↔ r ∈ t.rows ∧ r.rowid = rowid := by
  constructor
  · intro hr
    exact ⟨List.mem_of_find?_eq_some hr, by simpa using List.find?_some hr⟩
  · rintro ⟨hr, rfl⟩
    cases hfind : t.row? r.rowid with
    | none => simpa using List.find?_eq_none.1 hfind r hr
    | some q =>
      have hq : q.rowid = r.rowid := by simpa using List.find?_some hfind
      rw [h.eq_of_rowid (List.mem_of_find?_eq_some hfind) hr hq]

theorem byId_rowsById (h : Rising t.rows) : ById t.rowsById := by
  have hsorted : t.rowsById.Pairwise fun a b => decide (a.rowid ≤ b.rowid) = true :=
    List.pairwise_mergeSort (fun a b c hab hbc => by
      simp only [decide_eq_true_eq] at *
      exact Int64.le_trans hab hbc) (fun a b => by simpa using Int64.le_total a.rowid b.rowid) _
  have hperm : t.rowsById.Perm t.rows := List.mergeSort_perm _ _
  have hne : t.rowsById.Pairwise fun a b => a.rowid ≠ b.rowid := by
    exact (hperm.pairwise_iff fun hab h => hab h.symm).2 h.rowid_ne
  exact (hsorted.and hne).imp fun {a b} ⟨hle, hid⟩ => by
    have hle' := Int64.le_iff_toInt_le.1 (of_decide_eq_true hle)
    have hne' : a.rowid.toInt ≠ b.rowid.toInt := fun h => hid (Int64.toInt_inj.1 h)
    rw [Int64.lt_iff_toInt_lt]
    omega

theorem mem_rowsById {r : Row} : r ∈ t.rowsById ↔ r ∈ t.rows :=
  (List.mergeSort_perm _ _).mem_iff

theorem byId_filterMap_row? {ids : List Int64} (h : ids.Pairwise (· < ·)) :
    ById (ids.filterMap t.row?) := by
  refine List.Pairwise.filterMap _ ?_ h
  intro a b hab r hr q hq
  have hra : r.rowid = a := by simpa using List.find?_some (Option.mem_def.1 hr)
  have hqb : q.rowid = b := by simpa using List.find?_some (Option.mem_def.1 hq)
  rw [hra, hqb]
  exact hab

end StoredTable

namespace Join

open ReadM

variable {σ : Type} {I : σ → Prop} {b : Backend σ} {s : Store} {left : String} {j : Join}
  {right : StoredTable} {ix : StoredIndex} {columns : Columns} {capacity : Nat}
  {keyOf : List (Int64 × String)} {places : Assoc (List Nat)}

/-- A join reads from a storage that answers like a store in which the right table and the
lookup index are in order. -/
structure Reads (j : Join) (I : σ → Prop) (b : Backend σ) (s : Store) (left : String)
    (right : StoredTable) (ix : StoredIndex) : Prop where
  answers : b.Answers I s left j.lookup.right.name j.lookup.indexName
  table_eq : s.table j.lookup.right.name = .ok right
  index_eq : s.index j.lookup.indexName = .ok ix
  rising : StoredTable.Rising right.rows
  nodup (key : String) : (ix.idsOf key).Nodup
  single : ix.Single
  pageSize_pos : 0 < j.lookup.indexPageSize

def arrival (columns : Columns) (keyOf : List (Int64 × String)) (places : Assoc (List Nat))
    (r : Row) : Option Arrival :=
  ((List.lookup r.rowid keyOf).bind fun key => places.get? key).map fun lefts =>
    ⟨lefts, columns.bindBy r.pagedIn, r.rowid⟩

def arrivals (right : StoredTable) (columns : Columns) (keyOf : List (Int64 × String))
    (places : Assoc (List Nat)) (ids : List Int64) : List Arrival :=
  (ids.filterMap right.row?).filterMap (arrival columns keyOf places)

theorem arrivals_flatten (css : List (List Int64)) :
    css.flatMap (arrivals right columns keyOf places) =
      arrivals right columns keyOf places css.flatten := by
  induction css with
  | nil => rfl
  | cons ids rest ih =>
    simp only [List.flatMap_cons, List.flatten_cons, ih, arrivals, List.filterMap_append]

theorem rightRows_ofRows {table : String} {cs : Columns} {rows : List Row} {is : List Nat}
    {arriving : List Row} (h : List.Forall₂ (fun i r => rows[i]? = some r) is arriving)
    (p : JoinPage) :
    j.rightRows keyOf places (.ofRows (.rowid table :: cs) capacity rows) is p =
      .ok (j.arriveAll p (arriving.filterMap (arrival (.rowid table :: cs) keyOf places))) := by
  induction h generalizing p with
  | nil => rfl
  | @cons i r is arriving hr _ ih =>
    have hid : (RowPage.ofRows (.rowid table :: cs) capacity rows).rowid i = _ :=
      RowPage.rowid_ofRows hr
    have hbind : (RowPage.ofRows (.rowid table :: cs) capacity rows).bindRow i [] none = _ :=
      RowPage.bindRow_ofRows hr
    rw [List.filterMap_cons]
    cases hlefts : (List.lookup r.rowid keyOf).bind fun key => places.get? key with
    | none => simp [rightRows, hid, hlefts, arrival, ofTable, bind, Except.bind, ih]
    | some lefts =>
      simp [rightRows, hid, hbind, hlefts, arrival, ofTable, bind, Except.bind, ih, arriveAll_cons]

/-- The rows of a chunk of ids arrive in the order of their ids. -/
theorem dataChunk_yields {table : String} {cs : Columns}
    (hb : b.Answers I s left j.lookup.right.name j.lookup.indexName)
    (hright : s.table j.lookup.right.name = .ok right)
    (htyped : ∀ r ∈ right.rows, ∀ c ∈ Column.rowid table :: cs, (r.pagedIn c).kind = c.kind)
    {ids : List Int64} (hids : ids.Pairwise (· < ·)) (hlength : ids.length ≤ capacity)
    (p : JoinPage) :
    let as := arrivals right (.rowid table :: cs) keyOf places ids
    Yields I (j.dataChunk b (.ofRows (.rowid table :: cs) capacity []) keyOf places ids p)
      (.ok (j.arriveAll p as).1) (j.arriveAll p as).2 := by
  intro as
  have hcount : (ids.filterMap right.row?).length ≤ capacity :=
    (List.length_filterMap_le _ _).trans hlength
  have hread : Yields I (ReadM.call (b.dataPage j.lookup.right.name ids capacity))
      (.ok (ids.filterMap right.row?)) [] := by
    refine yields_call fun m hm => ?_
    obtain ⟨m', hm', hread⟩ := hb.dataPage hm ids capacity
    refine ⟨m', hm', ?_⟩
    rw [hread, Store.dataPage, hright]
    show (Except.ok ((ids.filterMap right.row?).take capacity), m') = _
    rw [List.take_of_length_le hcount]
  have hsorted := (StoredTable.byId_filterMap_row? (t := right) hids).mergeSort
  have hfound : ∀ r ∈ ids.filterMap right.row?, r ∈ right.rows := by
    intro r hr
    obtain ⟨n, -, hn⟩ := List.mem_filterMap.1 hr
    exact List.mem_of_find?_eq_some hn
  have hfill : (RowPage.ofRows (.rowid table :: cs) capacity []).fill (ids.filterMap right.row?) =
      .ok (.ofRows (.rowid table :: cs) capacity (ids.filterMap right.row?)) :=
    RowPage.fill_ofRows (fun r hr => htyped r (hfound r hr)) (by simpa using hcount)
  have hfilled : ofTable ((RowPage.ofRows (.rowid table :: cs) capacity []).fill
      ((ids.filterMap right.row?).mergeSort fun a b => a.rowid ≤ b.rowid)) =
      .ok (.ofRows (.rowid table :: cs) capacity (ids.filterMap right.row?)) := by
    rw [hsorted, hfill]
    rfl
  have hrows : List.Forall₂ (fun i r => (ids.filterMap right.row?)[i]? = some r)
      (List.range (ids.filterMap right.row?).length) (ids.filterMap right.row?) := by
    refine List.forall₂_iff_get.2 ⟨List.length_range, fun i _ hi => ?_⟩
    simp
  have harrive : j.rightRows keyOf places (.ofRows (.rowid table :: cs) capacity
      (ids.filterMap right.row?)) (List.range (ids.filterMap right.row?).length) p =
      .ok (j.arriveAll p as) := rightRows_ofRows hrows p
  refine yields_seq hread (yields_seq (yields_lift hfilled) ?_)
  rw [RowPage.rowCount_ofRows]
  refine yields_seq (yields_lift harrive) ?_
  exact yields_hand_seq (yields_pure _)

theorem foldlM_yields {α : Type} {step : JoinPage → α → ReadM σ JoinPage}
    {arriving : α → List Arrival} {cs : List α}
    (h : ∀ p, ∀ c ∈ cs, Yields I (step p c) (.ok (j.arriveAll p (arriving c)).1)
      (j.arriveAll p (arriving c)).2) (p : JoinPage) :
    Yields I (cs.foldlM step p) (.ok (j.arriveAll p (cs.flatMap arriving)).1)
      (j.arriveAll p (cs.flatMap arriving)).2 := by
  induction cs generalizing p with
  | nil => exact yields_pure p
  | cons c rest ih =>
    have hrest := ih (fun q d hd => h q d (List.mem_cons_of_mem _ hd)) (j.arriveAll p (arriving c)).1
    rw [List.foldlM_cons, List.flatMap_cons, arriveAll_append]
    exact yields_bind (h p c List.mem_cons_self) hrest

def arrivalsUnder (right : StoredTable) (ix : StoredIndex) (columns : Columns)
    (places : Assoc (List Nat)) (keys : List String) : List Arrival :=
  arrivals right columns (ix.keysOf keys) places ((ix.keysOf keys).map Prod.fst)

theorem keyChunk_yields {table : String} {cs : Columns} (hj : j.Reads I b s left right ix)
    (htyped : ∀ r ∈ right.rows, ∀ c ∈ Column.rowid table :: cs, (r.pagedIn c).kind = c.kind)
    (hcapacity : 0 < capacity) {keys : List String} (hkeys : keys.Nodup) (p : JoinPage) :
    let as := arrivalsUnder right ix (.rowid table :: cs) places keys
    Yields I (j.keyChunk b (.ofRows (.rowid table :: cs) capacity []) places keys p)
      (.ok (j.arriveAll p as).1) (j.arriveAll p as).2 := by
  intro as
  have hlist := list_yields hj.answers hj.index_eq hj.pageSize_pos hj.nodup (hj.single.under keys)
    hkeys
  have hrising : ((ix.keysOf keys).map Prod.fst).Pairwise (· < ·) :=
    List.pairwise_map.2 (StoredIndex.collected_keysOf keys)
  have hchunk : ∀ q, ∀ ids ∈ chunks capacity ((ix.keysOf keys).map Prod.fst),
      Yields I (j.dataChunk b (.ofRows (.rowid table :: cs) capacity []) (ix.keysOf keys) places
          ids q)
        (.ok (j.arriveAll q (arrivals right (.rowid table :: cs) (ix.keysOf keys) places ids)).1)
        (j.arriveAll q (arrivals right (.rowid table :: cs) (ix.keysOf keys) places ids)).2 := by
    intro q ids hmem
    have hsub : ids.Sublist ((ix.keysOf keys).map Prod.fst) := by
      rw [← chunks_flatten hcapacity ((ix.keysOf keys).map Prod.fst)]
      exact List.sublist_flatten_of_mem hmem
    exact dataChunk_yields hj.answers hj.table_eq htyped (hrising.sublist hsub)
      (length_le_of_mem_chunks hmem) q
  have hchunks := foldlM_yields hchunk p
  rw [arrivals_flatten, chunks_flatten hcapacity] at hchunks
  exact yields_seq hlist hchunks

/-! ## At one left row -/

variable {i : Nat} {key : String} {lefts : List Nat}

def arrivalAt (columns : Columns) (lefts : List Nat) (r : Row) : Arrival :=
  ⟨lefts, columns.bindBy r.pagedIn, r.rowid⟩

/-- At a left row arrive the rows under its key. -/
theorem arrivalsAt_filterMap (hkey : places.get? key = some lefts) (hi : i ∈ lefts)
    (hother : ∀ k ks, places.get? k = some ks → i ∈ ks → k = key) (rows : List Row) :
    arrivalsAt i (rows.filterMap (arrival columns keyOf places)) =
      (rows.filter fun r => List.lookup r.rowid keyOf = some key).map (arrivalAt columns lefts) := by
  induction rows with
  | nil => rfl
  | cons r rest ih =>
    rw [List.filterMap_cons, List.filter_cons]
    cases hfound : List.lookup r.rowid keyOf with
    | none => simp [arrival, hfound, ih]
    | some k =>
      by_cases hk : k = key
      · subst hk
        simp [arrival, hfound, hkey, ih, arrivalsAt_cons, hi, arrivalAt]
      · cases hks : places.get? k with
        | none => simp [arrival, hfound, hks, ih, hk]
        | some ks =>
          have hnot : i ∉ ks := fun h => hk (hother k ks hks h)
          simp [arrival, hfound, hks, ih, hk, arrivalsAt_cons, hnot]

/-- Of the rows that a chunk of keys leads to, those under one key are the listed ones. -/
theorem rows_under_key (hrise : StoredTable.Rising right.rows)
    (hids : ∀ key, (ix.idsOf key).Nodup) (hsingle : ix.Single) {keys : List String}
    (hkeys : keys.Nodup) (key : String) :
    ((((ix.keysOf keys).map Prod.fst).filterMap right.row?).filter fun r =>
        List.lookup r.rowid (ix.keysOf keys) = some key) =
      if key ∈ keys then Lookup.listed right ix key else [] := by
  have hlookup : ∀ r : Row, List.lookup r.rowid (ix.keysOf keys) = some key ↔
      key ∈ keys ∧ r.rowid ∈ ix.idsOf key := fun r =>
    (StoredIndex.lookup_eq_some_iff (StoredIndex.collected_keysOf keys)).trans
      (StoredIndex.mem_keysOf hids (hsingle.under keys) hkeys)
  by_cases hmem : key ∈ keys
  · rw [if_pos hmem]
    have hrising : ((ix.keysOf keys).map Prod.fst).Pairwise (· < ·) :=
      List.pairwise_map.2 (StoredIndex.collected_keysOf keys)
    refine ById.ext ((StoredTable.byId_filterMap_row? hrising).filter _)
      ((StoredTable.byId_rowsById hrise).filter _) fun r => ?_
    simp only [Lookup.listed, List.mem_filter, List.mem_filterMap, decide_eq_true_eq, hlookup,
      StoredTable.row?_eq_some_iff hrise, StoredTable.mem_rowsById, List.contains_iff_mem]
    constructor
    · rintro ⟨⟨n, -, hr, -⟩, -, hn⟩
      exact ⟨hr, hn⟩
    · rintro ⟨hr, hn⟩
      refine ⟨⟨r.rowid, ?_, hr, rfl⟩, hmem, hn⟩
      exact List.mem_map.2 ⟨(r.rowid, key),
        (StoredIndex.mem_keysOf hids (hsingle.under keys) hkeys).2 ⟨hmem, hn⟩,
        rfl⟩
  · rw [if_neg hmem]
    refine List.filter_eq_nil_iff.2 fun r _ => ?_
    simp only [decide_eq_true_eq, hlookup]
    exact fun h => hmem h.1

theorem arrivalsAt_flatMap {α : Type} (i : Nat) (f : α → List Arrival) (xs : List α) :
    arrivalsAt i (xs.flatMap f) = xs.flatMap fun x => arrivalsAt i (f x) := by
  induction xs with
  | nil => rfl
  | cons x rest ih => simp only [List.flatMap_cons, arrivalsAt_append, ih]

/-- However the keys are cut into chunks, at a left row arrive the rows that the index lists
under its key, once and by id. -/
theorem arrivalsAt_chunks (hrise : StoredTable.Rising right.rows)
    (hids : ∀ key, (ix.idsOf key).Nodup) (hsingle : ix.Single) (hkey : places.get? key = some lefts)
    (hi : i ∈ lefts) (hother : ∀ k ks, places.get? k = some ks → i ∈ ks → k = key)
    {css : List (List String)} (hnodup : css.flatten.Nodup) :
    arrivalsAt i (css.flatMap (arrivalsUnder right ix columns places)) =
      if key ∈ css.flatten then (Lookup.listed right ix key).map (arrivalAt columns lefts)
      else [] := by
  rw [arrivalsAt_flatMap]
  induction css with
  | nil => rfl
  | cons keys rest ih =>
    rw [List.flatten_cons] at hnodup
    obtain ⟨hkeys, hrest, hdisjoint⟩ := List.nodup_append.1 hnodup
    have hhead : arrivalsAt i (arrivalsUnder right ix columns places keys) =
        if key ∈ keys then (Lookup.listed right ix key).map (arrivalAt columns lefts) else [] := by
      rw [arrivalsUnder, arrivals, arrivalsAt_filterMap hkey hi hother,
        rows_under_key hrise hids hsingle hkeys]
      split <;> rfl
    rw [List.flatMap_cons, hhead, ih hrest, List.flatten_cons]
    by_cases hmem : key ∈ keys
    · have hnot : key ∉ rest.flatten := fun h => hdisjoint key hmem key h rfl
      simp [hmem, hnot]
    · simp [hmem]

theorem places_of_mem_chunks {css : List (List String)} {a : Arrival}
    (ha : a ∈ css.flatMap (arrivalsUnder right ix columns places)) :
    ∃ k, places.get? k = some a.places := by
  obtain ⟨keys, -, ha⟩ := List.mem_flatMap.1 ha
  obtain ⟨r, -, ha⟩ := List.mem_filterMap.1 ha
  obtain ⟨ks, hks, rfl⟩ := Option.map_eq_some_iff.1 ha
  obtain ⟨k, -, hk⟩ := Option.bind_eq_some_iff.1 hks
  exact ⟨k, hk⟩

theorem arrivalsAt_nowhere (hnone : ∀ k ks, places.get? k = some ks → i ∉ ks)
    (css : List (List String)) :
    arrivalsAt i (css.flatMap (arrivalsUnder right ix columns places)) = [] := by
  refine List.filter_eq_nil_iff.2 fun a ha => ?_
  obtain ⟨k, hk⟩ := places_of_mem_chunks ha
  simpa using hnone k a.places hk

theorem placed_chunks {count : Nat}
    (hplaces : ∀ k ks, places.get? k = some ks → ks.Nodup ∧ ks ≠ [] ∧ ∀ i ∈ ks, i < count)
    (css : List (List String)) :
    Placed count (css.flatMap (arrivalsUnder right ix columns places)) ∧
      ∀ a ∈ css.flatMap (arrivalsUnder right ix columns places), a.places ≠ [] := by
  refine ⟨fun a ha => ?_, fun a ha => ?_⟩
  · obtain ⟨k, hk⟩ := places_of_mem_chunks ha
    exact ⟨(hplaces k _ hk).1, (hplaces k _ hk).2.2⟩
  · obtain ⟨k, hk⟩ := places_of_mem_chunks ha
    exact (hplaces k _ hk).2.1

end Join
end TableMill
