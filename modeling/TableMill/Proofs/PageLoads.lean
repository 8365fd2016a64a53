import TableMill.Batch.PageLoad
import TableMill.Proofs.Chunks
import TableMill.Proofs.LeftScan
import TableMill.Proofs.PageLists
import TableMill.Proofs.TokenStores

/-!
# Loading the rows of a range

Page after page, a scan loads the rows with a token in its range, each of them once and in the order
of tokens, and of the page before it nothing is left. The scan that processes its pages as it reads
them processes these pages.
-/

namespace TableMill

/-! ## The values of a row -/

/-- Under distinct names no column takes the value of another one. -/
theorem Record.takeFor_eq (rowid : Int64) {columns : Columns} (values : Record)
    (h : (columns.map Column.name).Nodup) :
    values.takeFor rowid columns = Row.valuesFor ⟨rowid, values⟩ columns := by
  induction columns generalizing values with
  | nil => rfl
  | cons c cs ih =>
    obtain ⟨hnew, hcs⟩ := List.nodup_cons.1 h
    rw [takeFor, Row.valuesFor_eq, List.map_cons, ← Row.valuesFor_eq]
    by_cases hc : c.name = rowidName
    · rw [if_pos hc, ih values hcs, Row.pagedIn, if_pos hc]
    · have hothers : Row.valuesFor ⟨rowid, Assoc.erase values c.name⟩ cs =
          Row.valuesFor ⟨rowid, values⟩ cs := by
        refine List.map_congr_left fun d hd => ?_
        have hne : c.name ≠ d.name := fun he => hnew (he ▸ List.mem_map_of_mem hd)
        rw [Assoc.get?_erase, if_neg hne]
      rw [if_neg hc, ih _ hcs, hothers, Row.pagedIn_of_ne hc]
      rfl

theorem Row.taken_eq_valuesFor {columns : Columns} (h : (columns.map Column.name).Nodup) (r : Row) :
    r.taken columns = r.valuesFor columns :=
  Record.takeFor_eq r.rowid r.values h

namespace RowPage

def loaded (columns : Columns) (capacity : Nat) (rows : List Row) : RowPage :=
  ⟨columns, rows.map fun r => r.taken columns, capacity⟩

theorem loaded_eq_ofRows {columns : Columns} (h : (columns.map Column.name).Nodup)
    (capacity : Nat) : loaded columns capacity = ofRows columns capacity := by
  funext rows
  rw [loaded, funext fun r => Row.taken_eq_valuesFor h r]
  rfl

theorem kinds_of_fit {columns : Columns} {r : Row} (h : columns.Fit (r.valuesFor columns)) :
    ∀ c ∈ columns, (r.pagedIn c).kind = c.kind :=
  List.forall₂_same.1 (List.forall₂_map_right_iff.1 h)

end RowPage

namespace SlotPage

variable {columns : Columns} {s : SlotPage} {rows : List Row} {α β : Type}

theorem Mirrors.seq {change : Change α} {more : α → Change β} {a : α} {answer : β}
    {page : RowPage} {result : RowPage} (h : s.Mirrors columns change a (.ok page))
    (hmore : ∀ s' : SlotPage, s'.view = page → s'.Laid columns →
      s'.Mirrors columns (more a) answer (.ok result)) :
    s.Mirrors columns (change >>= more) answer (.ok result) := by
  obtain ⟨s', hrun, hview, hlaid⟩ := h
  obtain ⟨s'', hrun', hresult⟩ := hmore s' hview hlaid
  refine ⟨s'', ?_, hresult⟩
  rw [ExceptT.run_bind, StateT.run_bind, hrun]
  exact hrun'

/-- Rows that fit are put behind the others as long as there is room. -/
theorem Laid.mirrors_load (h : s.Laid columns) (hfit : ∀ r ∈ rows, columns.Fit (r.taken columns))
    (hroom : s.view.rowCount + rows.length ≤ s.view.capacity) :
    s.Mirrors columns (load rows) ()
      (.ok { s.view with rows := s.view.rows ++ rows.map fun r => r.taken columns }) := by
  induction rows generalizing s with
  | nil => exact ⟨s, rfl, by rw [List.map_nil, List.append_nil], h⟩
  | cons r rest ih =>
    obtain ⟨hr, hrest⟩ := List.forall_mem_cons.1 hfit
    rw [List.length_cons] at hroom
    have happend : s.view.append (r.taken columns) =
        .ok { s.view with rows := s.view.rows ++ [r.taken columns] } :=
      RowPage.append_eq_ok_iff.2 ⟨h.columns_eq ▸ hr, by omega, rfl⟩
    have hfirst : s.Mirrors columns (discard (append (r.taken s.columns))) ()
        (.ok { s.view with rows := s.view.rows ++ [r.taken columns] }) := by
      rw [h.columns_eq, ← happend]
      exact (h.mirrors_append _).map fun _ => ()
    show s.Mirrors columns (discard (append (r.taken s.columns)) >>= fun _ => load rest) () (.ok _)
    refine hfirst.seq fun s' hview hlaid => ?_
    have hload := ih hlaid hrest (by
      rw [hview, RowPage.rowCount, List.length_append, List.length_singleton]
      unfold RowPage.rowCount at hroom
      dsimp only
      omega)
    rw [hview] at hload
    simpa using hload

end SlotPage

namespace LeftScan

variable {s : TokenStore} {t : TokenTable} {columns : Columns} {scan : LeftScan} {page : SlotPage}
  {pages more : List RowPage}

/-! ## One page -/

def rows (scan : LeftScan) (t : TokenTable) : List Row :=
  match scan.next with
  | none => []
  | some first => t.within ⟨first, scan.last⟩

/-- A scan of a table, and a page with as many slots as it reads rows at once. -/
structure Ready (s : TokenStore) (t : TokenTable) (columns : Columns) (scan : LeftScan)
    (page : SlotPage) : Prop where
  table : s.tables.get? scan.table = some t
  size_pos : 0 < scan.pageSize
  laid : page.Laid columns
  capacity : page.slots.length = scan.pageSize

/-- The rows behind a page are those that are left. -/
theorem rows_next (ht : t.Consistent) (hsize : 0 < scan.pageSize) {first : Int}
    (hnext : scan.next = some first) :
    rows { scan with next := nextToken scan.pageSize ((scan.rows t).take scan.pageSize) } t =
      (scan.rows t).drop scan.pageSize := by
  have hwithin (range : TokenRange) : t.within range = range.rowsOf t.view.rows :=
    ht.within_view range
  simp only [rows, hnext, hwithin]
  rcases TokenRange.nextToken_spec ht.rising_view hsize first scan.last with
    ⟨hnone, hdrop⟩ | ⟨token, hsome, -, -, hdrop⟩
  · rw [hnone, hdrop]
  · rw [hsome]
    exact hdrop

/-- A load puts the first rows that are left into the page, with nothing else, and leaves the
others. -/
theorem loadNext_step (ht : t.Consistent)
    (hfit : ∀ row, t.Stores row → columns.Fit (row.taken columns))
    (h : Ready s t columns scan page) :
    ∃ scan' page', scan.loadNext s page =
        (.ok ((scan.rows t).take scan.pageSize).length, scan', page') ∧
      page'.view = .loaded columns scan.pageSize ((scan.rows t).take scan.pageSize) ∧
      scan'.rows t = (scan.rows t).drop scan.pageSize ∧ scan'.pageSize = scan.pageSize ∧
      Ready s t columns scan' page' := by
  obtain ⟨empty, hreset, hempty, hlaid⟩ := h.laid.mirrors_reset
  have hview : empty.view = .loaded columns scan.pageSize [] := by
    rw [hempty, ← h.capacity, ← h.laid.columns_eq]
    rfl
  cases hnext : scan.next with
  | none =>
    have hrows : scan.rows t = [] := by rw [rows, hnext]
    rw [hrows, List.take_nil, List.drop_nil]
    exact ⟨scan, empty, by simp only [loadNext, hreset, hnext, List.length_nil], hview, hrows, rfl,
      h.table, h.size_pos, hlaid, congrArg RowPage.capacity hview⟩
  | some first =>
    have hrows : scan.rows t = t.within ⟨first, scan.last⟩ := by rw [rows, hnext]
    have hread := TokenStore.leftPage_of_table (TokenStore.table_eq_ok_iff.2 h.table)
      ⟨first, scan.last⟩ scan.pageSize
    rw [← hrows] at hread
    have hfits : ∀ r ∈ (scan.rows t).take scan.pageSize, columns.Fit (r.taken columns) :=
      fun r hr => hfit r (ht.mem_within.1 (hrows ▸ List.mem_of_mem_take hr)).1
    obtain ⟨full, hload, hfull, hlaid'⟩ := hlaid.mirrors_load hfits (by
      rw [hview]
      simp [RowPage.loaded, RowPage.rowCount])
    have hpage : full.view = .loaded columns scan.pageSize ((scan.rows t).take scan.pageSize) := by
      rw [hfull, hview]
      rfl
    refine ⟨{ scan with next := nextToken scan.pageSize ((scan.rows t).take scan.pageSize) }, full,
      ?_, hpage, rows_next ht h.size_pos hnext, rfl,
      h.table, h.size_pos, hlaid', congrArg RowPage.capacity hpage⟩
    simp only [loadNext, hreset, hnext, hread, hload]
    rfl

/-! ## All pages -/

/-- The pages that a scan loads, one in place of the other, until it loads no row. -/
inductive Loads (s : TokenStore) : LeftScan → SlotPage → List RowPage → Prop
  | done {scan : LeftScan} {page : SlotPage} (h : (scan.loadNext s page).1 = .ok 0) :
    Loads s scan page []
  | next {scan scan' : LeftScan} {page page' : SlotPage} {count : Nat} {pages : List RowPage}
    (h : scan.loadNext s page = (.ok (count + 1), scan', page'))
    (hrest : Loads s scan' page' pages) : Loads s scan page (page'.view :: pages)

theorem Loads.unique (h : Loads s scan page pages) (h' : Loads s scan page more) :
    pages = more := by
  induction h generalizing more with
  | done hend =>
    cases h' with
    | done => rfl
    | next hpage =>
      rw [hpage] at hend
      cases hend
  | next hpage _ ih =>
    cases h' with
    | done hend =>
      rw [hpage] at hend
      cases hend
    | next hpage' hrest' =>
      rw [hpage] at hpage'
      obtain ⟨-, rfl, rfl⟩ := hpage'
      rw [ih hrest']

theorem loads_rows (ht : t.Consistent)
    (hfit : ∀ row, t.Stores row → columns.Fit (row.taken columns))
    (h : Ready s t columns scan page) :
    Loads s scan page
      ((chunks scan.pageSize (scan.rows t)).map (.loaded columns scan.pageSize)) := by
  induction hlength : (scan.rows t).length using Nat.strongRecOn generalizing scan page with
  | ind length ih =>
    obtain ⟨scan', page', hload, hview, hrest, hsize, hready⟩ := loadNext_step ht hfit h
    by_cases hnone : scan.rows t = []
    · rw [hnone, List.take_nil] at hload
      rw [hnone]
      exact .done (congrArg Prod.fst hload)
    · have hpos := List.length_pos_iff.2 hnone
      have hsize_pos := h.size_pos
      obtain ⟨count, hcount⟩ : ∃ count, ((scan.rows t).take scan.pageSize).length = count + 1 :=
        ⟨_, (Nat.succ_pred_eq_of_pos (by rw [List.length_take]; omega)).symm⟩
      rw [hcount] at hload
      rw [chunks_of_ne_nil hsize_pos hnone, List.map_cons, ← hview]
      have hmore := ih (scan'.rows t).length (by rw [hrest, List.length_drop]; omega) hready rfl
      rw [hrest, hsize] at hmore
      exact .next hload hmore

end LeftScan

/-! ## Pages that are processed -/

namespace Node

open ReadM

variable {n : Node} {v : Store} {t : StoredTable} {columns : Columns}
  {process : RowPage → ReadM Store Unit}

section Scanned

variable (ht : v.tables.get? n.reader.table = some t)
  (hkinds : ∀ r ∈ t.rows, ∀ c ∈ columns, (r.pagedIn c).kind = c.kind)

include ht hkinds

theorem leftPage_run (range : TokenRange) {r : Reading Store} (hr : r.storage = v) :
    (n.leftPage Store.backend (.ofRows columns n.reader.pageSize []) range).run.run r =
      (.ok (.ofRows columns n.reader.pageSize ((range.rowsOf t.rows).take n.reader.pageSize),
        nextToken n.reader.pageSize ((range.rowsOf t.rows).take n.reader.pageSize)), r) := by
  have hfill : (RowPage.ofRows columns n.reader.pageSize []).fill
      ((range.rowsOf t.rows).take n.reader.pageSize) =
      .ok (.ofRows columns n.reader.pageSize ((range.rowsOf t.rows).take n.reader.pageSize)) :=
    RowPage.fill_ofRows (fun q hq => hkinds q (TokenRange.mem_rowsOf.1 (List.mem_of_mem_take hq)).1)
      (by simp)
  obtain ⟨s, rfl, hrun⟩ := leftPage_yields (v.answers n.reader.table "" "") ht hfill r hr
  rw [hrun, List.append_nil, ← hr]

theorem scanFrom_step {first last : Int} {rows : List Row}
    (hrows : (TokenRange.rowsOf ⟨first, last⟩ t.rows).take n.reader.pageSize = rows)
    (fuel count : Nat) {r : Reading Store} (hr : r.storage = v) :
    (n.scanFrom Store.backend (.ofRows columns n.reader.pageSize []) last process (fuel + 1)
        (some first) count).run.run r =
      (if rows = [] then pure count else do
        process (.ofRows columns n.reader.pageSize rows)
        n.scanFrom Store.backend (.ofRows columns n.reader.pageSize []) last process fuel
          (nextToken n.reader.pageSize rows) (count + rows.length) :
            ReadM Store Nat).run.run r := by
  rw [scanFrom, run_bind, leftPage_run ht hkinds ⟨first, last⟩ hr, hrows]
  simp only [RowPage.rowCount_ofRows, List.length_eq_zero_iff]

variable (hrise : StoredTable.Rising t.rows) (hsize : 0 < n.reader.pageSize)
  (hkeeps : ∀ page r, r.storage = v → ((process page).run.run r).2.storage = v)

include hrise hsize hkeeps

/-- A scan of a store that only it reads processes the pages of the rows that are left, one after
the other, unless one of them fails. -/
theorem scanFrom_run (last : Int) (fuel : Nat) (first : Int) (count : Nat)
    (hfuel : (last + 1 - first).toNat ≤ fuel) (r : Reading Store) (hr : r.storage = v) :
    (n.scanFrom Store.backend (.ofRows columns n.reader.pageSize []) last process fuel (some first)
        count).run.run r =
      (do
        forM (chunks n.reader.pageSize (TokenRange.rowsOf ⟨first, last⟩ t.rows)) fun rows =>
          process (.ofRows columns n.reader.pageSize rows)
        pure (count + (TokenRange.rowsOf ⟨first, last⟩ t.rows).length) :
          ReadM Store Nat).run.run r := by
  induction fuel generalizing first count r with
  | zero =>
    rw [TokenRange.rowsOf_of_lt (by omega)]
    rfl
  | succ fuel ih =>
    have hspec := TokenRange.nextToken_spec hrise hsize first last
    rw [scanFrom_step ht hkinds rfl fuel count hr]
    generalize TokenRange.rowsOf ⟨first, last⟩ t.rows = rows at *
    have hsplit := List.take_append_drop n.reader.pageSize rows
    by_cases hnone : rows = []
    · rw [hnone, List.take_nil]
      rfl
    · rw [if_neg (by simp [hnone, hsize.ne']), chunks_of_ne_nil hsize hnone, List.forM_cons,
        bind_assoc, run_bind, run_bind]
      have hkeep := hkeeps (.ofRows columns n.reader.pageSize (rows.take n.reader.pageSize)) r hr
      generalize (process (.ofRows columns n.reader.pageSize (rows.take n.reader.pageSize))).run.run
        r = processed at *
      -- A page that fails ends both sides, and else the scan goes on with the storage as it was.
      rcases processed with ⟨e | _, r'⟩
      · rfl
      · dsimp only
        rcases hspec with ⟨hnext, hdrop⟩ | ⟨token, hnext, hlt, hle, hrest⟩
        · rw [hdrop, List.append_nil] at hsplit
          rw [hnext, hdrop, hsplit]
          cases fuel <;> rfl
        · have hlengths := congrArg List.length hsplit
          rw [List.length_append] at hlengths
          rw [hnext, ih token _ (by omega) r' hkeep, hrest, Nat.add_assoc, hlengths]

theorem scan_run (range : TokenRange) (r : Reading Store) (hr : r.storage = v) :
    (n.scan Store.backend columns range process).run.run r =
      (do
        forM (chunks n.reader.pageSize (range.rowsOf t.rows)) fun rows =>
          process (.ofRows columns n.reader.pageSize rows)
        pure (range.rowsOf t.rows).length : ReadM Store Nat).run.run r := by
  have h := scanFrom_run ht hkinds hrise hsize hkeeps range.last
    ((range.last - range.first).toNat + 2) range.first 0 (by omega) r hr
  rwa [Nat.zero_add] at h

end Scanned

/-- A scan of a store that only it reads processes the pages one after the other, unless one of them
fails, and counts the rows. -/
def Processes (n : Node) (v : Store) (columns : Columns) (range : TokenRange)
    (pages : List RowPage) : Prop :=
  ∀ process : RowPage → ReadM Store Unit,
    (∀ page r, r.storage = v → ((process page).run.run r).2.storage = v) →
    ∀ r : Reading Store, r.storage = v →
      (n.scan Store.backend columns range process).run.run r =
        (do
          forM pages process
          pure (pages.flatMap RowPage.rows).length : ReadM Store Nat).run.run r

end Node

namespace LeftScan

/-- The pages hold the rows of a table with a token in a range, each of them once and in the order
of tokens, and none of them has more rows than it has slots. -/
structure PagesOf (t : TokenTable) (columns : Columns) (range : TokenRange) (size : Nat)
    (pages : List RowPage) : Prop where
  rows_eq : pages.flatMap RowPage.rows = (t.within range).map fun r => r.taken columns
  mem_iff (row : Row) :
    row ∈ t.within range ↔ t.Stores row ∧ range.first ≤ row.token ∧ row.token ≤ range.last
  rising : (t.within range).Pairwise fun a b => a.token < b.token
  page (p : RowPage) (hp : p ∈ pages) :
    p.columns = columns ∧ p.capacity = size ∧ 0 < p.rowCount ∧ p.rowCount ≤ size

variable {s : TokenStore} {t : TokenTable} {columns : Columns} {range : TokenRange} {size : Nat}

theorem pagesOf_chunks (ht : t.Consistent) (hsize : 0 < size) :
    PagesOf t columns range size
      ((chunks size (t.within range)).map (.loaded columns size)) where
  rows_eq := by
    have hrows : (chunks size (t.within range)).flatMap (List.map fun r => r.taken columns) =
        (chunks size (t.within range)).flatten.map fun r => r.taken columns :=
      List.map_flatten.symm
    rw [List.flatMap_map, ← chunks_flatten hsize (t.within range), ← hrows, chunks_flatten hsize]
    rfl
  mem_iff row := ht.mem_within
  rising := by
    rw [ht.within_view]
    exact ht.rising_view.sublist List.filter_sublist
  page p hp := by
    obtain ⟨rows, hrows, rfl⟩ := List.mem_map.1 hp
    rw [RowPage.rowCount, RowPage.loaded, List.length_map]
    exact ⟨rfl, rfl, List.length_pos_iff.2 (ne_nil_of_mem_chunks hsize hrows),
      length_le_of_mem_chunks hrows⟩

/-- Whatever was done to a store and whatever a page held before, a scan loads the rows of its range
into it and comes to an end. Where no name stands for two columns, the scan that processes its pages
as it reads them processes these. -/
theorem loads_within (changes : List StoreChange) {name : String}
    (ht : (changes.foldl TokenStore.change .empty).tables.get? name = some t)
    (hfit : ∀ row, t.Stores row → columns.Fit (row.taken columns)) {page : SlotPage}
    (hpage : page.Laid columns) (hsize : 0 < page.slots.length) (range : TokenRange) :
    ∃ pages, PagesOf t columns range page.slots.length pages ∧
      (∀ more, Loads (changes.foldl TokenStore.change .empty)
        (start name range page.slots.length) page more ↔ more = pages) ∧
      ((columns.map Column.name).Nodup → ∀ n : Node, n.reader.table = name →
        n.reader.pageSize = page.slots.length →
        n.Processes (changes.foldl Store.change .empty) columns range pages) := by
  obtain ⟨hfaithful, hshows⟩ := TokenStore.faithful_changes changes
  generalize changes.foldl TokenStore.change .empty = s at *
  generalize changes.foldl Store.change .empty = v at *
  have hconsistent := hfaithful.consistent name t ht
  have hloads := loads_rows hconsistent hfit
    (⟨ht, hsize, hpage, rfl⟩ : Ready s t columns (start name range page.slots.length) page)
  have hpages : PagesOf t columns range page.slots.length _ := pagesOf_chunks hconsistent hsize
  refine ⟨_, hpages, fun more => ⟨fun h => h.unique hloads, ?_⟩, ?_⟩
  · rintro rfl
    exact hloads
  · rintro hnames n rfl hcapacity process hkeeps r hr
    have hview : v.tables.get? n.reader.table = some t.view := by
      rw [← hshows.view]
      exact (TokenStore.get?_views s.tables n.reader.table).trans (congrArg _ ht)
    have hkinds : ∀ r ∈ t.view.rows, ∀ c ∈ columns, (r.pagedIn c).kind = c.kind := fun r hr =>
      RowPage.kinds_of_fit (r.taken_eq_valuesFor hnames ▸ hfit r (hconsistent.stores_iff.2 hr))
    have hrows : range.rowsOf t.view.rows = t.within range := (hconsistent.within_view range).symm
    have hscan := Node.scan_run hview hkinds hconsistent.rising_view (hcapacity ▸ hsize) hkeeps range
      r hr
    rw [hscan, hrows, hcapacity, hpages.rows_eq, List.length_map, List.forM_map,
      RowPage.loaded_eq_ofRows hnames]

end LeftScan

namespace LoadSample

/-! Two pages of two slots take the four rows of a range that ends with the last of them. A fifth
row has its token in front of the range, and one row has nothing in a column. -/

def changes : List StoreChange :=
  [.createTable "orders", .putRow "orders" 1 [("qty", .int 10)], .putRow "orders" 2 [],
    .putRow "orders" 3 [("qty", .int 30)], .putRow "orders" 4 [("qty", .int 40)],
    .putRow "orders" 5 [("qty", .int 50)]]

def orders : TokenTable :=
  ((changes.foldl TokenStore.change .empty).tables.get? "orders").getD .empty

def columns : Columns := [.rowid readerAlias, ⟨readerAlias, "qty", .int⟩]

def page : SlotPage :=
  (SlotPage.ofColumns columns).run
    [.init 2, .append [.int 8, .int 80], .append [.int 9, .int 90]]

def range : TokenRange := ⟨-5213918032843888364, 6238072747940578789⟩

theorem get?_orders :
    (changes.foldl TokenStore.change .empty).tables.get? "orders" = some orders := by
  decide +kernel

theorem fit_orders : ∀ row, orders.Stores row → columns.Fit (row.taken columns) := by
  have hconsistent := (TokenStore.faithful_changes changes).1.consistent _ _ get?_orders
  have hall : ∀ row ∈ orders.view.rows, columns.Fit (row.taken columns) := by
    decide +kernel
  exact fun row hrow => hall row (hconsistent.stores_iff.1 hrow)

theorem loads_within_orders :
    (changes.foldl TokenStore.change .empty).tables.get? "orders" = some orders ∧
      (∀ row, orders.Stores row → columns.Fit (row.taken columns)) ∧ page.Laid columns ∧
      page.slots.length = 2 ∧
      ((orders.within range).map fun r => r.taken columns) =
        [[.int 4, .int 40], [.int 2, .int 0], [.int 3, .int 30], [.int 1, .int 10]] ∧
      ∃ pages, LeftScan.PagesOf orders columns range 2 pages ∧
        (∀ more, LeftScan.Loads (changes.foldl TokenStore.change .empty)
          (.start "orders" range 2) page more ↔ more = pages) ∧
        ((columns.map Column.name).Nodup → ∀ n : Node, n.reader.table = "orders" →
          n.reader.pageSize = 2 →
          n.Processes (changes.foldl Store.change .empty) columns range pages) := by
  have hlaid : page.Laid columns :=
    ((SlotPage.laid_ofColumns columns).view_run _).2
  exact ⟨get?_orders, fit_orders, hlaid, by decide +kernel, by decide +kernel,
    LeftScan.loads_within changes get?_orders fit_orders hlaid (by decide +kernel) range⟩

end LoadSample
end TableMill
