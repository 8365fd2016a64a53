import TableMill.Batch.Run
import TableMill.Proofs.LeftScan
import TableMill.Proofs.PageColumns

/-!
# The join is the nested loop

A batch of an accepted join hands over the records of the nested loop, whatever the sizes of
its pages and chunks.
-/

namespace TableMill

theorem BatchSettings.check_eq_ok {settings : BatchSettings} (h : settings.check = .ok ()) :
    settings.writer.check = .ok () ∧ 0 < settings.keyChunk ∧ 0 < settings.rowidChunk := by
  obtain ⟨_, hwriter, h⟩ := bind_eq_ok.1 h
  split at h
  · simp at h
  · next hne => exact ⟨hwriter, by omega, by omega⟩

namespace Store

variable {s : Store}

theorem Ordered.rising (h : s.Ordered) {name : String} {t : StoredTable}
    (ht : s.table name = .ok t) : StoredTable.Rising t.rows :=
  h.rows (get?_of_table ht)

theorem Ordered.nodup_idsOf (h : s.Ordered) {name : String} {ix : StoredIndex}
    (hix : s.index name = .ok ix) (key : String) : (ix.idsOf key).Nodup := by
  unfold StoredIndex.idsOf
  cases hk : Assoc.get? ix key with
  | none => exact List.nodup_nil
  | some ids =>
    exact (h.ids (get?_of_index hix) hk).imp fun hlt heq => Int64.ne_of_lt hlt heq

end Store

theorem Node.nestedLoop_eq_ok {n : Node} {l : Lookup} {now : DateTime} {right : StoredTable}
    {ix : StoredIndex} {left : List Row} {items : List Item}
    (h : n.nestedLoop l now right ix left = .ok items) :
    ∃ made : Row → List Item, (∀ r ∈ left, n.joinRow l now right ix r = .ok (made r)) ∧
      items = left.flatMap made := by
  obtain ⟨lists, hlists, hflat⟩ := bind_eq_ok.1 h
  obtain rfl := Except.ok.inj hflat
  refine ⟨fun r => (n.joinRow l now right ix r).toOption.getD [], ?_⟩
  have hrows := mapM_eq_ok.1 hlists
  clear h hlists hflat
  induction hrows with
  | nil => exact ⟨by simp, rfl⟩
  | @cons r made left lists hr _ ih =>
    obtain ⟨hall, hflat⟩ := ih
    refine ⟨fun q hq => ?_, ?_⟩
    · rcases List.mem_cons.1 hq with rfl | hq
      · simp only [hr]
        rfl
      · exact hall q hq
    · rw [List.flatten_cons, List.flatMap_cons, hflat, hr]
      rfl

namespace Join

open ReadM

theorem freshGroup_of_accepted {j : Join} {defined : DateTime} (hn : j.node.Accepted defined)
    (hlookup : j.node.lookup = some j.lookup) (hgrouped : j.lookup.grouped = true) :
    ∃ g, j.node.output.freshGroup = .ok g := by
  have hnode : j.node.grouped = true := by simp [Node.grouped, hlookup, hgrouped]
  obtain ⟨states, hstates⟩ := mapM_ok_of_forall fun f hf => Node.forExpr_of_accepted hn hnode hf
  exact ⟨_, bind_eq_ok.2 ⟨states, hstates, rfl⟩⟩

structure Ready (j : Join) (columns rightColumns : Columns) (right : StoredTable) : Prop where
  sees : j.Sees columns rightColumns
  writes : j.writer.indexes = j.node.output.indexes
  starts (h : j.lookup.grouped = true) : ∃ g, j.node.output.freshGroup = .ok g
  fill {rows : List Row} (hrows : j.node.readerColumns.Hold rows) {room : Nat}
    (hroom : rows.length ≤ room) :
    ((RowPage.ofColumns columns).init room).fill rows = .ok (.ofRows columns room rows)
  key_eq {rows : List Row} {room i : Nat} {r : Row} (h : rows[i]? = some r) :
    j.lookup.key (.ofRows columns room rows) i = j.lookup.rowKey r
  typed {r : Row} (hr : r ∈ right.rows) {c : Column} (hc : c ∈ rightColumns) :
    (r.pagedIn c).kind = c.kind

theorem ready_of_accepted {j : Join} {right : Table} {defined : DateTime}
    {rightTable : StoredTable} {cs : Columns} (hn : j.node.Accepted defined)
    (hlookup : j.node.lookup = some j.lookup) (hw : j.writer.indexes = j.node.output.indexes)
    (hl : j.lookup.Accepted j.node.readerColumns right)
    (hrightKinds : j.lookup.rightColumns.Hold rightTable.rows)
    (hrightNames : ∀ f ∈ right.fields, f.name ≠ rowidName)
    (hpages : Columns.Pages (.rowid readerAlias :: cs) j.node.readerColumns readerAlias)
    (hjoins : j.lookup.leftColumns ⊆ .rowid readerAlias :: cs)
    (hused : ∀ f ∈ j.node.output.fields, ∀ p ∈ f.expr.selectors, ∀ c ∈ j.node.readerColumns,
      c.table = p.1 → c.name = p.2 → c ∈ Column.rowid readerAlias :: cs) :
    j.Ready (.rowid readerAlias :: cs) j.lookup.pageColumns rightTable where
  sees := Join.sees_pages hn hlookup hl hrightNames hpages hused
  writes := hw
  starts := freshGroup_of_accepted hn hlookup
  fill {rows} hrows {room} hroom := by
    have hempty : ([] : List Row).length + rows.length ≤ room := by simpa using hroom
    exact RowPage.fill_ofRows (fun r hr c hc => hpages.kind_paged hrows hr hc) hempty
  key_eq h := Lookup.key_ofRows h (fun c hc => hpages.table_eq_of_paged hc)
    hpages.distinct_paged hjoins fun c hc => hpages.name_ne (hl.leftColumns_subset hc)
  typed hr _ hc := (Lookup.pages_pageColumns hl hrightNames).kind_paged hrightKinds hr hc

/-- A page of a join hands over its items, and then it throws its errors. -/
theorem Ready.page_yields {σ : Type} {I : σ → Prop} {b : Backend σ} {s : Store} {j : Join}
    {left : String} {rightTable : StoredTable} {ix : StoredIndex} {cs : Columns}
    (h : j.Ready (.rowid readerAlias :: cs) j.lookup.pageColumns rightTable)
    (hj : j.Reads I b s left rightTable ix) (hrowPage : 0 < j.lookup.rowPageSize)
    {settings : BatchSettings} (hsettings : settings.check = .ok ()) (room : Nat)
    (rows : List Row) :
    let page := RowPage.ofRows (.rowid readerAlias :: cs) room rows
    let result := j.pageResult (.rowid readerAlias :: cs) j.lookup.pageColumns rightTable ix
      settings.keyChunk page rows
    Yields I (j.page b (Join.rightPage j.lookup settings.rowidChunk) settings.keyChunk page)
        (if result.2.isEmpty then .ok () else .error (.rows result.2)) result.1 := by
  intro page result
  obtain ⟨-, hkeyChunk, hrowidChunk⟩ := BatchSettings.check_eq_ok hsettings
  have hcapacity : 0 < min settings.rowidChunk j.lookup.rowPageSize :=
    Nat.lt_min.2 ⟨hrowidChunk, hrowPage⟩
  obtain ⟨rcs, hrcs⟩ := j.lookup.pageColumns_eq
  have hrightPage : Join.rightPage j.lookup settings.rowidChunk =
      .ofRows j.lookup.pageColumns (min settings.rowidChunk j.lookup.rowPageSize) [] := rfl
  have htyped : ∀ r ∈ rightTable.rows, ∀ c ∈ j.lookup.pageColumns, (r.pagedIn c).kind = c.kind :=
    fun r hr c hc => h.typed hr hc
  simp only [result, hrightPage]
  rw [hrcs] at htyped ⊢
  exact Join.page_yields hj hkeyChunk hcapacity h.starts htyped

/-- The reading side of an accepted join hands over what the nested loop makes. -/
theorem scan_yields {σ : Type} {I : σ → Prop} {b : Backend σ} {s : Store} {j : Join}
    {right : Table} {defined : DateTime} {leftTable rightTable : StoredTable}
    {ix : StoredIndex} {cs : Columns} {settings : BatchSettings} {range : TokenRange}
    {items : List Item} (hn : j.node.Accepted defined) (hlookup : j.node.lookup = some j.lookup)
    (hw : j.writer.indexes = j.node.output.indexes)
    (hl : j.lookup.Accepted j.node.readerColumns right)
    (hj : j.Reads I b s j.node.reader.table rightTable ix)
    (hleft : s.tables.get? j.node.reader.table = some leftTable)
    (hrise : StoredTable.Rising leftTable.rows) (hsettings : settings.check = .ok ())
    (hpage : 0 < j.node.reader.pageSize)
    (hleftKinds : j.node.readerColumns.Hold leftTable.rows)
    (hrightKinds : j.lookup.rightColumns.Hold rightTable.rows)
    (hrightNames : ∀ f ∈ right.fields, f.name ≠ rowidName)
    (hpages : Columns.Pages (.rowid readerAlias :: cs) j.node.readerColumns readerAlias)
    (hjoins : j.lookup.leftColumns ⊆ .rowid readerAlias :: cs)
    (hused : ∀ f ∈ j.node.output.fields, ∀ p ∈ f.expr.selectors, ∀ c ∈ j.node.readerColumns,
      c.table = p.1 → c.name = p.2 → c ∈ Column.rowid readerAlias :: cs)
    (hitems : j.node.nestedLoop j.lookup j.now rightTable ix (range.rowsOf leftTable.rows) =
      .ok items) :
    ∃ handed, Yields I (j.node.scan b (.rowid readerAlias :: cs) range
        (j.page b (Join.rightPage j.lookup settings.rowidChunk) settings.keyChunk))
        (.ok (range.rowsOf leftTable.rows).length) handed ∧
      handed.Perm items := by
  obtain ⟨-, hkeyChunk, -⟩ := BatchSettings.check_eq_ok hsettings
  obtain ⟨made, hmade, rfl⟩ := Node.nestedLoop_eq_ok hitems
  have hready := ready_of_accepted hn hlookup hw hl hrightKinds hrightNames hpages hjoins hused
  refine Node.scan_yields hj.answers hleft hrise hpage
    (.ofRows (.rowid readerAlias :: cs) j.node.reader.pageSize) ?_
    (fun rows items => items.Perm (rows.flatMap made)) (List.Perm.refl _) ?_ ?_
  · intro rows hlength hsub
    have hrows : j.node.readerColumns.Hold rows :=
      fun r hr => hleftKinds r (TokenRange.mem_rowsOf.1 (hsub hr)).1
    exact ⟨hready.fill hrows hlength, RowPage.rowCount_ofRows⟩
  · intro rows rows' items items' hm hm'
    rw [List.flatMap_append]
    exact hm.append hm'
  · intro rows hlength hsub
    have hone : ∀ r ∈ rows, j.CleanOne (.rowid readerAlias :: cs) j.lookup.pageColumns
          rightTable ix r ∧
        j.itemsOne (.rowid readerAlias :: cs) j.lookup.pageColumns rightTable ix r = made r :=
      fun r hr => one_eq hready.sees hw hready.starts (hmade r (hsub hr))
    have hkey : ∀ (i : Nat) (r : Row), rows[i]? = some r → j.lookup.key
        (.ofRows (.rowid readerAlias :: cs) j.node.reader.pageSize rows) i = j.lookup.rowKey r :=
      fun _ _ hr => hready.key_eq hr
    have hyields := hready.page_yields hj hl.rowPageSize_pos hsettings j.node.reader.pageSize rows
    have hperm := pageResult_items (.rowid readerAlias :: cs) j.lookup.pageColumns hj hkeyChunk hkey
    have herrors :=
      pageResult_errors (.rowid readerAlias :: cs) j.lookup.pageColumns hj hkeyChunk hkey
    simp only [herrors.2 fun r hr => (hone r hr).1] at hyields
    rw [List.flatMap_congr fun r hr => (hone r hr).2] at hperm
    exact ⟨_, hyields, hperm⟩

end Join

theorem Writer.start_of_check {settings : BatchSettings} (h : settings.check = .ok ())
    (output : Table) : Writer.start output settings.writer false =
      .ok ⟨output.name, output.indexes, none, settings.writer⟩ :=
  bind_eq_ok.2 ⟨(), ofSettings_eq_ok.2 (BatchSettings.check_eq_ok h).1, rfl⟩

theorem Batch.prepare_joined {σ : Type} (b : Backend σ) {now : DateTime}
    {settings : BatchSettings} (hsettings : settings.check = .ok ()) {n : Node} {l : Lookup}
    (hkind : n.kind = .lookup) (hlookup : n.lookup = some l) {columns : Columns}
    (hcolumns : n.leftColumns = .ok columns) (range : TokenRange) :
    Batch.prepare b now settings n .lookup range = .ok
      ⟨n, ⟨n.output.name, n.output.indexes, none, settings.writer⟩, n.scan b columns range
        (Join.page ⟨n, l, ⟨n.output.name, n.output.indexes, none, settings.writer⟩, now⟩ b
          (Join.rightPage l settings.rowidChunk) settings.keyChunk)⟩ := by
  unfold Batch.prepare
  rw [show Batch.expectKind n .lookup = .ok () from if_pos hkind]
  show Batch.joined b now settings n range = _
  simp only [Batch.joined, hlookup]
  exact bind_eq_ok.2 ⟨(), ofSettings_eq_ok.2 hsettings,
    bind_eq_ok.2 ⟨columns, ofTable_eq_ok.2 hcolumns,
      bind_eq_ok.2 ⟨_, Writer.start_of_check hsettings n.output, rfl⟩⟩⟩

/-- A batch of an accepted join hands the writer exactly the items of the nested loop over the
left rows in its range, whatever the range and the sizes of pages and chunks, while others
write to the output table and its indexes. -/
theorem Batch.joined_handed_perm {defined now : DateTime} {name : String} {reader : Reader}
    {source output right : Table} {lookup : Lookup.Source} {n : Node} {l : Lookup}
    (hn : Node.joined defined name reader source output lookup right = .ok n)
    (hlookup : n.lookup = some l) {settings : BatchSettings} (hsettings : settings.check = .ok ())
    (hpage : 0 < reader.pageSize) {s : Store} (hs : s.Reachable)
    {leftTable rightTable : StoredTable} {ix : StoredIndex}
    (hleft : s.table source.name = .ok leftTable) (hright : s.table right.name = .ok rightTable)
    (hindex : s.index l.indexName = .ok ix)
    (hleftKinds : (source.columnsAs readerAlias).Hold leftTable.rows)
    (hrightKinds : (right.columnsAs lookupAlias).Hold rightTable.rows)
    (hleftNames : ∀ f ∈ source.fields, f.name ≠ rowidName)
    (hrightNames : ∀ f ∈ right.fields, f.name ≠ rowidName) (hsingle : ix.Single)
    (hnotLeft : source.name ≠ output.name) (hnotRight : right.name ≠ output.name)
    (hnotIndex : l.indexName ∉ output.indexes.map Prod.fst) {pending : List (List WriteCall)}
    (hpending : ∀ calls ∈ pending, ∀ c ∈ calls,
      c.Within output.name (output.indexes.map Prod.fst)) {range : TokenRange} {items : List Item}
    (hitems : n.nestedLoop l now rightTable ix (range.rowsOf leftTable.rows) = .ok items) :
    ∃ batch r, Batch.prepare SharedStore.backend now settings n .lookup range = .ok batch ∧
      batch.reading.run.run ⟨⟨s, pending⟩, []⟩ =
        (.ok (range.rowsOf leftTable.rows).length, r) ∧
      r.handed.Perm items := by
  obtain ⟨l', htable, rfl, hl, haccepted⟩ := Node.joined_eq_ok hn
  obtain rfl := Option.some.inj hlookup
  have hordered := hs.ordered
  obtain ⟨cs, hcolumns, hpages, hjoins, hused⟩ :=
    Node.pages_leftColumns haccepted rfl rfl hl hleftNames
  let w : Writer := ⟨output.name, output.indexes, none, settings.writer⟩
  let j : Join := ⟨⟨name, .lookup, reader, source.columnsAs readerAlias, output, some l'⟩, l', w, now⟩
  have hshows : SharedStore.Shows s reader.table l'.right.name l'.indexName output.name
      (output.indexes.map Prod.fst) ⟨s, pending⟩ := ⟨rfl, rfl, rfl, hpending⟩
  have hreads : j.Reads (SharedStore.Shows s reader.table l'.right.name l'.indexName output.name
      (output.indexes.map Prod.fst)) SharedStore.backend s reader.table rightTable ix :=
    { answers := SharedStore.answers (htable ▸ hnotLeft) (hl.right_eq ▸ hnotRight) hnotIndex
      table_eq := hl.right_eq ▸ hright
      index_eq := hindex
      rising := hordered.rising hright
      nodup := hordered.nodup_idsOf hindex
      single := hsingle
      pageSize_pos := hl.indexPageSize_pos }
  have hstored : s.tables.get? reader.table = some leftTable := by
    rw [htable]
    exact Store.get?_of_table hleft
  have hrightColumns : l'.rightColumns = right.columnsAs lookupAlias := by
    rw [Lookup.rightColumns, hl.right_eq]
  obtain ⟨handed, hyields, hperm⟩ := Join.scan_yields (j := j) haccepted rfl rfl hl hreads
    hstored (hordered.rising hleft) hsettings hpage hleftKinds (hrightColumns ▸ hrightKinds)
    hrightNames hpages hjoins hused hitems
  obtain ⟨m, -, hrun⟩ := hyields ⟨⟨s, pending⟩, []⟩ hshows
  have hprepare : Batch.prepare SharedStore.backend now settings j.node .lookup range = .ok _ :=
    Batch.prepare_joined SharedStore.backend hsettings rfl rfl hcolumns range
  exact ⟨_, _, hprepare, hrun, by simpa using hperm⟩

namespace JoinSample

/-! Orders with what their items cost, summed up by order. One order has no items. Those of another
one take two pages of the index and two pages of rows. -/

def orders : Table := ⟨"orders", "", none, [⟨"id", .int, "", .int 0, ""⟩], []⟩

def items : Table :=
  ⟨"items", "", none, [⟨"order", .int, "", .int 0, ""⟩, ⟨"price", .int, "", .int 0, ""⟩],
    [("idx_order", ⟨false, [.plain "order" .int]⟩)]⟩

def sums : Table :=
  ⟨"sums", "", none,
    [⟨"order", .int, "r.id", .selector "r" "id", ""⟩,
      ⟨"total", .int, "sum(l.price)", .call ⟨0, 0⟩ "sum" [.selector "l" "price"], ""⟩], []⟩

def lookup : Lookup :=
  ⟨"idx_order", [⟨"r", "id", .int⟩], true, "", none, .left, 2, 2, items,
    ⟨false, [.plain "order" .int]⟩⟩

def node : Node :=
  ⟨"sum", .lookup, ⟨"orders", 1, 2⟩, [⟨"r", "id", .int⟩], sums, some lookup⟩

def nine : Row := ⟨4, [("id", .int 9)]⟩

def eight : Row := ⟨6, [("id", .int 8)]⟩

def seven : Row := ⟨1, [("id", .int 7)]⟩

def orderRows : List Row := [nine, eight, seven]

def itemRows : List Row :=
  [⟨2, [("order", .int 7), ("price", .int 30)]⟩, ⟨3, [("order", .int 7), ("price", .int 12)]⟩,
    ⟨11, [("order", .int 7), ("price", .int 5)]⟩, ⟨12, [("order", .int 9), ("price", .int 40)]⟩]

def listing : StoredIndex :=
  [("0000000000000000007", [2, 3, 11]), ("0000000000000000009", [12])]

def store : Store :=
  let s := orderRows.foldl (fun s r => s.putRow "orders" r) Store.empty
  let s := itemRows.foldl (fun s r => s.putRow "items" r) s
  listing.foldl (fun s e => e.2.foldl (fun s rowid => s.putKey "idx_order" e.1 rowid) s) s

def totals : List Item :=
  [⟨[("order", .int 9), ("total", .int 40)], []⟩, ⟨[("order", .int 8), ("total", .int 0)], []⟩,
    ⟨[("order", .int 7), ("total", .int 47)], []⟩]

theorem rowsById_itemRows : StoredTable.rowsById ⟨itemRows, []⟩ = itemRows :=
  List.mergeSort_of_pairwise (by decide)

/-- The items of an order are those that its key lists. -/
theorem matching_itemRows {order : Row} (key : String) {found : List Row}
    (hkey : lookup.rowKey order = .ok key)
    (hfound : lookup.passing .unset
      (itemRows.filter fun r => (listing.idsOf key).contains r.rowid) = .ok found) :
    lookup.matching .unset ⟨itemRows, []⟩ listing order = .ok found := by
  refine bind_eq_ok.2 ⟨key, hkey, ?_⟩
  rw [Lookup.listed, rowsById_itemRows]
  exact hfound

theorem joinRow_nine : node.joinRow lookup .unset ⟨itemRows, []⟩ listing nine =
    .ok [⟨[("order", .int 9), ("total", .int 40)], []⟩] := by
  have hfound : lookup.matching .unset ⟨itemRows, []⟩ listing nine = .ok (itemRows.drop 3) :=
    matching_itemRows "0000000000000000009" rfl rfl
  rw [Node.joinRow, hfound]
  rfl

theorem joinRow_eight : node.joinRow lookup .unset ⟨itemRows, []⟩ listing eight =
    .ok [⟨[("order", .int 8), ("total", .int 0)], []⟩] := by
  have hfound : lookup.matching .unset ⟨itemRows, []⟩ listing eight = .ok [] :=
    matching_itemRows "0000000000000000008" rfl rfl
  rw [Node.joinRow, hfound]
  rfl

theorem joinRow_seven : node.joinRow lookup .unset ⟨itemRows, []⟩ listing seven =
    .ok [⟨[("order", .int 7), ("total", .int 47)], []⟩] := by
  have hfound : lookup.matching .unset ⟨itemRows, []⟩ listing seven = .ok (itemRows.take 3) :=
    matching_itemRows "0000000000000000007" rfl rfl
  rw [Node.joinRow, hfound]
  rfl

theorem nestedLoop_orderRows :
    node.nestedLoop lookup .unset ⟨itemRows, []⟩ listing orderRows = .ok totals := by
  rw [Node.nestedLoop, orderRows, List.mapM_cons, joinRow_nine, List.mapM_cons, joinRow_eight,
    List.mapM_cons, joinRow_seven]
  rfl

theorem single_listing : listing.Single := by
  have hids (key : String) : listing.idsOf key =
      if "0000000000000000007" = key then [2, 3, 11]
      else if "0000000000000000009" = key then [12] else [] := by
    rw [StoredIndex.idsOf, listing, Assoc.get?_cons, Assoc.get?_cons]
    split
    · rfl
    · split <;> rfl
  intro key key' rowid h h'
  rw [hids] at h h'
  split at h <;> split at h' <;> simp_all

theorem reachable_store : store.Reachable := by
  have hrows := (Store.Reachable.empty.putRows "orders" orderRows).putRows "items" itemRows
  exact (((hrows.putKey "idx_order" _ 2).putKey "idx_order" _ 3).putKey "idx_order" _ 11).putKey
    "idx_order" _ 12

theorem joined_handed_perm_sums :
    Node.joined .unset "sum" ⟨"orders", 1, 2⟩ orders sums
        ⟨"idx_order", "r.id", true, "", "left", 2, 2⟩ items = .ok node ∧
      ∃ batch r, Batch.prepare SharedStore.backend .unset .default node .lookup .all = .ok batch ∧
        batch.reading.run.run ⟨⟨store, [[.insertRow "sums" 9 []]]⟩, []⟩ =
          (.ok (TokenRange.all.rowsOf orderRows).length, r) ∧
        r.handed.Perm totals := by
  have hrange : TokenRange.all.rowsOf orderRows = orderRows := by decide +kernel
  have hpending : ∀ calls ∈ [[WriteCall.insertRow "sums" 9 []]], ∀ c ∈ calls,
      c.Within sums.name (sums.indexes.map Prod.fst) := by
    simp [WriteCall.Within, sums]
  have hitems : node.nestedLoop lookup .unset ⟨itemRows, []⟩ listing
      (TokenRange.all.rowsOf orderRows) = .ok totals := by
    rw [hrange]
    exact nestedLoop_orderRows
  have hnode : Node.joined .unset "sum" ⟨"orders", 1, 2⟩ orders sums
      ⟨"idx_order", "r.id", true, "", "left", 2, 2⟩ items = .ok node := rfl
  have hleft : store.table orders.name = .ok ⟨orderRows, []⟩ := rfl
  have hright : store.table items.name = .ok ⟨itemRows, []⟩ := rfl
  have hindex : store.index "idx_order" = .ok listing := rfl
  exact ⟨hnode, Batch.joined_handed_perm hnode rfl rfl (by decide) reachable_store hleft hright
    hindex (by decide) (by decide) (by decide) (by decide) single_listing (by decide) (by decide)
    (by decide) hpending hitems⟩

end JoinSample
end TableMill
