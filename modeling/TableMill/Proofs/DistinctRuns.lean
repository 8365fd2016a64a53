import Mathlib.Data.List.Dedup
import TableMill.Proofs.TableRuns

/-!
# Batches of a table without repeated rows

Batches hand over items whose keys may be in the table already, written by the same batch or by
another one. Whatever the turns of the workers, of all items with one key exactly one is written, and
when everything is written, further batches leave the store as it is.
-/

namespace TableMill

open Writer (keyIn)

namespace Writer

/-- A writer of records whose keys in one index are not to be repeated. -/
structure Unrepeated (w : Writer) (index : String) : Prop where
  distinct : w.distinct = some index
  attempts_pos : 0 < w.settings.rowidAttempts
  keyed : Assoc.Keyed w.indexes
  index_mem : ∃ ix, (index, ix) ∈ w.indexes
  only {e : String × Index} (he : e ∈ w.indexes) (hunique : e.2.unique = true) : e.1 = index

/-- From a store without keys, one record was written for every key that was seen. -/
structure Keeps (w : Writer) (index : String) (start s : Store) (seen : List Item)
    (entries : List (Item × Int64)) : Prop where
  none_before (key : String) : start.idsUnder index key = []
  wrote : w.Wrote start s entries
  nodup : (entries.map fun x => keyIn index x.1).Nodup
  mem {x : Item × Int64} (hx : x ∈ entries) : x.1 ∈ seen
  covers {item : Item} (hitem : item ∈ seen) : ∃ x ∈ entries, keyIn index x.1 = keyIn index item

variable {w : Writer} {index : String} {start s s' : Store} {seen items : List Item}
  {entries : List (Item × Int64)} {item : Item}

namespace Keeps

/-- A key is there once an item with it was seen. -/
theorem idsUnder_eq_nil (hw : w.Unrepeated index) (h : w.Keeps index start s seen entries)
    (key : String) : s.idsUnder index key = [] ↔ ∀ x ∈ entries, keyIn index x.1 ≠ key := by
  obtain ⟨ix, hix⟩ := hw.index_mem
  exact (h.wrote.idsUnder_eq_nil hix).trans (and_iff_right (h.none_before key))

theorem present (hw : w.Unrepeated index) (h : w.Keeps index start s seen entries)
    (hitem : item ∈ seen) : s.idsUnder index (keyIn index item) ≠ [] := by
  obtain ⟨x, hx, hkey⟩ := h.covers hitem
  exact fun hnil => (h.idsUnder_eq_nil hw _).1 hnil x hx hkey

/-- Of the items that workers take next, those are written whose keys nothing was written with. -/
theorem append (hw : w.Unrepeated index) (h : w.Keeps index start s seen entries)
    {drawn : List Int64} {new : List (Item × Int64)} {skipped : List Item}
    (hend : w.CalmEnd items s drawn s' new skipped) :
    w.Keeps index start s' (seen ++ items) (entries ++ new) where
  none_before := h.none_before
  wrote := h.wrote.trans hend.wrote
  nodup := by
    rw [List.map_append, List.nodup_append]
    refine ⟨h.nodup, hend.nodup hw.distinct, fun key hkey key' hkey' => ?_⟩
    obtain ⟨x, hx, rfl⟩ := List.mem_map.1 hkey
    obtain ⟨y, hy, rfl⟩ := List.mem_map.1 hkey'
    exact (h.idsUnder_eq_nil hw _).1 (hend.new hw.distinct y hy) x hx
  mem hx := by
    rcases List.mem_append.1 hx with hx | hx
    · exact List.mem_append_left _ (h.mem hx)
    · exact List.mem_append_right _
        (hend.whole.mem_iff.1 (List.mem_append_left _ (List.mem_map_of_mem hx)))
  covers {item} hitem := by
    rcases List.mem_append.1 hitem with hseen | hnew
    · obtain ⟨x, hx, hkey⟩ := h.covers hseen
      exact ⟨x, List.mem_append_left _ hx, hkey⟩
    · rcases List.mem_append.1 (hend.whole.mem_iff.2 hnew) with hwritten | hskipped
      · obtain ⟨x, hx, rfl⟩ := List.mem_map.1 hwritten
        exact ⟨x, List.mem_append_right _ hx, rfl⟩
      · obtain ⟨ix, hix⟩ := hw.index_mem
        by_contra hnone
        refine hend.present hw.distinct item hskipped ?_
        exact ((h.wrote.trans hend.wrote).idsUnder_eq_nil hix).2
          ⟨h.none_before _, fun x hx hkey => hnone ⟨x, hx, hkey⟩⟩

theorem widen (h : w.Keeps index start s seen entries) {more : List Item} (hsub : seen ⊆ more)
    (hkeys : ∀ item ∈ more, ∃ i ∈ seen, keyIn index i = keyIn index item) :
    w.Keeps index start s more entries where
  none_before := h.none_before
  wrote := h.wrote
  nodup := h.nodup
  mem hx := hsub (h.mem hx)
  covers {item} hitem := by
    obtain ⟨i, hi, hkey⟩ := hkeys item hitem
    obtain ⟨x, hx, hname⟩ := h.covers hi
    exact ⟨x, hx, hname.trans hkey⟩

theorem keys_perm (h : w.Keeps index start s seen entries) :
    (entries.map fun x => keyIn index x.1).Perm (seen.map (keyIn index)).dedup := by
  refine (List.perm_ext_iff_of_nodup h.nodup (List.nodup_dedup _)).2 fun key => ?_
  rw [List.mem_dedup, List.mem_map, List.mem_map]
  constructor
  · rintro ⟨x, hx, rfl⟩
    exact ⟨x.1, h.mem hx, rfl⟩
  · rintro ⟨item, hitem, rfl⟩
    exact h.covers hitem

end Keeps

/-- Nothing but a key that is there keeps a record from being written. -/
theorem Unrepeated.ready (hw : w.Unrepeated index) (hcalm : s.Calm w.table w.indexes)
    (hkeys : ∀ item ∈ items, ∀ e ∈ w.indexes, (Assoc.get? item.keys e.1).isSome) :
    w.Ready items s := by
  have honly {e : String × Index} (he : e ∈ w.laterIndexes) (hunique : e.2.unique = true) :
      False := by
    obtain ⟨hmem, hne⟩ := List.mem_filter.1 he
    exact of_decide_eq_true hne (by rw [hw.distinct, hw.only hmem hunique])
  refine ⟨hw.attempts_pos, hw.keyed, hcalm, fun hitem => hkeys _ hitem, fun h => ?_,
    fun he hunique => (honly he hunique).elim, fun he hunique => (honly he hunique).elim⟩
  obtain rfl := Option.some.inj (hw.distinct.symm.trans h)
  exact hw.index_mem

/-- When all keys are there, nothing is written. -/
theorem CalmEnd.nothing {drawn : List Int64} {skipped : List Item} (hw : w.Unrepeated index)
    (h : w.CalmEnd items s drawn s' entries skipped)
    (hpresent : ∀ item ∈ items, s.idsUnder index (keyIn index item) ≠ []) :
    entries = [] ∧ s' = s := by
  have hnone : entries = [] := List.eq_nil_iff_forall_not_mem.2 fun x hx =>
    hpresent x.1 (h.whole.mem_iff.1 (List.mem_append_left _ (List.mem_map_of_mem hx)))
      (h.new hw.distinct x hx)
  exact ⟨hnone, h.same hnone⟩

end Writer

/-- The key of a record in an index stands under the name of the index. -/
theorem Index.get?_keys {indexes : Assoc Index} (hkeyed : Assoc.Keyed indexes) {record : Record}
    {keys : Keys}
    (h : (indexes.mapM fun e => do
      let key ← e.2.key record
      .ok (e.1, key)) = .ok keys) {e : String × Index} (he : e ∈ indexes) :
    ∃ key, e.2.key record = .ok key ∧ Assoc.get? keys e.1 = some key := by
  have hall := mapM_eq_ok.1 h
  clear h
  induction hall with
  | nil => cases he
  | @cons d pair rest keys hpair _ ih =>
    obtain ⟨key, hkey, hpair⟩ := bind_eq_ok.1 hpair
    obtain rfl := Except.ok.inj hpair
    obtain ⟨hname, hrest⟩ := Assoc.keyed_cons.1 hkeyed
    rw [Assoc.get?_cons]
    rcases List.mem_cons.1 he with rfl | he
    · exact ⟨key, hkey, if_pos rfl⟩
    · have hne : d.1 ≠ e.1 := fun h => Assoc.get?_eq_none_iff.1 hname (h ▸ List.mem_map_of_mem he)
      rw [if_neg hne]
      exact ih hrest he

namespace Node

variable {n : Node} {now : DateTime} {w : Writer} {pages : List (List Row)}

theorem key_of_made (hkeyed : Assoc.Keyed n.output.indexes) {rows : List Row} {item : Item}
    (hitem : item ∈ rows.flatMap (n.made now)) {e : String × Index} (he : e ∈ n.output.indexes) :
    e.2.key item.record = .ok (keyIn e.1 item) := by
  obtain ⟨r, -, hmade⟩ := List.mem_flatMap.1 hitem
  obtain ⟨key, hkey, hget⟩ := Index.get?_keys hkeyed (keys_of_itemFor (itemFor_of_made hmade)) he
  rw [hkey, keyIn, hget, Option.getD_some]

theorem itemFor_isSome (hhaving : n.output.having = none) {vars : Bindings}
    {outcome : Option Item} (h : n.itemFor now vars = .ok outcome) : outcome.isSome := by
  obtain ⟨record, -, hitem⟩ := bind_eq_ok.1 h
  obtain ⟨met, hmet, hitem⟩ := bind_eq_ok.1 hitem
  rw [Table.meetsHaving, hhaving] at hmet
  obtain rfl := Except.ok.inj hmet
  obtain ⟨keys, -, hitem⟩ := bind_eq_ok.1 hitem
  obtain rfl := Except.ok.inj hitem
  rfl

/-- Without a condition, every row makes an item. -/
theorem length_itemsOf (hhaving : n.output.having = none) {see : Row → Bindings} {rows : List Row}
    {items : List Item} (h : n.itemsOf now see rows = .ok items) : items.length = rows.length := by
  obtain ⟨outcomes, houtcomes, hitems⟩ := bind_eq_ok.1 h
  obtain rfl := Except.ok.inj hitems
  have hall := mapM_eq_ok.1 houtcomes
  clear h houtcomes hitems
  induction hall with
  | nil => rfl
  | cons hr _ ih =>
    obtain ⟨item, rfl⟩ := Option.isSome_iff_exists.1 (itemFor_isSome hhaving hr)
    rw [List.filterMap_cons, id, List.length_cons, List.length_cons, ih]

theorem firstsOf_sublist :
    (n.firstsOf now w pages).Sublist (pages.flatten.flatMap (n.made now)) := by
  induction pages with
  | nil => exact .slnil
  | cons rows rest ih =>
    rw [firstsOf, List.flatMap_cons, List.flatten_cons, List.flatMap_append]
    exact (Writer.firsts_sublist _ _).append ih

/-- Of every item, one with its key is handed over. -/
theorem exists_firstsOf {index : String} (hdistinct : w.distinct = some index) {item : Item}
    (hitem : item ∈ pages.flatten.flatMap (n.made now))
    (hkey : (Assoc.get? item.keys index).isSome) :
    ∃ first ∈ n.firstsOf now w pages, keyIn index first = keyIn index item := by
  obtain ⟨key, hget⟩ := Option.isSome_iff_exists.1 hkey
  obtain ⟨r, hr, hmade⟩ := List.mem_flatMap.1 hitem
  obtain ⟨rows, hrows, hr⟩ := List.mem_flatten.1 hr
  obtain ⟨first, hfirst, hsame⟩ := Writer.exists_firsts hdistinct
    (List.mem_flatMap.2 ⟨r, hr, hmade⟩) hget (List.not_mem_nil (a := key))
  refine ⟨first, List.mem_flatMap.2 ⟨rows, hrows, hfirst⟩, ?_⟩
  rw [keyIn, keyIn, hsame, hget]

end Node

namespace Batch

variable {n : Node} {w : Writer} {settings : BatchSettings} {columns : Columns}
  {now time : DateTime} {t : StoredTable} {start s s' : Store} {ids ids' : Task.Supply}
  {index : String} {seen : List Item} {entries : List (Item × Int64)}
  {environment : Option String} {result : BatchResult BatchStats}
  {results : List (BatchResult BatchStats)}

/-- A batch hands over, of all items with one key that rows in its range make, at least one; its
workers write those whose keys are new. -/
theorem RowByRow.pooled_distinct (hrow : RowByRow n w settings .distinct columns)
    (hw : w.Unrepeated index) (ht : s.tables.get? n.reader.table = some t)
    (hrows : n.Readable now t.rows) (hsteady : n.Steady n.readRow t.rows now time)
    (hcalm : s.Calm w.table w.indexes) (range : TokenRange) :
    let items := (range.rowsOf t.rows).flatMap (n.made now)
    ∃ handed : List Item, handed.Sublist items ∧
      (∀ item ∈ items, ∃ first ∈ handed, keyIn index first = keyIn index item) ∧
      ∀ {environment ids result ids' s'},
        (∀ item ∈ handed, w.Wants s item → s.Fresh w.table ids handed.length) →
        Pooled environment settings n .distinct time range ids s result ids' s' →
        ∃ new skipped, w.CalmEnd handed s (ids.next handed.length) s' new skipped ∧
          result = .ok ⟨(range.rowsOf t.rows).length, new.length, n.reader.table,
            n.output.name⟩ ∧
          ids' = ids.after handed.length := by
  intro items
  obtain ⟨pages, hpages, hpooled⟩ := hrow.pooled_calm ht hrows hsteady range
  obtain ⟨ix, hix⟩ := hw.index_mem
  have hitems : pages.flatten.flatMap (n.made now) = items := by rw [hpages]
  have hsub : (n.firstsOf now w pages).Sublist items := hitems ▸ Node.firstsOf_sublist
  refine ⟨n.firstsOf now w pages, hsub, fun item hitem => ?_, fun hfresh h => ?_⟩
  · exact Node.exists_firstsOf hw.distinct (hitems ▸ hitem) (hrow.keys_isSome hitem _ hix)
  · exact hpooled rfl (hw.ready hcalm fun _ hitem => hrow.keys_isSome (hsub.subset hitem)) hfresh h

/-- A batch keeps one record for every key, also of the rows in its range. -/
theorem pooled_distinct (hrow : RowByRow n w settings .distinct columns) (hw : w.Unrepeated index)
    (ht : s.tables.get? n.reader.table = some t) (hrows : n.Readable now t.rows)
    (hsteady : n.Steady n.readRow t.rows now time)
    (hkeeps : w.Keeps index start s seen entries) {range : TokenRange} {more : Nat}
    (hfresh : s.Fresh w.table ids (((range.rowsOf t.rows).flatMap (n.made now)).length + more))
    (h : Pooled environment settings n .distinct time range ids s result ids' s') :
    let items := (range.rowsOf t.rows).flatMap (n.made now)
    ∃ new : List (Item × Int64),
      result = .ok ⟨(range.rowsOf t.rows).length, new.length, n.reader.table, n.output.name⟩ ∧
      w.Keeps index start s' (seen ++ items) (entries ++ new) ∧ s'.Fresh w.table ids' more := by
  intro items
  obtain ⟨handed, hsub, hfirsts, hpooled⟩ :=
    hrow.pooled_distinct hw ht hrows hsteady hkeeps.wrote.calm range
  have hfresh : s.Fresh w.table ids (handed.length + more) :=
    hfresh.mono (Nat.add_le_add_right hsub.length_le more)
  obtain ⟨new, skipped, hend, hresult, rfl⟩ := hpooled (fun _ _ _ => hfresh.front) h
  refine ⟨new, hresult, ?_, hfresh.back hend.wrote hend.drawn⟩
  refine (hkeeps.append hw hend).widen (hsub.append_left seen).subset fun item hitem => ?_
  rcases List.mem_append.1 hitem with hitem | hitem
  · exact ⟨item, List.mem_append_left _ hitem, rfl⟩
  · obtain ⟨first, hfirst, hkey⟩ := hfirsts item hitem
    exact ⟨first, List.mem_append_right _ hfirst, hkey⟩

/-- Batch after batch, the records that are kept add up. -/
theorem pooledAll_distinct (hrow : RowByRow n w settings .distinct columns)
    (hw : w.Unrepeated index) (hother : n.reader.table ≠ w.table)
    {batches : List (DateTime × TokenRange)}
    (ht : start.tables.get? n.reader.table = some t) (hrows : n.Readable now t.rows)
    (hsteady : ∀ batch ∈ batches, n.Steady n.readRow t.rows now batch.1)
    (hkeeps : w.Keeps index start s seen entries)
    (hfresh : s.Fresh w.table ids
      ((batches.flatMap fun batch => batch.2.rowsOf t.rows).flatMap (n.made now)).length)
    (h : PooledAll environment settings n .distinct batches ids s results ids' s') :
    let items := (batches.flatMap fun batch => batch.2.rowsOf t.rows).flatMap (n.made now)
    ∃ (stats : List BatchStats) (new : List (Item × Int64)),
      results = stats.map .ok ∧ (stats.map BatchStats.written).sum = new.length ∧
      w.Keeps index start s' (seen ++ items) (entries ++ new) := by
  induction h generalizing seen entries with
  | nil => exact ⟨[], [], rfl, rfl, by simpa using hkeeps⟩
  | @cons time range rest ids s result ids' s' results ids'' s'' hbatch _ ih =>
    obtain ⟨hnow, hlater⟩ := List.forall_mem_cons.1 hsteady
    simp only [List.flatMap_cons, List.flatMap_append, List.length_append] at hfresh
    have ht' : s.tables.get? n.reader.table = some t := (hkeeps.wrote.other hother).trans ht
    obtain ⟨new, rfl, hkeeps', hback⟩ := pooled_distinct hrow hw ht' hrows hnow hkeeps hfresh hbatch
    obtain ⟨stats, new', rfl, hwritten, hkeeps''⟩ := ih hlater hkeeps' hback
    refine ⟨⟨(range.rowsOf t.rows).length, new.length, n.reader.table, n.output.name⟩ :: stats,
      new ++ new', rfl, ?_, ?_⟩
    · simp only [List.map_cons, List.sum_cons, hwritten, List.length_append]
    · simpa using hkeeps''

/-- When all keys are there, batches leave the store as it is. -/
theorem pooledAll_again (hrow : RowByRow n w settings .distinct columns) (hw : w.Unrepeated index)
    (ht : s.tables.get? n.reader.table = some t) (hrows : n.Readable now t.rows)
    (hcalm : s.Calm w.table w.indexes)
    (hpresent : ∀ item ∈ t.rows.flatMap (n.made now),
      s.idsUnder index (keyIn index item) ≠ []) {batches : List (DateTime × TokenRange)}
    (hsteady : ∀ batch ∈ batches, n.Steady n.readRow t.rows now batch.1)
    (h : PooledAll environment settings n .distinct batches ids s results ids' s') :
    ∃ stats : List BatchStats, results = stats.map .ok ∧ s' = s ∧
      ∀ stat ∈ stats, stat.written = 0 := by
  induction h with
  | nil => exact ⟨[], rfl, rfl, nofun⟩
  | @cons time range rest ids s result ids' s' results ids'' s'' hbatch _ ih =>
    obtain ⟨hnow, hlater⟩ := List.forall_mem_cons.1 hsteady
    obtain ⟨handed, hsub, -, hpooled⟩ := hrow.pooled_distinct hw ht hrows hnow hcalm range
    have hthere : ∀ item ∈ handed, s.idsUnder index (keyIn index item) ≠ [] := by
      intro item hitem
      obtain ⟨r, hr, hmade⟩ := List.mem_flatMap.1 (hsub.subset hitem)
      exact hpresent item (List.mem_flatMap.2 ⟨r, (TokenRange.mem_rowsOf.1 hr).1, hmade⟩)
    obtain ⟨new, skipped, hend, rfl, -⟩ := hpooled
      (fun item hitem hwants => absurd (hwants hw.distinct) (hthere item hitem)) hbatch
    obtain ⟨rfl, rfl⟩ := hend.nothing hw hthere
    obtain ⟨stats, rfl, rfl, hnone⟩ := ih ht hcalm hpresent hlater
    exact ⟨_ :: stats, rfl, rfl, List.forall_mem_cons.2 ⟨rfl, hnone⟩⟩

end Batch

/-- An empty table with empty indexes, while no fault is injected. -/
structure Store.Blank (s : Store) (table : String) (indexes : Assoc Index) : Prop where
  calm : s.Calm table indexes
  rows : s.rowsIn table = []
  keys {e : String × Index} (he : e ∈ indexes) (key : String) : s.idsUnder e.1 key = []

/-- What batches have written of items whose keys are not to be repeated. -/
structure WrittenDistinct (table : String) (index : Index) (items : List Item)
    (keys : List String) (stats : List BatchStats) (s : Store) : Prop where
  /-- The keys are those of the records of all items. -/
  keyed : items.map (fun item => index.key item.record) = keys.map .ok
  /-- The table has one row for every key. -/
  rows : ((s.rowsIn table).map fun row => index.key row.values).Perm (keys.dedup.map .ok)
  /-- A row is the record of an item. -/
  needed : ∀ row ∈ s.rowsIn table, ∃ item ∈ items, row.values = item.record
  /-- As many records were written as there are keys. -/
  counted : (stats.map BatchStats.written).sum = keys.dedup.length

/-- Where one record was kept for every key that was seen, the table has those records. -/
theorem Writer.Keeps.writtenDistinct {w : Writer} {name : String} {index : Index}
    {start s : Store} {seen items : List Item} {entries : List (Item × Int64)}
    (h : w.Keeps name start s seen entries) (hempty : start.rowsIn w.table = [])
    (hitems : seen.Perm items)
    (hkeys : ∀ item ∈ items, index.key item.record = .ok (keyIn name item))
    {stats : List BatchStats} (hwritten : (stats.map BatchStats.written).sum = entries.length) :
    WrittenDistinct w.table index items (items.map (keyIn name)) stats s := by
  have hrows : (s.rowsIn w.table).Perm (entries.map fun x => ⟨x.2, x.1.record⟩) := by
    simpa [hempty] using h.wrote.rows
  have hmem : ∀ x ∈ entries, x.1 ∈ items := fun x hx => hitems.mem_iff.1 (h.mem hx)
  have hdedup : (entries.map fun x => keyIn name x.1).Perm (items.map (keyIn name)).dedup :=
    h.keys_perm.trans (hitems.map _).dedup
  have hentries : (entries.map fun x => index.key x.1.record) =
      (entries.map fun x => keyIn name x.1).map .ok := by
    rw [List.map_map]
    exact List.map_congr_left fun x hx => hkeys _ (hmem x hx)
  refine ⟨?_, ?_, fun row hrow => ?_, ?_⟩
  · rw [List.map_map]
    exact List.map_congr_left hkeys
  · refine (hrows.map _).trans ?_
    rw [List.map_map]
    exact (List.Perm.of_eq hentries).trans (hdedup.map _)
  · obtain ⟨x, hx, rfl⟩ := List.mem_map.1 (hrows.mem_iff.1 hrow)
    exact ⟨x.1, hmem x hx, rfl⟩
  · rw [hwritten, ← hdedup.length_eq, List.length_map]

/-- Run over the ranges of a split in any order, a node without repeated rows writes one record for
every key that the rows of its source have, whatever the turns of the workers. From then on batches
write nothing and leave the store as it is. Each batch has its own time, at which the rows make what
they make now. -/
theorem Batch.distinct_pooled {defined now : DateTime} {name : String} {reader : Reader}
    {source output : Table} {n : Node} {settings : BatchSettings} {s s' : Store}
    {sourceTable : StoredTable} {items : List Item} {ids ids' : Task.Supply}
    {environment : Option String} {results : List (BatchResult BatchStats)}
    (hn : Node.distinct defined name reader source output = .ok n)
    (hsettings : settings.check = .ok ()) (hpage : 0 < reader.pageSize) (hs : s.Reachable)
    (hsource : s.table source.name = .ok sourceTable) (hother : source.name ≠ output.name)
    (hkeyed : Assoc.Keyed output.indexes)
    (hkinds : (source.columnsAs readerAlias).Hold sourceTable.rows)
    (hitems : n.itemsOf now n.readRow sourceTable.rows = .ok items)
    (hblank : s.Blank output.name output.indexes)
    (hfresh : s.Fresh output.name ids items.length) (count : Nat)
    {batches again : List (DateTime × TokenRange)}
    (hsplit : (batches.map Prod.snd).Perm (TokenRange.split count))
    (hsteady : ∀ batch ∈ batches ++ again, n.Steady n.readRow sourceTable.rows now batch.1)
    (h : PooledAll environment settings n .distinct batches ids s results ids' s') :
    ∃ (unique : String × Index) (keys : List String) (stats : List BatchStats),
      output.uniqueIndex = .ok unique ∧ items.length = sourceTable.rows.length ∧
      results = stats.map .ok ∧ WrittenDistinct output.name unique.2 items keys stats s' ∧
      ∀ {environment : Option String} {ids ids' : Task.Supply} {s'' : Store}
        {results : List (BatchResult BatchStats)},
        PooledAll environment settings n .distinct again ids s' results ids' s'' →
        ∃ stats : List BatchStats, results = stats.map .ok ∧ s'' = s' ∧
          ∀ stat ∈ stats, stat.written = 0 := by
  obtain ⟨htable, rfl, herrors⟩ := Node.check_eq_ok hn
  obtain ⟨hhaving, unique, hunique⟩ := Node.distinct_of_errors herrors rfl
  obtain ⟨hmem, -, honly⟩ := Table.uniqueIndex_eq_ok hunique
  let w : Writer := ⟨output.name, output.indexes, some unique.1, settings.writer⟩
  have hstart : Writer.start output settings.writer true = .ok w :=
    Writer.start_of_unique hsettings hunique
  have hw : w.Unrepeated unique.1 := ⟨rfl, (Writer.start_eq_ok hstart).2.1, hkeyed,
    ⟨unique.2, hmem⟩, fun he hflag => congrArg Prod.fst (honly _ he hflag)⟩
  obtain ⟨columns, hrow⟩ : ∃ columns, RowByRow _ w settings .distinct columns :=
    Node.rowByRow_of_accepted (Node.accepted_of_errors herrors) (fun _ _ _ => rfl) rfl rfl
      hsettings hstart
  have hstored : s.tables.get? reader.table = some sourceTable :=
    htable ▸ Store.get?_of_table hsource
  obtain ⟨hmakes, hmade⟩ := Node.itemsOf_eq_ok hitems
  have hrows : Node.Readable _ now sourceTable.rows :=
    ⟨hpage, hs.ordered.rising hsource, hkinds, fun hr => hmakes _ hr⟩
  obtain ⟨hnow, hlater⟩ := List.forall_mem_append.1 hsteady
  have hall := rowsOf_batches_perm sourceTable.rows hsplit
  have hperm := (hall.flatMap_right _).trans (List.Perm.of_eq hmade.symm)
  have hempty : w.Keeps unique.1 s s [] [] :=
    ⟨hblank.keys hmem, .refl hblank.calm, List.nodup_nil, nofun, nofun⟩
  obtain ⟨stats, entries, hresults, hwritten, hkeeps⟩ := pooledAll_distinct hrow hw
    (htable ▸ hother) hstored hrows hnow hempty (hperm.length_eq ▸ hfresh) h
  rw [List.nil_append, List.nil_append] at hkeeps
  have hkeys : ∀ item ∈ items, unique.2.key item.record = .ok (keyIn unique.1 item) :=
    fun item hitem => Node.key_of_made hkeyed (hmade ▸ hitem) hmem
  refine ⟨unique, _, stats, hunique, Node.length_itemsOf hhaving hitems, hresults,
    hkeeps.writtenDistinct hblank.rows hperm hkeys hwritten, fun hagain => ?_⟩
  have hstored' : s'.tables.get? reader.table = some sourceTable :=
    (hkeeps.wrote.other (htable ▸ hother)).trans hstored
  refine pooledAll_again hrow hw hstored' hrows hkeeps.wrote.calm (fun item hitem => ?_) hlater hagain
  exact hkeeps.present hw ((hall.flatMap_right _).mem_iff.2 hitem)

/-- Run over the ranges of a split in any order, a node without repeated rows writes one record for
every key that the rows of its source have. From then on batches write nothing and leave the store
as it is. Each batch has its own time, at which the rows make what they make now. -/
theorem Batch.distinct_written {defined now : DateTime} {name : String} {reader : Reader}
    {source output : Table} {n : Node} {settings : BatchSettings} {s : Store}
    {sourceTable : StoredTable} {items : List Item} {ids : Task.Supply}
    (hn : Node.distinct defined name reader source output = .ok n)
    (hsettings : settings.check = .ok ()) (hpage : 0 < reader.pageSize) (hs : s.Reachable)
    (hsource : s.table source.name = .ok sourceTable) (hother : source.name ≠ output.name)
    (hkeyed : Assoc.Keyed output.indexes)
    (hkinds : (source.columnsAs readerAlias).Hold sourceTable.rows)
    (hitems : n.itemsOf now n.readRow sourceTable.rows = .ok items)
    (hblank : s.Blank output.name output.indexes)
    (hfresh : s.Fresh output.name ids items.length) (count : Nat)
    {batches again : List (DateTime × TokenRange)}
    (hsplit : (batches.map Prod.snd).Perm (TokenRange.split count))
    (hsteady : ∀ batch ∈ batches ++ again, n.Steady n.readRow sourceTable.rows now batch.1) :
    ∃ (unique : String × Index) (keys : List String) (stats : List BatchStats)
      (ids' : Task.Supply) (s' : Store),
      output.uniqueIndex = .ok unique ∧ items.length = sourceTable.rows.length ∧
      runAll Store.backend settings n .distinct batches ids s = (stats.map .ok, ids', s') ∧
      WrittenDistinct output.name unique.2 items keys stats s' ∧
      ∀ ids : Task.Supply, ∃ (stats : List BatchStats) (ids' : Task.Supply),
        runAll Store.backend settings n .distinct again ids s' = (stats.map .ok, ids', s') ∧
        ∀ stat ∈ stats, stat.written = 0 := by
  obtain ⟨unique, keys, stats, hunique, hlength, hresults, hwritten, hagain⟩ :=
    Batch.distinct_pooled hn hsettings hpage hs hsource hother hkeyed hkinds hitems hblank hfresh count
      hsplit hsteady (Batch.pooledAll_runAll none batches ids s)
  refine ⟨unique, keys, stats, _, _, hunique, hlength, Prod.ext hresults (Prod.ext rfl rfl), hwritten,
    fun ids => ?_⟩
  obtain ⟨stats, hresults, hstore, hnone⟩ := hagain (Batch.pooledAll_runAll none again ids _)
  exact ⟨stats, _, Prod.ext hresults (Prod.ext rfl hstore), hnone⟩

namespace SaleSample

/-! Whether even or odd items were sold. -/

def parities : Table :=
  ⟨"parities", "", none,
    [⟨"parity", .int, "r.item % 2", .binary .remainder (.selector "r" "item") (.int 2), ""⟩],
    [("idx_parity", ⟨true, [.plain "parity" .int]⟩)]⟩

def parityNode : Node :=
  ⟨"parity", .distinct, ⟨"sales", 1, 2⟩, [⟨"r", "item", .int⟩, ⟨"r", "qty", .int⟩], parities, none⟩

def parityStore : Store :=
  let s := rows.foldl (fun s r => s.putRow "sales" r) Store.empty
  (s.createTable "parities").createIndex "idx_parity"

def even : Item := ⟨[("parity", .int 0)], [("idx_parity", "0000000000000000000")]⟩

def odd : Item := ⟨[("parity", .int 1)], [("idx_parity", "0000000000000000001")]⟩

def again : List (DateTime × TokenRange) :=
  [(⟨3600, 0, 0⟩, TokenRange.nth 3 0)]

theorem steady_parities (time : DateTime) :
    parityNode.Steady parityNode.readRow rows .unset time := by
  intro r hr
  simp only [rows, List.mem_cons, List.not_mem_nil, or_false] at hr
  rcases hr with rfl | rfl | rfl <;> rfl

theorem reachable_parityStore : parityStore.Reachable :=
  ((Store.Reachable.empty.putRows _ _).createTable _).createIndex _

theorem blank_parityStore : parityStore.Blank parities.name parities.indexes where
  calm := ⟨rfl, rfl, by decide⟩
  rows := rfl
  keys {e} he _ := by
    obtain rfl := List.mem_singleton.1 he
    rfl

theorem fresh_parityStore : parityStore.Fresh parities.name ids 3 := by
  have hnext : ids.next 3 = [10, 11, 12] := rfl
  refine ⟨by rw [hnext]; decide, fun h => ?_⟩
  simp only [hnext, List.mem_cons, List.not_mem_nil, or_false] at h
  rcases h with rfl | rfl | rfl <;> rfl

theorem distinct_written_parities :
    Node.distinct .unset "parity" ⟨"sales", 1, 2⟩ sales parities = .ok parityNode ∧
      parityNode.itemsOf .unset parityNode.readRow rows = .ok [even, odd, odd] ∧
      ∃ (unique : String × Index) (keys : List String) (stats : List BatchStats)
        (ids' : Task.Supply) (s' : Store),
        parities.uniqueIndex = .ok unique ∧ [even, odd, odd].length = rows.length ∧
        Batch.runAll Store.backend .default parityNode .distinct batches.reverse ids parityStore =
          (stats.map .ok, ids', s') ∧
        WrittenDistinct parities.name unique.2 [even, odd, odd] keys stats s' ∧
        ∀ ids : Task.Supply, ∃ (stats : List BatchStats) (ids' : Task.Supply),
          Batch.runAll Store.backend .default parityNode .distinct again ids s' =
            (stats.map .ok, ids', s') ∧
          ∀ stat ∈ stats, stat.written = 0 := by
  have hnode : Node.distinct .unset "parity" ⟨"sales", 1, 2⟩ sales parities = .ok parityNode := rfl
  have hsource : parityStore.table sales.name = .ok ⟨rows, []⟩ := rfl
  have hitems : parityNode.itemsOf .unset parityNode.readRow rows = .ok [even, odd, odd] := rfl
  have hkeyed : Assoc.Keyed parities.indexes := by simp [Assoc.Keyed, parities]
  have hsplit : (batches.reverse.map Prod.snd).Perm (TokenRange.split 3) :=
    (List.reverse_perm batches).map Prod.snd
  exact ⟨hnode, hitems, Batch.distinct_written hnode rfl (by decide) reachable_parityStore hsource
    (by decide) hkeyed (by decide) hitems blank_parityStore fresh_parityStore 3 hsplit
    fun batch _ => steady_parities batch.1⟩

end SaleSample
end TableMill
