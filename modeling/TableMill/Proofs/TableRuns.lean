import Mathlib.Algebra.GroupWithZero.Nat
import TableMill.Proofs.PooledBatches
import TableMill.Proofs.TokenSplit

/-!
# Batches of a plain table

Run over the ranges of a split, in any order, the batches of a node that makes one record out of
every row write together what one pass over all rows gives, whatever the number of batches, the
size of a page, the turns of the workers and the times, as long as the rows make the same at all
these times.
-/

namespace TableMill

open Writer (keyIn)

namespace Store

/-- Nothing keeps a table from taking records: no fault is injected, the row ids to be drawn are
new and all different, and so are the keys of unique indexes. -/
structure Takes (s : Store) (table : String) (indexes : Assoc Index) (ids : Task.Supply)
    (items : List Item) : Prop where
  calm : s.Calm table indexes
  fresh : s.Fresh table ids items.length
  distinct {e : String × Index} (he : e ∈ indexes) (hunique : e.2.unique = true) :
    (items.map (keyIn e.1)).Nodup
  new {e : String × Index} (he : e ∈ indexes) (hunique : e.2.unique = true) {item : Item}
    (hitem : item ∈ items) : s.idsUnder e.1 (keyIn e.1 item) = []

variable {s s' : Store} {table : String} {indexes : Assoc Index} {ids : Task.Supply}
  {items xs ys : List Item}

theorem Takes.perm (h : s.Takes table indexes ids items) {items' : List Item}
    (hperm : items'.Perm items) : s.Takes table indexes ids items' where
  calm := h.calm
  fresh := hperm.length_eq ▸ h.fresh
  distinct he hunique := (hperm.map _).nodup_iff.2 (h.distinct he hunique)
  new he hunique _ hitem := h.new he hunique (hperm.mem_iff.1 hitem)

theorem Takes.fresh_append (h : s.Takes table indexes ids (xs ++ ys)) :
    s.Fresh table ids (xs.length + ys.length) :=
  List.length_append ▸ h.fresh

theorem Takes.distinct_append (h : s.Takes table indexes ids (xs ++ ys)) {e : String × Index}
    (he : e ∈ indexes) (hunique : e.2.unique = true) :
    (xs.map (keyIn e.1)).Nodup ∧ (ys.map (keyIn e.1)).Nodup ∧
      ∀ x ∈ xs, ∀ y ∈ ys, keyIn e.1 x ≠ keyIn e.1 y := by
  have hnodup := h.distinct he hunique
  rw [List.map_append] at hnodup
  obtain ⟨hxs, hys, hdisjoint⟩ := List.nodup_append.1 hnodup
  exact ⟨hxs, hys, fun x hx y hy =>
    hdisjoint _ (List.mem_map_of_mem hx) _ (List.mem_map_of_mem hy)⟩

theorem Takes.front (h : s.Takes table indexes ids (xs ++ ys)) : s.Takes table indexes ids xs where
  calm := h.calm
  fresh := h.fresh_append.front
  distinct he hunique := (h.distinct_append he hunique).1
  new he hunique _ hitem := h.new he hunique (List.mem_append_left _ hitem)

end Store

namespace Writer

variable {w : Writer} {s s' s'' : Store} {ids : Task.Supply} {items xs ys : List Item}

/-- Items are written under the next row ids, in some order. -/
def WroteNext (w : Writer) (ids : Task.Supply) (s s' : Store) (items : List Item) : Prop :=
  ∃ entries, w.Wrote s s' entries ∧ (entries.map Prod.fst).Perm items ∧
    entries.map Prod.snd ⊆ ids.next items.length

namespace WroteNext

theorem append (h : w.WroteNext ids s s' xs) (h' : w.WroteNext (ids.after xs.length) s' s'' ys) :
    w.WroteNext ids s s'' (xs ++ ys) := by
  obtain ⟨entries, hwrote, hitems, hdrawn⟩ := h
  obtain ⟨more, hwrote', hitems', hdrawn'⟩ := h'
  refine ⟨entries ++ more, hwrote.trans hwrote', ?_, ?_⟩
  · rw [List.map_append]
    exact hitems.append hitems'
  · rw [List.map_append, List.length_append, ids.next_add]
    exact List.append_subset.2 ⟨fun _ h => List.mem_append_left _ (hdrawn h),
      fun _ h => List.mem_append_right _ (hdrawn' h)⟩

theorem other (h : w.WroteNext ids s s' items) {name : String} (hne : name ≠ w.table) :
    s'.tables.get? name = s.tables.get? name := by
  obtain ⟨entries, hwrote, -⟩ := h
  exact hwrote.other hne

theorem table_isSome (h : w.WroteNext ids s s' items) : (s'.tables.get? w.table).isSome := by
  obtain ⟨entries, hwrote, -⟩ := h
  exact hwrote.calm.table_isSome

theorem records_perm (h : w.WroteNext ids s s' items) :
    ((s'.rowsIn w.table).map Row.values).Perm
      ((s.rowsIn w.table).map Row.values ++ items.map Item.record) := by
  obtain ⟨entries, hwrote, hitems, -⟩ := h
  have hrecords := hitems.map Item.record
  rw [List.map_map] at hrecords
  refine (hwrote.rows.map Row.values).trans ?_
  rw [List.map_append, List.map_map]
  exact hrecords.append_left _

/-- When the first records are written, nothing keeps the others from being written. -/
theorem takes (h : w.WroteNext ids s s' xs) (htakes : s.Takes w.table w.indexes ids (xs ++ ys)) :
    s'.Takes w.table w.indexes (ids.after xs.length) ys := by
  obtain ⟨entries, hwrote, hitems, hdrawn⟩ := h
  refine ⟨hwrote.calm, htakes.fresh_append.back hwrote hdrawn,
    fun he hunique => (htakes.distinct_append he hunique).2.1, ?_⟩
  intro e he hunique item hitem
  refine (hwrote.idsUnder_eq_nil he).2
    ⟨htakes.new he hunique (List.mem_append_right _ hitem), fun x hx => ?_⟩
  have hfront : x.1 ∈ xs := hitems.mem_iff.1 (List.mem_map_of_mem hx)
  exact (htakes.distinct_append he hunique).2.2 _ hfront _ hitem

end WroteNext

theorem ready_of_takes (hattempts : 0 < w.settings.rowidAttempts) (hdistinct : w.distinct = none)
    (hkeyed : Assoc.Keyed w.indexes)
    (hkeys : ∀ item ∈ items, ∀ e ∈ w.indexes, (Assoc.get? item.keys e.1).isSome)
    (htakes : s.Takes w.table w.indexes ids items) : w.Ready items s where
  attempts_pos := hattempts
  keyed := hkeyed
  calm := htakes.calm
  keys hitem := hkeys _ hitem
  index_mem h := by cases hdistinct.symm.trans h
  nodup he hunique := htakes.distinct (List.mem_filter.1 he).1 hunique
  new he hunique _ hitem := htakes.new (List.mem_filter.1 he).1 hunique hitem

end Writer

namespace Batch

variable {n : Node} {w : Writer} {settings : BatchSettings} {columns : Columns}
  {now time : DateTime} {t : StoredTable} {s s' : Store} {ids ids' : Task.Supply}
  {environment : Option String} {result : BatchResult BatchStats}
  {results : List (BatchResult BatchStats)}

/-- One batch writes what the rows in its range make. -/
theorem pooled_table (hrow : RowByRow n w settings .table columns) (hdistinct : w.distinct = none)
    (hkeyed : Assoc.Keyed w.indexes) {range : TokenRange}
    (ht : s.tables.get? n.reader.table = some t) (hrows : n.Readable now t.rows)
    (hsteady : n.Steady n.readRow t.rows now time)
    (htakes : s.Takes w.table w.indexes ids ((range.rowsOf t.rows).flatMap (n.made now)))
    (h : Pooled environment settings n .table time range ids s result ids' s') :
    let items := (range.rowsOf t.rows).flatMap (n.made now)
    result = .ok ⟨(range.rowsOf t.rows).length, items.length, n.reader.table, n.output.name⟩ ∧
      ids' = ids.after items.length ∧ w.WroteNext ids s s' items := by
  intro items
  obtain ⟨pages, hpages, hpooled⟩ := hrow.pooled_calm ht hrows hsteady range
  have hfirsts : n.firstsOf now w pages = items := by
    simp only [Node.firstsOf, Writer.firsts_of_none hdistinct, items]
    rw [← hpages, List.flatten_eq_flatMap, List.flatMap_assoc]
    rfl
  have hready : w.Ready items s := Writer.ready_of_takes hrow.attempts_pos hdistinct hkeyed
    (fun _ hitem => hrow.keys_isSome hitem) htakes
  obtain ⟨entries, skipped, hend, hresult, hids⟩ :=
    hpooled hfirsts hready (fun _ _ _ => htakes.fresh) h
  have hwhole := hend.whole
  rw [hend.none_skipped hdistinct, List.append_nil] at hwhole
  have hlength : entries.length = items.length := by rw [← hwhole.length_eq, List.length_map]
  exact ⟨hlength ▸ hresult, hids, entries, hend.wrote, hwhole, hend.drawn⟩

/-- Batches over the ranges of a split read every row once. -/
theorem rowsOf_batches_perm (rows : List Row) {batches : List (DateTime × TokenRange)} {count : Nat}
    (hsplit : (batches.map Prod.snd).Perm (TokenRange.split count)) :
    (batches.flatMap fun batch => batch.2.rowsOf rows).Perm rows := by
  have hmap : ((batches.map Prod.snd).flatMap fun range => range.rowsOf rows) =
      batches.flatMap fun batch => batch.2.rowsOf rows := List.flatMap_map ..
  rw [← hmap]
  exact (hsplit.flatMap_right _).trans (TokenRange.split_rowsOf_perm rows count)

theorem pooledAll_table (hrow : RowByRow n w settings .table columns) (hdistinct : w.distinct = none)
    (hkeyed : Assoc.Keyed w.indexes) (hother : n.reader.table ≠ w.table)
    {batches : List (DateTime × TokenRange)} (ht : s.tables.get? n.reader.table = some t)
    (hrows : n.Readable now t.rows)
    (hsteady : ∀ batch ∈ batches, n.Steady n.readRow t.rows now batch.1)
    (htakes : s.Takes w.table w.indexes ids
      ((batches.flatMap fun batch => batch.2.rowsOf t.rows).flatMap (n.made now)))
    (h : PooledAll environment settings n .table batches ids s results ids' s') :
    let rows := batches.flatMap fun batch => batch.2.rowsOf t.rows
    let items := rows.flatMap (n.made now)
    ∃ stats : List BatchStats, results = stats.map .ok ∧ ids' = ids.after items.length ∧
      (stats.map BatchStats.read).sum = rows.length ∧
      (stats.map BatchStats.written).sum = items.length ∧ w.WroteNext ids s s' items := by
  induction h with
  | nil => exact ⟨[], rfl, rfl, rfl, rfl, [], .refl htakes.calm, .refl _, List.nil_subset _⟩
  | @cons time range rest ids s result ids' s' results ids'' s'' hbatch _ ih =>
    obtain ⟨hnow, hlater⟩ := List.forall_mem_cons.1 hsteady
    simp only [List.flatMap_cons, List.flatMap_append] at htakes
    obtain ⟨rfl, rfl, hwrote⟩ := pooled_table hrow hdistinct hkeyed ht hrows hnow htakes.front hbatch
    obtain ⟨stats, rfl, rfl, hread, hwritten, hwrote'⟩ :=
      ih ((hwrote.other hother).trans ht) hlater (hwrote.takes htakes)
    let stat : BatchStats := ⟨(range.rowsOf t.rows).length,
      ((range.rowsOf t.rows).flatMap (n.made now)).length, n.reader.table, n.output.name⟩
    refine ⟨stat :: stats, rfl, ?_, ?_, ?_, ?_⟩
    · simp only [List.flatMap_cons, List.flatMap_append, List.length_append, ids.after_add]
    · simp only [List.flatMap_cons, List.length_append, List.map_cons, List.sum_cons, hread, stat]
    · simp only [List.flatMap_cons, List.flatMap_append, List.length_append, List.map_cons,
        List.sum_cons, hwritten, stat]
    · simp only [List.flatMap_cons, List.flatMap_append]
      exact hwrote.append hwrote'

/-- Run over the ranges of a split in any order, a table node writes once what every row of its
source makes: the record that its fields give for the whole row, if that meets the condition. All
rows are read, and neither the number of batches, the size of a page nor the turns of the workers
matter. Each batch has its own time, at which the rows make what they make now. -/
theorem tables_pooled {defined : DateTime} {name : String} {reader : Reader}
    {source output : Table} {sourceTable outputTable : StoredTable} {items : List Item}
    (hn : Node.table defined name reader source output = .ok n)
    (hsettings : settings.check = .ok ()) (hpage : 0 < reader.pageSize) (hs : s.Reachable)
    (hsource : s.table source.name = .ok sourceTable)
    (houtput : s.table output.name = .ok outputTable) (hother : source.name ≠ output.name)
    (hkeyed : Assoc.Keyed output.indexes)
    (hkinds : (source.columnsAs readerAlias).Hold sourceTable.rows)
    (hnames : ∀ f ∈ source.fields, f.name ≠ rowidName)
    (hitems : n.itemsOf now n.storedRow sourceTable.rows = .ok items)
    (htakes : s.Takes output.name output.indexes ids items) (count : Nat)
    {batches : List (DateTime × TokenRange)}
    (hsplit : (batches.map Prod.snd).Perm (TokenRange.split count))
    (hsteady : ∀ batch ∈ batches, n.Steady n.storedRow sourceTable.rows now batch.1)
    (h : PooledAll environment settings n .table batches ids s results ids' s') :
    ∃ (stats : List BatchStats) (outputTable' : StoredTable),
      results = stats.map .ok ∧ ids' = ids.after items.length ∧
      (stats.map BatchStats.read).sum = sourceTable.rows.length ∧
      (stats.map BatchStats.written).sum = items.length ∧
      s'.table output.name = .ok outputTable' ∧
      (outputTable'.rows.map Row.values).Perm
        (outputTable.rows.map Row.values ++ items.map Item.record) := by
  obtain ⟨htable, rfl, herrors⟩ := Node.check_eq_ok hn
  let w : Writer := ⟨output.name, output.indexes, none, settings.writer⟩
  obtain ⟨columns, hrow⟩ : ∃ columns, RowByRow _ w settings .table columns :=
    Node.rowByRow_of_accepted (Node.accepted_of_errors herrors) (fun _ _ _ => rfl) rfl rfl hsettings
      (Writer.start_of_check hsettings output)
  have hstored : s.tables.get? reader.table = some sourceTable :=
    htable ▸ Store.get?_of_table hsource
  rw [← Node.readRow_eq rfl hnames] at hitems hsteady
  obtain ⟨hmakes, hmade⟩ := Node.itemsOf_eq_ok hitems
  have hrows : Node.Readable _ now sourceTable.rows :=
    ⟨hpage, hs.ordered.rising hsource, hkinds, fun hr => hmakes _ hr⟩
  have hall := rowsOf_batches_perm sourceTable.rows hsplit
  have hperm := (hall.flatMap_right _).trans (List.Perm.of_eq hmade.symm)
  obtain ⟨stats, hresults, hids, hread, hwritten, hwrote⟩ := pooledAll_table hrow rfl hkeyed
    (htable ▸ hother) hstored hrows hsteady (htakes.perm hperm) h
  obtain ⟨outputTable', houtput'⟩ := Option.isSome_iff_exists.1 hwrote.table_isSome
  have htable' : s'.table output.name = .ok outputTable' := by rw [Store.table, houtput']
  refine ⟨stats, outputTable', hresults, hperm.length_eq ▸ hids, hread.trans hall.length_eq,
    hwritten.trans hperm.length_eq, htable', ?_⟩
  rw [← Store.rowsIn_of_table houtput, ← Store.rowsIn_of_table htable']
  exact hwrote.records_perm.trans ((hperm.map _).append_left _)

/-- Run over the ranges of a split in any order, a table node writes once what every row of its
source makes: the record that its fields give for the whole row, if that meets the condition. All
rows are read, and neither the number of batches nor the size of a page matters. Each batch has
its own time, at which the rows make what they make now. -/
theorem tables_written {defined : DateTime} {name : String} {reader : Reader}
    {source output : Table} {sourceTable outputTable : StoredTable} {items : List Item}
    (hn : Node.table defined name reader source output = .ok n)
    (hsettings : settings.check = .ok ()) (hpage : 0 < reader.pageSize) (hs : s.Reachable)
    (hsource : s.table source.name = .ok sourceTable)
    (houtput : s.table output.name = .ok outputTable) (hother : source.name ≠ output.name)
    (hkeyed : Assoc.Keyed output.indexes)
    (hkinds : (source.columnsAs readerAlias).Hold sourceTable.rows)
    (hnames : ∀ f ∈ source.fields, f.name ≠ rowidName)
    (hitems : n.itemsOf now n.storedRow sourceTable.rows = .ok items)
    (htakes : s.Takes output.name output.indexes ids items) (count : Nat)
    {batches : List (DateTime × TokenRange)}
    (hsplit : (batches.map Prod.snd).Perm (TokenRange.split count))
    (hsteady : ∀ batch ∈ batches, n.Steady n.storedRow sourceTable.rows now batch.1) :
    ∃ (stats : List BatchStats) (s' : Store) (outputTable' : StoredTable),
      runAll Store.backend settings n .table batches ids s =
        (stats.map .ok, ids.after items.length, s') ∧
      (stats.map BatchStats.read).sum = sourceTable.rows.length ∧
      (stats.map BatchStats.written).sum = items.length ∧
      s'.table output.name = .ok outputTable' ∧
      (outputTable'.rows.map Row.values).Perm
        (outputTable.rows.map Row.values ++ items.map Item.record) := by
  obtain ⟨stats, outputTable', hresults, hids, hread, hwritten, htable, hrecords⟩ :=
    tables_pooled hn hsettings hpage hs hsource houtput hother hkeyed hkinds hnames hitems htakes
      count hsplit hsteady (pooledAll_runAll none batches ids s)
  exact ⟨stats, _, outputTable', Prod.ext hresults (Prod.ext hids rfl), hread, hwritten, htable,
    hrecords⟩

end Batch

namespace SaleSample

/-! Sales and what they cost, unless it is nothing. -/

def sales : Table :=
  ⟨"sales", "", none, [⟨"item", .int, "", .int 0, ""⟩, ⟨"qty", .int, "", .int 0, ""⟩], []⟩

def costs : Table :=
  ⟨"costs", "w.cost > 0", some (.binary .greater (.selector "w" "cost") (.int 0)),
    [⟨"item", .int, "r.item", .selector "r" "item", ""⟩,
      ⟨"cost", .int, "r.qty * 10", .binary .multiply (.selector "r" "qty") (.int 10), ""⟩],
    [("idx_item", ⟨true, [.plain "item" .int]⟩)]⟩

def node : Node :=
  ⟨"cost", .table, ⟨"sales", 1, 2⟩, [⟨"r", "item", .int⟩, ⟨"r", "qty", .int⟩], costs, none⟩

/-- Sales in the order of their tokens. The first one does not say how much was sold. -/
def rows : List Row :=
  [⟨2, [("item", .int 8)]⟩, ⟨3, [("item", .int 9), ("qty", .int 5)]⟩,
    ⟨1, [("item", .int 7), ("qty", .int 2)]⟩]

def store : Store :=
  let s := rows.foldl (fun s r => s.putRow "sales" r) Store.empty
  (s.createTable "costs").createIndex "idx_item"

theorem reachable_store : store.Reachable :=
  ((Store.Reachable.empty.putRows _ _).createTable _).createIndex _

def ids : Task.Supply := ⟨fun i => Int64.ofNat (10 + i), 0⟩

def items : List Item :=
  [⟨[("item", .int 9), ("cost", .int 50)], [("idx_item", "0000000000000000009")]⟩,
    ⟨[("item", .int 7), ("cost", .int 20)], [("idx_item", "0000000000000000007")]⟩]

def batches : List (DateTime × TokenRange) :=
  [⟨0, 0, 0⟩, ⟨60, 0, 0⟩, ⟨120, 0, 0⟩].zip (TokenRange.split 3)

theorem steady_rows (time : DateTime) : node.Steady node.storedRow rows .unset time := by
  intro r hr
  simp only [rows, List.mem_cons, List.not_mem_nil, or_false] at hr
  rcases hr with rfl | rfl | rfl <;> rfl

theorem calm_store : store.Calm costs.name costs.indexes :=
  ⟨rfl, rfl, by decide⟩

theorem fresh_store : store.Fresh costs.name ids items.length := by
  have hnext : ids.next items.length = [10, 11] := rfl
  refine ⟨by rw [hnext]; decide, fun h => ?_⟩
  simp only [hnext, List.mem_cons, List.not_mem_nil, or_false] at h
  rcases h with rfl | rfl <;> rfl

theorem takes_items : store.Takes costs.name costs.indexes ids items where
  calm := calm_store
  fresh := fresh_store
  distinct {e} he _ := by
    obtain rfl := List.mem_singleton.1 he
    decide
  new {e} he _ item hitem := by
    obtain rfl := List.mem_singleton.1 he
    rfl

theorem tables_written_costs :
    Node.table .unset "cost" ⟨"sales", 1, 2⟩ sales costs = .ok node ∧
      node.itemsOf .unset node.storedRow rows = .ok items ∧
      ∃ (stats : List BatchStats) (s' : Store) (written : StoredTable),
        Batch.runAll Store.backend .default node .table batches ids store =
          (stats.map .ok, ids.after items.length, s') ∧
        (stats.map BatchStats.read).sum = rows.length ∧
        (stats.map BatchStats.written).sum = items.length ∧
        s'.table costs.name = .ok written ∧
        (written.rows.map Row.values).Perm (items.map Item.record) := by
  have hnode : Node.table .unset "cost" ⟨"sales", 1, 2⟩ sales costs = .ok node := rfl
  have hsource : store.table sales.name = .ok ⟨rows, []⟩ := rfl
  have houtput : store.table costs.name = .ok ⟨[], []⟩ := rfl
  have hitems : node.itemsOf .unset node.storedRow rows = .ok items := rfl
  have hkeyed : Assoc.Keyed costs.indexes := by simp [Assoc.Keyed, costs]
  have hsplit : (batches.map Prod.snd).Perm (TokenRange.split 3) := List.Perm.of_eq rfl
  exact ⟨hnode, hitems, Batch.tables_written hnode rfl (by decide) reachable_store hsource houtput
    (by decide) hkeyed (by decide) (by decide) hitems takes_items 3 hsplit
    fun batch _ => steady_rows batch.1⟩

end SaleSample
end TableMill
