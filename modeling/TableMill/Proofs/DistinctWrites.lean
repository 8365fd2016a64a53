import Mathlib.Data.List.Dedup
import Mathlib.Data.List.Perm.Basic
import TableMill.Proofs.PoolKeys

/-!
# Writing without repeated keys

Many workers write records whose keys are not to be repeated. Whatever their turns, the
injected collisions and the faults of the storage, in the end every key is in the index with
one row behind it, and exactly the keys that were not there at the start were written.
-/

namespace TableMill

open Writer (keyIn)

def recordKeys (index : String) (items : List Item) : List String :=
  items.filterMap fun item => Assoc.get? item.keys index

/-- The keys of records that are not in the index yet, each once. -/
def newKeys (index : String) (items : List Item) (s : Store) : List String :=
  ((recordKeys index items).filter fun key => s.idsUnder index key = []).dedup

/-- What a pool has done when all records are settled. -/
structure WrittenOnce (table index : String) (items : List Item) (start : Store) (p : Pool) :
    Prop where
  /-- The key of every record has one row id, and a row is stored under it. -/
  indexed : ∀ item ∈ items, ∃ key rowid, Assoc.get? item.keys index = some key ∧
    p.store.idsUnder index key = [rowid] ∧ p.store.HasRow table rowid
  /-- Behind a new key there is exactly one row that was not there at the start. -/
  backed : ∀ key ∈ newKeys index items start, ∃! row, row ∈ p.store.rowsIn table ∧
    row ∉ start.rowsIn table ∧ p.store.idsUnder index key = [row.rowid]
  /-- A row that was not there at the start is that of a record with a new key. -/
  needed : ∀ row ∈ p.store.rowsIn table, row ∉ start.rowsIn table → ∃ item ∈ items,
    item.record = row.values ∧ ∃ key ∈ newKeys index items start,
      Assoc.get? item.keys index = some key ∧ p.store.idsUnder index key = [row.rowid]
  /-- No key of the start is lost. -/
  kept : ∀ key, start.idsUnder index key ≠ [] →
    p.store.idsUnder index key = start.idsUnder index key
  /-- As many records were written as there were new keys; the others were skipped. -/
  counted : ∀ most, p.totals most =
    ⟨(newKeys index items start).length, items.length - (newKeys index items start).length, [], 0⟩

section

variable {table index : String} {items : List Item} {start : Store}

theorem mem_newKeys {key : String} : key ∈ newKeys index items start ↔
    (∃ item ∈ items, Assoc.get? item.keys index = some key) ∧ start.idsUnder index key = [] := by
  simp [newKeys, recordKeys]

theorem Writer.keyIn_eq {item : Item} {key : String} (h : Assoc.get? item.keys index = some key) :
    keyIn index item = key := by
  rw [keyIn, h, Option.getD_some]

theorem totals_of_clean (most : Nat) {outcomes : List Outcome}
    (h : ∀ o ∈ outcomes, o = .written ∨ o = .skipped) (t : Totals) :
    outcomes.foldl (Totals.add most) t =
      { t with
        written := t.written + (outcomes.filter fun o => o = .written).length
        skipped := t.skipped +
          (outcomes.length - (outcomes.filter fun o => o = .written).length) } := by
  induction outcomes generalizing t with
  | nil => rfl
  | cons o outcomes ih =>
    have hle := List.length_filter_le (fun o => decide (o = Outcome.written)) outcomes
    rw [List.foldl_cons, ih fun o ho => h o (List.mem_cons_of_mem _ ho)]
    rcases h o List.mem_cons_self with rfl | rfl
    · simp [Totals.add]
      omega
    · simp [Totals.add]
      omega

namespace Tracked

variable {w : Writer} {done : List (Item × Int64)} {p : Pool}

theorem settled_all (hqueue : p.queue = []) (h : Tracked w index items start [] done p) :
    (p.settled.map Prod.fst).Perm items := by
  simpa [hqueue] using h.whole

theorem done_subset (hqueue : p.queue = []) (h : Tracked w index items start [] done p)
    {e : Item × Int64} (he : e ∈ done) : e.1 ∈ items := by
  have hwritten := h.written.mem_iff.2 (List.mem_map_of_mem (f := Prod.fst) he)
  obtain ⟨x, hx, hfst⟩ := List.mem_map.1 hwritten
  rw [← hfst]
  exact (h.settled_all hqueue).mem_iff.1 (List.mem_map_of_mem (List.mem_filter.1 hx).1)

theorem keyed_item (hqueue : p.queue = []) (h : Tracked w index items start [] done p)
    {item : Item} (hitem : item ∈ items) :
    Assoc.get? item.keys index = some (keyIn index item) := by
  obtain ⟨e, he, rfl⟩ := List.mem_map.1 ((h.settled_all hqueue).mem_iff.2 hitem)
  obtain ⟨key, hkey⟩ := Option.isSome_iff_exists.1 (h.keyed e he)
  rw [hkey, Writer.keyIn_eq hkey]

/-- Keys of written records were not there at the start. -/
theorem new_of_done (hstart : ∀ key, ∀ r ∈ p.drawn, r ∉ start.idsUnder index key)
    (h : Tracked w index items start [] done p) {e : Item × Int64} (he : e ∈ done) :
    start.idsUnder index (keyIn index e.1) = [] := by
  by_contra hne
  have hclaimed := h.sound.claimed e he
  rw [h.sound.kept _ hne] at hclaimed
  have hmem : e.2 ∈ start.idsUnder index (keyIn index e.1) := by
    rw [hclaimed]
    exact List.mem_cons_self
  exact hstart _ e.2 (h.sound.drawn e he) hmem

/-- A key of a record was there at the start, or a record with it was written. -/
theorem covered_item (hqueue : p.queue = []) (h : Tracked w index items start [] done p)
    {item : Item} (hitem : item ∈ items) :
    start.idsUnder index (keyIn index item) ≠ [] ∨
      ∃ e ∈ done, keyIn index e.1 = keyIn index item := by
  have hgone : item ∈ p.settled.map Prod.fst := (h.settled_all hqueue).mem_iff.2 hitem
  refine (h.sound.covered item hgone).imp_right fun ⟨j, hj, hkey⟩ => ?_
  obtain ⟨e, he, rfl⟩ := List.mem_map.1 (hj : j ∈ done.map Prod.fst)
  exact ⟨e, he, hkey⟩

/-- The written records have the new keys, each once. -/
theorem done_perm (hqueue : p.queue = [])
    (hstart : ∀ key, ∀ r ∈ p.drawn, r ∉ start.idsUnder index key)
    (h : Tracked w index items start [] done p) :
    (done.map fun e => keyIn index e.1).Perm (newKeys index items start) := by
  have hdistinct : (done.map Prod.snd).Nodup := h.sound.distinct
  have hnodup : (done.map fun e => keyIn index e.1).Nodup := by
    refine List.pairwise_map.2 ((List.pairwise_map.1 hdistinct).imp_of_mem ?_)
    intro e e' he he' hne hkey
    have hsame := (h.sound.claimed e he).symm.trans (hkey ▸ h.sound.claimed e' he')
    exact hne (List.cons.inj hsame).1
  refine (List.perm_ext_iff_of_nodup hnodup (List.nodup_dedup _)).2 fun key => ?_
  change _ ↔ key ∈ newKeys index items start
  rw [mem_newKeys, List.mem_map]
  constructor
  · rintro ⟨e, he, rfl⟩
    have hitem := h.done_subset hqueue he
    exact ⟨⟨e.1, hitem, h.keyed_item hqueue hitem⟩, h.new_of_done hstart he⟩
  · rintro ⟨⟨item, hitem, hkey⟩, hnew⟩
    have hin := Writer.keyIn_eq hkey
    rcases h.covered_item hqueue hitem with hold | ⟨e, he, hname⟩
    · exact absurd (hin ▸ hnew) hold
    · exact ⟨e, he, hname.trans hin⟩

theorem mem_rows (h : Tracked w index items start [] done p) {row : Row} :
    row ∈ p.store.rowsIn w.table ↔
      row ∈ start.rowsIn w.table ∨ ∃ e ∈ done, row = ⟨e.2, e.1.record⟩ :=
  h.sound.rows row

theorem done_row_new (hnew : ∀ r ∈ p.drawn, ¬ start.HasRow w.table r)
    (h : Tracked w index items start [] done p) {e : Item × Int64} (he : e ∈ done) :
    (⟨e.2, e.1.record⟩ : Row) ∉ start.rowsIn w.table :=
  fun hrow => hnew e.2 (h.sound.drawn e he) ⟨_, hrow, rfl⟩

/-- A row id stands for one written record. -/
theorem eq_of_rowid (h : Tracked w index items start [] done p) {e e' : Item × Int64}
    (he : e ∈ done) (he' : e' ∈ done) (hrowid : e.2 = e'.2) : e = e' :=
  List.inj_on_of_nodup_map h.sound.distinct he he' hrowid

theorem indexed (hqueue : p.queue = [])
    (hkeys : ∀ key r, r ∈ start.idsUnder index key →
      start.idsUnder index key = [r] ∧ start.HasRow w.table r)
    (h : Tracked w index items start [] done p) {item : Item} (hitem : item ∈ items) :
    ∃ key rowid, Assoc.get? item.keys index = some key ∧
      p.store.idsUnder index key = [rowid] ∧ p.store.HasRow w.table rowid := by
  refine ⟨keyIn index item, ?_⟩
  have hkey := h.keyed_item hqueue hitem
  rcases h.covered_item hqueue hitem with hold | ⟨e, he, hname⟩
  · obtain ⟨r, hr⟩ := List.exists_mem_of_ne_nil _ hold
    obtain ⟨hids, row, hrow, hrowid⟩ := hkeys _ r hr
    exact ⟨r, hkey, (h.sound.kept _ hold).trans hids, row, h.mem_rows.2 (.inl hrow), hrowid⟩
  · refine ⟨e.2, hkey, hname ▸ h.sound.claimed e he, ⟨e.2, e.1.record⟩, ?_, rfl⟩
    exact h.mem_rows.2 (.inr ⟨e, he, rfl⟩)

theorem backed (hqueue : p.queue = []) (hnew : ∀ r ∈ p.drawn, ¬ start.HasRow w.table r)
    (hstart : ∀ key, ∀ r ∈ p.drawn, r ∉ start.idsUnder index key)
    (h : Tracked w index items start [] done p) {key : String}
    (hkey : key ∈ newKeys index items start) :
    ∃! row, row ∈ p.store.rowsIn w.table ∧ row ∉ start.rowsIn w.table ∧
      p.store.idsUnder index key = [row.rowid] := by
  obtain ⟨e, he, rfl⟩ := List.mem_map.1 ((h.done_perm hqueue hstart).mem_iff.2 hkey)
  have hclaimed := h.sound.claimed e he
  refine ⟨⟨e.2, e.1.record⟩,
    ⟨h.mem_rows.2 (.inr ⟨e, he, rfl⟩), h.done_row_new hnew he, hclaimed⟩, ?_⟩
  rintro row ⟨hrow, hfresh, hids⟩
  obtain ⟨e', he', rfl⟩ := (h.mem_rows.1 hrow).resolve_left hfresh
  have hrowid := (List.cons.inj (hclaimed.symm.trans hids)).1
  rw [h.eq_of_rowid he he' hrowid]

theorem needed (hqueue : p.queue = [])
    (hstart : ∀ key, ∀ r ∈ p.drawn, r ∉ start.idsUnder index key)
    (h : Tracked w index items start [] done p) {row : Row}
    (hrow : row ∈ p.store.rowsIn w.table) (hfresh : row ∉ start.rowsIn w.table) :
    ∃ item ∈ items, item.record = row.values ∧ ∃ key ∈ newKeys index items start,
      Assoc.get? item.keys index = some key ∧ p.store.idsUnder index key = [row.rowid] := by
  obtain ⟨e, he, rfl⟩ := (h.mem_rows.1 hrow).resolve_left hfresh
  have hitem := h.done_subset hqueue he
  refine ⟨e.1, hitem, rfl, keyIn index e.1, ?_, h.keyed_item hqueue hitem, h.sound.claimed e he⟩
  exact (h.done_perm hqueue hstart).mem_iff.1 (List.mem_map_of_mem he)

theorem counted (hqueue : p.queue = [])
    (hstart : ∀ key, ∀ r ∈ p.drawn, r ∉ start.idsUnder index key)
    (h : Tracked w index items start [] done p) (most : Nat) :
    p.totals most = ⟨(newKeys index items start).length,
      items.length - (newKeys index items start).length, [], 0⟩ := by
  have hclean : ∀ o ∈ p.settled.map Prod.snd, o = .written ∨ o = .skipped := by
    intro o ho
    obtain ⟨e, he, rfl⟩ := List.mem_map.1 ho
    exact h.clean e he
  have hwritten : ((p.settled.map Prod.snd).filter fun o => o = .written).length =
      (newKeys index items start).length := by
    have hdone := h.written.length_eq
    have hperm := (h.done_perm hqueue hstart).length_eq
    simp only [List.length_map] at hdone hperm
    rw [List.filter_map, List.length_map, ← hperm, ← hdone]
    rfl
  have hall := (h.settled_all hqueue).length_eq
  rw [List.length_map] at hall
  rw [Pool.totals, totals_of_clean most hclean, hwritten, List.length_map, hall]
  simp [Totals.empty]

end Tracked

/-- Whatever the turns of the workers, the injected collisions and faults: if the row ids
drawn are new and all different, every key of the start has one row id with a row, and no
record fails, every key is written once and none is lost. -/
theorem Pool.writtenOnce {w : Writer} (hdistinct : w.distinct = some index) {workers : Nat}
    {moves : List Move} {p : Pool}
    (hrun : (Pool.start items start).run w workers moves = some p) (hidle : p.Idle)
    (hclean : ∀ e ∈ p.settled, ∀ fault, e.2 ≠ .failed fault) (hdrawn : p.drawn.Nodup)
    (hnew : ∀ r ∈ p.drawn, ¬ start.HasRow w.table r)
    (hkeys : ∀ key r, r ∈ start.idsUnder index key →
      start.idsUnder index key = [r] ∧ start.HasRow w.table r) :
    WrittenOnce w.table index items start p := by
  have hstart : ∀ key, ∀ r ∈ p.drawn, r ∉ start.idsUnder index key :=
    fun key r hr hmem => hnew r hr (hkeys key r hmem).2
  obtain ⟨hqueue, hbusy⟩ := hidle
  obtain ⟨crew, done, h⟩ := Tracked.run hdistinct hrun hclean hdrawn hstart
  obtain rfl : crew = [] := List.map_eq_nil_iff.1 (h.busy.symm.trans hbusy)
  exact ⟨fun _ hitem => h.indexed hqueue hkeys hitem, fun _ hkey => h.backed hqueue hnew hstart hkey,
    fun _ hrow hfresh => h.needed hqueue hstart hrow hfresh, h.sound.kept,
    h.counted hqueue hstart⟩

end

namespace PoolSample

/-! Two workers and three records, two of them with one key. The first row id drawn is found
to be taken; while its worker still holds the key, the other one is beaten. -/

def writer : Writer :=
  ⟨"skus", [("idx_sku", ⟨true, [.plain "sku" .text]⟩)], some "idx_sku", .default⟩

def item (sku : String) : Item := ⟨[("sku", .text sku)], [("idx_sku", sku)]⟩

def records : List Item := [item "x", item "x", item "z"]

def store : Store :=
  ((Store.empty.putRow "skus" ⟨9, (item "z").record⟩).putKey "idx_sku" "z" 9).collide 1

def moves : List Move :=
  [.take, .take, .go 0 1, .go 0 0, .go 0 0, .go 1 2, .go 1 0, .go 1 0, .take, .go 0 0, .go 0 3,
    .go 1 4, .go 0 0, .go 1 0, .go 0 0, .go 0 0, .go 0 0]

def final : Pool :=
  ((Pool.start records store).run writer 2 moves).getD (Pool.start records store)

theorem run_final : (Pool.start records store).run writer 2 moves = some final := by
  have hsome : ((Pool.start records store).run writer 2 moves).isSome := by decide +kernel
  obtain ⟨p, hp⟩ := Option.isSome_iff_exists.1 hsome
  rw [final, hp, Option.getD_some]

theorem final_idle : final.Idle := by
  have hbusy : final.busy.length = 0 := by decide +kernel
  exact ⟨by decide +kernel, List.eq_nil_of_length_eq_zero hbusy⟩

theorem final_settled :
    final.settled = [(item "x", .skipped), (item "x", .written), (item "z", .skipped)] := by
  decide +kernel

theorem final_drawn : final.drawn = [1, 2, 3, 4] := by
  decide +kernel

theorem hasRow_store {r : Int64} : store.HasRow "skus" r ↔ r = 9 := by
  have hrows : store.rowsIn "skus" = [⟨9, (item "z").record⟩] := by decide +kernel
  simp [Store.HasRow, hrows, eq_comm]

theorem single_store (key : String) (r : Int64) (h : r ∈ store.idsUnder "idx_sku" key) :
    store.idsUnder "idx_sku" key = [r] ∧ store.HasRow "skus" r := by
  have hindex : (store.indexes.get? "idx_sku").getD [] = [("z", [9])] := by decide +kernel
  have hids : store.idsUnder "idx_sku" key = if "z" = key then [9] else [] := by
    rw [Store.idsUnder, hindex, StoredIndex.idsOf, Assoc.get?_cons]
    split <;> rfl
  rw [hids] at h ⊢
  split at h
  · rename_i hkey
    obtain rfl := List.mem_singleton.1 h
    exact ⟨if_pos hkey, hasRow_store.2 rfl⟩
  · cases h

theorem writtenOnce_two_workers :
    final.Idle ∧ WrittenOnce "skus" "idx_sku" records store final := by
  refine ⟨final_idle, Pool.writtenOnce (w := writer) rfl run_final final_idle ?_ ?_ ?_ single_store⟩
  · rw [final_settled]
    simp
  · rw [final_drawn]
    decide
  · rw [final_drawn]
    intro r hr hrow
    rw [hasRow_store.1 hrow] at hr
    revert hr
    decide

end PoolSample
end TableMill
