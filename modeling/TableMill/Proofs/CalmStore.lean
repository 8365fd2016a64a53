import TableMill.Proofs.WriteEffects
import TableMill.Proofs.WritePhases

/-!
# Calm stores

As long as no fault is injected, a call on existing tables and indexes makes its change at once:
a row with a free id is stored, and a key is entered unless it has to be new and is not. What some
records leave of the fresh row ids is fresh for those that are written later.
-/

namespace TableMill

open Writer (keyIn)

theorem StoredTable.insertRow_perm {r : Row} {rows : List Row}
    (hfree : ∀ q ∈ rows, q.rowid ≠ r.rowid) : (insertRow r rows).Perm (r :: rows) := by
  induction rows with
  | nil => exact List.Perm.refl _
  | cons q rest ih =>
    have hq : ¬ r.rowid = q.rowid := fun h => hfree q List.mem_cons_self h.symm
    rw [insertRow, if_neg hq]
    split
    · exact List.Perm.refl _
    · exact ((ih fun x hx => hfree x (List.mem_cons_of_mem _ hx)).cons q).trans (.swap _ _ _)

namespace Store

/-- A store without injected faults that has a table and indexes. -/
structure Calm (s : Store) (table : String) (indexes : Assoc Index) : Prop where
  faults : s.faults = ⟨[], [], 0⟩
  table_isSome : (s.tables.get? table).isSome
  index_isSome {e : String × Index} (he : e ∈ indexes) : (s.indexes.get? e.1).isSome

/-- A row id that no row of a table has and no collision has taken. -/
def Free (s : Store) (table : String) (rowid : Int64) : Prop :=
  ((s.tables.get? table).getD .empty).isTaken rowid = false

/-- Row ids are all different, and no row of a table has one of them. -/
structure Unused (s : Store) (table : String) (rowids : List Int64) : Prop where
  nodup : rowids.Nodup
  free {rowid : Int64} (h : rowid ∈ rowids) : s.Free table rowid

theorem Unused.sublist {s : Store} {table : String} {few rowids : List Int64}
    (h : s.Unused table rowids) (hsub : few.Sublist rowids) : s.Unused table few where
  nodup := h.nodup.sublist hsub
  free hmem := h.free (hsub.subset hmem)

variable {s : Store} {table name : String} {indexes : Assoc Index} {rowid : Int64}

theorem free_iff : s.Free table rowid ↔
    (∀ row ∈ s.rowsIn table, row.rowid ≠ rowid) ∧ rowid ∉ s.collidedIds table := by
  have hrows : s.rowsIn table = ((s.tables.get? table).getD .empty).rows := by
    rw [rowsIn]
    cases s.tables.get? table <;> rfl
  have hcollided : s.collidedIds table = ((s.tables.get? table).getD .empty).collided := by
    rw [collidedIds]
    cases s.tables.get? table <;> rfl
  rw [Free, StoredTable.isTaken, hrows, hcollided, Bool.or_eq_false_iff, StoredTable.row?]
  simp

/-! ## Storing a row -/

variable (s)

theorem tables_putRow (name other : String) (r : Row) :
    (s.putRow name r).tables.get? other =
      if name = other then some (((s.tables.get? name).getD .empty).put r)
      else s.tables.get? other :=
  Assoc.get?_set ..

theorem rowsIn_putRow (table : String) (r : Row) :
    (s.putRow table r).rowsIn table = StoredTable.insertRow r (s.rowsIn table) := by
  rw [rowsIn, tables_putRow, if_pos rfl, rowsIn]
  cases s.tables.get? table <;> rfl

theorem collidedIds_putRow (table : String) (r : Row) :
    (s.putRow table r).collidedIds table = s.collidedIds table := by
  rw [collidedIds, tables_putRow, if_pos rfl, collidedIds]
  cases s.tables.get? table <;> rfl

variable {s}

theorem Calm.putRow (h : s.Calm table indexes) (r : Row) :
    (s.putRow name r).Calm table indexes where
  faults := h.faults
  table_isSome := by
    rw [tables_putRow]
    split
    · rfl
    · exact h.table_isSome
  index_isSome := h.index_isSome

theorem rowsIn_putRow_perm {r : Row} (hfree : s.Free table r.rowid) :
    ((s.putRow table r).rowsIn table).Perm (r :: s.rowsIn table) := by
  rw [rowsIn_putRow]
  exact StoredTable.insertRow_perm (free_iff.1 hfree).1

theorem free_putRow {r : Row} (hfree : s.Free table r.rowid) :
    (s.putRow table r).Free table rowid ↔ s.Free table rowid ∧ rowid ≠ r.rowid := by
  have hmem : ∀ row, row ∈ (s.putRow table r).rowsIn table ↔ row = r ∨ row ∈ s.rowsIn table :=
    fun row => (rowsIn_putRow_perm hfree).mem_iff.trans List.mem_cons
  simp only [free_iff, hmem, collidedIds_putRow, forall_eq_or_imp]
  constructor
  · rintro ⟨⟨hr, hrows⟩, hcollided⟩
    exact ⟨⟨hrows, hcollided⟩, fun h => hr h.symm⟩
  · rintro ⟨⟨hrows, hcollided⟩, hr⟩
    exact ⟨⟨fun h => hr h.symm, hrows⟩, hcollided⟩

/-! ## Storing keys -/

theorem mem_idsUnder_putKey {index key k : String} {id : Int64} :
    id ∈ (s.putKey name key rowid).idsUnder index k ↔
      id ∈ s.idsUnder index k ∨ name = index ∧ key = k ∧ id = rowid := by
  simp only [idsUnder, putKey, Assoc.get?_set, StoredIndex.idsOf]
  by_cases hname : name = index
  · subst hname
    simp only [if_true, Option.getD_some, addEntry, Assoc.get?_setSorted, true_and]
    by_cases hkey : key = k
    · subst hkey
      simp only [if_true, Option.getD_some, mem_insertId, true_and]
      exact or_comm
    · simp [hkey]
  · simp [hname]

theorem Calm.putKey (h : s.Calm table indexes) (key : String) :
    (s.putKey name key rowid).Calm table indexes where
  faults := h.faults
  table_isSome := h.table_isSome
  index_isSome {e} he := by
    have hset : (s.putKey name key rowid).indexes.get? e.1 = _ := Assoc.get?_set ..
    rw [hset]
    split
    · rfl
    · exact h.index_isSome he

/-! ## Calls -/

theorem insertRow_of_free (hcalm : s.Calm table indexes) (hfree : s.Free table rowid)
    (record : Record) :
    s.insertRow table rowid record = (.ok .inserted, s.putRow table ⟨rowid, record⟩) := by
  obtain ⟨t, ht⟩ := Option.isSome_iff_exists.1 hcalm.table_isSome
  have htable : s.table table = .ok t := by rw [Store.table, ht]
  have htaken : t.isTaken rowid = false := by
    rw [Free, ht] at hfree
    exact hfree
  simp [insertRow, hcalm.faults, htable, htaken, putRow, ht]

theorem insertKey_of_new (hcalm : s.Calm table indexes) (hindex : (s.indexes.get? name).isSome)
    {key : String} {unique : Bool} (hnew : unique = true → s.idsUnder name key = []) :
    s.insertKey name key rowid unique = (.ok .inserted, s.putKey name key rowid) := by
  obtain ⟨ix, hix⟩ := Option.isSome_iff_exists.1 hindex
  have hok : s.index name = .ok ix := by rw [Store.index, hix]
  have hnone : (if unique then (ix.get? key).getD [] else []) = [] := by
    split
    · next h => simpa [idsUnder, hix, StoredIndex.idsOf] using hnew h
    · rfl
  simp only [insertKey, hcalm.faults, hok, hnone, putKey, hix, Option.getD_some]

theorem insertKey_of_present (hcalm : s.Calm table indexes)
    (hindex : (s.indexes.get? name).isSome) {key : String} {existing : Int64} {more : List Int64}
    (hpresent : s.idsUnder name key = existing :: more) :
    s.insertKey name key rowid true = (.ok (.present existing), s) := by
  obtain ⟨ix, hix⟩ := Option.isSome_iff_exists.1 hindex
  have hok : s.index name = .ok ix := by rw [Store.index, hix]
  have hsome : (ix.get? key).getD [] = existing :: more := by
    simpa [idsUnder, hix, StoredIndex.idsOf] using hpresent
  simp only [insertKey, hcalm.faults, hok, if_true, hsome]

end Store

/-! ## What is written -/

namespace Task.Supply

def next (ids : Supply) (count : Nat) : List Int64 :=
  (List.range count).map fun i => ids.ids (ids.drawn + i)

def after (ids : Supply) (count : Nat) : Supply :=
  ⟨ids.ids, ids.drawn + count⟩

variable (ids : Supply)

@[simp] theorem length_next (count : Nat) : (ids.next count).length = count := by simp [next]

@[simp] theorem next_one : ids.next 1 = [ids.ids ids.drawn] := rfl

theorem after_add (count more : Nat) : ids.after (count + more) = (ids.after count).after more := by
  simp only [after, Nat.add_assoc]

theorem next_add (count more : Nat) :
    ids.next (count + more) = ids.next count ++ (ids.after count).next more := by
  simp only [next, after, List.range_add, List.map_append, List.map_map, Function.comp_def,
    Nat.add_assoc]

end Task.Supply

namespace Writer

open Store

variable {w : Writer} {s : Store}

/-- One store is another one to which records were written, every one under its row id. -/
structure Wrote (w : Writer) (s s' : Store) (entries : List (Item × Int64)) : Prop where
  calm : s'.Calm w.table w.indexes
  rows : (s'.rowsIn w.table).Perm
    (s.rowsIn w.table ++ entries.map fun x => ⟨x.2, x.1.record⟩)
  ids {e : String × Index} (he : e ∈ w.indexes) (key : String) (rowid : Int64) :
    rowid ∈ s'.idsUnder e.1 key ↔
      rowid ∈ s.idsUnder e.1 key ∨ ∃ x ∈ entries, keyIn e.1 x.1 = key ∧ x.2 = rowid
  free (rowid : Int64) :
    s'.Free w.table rowid ↔ s.Free w.table rowid ∧ rowid ∉ entries.map Prod.snd
  other {name : String} (hne : name ≠ w.table) : s'.tables.get? name = s.tables.get? name

namespace Wrote

variable {s' s'' : Store} {entries more : List (Item × Int64)}

theorem refl (h : s.Calm w.table w.indexes) : Wrote w s s [] where
  calm := h
  rows := by simp
  ids _ _ _ := by simp
  free _ := by simp
  other _ := rfl

theorem trans (h : Wrote w s s' entries) (h' : Wrote w s' s'' more) :
    Wrote w s s'' (entries ++ more) where
  calm := h'.calm
  rows := by
    rw [List.map_append, ← List.append_assoc]
    exact h'.rows.trans (h.rows.append_right _)
  ids he key rowid := by
    rw [h'.ids he, h.ids he, or_assoc]
    refine or_congr_right ?_
    simp only [List.mem_append, or_and_right, exists_or]
  free rowid := by
    rw [h'.free, h.free, List.map_append, List.mem_append, not_or, and_assoc]
  other hne := (h'.other hne).trans (h.other hne)

/-- A key is new as long as nothing is written with it. -/
theorem idsUnder_eq_nil (h : Wrote w s s' entries) {e : String × Index} (he : e ∈ w.indexes)
    {key : String} :
    s'.idsUnder e.1 key = [] ↔
      s.idsUnder e.1 key = [] ∧ ∀ x ∈ entries, keyIn e.1 x.1 ≠ key := by
  simp only [List.eq_nil_iff_forall_not_mem, h.ids he, not_or, forall_and]
  refine and_congr_right fun _ => ⟨fun hnone x hx hkey => hnone x.2 ⟨x, hx, hkey, rfl⟩, ?_⟩
  rintro hnone rowid ⟨x, hx, hkey, -⟩
  exact hnone x hx hkey

end Wrote

end Writer

namespace Store

/-- The next row ids are all different, and no row has one of them. -/
structure Fresh (s : Store) (table : String) (ids : Task.Supply) (count : Nat) : Prop where
  nodup : (ids.next count).Nodup
  free {rowid : Int64} (h : rowid ∈ ids.next count) : s.Free table rowid

namespace Fresh

variable {s s' : Store} {table : String} {ids : Task.Supply} {count more : Nat}

theorem front (h : s.Fresh table ids (count + more)) : s.Fresh table ids count := by
  have hnext := ids.next_add count more
  refine ⟨(List.nodup_append.1 (hnext ▸ h.nodup)).1, fun hmem => h.free ?_⟩
  rw [hnext]
  exact List.mem_append_left _ hmem

theorem mono (h : s.Fresh table ids more) (hle : count ≤ more) : s.Fresh table ids count := by
  obtain ⟨rest, rfl⟩ := Nat.exists_eq_add_of_le hle
  exact h.front

theorem head (h : s.Fresh table ids (1 + more)) : s.Free table (ids.ids ids.drawn) :=
  h.front.free List.mem_cons_self

theorem unused_take (h : s.Fresh table ids count) {drawn : List Int64}
    (hdrawn : drawn = ids.next drawn.length) : s.Unused table (drawn.take count) := by
  have hle : min count drawn.length ≤ count := Nat.min_le_left ..
  have hnext : drawn.take count = ids.next (min count drawn.length) := by
    conv_lhs => rw [hdrawn]
    rw [Task.Supply.next, ← List.map_take, List.take_range]
    rfl
  rw [hnext]
  exact ⟨(h.mono hle).nodup, (h.mono hle).free⟩

theorem back {w : Writer} {entries : List (Item × Int64)}
    (h : s.Fresh w.table ids (count + more)) (hwrote : w.Wrote s s' entries)
    (hdrawn : entries.map Prod.snd ⊆ ids.next count) : s'.Fresh w.table (ids.after count) more := by
  have hnext := ids.next_add count more
  obtain ⟨-, hback, hdisjoint⟩ := List.nodup_append.1 (hnext ▸ h.nodup)
  refine ⟨hback, fun {rowid} hmem => (hwrote.free rowid).2 ⟨h.free ?_, fun hfront => ?_⟩⟩
  · rw [hnext]
    exact List.mem_append_right _ hmem
  · exact hdisjoint rowid (hdrawn hfront) rowid hmem rfl

end Fresh
end Store

end TableMill
