import TableMill.Proofs.NestedLoop
import TableMill.Proofs.StoreOrder

/-!
# What a write changes

A write is seen from one table and one index: the row ids under every key and the rows. Each
call either leaves this view as it is or makes the one change that its answer tells of.
-/

namespace TableMill

/-- A row with a free id joins the rows that are there. -/
theorem StoredTable.mem_insertRow_of_free {r row : Row} {rows : List Row}
    (hfree : ∀ q ∈ rows, q.rowid ≠ r.rowid) :
    row ∈ insertRow r rows ↔ row = r ∨ row ∈ rows := by
  induction rows with
  | nil => simp [insertRow]
  | cons q rest ih =>
    have hq : ¬ r.rowid = q.rowid := fun h => hfree q List.mem_cons_self h.symm
    rw [insertRow, if_neg hq]
    split
    · simp
    · rw [List.mem_cons, List.mem_cons, ih fun q hq => hfree q (List.mem_cons_of_mem _ hq)]
      exact or_left_comm

namespace Store

def idsUnder (s : Store) (index key : String) : List Int64 :=
  StoredIndex.idsOf ((s.indexes.get? index).getD []) key

def rowsIn (s : Store) (table : String) : List Row :=
  ((s.tables.get? table).map StoredTable.rows).getD []

def HasRow (s : Store) (table : String) (rowid : Int64) : Prop :=
  ∃ row ∈ s.rowsIn table, row.rowid = rowid

/-- Two stores with one view of a table and an index. -/
structure Agree (table index : String) (s t : Store) : Prop where
  ids : ∀ key, t.idsUnder index key = s.idsUnder index key
  rows : t.rowsIn table = s.rowsIn table

theorem Agree.refl (table index : String) (s : Store) : Agree table index s s :=
  ⟨fun _ => rfl, rfl⟩

variable {table index : String} {s : Store}

theorem rowsIn_of_table {t : StoredTable} (h : s.table table = .ok t) :
    s.rowsIn table = t.rows := by
  rw [rowsIn, get?_of_table h]
  rfl

theorem idsUnder_set (indexes : Assoc StoredIndex) (tables : Assoc StoredTable) (faults : Faults)
    (ix : StoredIndex) (key : String) :
    idsUnder ⟨tables, indexes.set index ix, faults⟩ index key = ix.idsOf key := by
  simp [idsUnder, Assoc.get?_set]

theorem idsUnder_set_of_ne {name : String} (hne : name ≠ index) (indexes : Assoc StoredIndex)
    (tables : Assoc StoredTable) (faults : Faults) (ix : StoredIndex) (key : String) :
    idsUnder ⟨tables, indexes.set name ix, faults⟩ index key =
      idsUnder ⟨tables, indexes, faults⟩ index key := by
  simp [idsUnder, Assoc.get?_set, hne]

theorem insertKey_cases (s : Store) (table index key : String) (rowid : Int64) :
    (∃ e, (s.insertKey index key rowid true).1 = .error e ∧
      Agree table index s (s.insertKey index key rowid true).2) ∨
    (∃ m ∈ s.idsUnder index key, (s.insertKey index key rowid true).1 = .ok (.present m) ∧
      Agree table index s (s.insertKey index key rowid true).2) ∨
    (s.idsUnder index key = [] ∧ (s.insertKey index key rowid true).1 = .ok .inserted ∧
      (∀ name, (s.insertKey index key rowid true).2.idsUnder index name =
        if key = name then [rowid] else s.idsUnder index name) ∧
      (s.insertKey index key rowid true).2.rowsIn table = s.rowsIn table) := by
  unfold insertKey
  split
  · exact .inl ⟨_, rfl, fun _ => rfl, rfl⟩
  · split
    · exact .inl ⟨_, rfl, Agree.refl ..⟩
    · rename_i ix hix
      have hids : s.idsUnder index key = (ix.get? key).getD [] := by
        simp [idsUnder, StoredIndex.idsOf, get?_of_index hix]
      simp only [if_true]
      split
      · rename_i existing rest hkey
        exact .inr (.inl ⟨existing, by rw [hids, hkey]; exact List.mem_cons_self, rfl,
          Agree.refl ..⟩)
      · rename_i hkey
        refine .inr (.inr ⟨hids.trans hkey, rfl, fun name => ?_, rfl⟩)
        rw [idsUnder_set, StoredIndex.idsOf, addEntry, Assoc.get?_setSorted, hkey]
        split
        · rfl
        · simp [idsUnder, StoredIndex.idsOf, get?_of_index hix]

theorem insertKey_agree {name : String} (hne : name ≠ index) (s : Store) (table key : String)
    (rowid : Int64) (unique : Bool) :
    Agree table index s (s.insertKey name key rowid unique).2 := by
  unfold insertKey
  split
  · exact ⟨fun _ => rfl, rfl⟩
  · split
    · exact Agree.refl ..
    · split
      · exact Agree.refl ..
      · exact ⟨fun key => idsUnder_set_of_ne hne .., rfl⟩

theorem deleteKey_cases (s : Store) (table index key : String) :
    (∃ e, (s.deleteKey index key).1 = .error e ∧
      Agree table index s (s.deleteKey index key).2) ∨
    ((s.deleteKey index key).1 = .ok .deleted ∧
      (∀ name, (s.deleteKey index key).2.idsUnder index name =
        if key = name then [] else s.idsUnder index name) ∧
      (s.deleteKey index key).2.rowsIn table = s.rowsIn table) := by
  unfold deleteKey
  split
  · exact .inl ⟨_, rfl, Agree.refl ..⟩
  · rename_i ix hix
    refine .inr ⟨rfl, fun name => ?_, rfl⟩
    rw [idsUnder_set, StoredIndex.idsOf, Assoc.get?_erase]
    split
    · rfl
    · simp [idsUnder, StoredIndex.idsOf, get?_of_index hix]

theorem insertRow_cases (s : Store) (table index : String) (rowid : Int64) (record : Record) :
    (∃ e, (s.insertRow table rowid record).1 = .error e ∧
      Agree table index s (s.insertRow table rowid record).2) ∨
    ((s.insertRow table rowid record).1 = .ok (.present rowid) ∧
      Agree table index s (s.insertRow table rowid record).2) ∨
    (¬ s.HasRow table rowid ∧ (s.insertRow table rowid record).1 = .ok .inserted ∧
      (∀ key, (s.insertRow table rowid record).2.idsUnder index key = s.idsUnder index key) ∧
      ∀ row, row ∈ (s.insertRow table rowid record).2.rowsIn table ↔
        row = ⟨rowid, record⟩ ∨ row ∈ s.rowsIn table) := by
  unfold insertRow
  split
  · exact .inl ⟨_, rfl, fun _ => rfl, rfl⟩
  · split
    · exact .inl ⟨_, rfl, Agree.refl ..⟩
    · rename_i t ht
      have hget := get?_of_table ht
      have hrows : s.rowsIn table = t.rows := by simp [rowsIn, hget]
      split
      · exact .inr (.inl ⟨rfl, Agree.refl ..⟩)
      · rename_i htaken
        split
        · refine .inr (.inl ⟨rfl, fun _ => rfl, ?_⟩)
          simp [rowsIn, Assoc.get?_set, hget]
        · have hfree : ∀ row ∈ t.rows, row.rowid ≠ rowid := by
            intro row hrow hid
            have hsome : (t.row? rowid).isSome := by
              rw [StoredTable.row?, List.find?_isSome]
              exact ⟨row, hrow, by simp [hid]⟩
            simp [StoredTable.isTaken, hsome] at htaken
          refine .inr (.inr ⟨?_, rfl, fun _ => rfl, fun row => ?_⟩)
          · rintro ⟨row, hrow, hid⟩
            exact hfree row (hrows ▸ hrow) hid
          · rw [hrows]
            simp only [rowsIn, Assoc.get?_set, if_true, Option.map_some, Option.getD_some]
            exact StoredTable.mem_insertRow_of_free hfree

end Store
end TableMill
