import TableMill.Proofs.CalmStore
import TableMill.Proofs.History

/-!
# What a trace leaves in a store

The answers of a trace tell what its calls have added: a row where an insert of a row went through,
an entry where one of a key did. Rows are never changed or removed, and a row id that collided gets
no row.
-/

namespace TableMill

def Event.row? (table : String) : Event → Option Row
  | ⟨.insertRow name rowid record, .ok .inserted⟩ =>
    if name = table then some ⟨rowid, record⟩ else none
  | _ => none

def Event.entry? : Event → Option (String × Entry)
  | ⟨.insertKey index key rowid _, .ok .inserted⟩ => some (index, ⟨key, rowid⟩)
  | _ => none

/-- The rows that were added to a table, and the entries that were added to indexes. -/
def rowsAdded (table : String) (log : List Event) : List Row :=
  log.filterMap (Event.row? table)

def entriesAdded (log : List Event) : List (String × Entry) :=
  log.filterMap Event.entry?

section

variable {table : String} {log : List Event} {e : Event}

@[simp] theorem rowsAdded_append (log' : List Event) :
    rowsAdded table (log ++ log') = rowsAdded table log ++ rowsAdded table log' :=
  List.filterMap_append

@[simp] theorem entriesAdded_append (log' : List Event) :
    entriesAdded (log ++ log') = entriesAdded log ++ entriesAdded log' :=
  List.filterMap_append

@[simp] theorem rowsAdded_singleton : rowsAdded table [e] = (e.row? table).toList := by
  cases h : e.row? table <;> simp [rowsAdded, h]

@[simp] theorem entriesAdded_singleton : entriesAdded [e] = e.entry?.toList := by
  cases h : e.entry? <;> simp [entriesAdded, h]

end

/-- A key was found or brought to be in an index under a row id. -/
def Entered (log : List Event) (index key : String) (rowid : Int64) : Prop :=
  ∃ unique answer, (answer = .inserted ∨ answer = .present rowid) ∧
    ⟨.insertKey index key rowid unique, .ok answer⟩ ∈ log

theorem Entered.mono {log log' : List Event} {index key : String} {rowid : Int64}
    (h : Entered log index key rowid) (hlog : log <+: log') : Entered log' index key rowid := by
  obtain ⟨unique, answer, hanswer, hmem⟩ := h
  exact ⟨unique, answer, hanswer, hlog.subset hmem⟩

namespace Store

variable {s t : Store} {table : String} {trace : List Event}

/-- What a call does to a table: nothing, a collision on a free row id, or a row under one. -/
theorem write_effect (s : Store) (c : WriteCall) (table : String) :
    ((s.write c).2.tables.get? table = s.tables.get? table ∧
      Event.row? table ⟨c, (s.write c).1⟩ = none) ∨
    (∃ rowid, s.Free table rowid ∧ (s.write c).2.rowsIn table = s.rowsIn table ∧
      (s.write c).2.collidedIds table = insertId rowid (s.collidedIds table) ∧
      Event.row? table ⟨c, (s.write c).1⟩ = none) ∨
    ∃ row, s.Free table row.rowid ∧
      (s.write c).2.rowsIn table = StoredTable.insertRow row (s.rowsIn table) ∧
      (s.write c).2.collidedIds table = s.collidedIds table ∧
      Event.row? table ⟨c, (s.write c).1⟩ = some row := by
  cases c with
  | insertKey index key rowid unique =>
    refine .inl ⟨?_, rfl⟩
    simp only [write, insertKey]
    repeat' split
    all_goals rfl
  | deleteKey index key =>
    refine .inl ⟨?_, rfl⟩
    simp only [write, deleteKey]
    split <;> rfl
  | insertRow name rowid record =>
    by_cases hname : name = table
    · subst hname
      simp only [write, insertRow]
      split
      · exact .inl ⟨rfl, rfl⟩
      · split
        · exact .inl ⟨rfl, rfl⟩
        · next t ht =>
          have hget := get?_of_table ht
          split
          · exact .inl ⟨rfl, rfl⟩
          · next htaken =>
            have hfree : s.Free name rowid := by
              rw [Free, hget]
              exact Bool.eq_false_iff.2 htaken
            split
            · refine .inr (.inl ⟨rowid, hfree, ?_, ?_, rfl⟩)
              · simp [rowsIn, Assoc.get?_set, hget]
              · simp [collidedIds, Assoc.get?_set, hget]
            · refine .inr (.inr ⟨⟨rowid, record⟩, hfree, ?_, ?_, by simp [Event.row?]⟩)
              · simp [rowsIn, Assoc.get?_set, hget, StoredTable.put]
              · simp [collidedIds, Assoc.get?_set, hget, StoredTable.put]
    · refine .inl ⟨?_, ?_⟩
      · simp only [write, insertRow]
        repeat' split
        all_goals simp [Assoc.get?_set, hname]
      · rcases (s.write (.insertRow name rowid record)).1 with e | _ | _ | _ <;>
          simp [Event.row?, hname]

/-- A table has gained rows under row ids that were free, and has lost none. -/
structure Gained (table : String) (s t : Store) (added : List Row) : Prop where
  rows : (t.rowsIn table).Perm (s.rowsIn table ++ added)
  free : ∀ row ∈ added, s.Free table row.rowid
  distinct : (added.map Row.rowid).Nodup
  collided : s.collidedIds table ⊆ t.collidedIds table
  apart : ∀ row ∈ added, row.rowid ∉ t.collidedIds table

/-- A row id that is free is none of the rows that were gained, and was free before. -/
theorem Gained.of_free {added : List Row} {rowid : Int64} (h : Gained table s t added)
    (hfree : t.Free table rowid) : s.Free table rowid ∧ ∀ row ∈ added, row.rowid ≠ rowid := by
  obtain ⟨hrows, hcollided⟩ := free_iff.1 hfree
  have hmem {row : Row} (hrow : row ∈ s.rowsIn table ++ added) : row.rowid ≠ rowid :=
    hrows row (h.rows.mem_iff.2 hrow)
  refine ⟨free_iff.2 ⟨fun row hrow => hmem (List.mem_append_left _ hrow), ?_⟩,
    fun row hrow => hmem (List.mem_append_right _ hrow)⟩
  exact fun hold => hcollided (h.collided hold)

theorem Replay.gained (table : String) (h : s.Replay trace t) :
    Gained table s t (rowsAdded table trace) := by
  induction h with
  | start => exact ⟨by simp [rowsAdded], nofun, List.nodup_nil, fun _ h => h, nofun⟩
  | @call trace t c _ ih =>
    rw [rowsAdded_append, rowsAdded_singleton]
    rcases t.write_effect c table with ⟨hsame, hnone⟩ | ⟨rowid, hfree, hrows, hcollided, hnone⟩ |
      ⟨row, hfree, hrows, hcollided, hsome⟩
    · have hrows : (t.write c).2.rowsIn table = t.rowsIn table := by rw [rowsIn, hsame, rowsIn]
      have hcollided : (t.write c).2.collidedIds table = t.collidedIds table := by
        rw [collidedIds, hsame, collidedIds]
      rw [hnone, Option.toList_none, List.append_nil]
      exact ⟨hrows ▸ ih.rows, ih.free, ih.distinct, hcollided ▸ ih.collided, hcollided ▸ ih.apart⟩
    · obtain ⟨-, hne⟩ := ih.of_free hfree
      rw [hnone, Option.toList_none, List.append_nil]
      refine ⟨hrows ▸ ih.rows, ih.free, ih.distinct, ?_, ?_⟩
      · intro r hr
        rw [hcollided, mem_insertId]
        exact .inr (ih.collided hr)
      · intro row hrow hmem
        rw [hcollided, mem_insertId] at hmem
        rcases hmem with hmem | hmem
        · exact hne row hrow hmem
        · exact ih.apart row hrow hmem
    · obtain ⟨hstart, hne⟩ := ih.of_free hfree
      obtain ⟨hothers, hapart⟩ := free_iff.1 hfree
      have hperm : ((t.write c).2.rowsIn table).Perm (t.rowsIn table ++ [row]) := by
        rw [hrows]
        exact (StoredTable.insertRow_perm hothers).trans (List.perm_append_singleton _ _).symm
      rw [hsome, Option.toList_some]
      refine ⟨?_, ?_, ?_, hcollided ▸ ih.collided, ?_⟩
      · rw [← List.append_assoc]
        exact hperm.trans (ih.rows.append_right _)
      · exact List.forall_mem_append.2 ⟨ih.free, List.forall_mem_singleton.2 hstart⟩
      · rw [List.map_append, List.map_singleton, List.nodup_append]
        refine ⟨ih.distinct, List.pairwise_singleton _ _, ?_⟩
        intro a ha b hb hab
        obtain ⟨q, hq, rfl⟩ := List.mem_map.1 ha
        exact hne q hq (hab.trans (List.mem_singleton.1 hb))
      · rw [hcollided]
        exact List.forall_mem_append.2 ⟨ih.apart, List.forall_mem_singleton.2 hapart⟩

/-! ## Entries -/

variable {index key : String} {rowid : Int64}

theorem indexes_insertRow (s : Store) (name : String) (rowid : Int64) (record : Record) :
    (s.insertRow name rowid record).2.indexes = s.indexes := by
  unfold insertRow
  repeat' split
  all_goals rfl

/-- A call that removes no key adds the entry that its answer tells of. -/
theorem mem_idsUnder_write (s : Store) {c : WriteCall}
    (hkeep : ∀ index key, c ≠ .deleteKey index key) :
    rowid ∈ (s.write c).2.idsUnder index key ↔ rowid ∈ s.idsUnder index key ∨
      Event.entry? ⟨c, (s.write c).1⟩ = some (index, ⟨key, rowid⟩) := by
  cases c with
  | deleteKey name k => exact absurd rfl (hkeep name k)
  | insertRow name r record =>
    have hsame : (s.write (.insertRow name r record)).2.idsUnder index key =
        s.idsUnder index key := by
      rw [idsUnder, write, indexes_insertRow, idsUnder]
    simp [hsame, Event.entry?]
  | insertKey name k r unique =>
    simp only [write, insertKey]
    split
    · simp [idsUnder, Event.entry?]
    · split
      · simp [Event.entry?]
      · next ix hix =>
        split
        · simp [Event.entry?]
        · have hput : { s with indexes := s.indexes.set name (addEntry ix k r) } =
              s.putKey name k r := by
            rw [putKey, get?_of_index hix, Option.getD_some]
          simp only [hput, mem_idsUnder_putKey, Event.entry?, Option.some.injEq, Prod.mk.injEq,
            Entry.mk.injEq, eq_comm]

theorem mem_idsUnder_of_present {s : Store} {existing : Int64} {unique : Bool}
    (h : (s.insertKey index key rowid unique).1 = .ok (.present existing)) :
    existing ∈ s.idsUnder index key := by
  unfold insertKey at h
  split at h
  · cases h
  · split at h
    · cases h
    · next ix hix =>
      split at h
      · next first rest hids =>
        cases h
        cases unique with
        | true =>
          have hunder : s.idsUnder index key = existing :: rest := by
            simpa [idsUnder, get?_of_index hix, StoredIndex.idsOf] using hids
          rw [hunder]
          exact List.mem_cons_self
        | false => cases hids
      · cases h

variable (hkeep : ∀ e ∈ trace, ∀ index key, e.call ≠ .deleteKey index key)

include hkeep in
/-- If no key is removed, an index has the entries of the start and those that were added. -/
theorem Replay.mem_idsUnder (h : s.Replay trace t) :
    rowid ∈ t.idsUnder index key ↔
      rowid ∈ s.idsUnder index key ∨ (index, ⟨key, rowid⟩) ∈ entriesAdded trace := by
  induction h with
  | start => simp [entriesAdded]
  | @call trace t c _ ih =>
    obtain ⟨hbefore, hlast⟩ := List.forall_mem_append.1 hkeep
    rw [t.mem_idsUnder_write (hlast _ List.mem_cons_self), ih hbefore, entriesAdded_append,
      entriesAdded_singleton, List.mem_append, Option.mem_toList, or_assoc]

include hkeep in
theorem Replay.of_entered (h : s.Replay trace t) (hentered : Entered trace index key rowid) :
    rowid ∈ t.idsUnder index key := by
  obtain ⟨unique, answer, hanswer, hmem⟩ := hentered
  induction h with
  | start => cases hmem
  | @call trace t c _ ih =>
    obtain ⟨hbefore, hlast⟩ := List.forall_mem_append.1 hkeep
    rw [t.mem_idsUnder_write (hlast _ List.mem_cons_self)]
    rcases List.mem_append.1 hmem with hmem | hmem
    · exact .inl (ih hbefore hmem)
    · obtain ⟨rfl, hwrite⟩ := Event.mk.inj (List.mem_singleton.1 hmem)
      rw [← hwrite]
      rcases hanswer with rfl | rfl
      · exact .inr rfl
      · exact .inl (mem_idsUnder_of_present hwrite.symm)

theorem Replay.single (h : s.Replay trace t)
    (hunique : ∀ e ∈ trace, ∀ key rowid unique, e.call = .insertKey index key rowid unique →
      unique = true)
    (hsingle : ∀ key, (s.idsUnder index key).length ≤ 1) :
    ∀ key, (t.idsUnder index key).length ≤ 1 := by
  induction h with
  | start => exact hsingle
  | @call trace t c _ ih =>
    obtain ⟨hbefore, hlast⟩ := List.forall_mem_append.1 hunique
    have ht := ih hbefore
    intro key
    cases c with
    | insertRow name rowid record =>
      rw [idsUnder, write, indexes_insertRow, ← idsUnder]
      exact ht key
    | deleteKey name k =>
      by_cases hname : name = index
      · subst hname
        rcases t.deleteKey_cases "" name k with ⟨e, -, hagree⟩ | ⟨-, hids, -⟩
        · exact hagree.ids key ▸ ht key
        · rw [write, hids]
          split
          · exact Nat.zero_le 1
          · exact ht key
      · simp only [write, deleteKey]
        split
        · exact ht key
        · rw [idsUnder_set_of_ne hname]
          exact ht key
    | insertKey name k rowid unique =>
      by_cases hname : name = index
      · subst hname
        obtain rfl : unique = true := hlast _ List.mem_cons_self k rowid unique rfl
        rcases t.insertKey_cases "" name k rowid with ⟨e, -, hagree⟩ | ⟨m, -, -, hagree⟩ |
          ⟨-, -, hids, -⟩
        · exact hagree.ids key ▸ ht key
        · exact hagree.ids key ▸ ht key
        · rw [write, hids]
          split
          · exact Nat.le_refl 1
          · exact ht key
      · have hagree := insertKey_agree hname t "" k rowid unique
        exact hagree.ids key ▸ ht key

end Store
end TableMill
