import TableMill.Proofs.TokenTables

/-!
# Stores by token

Whatever is done to a store in memory, the rows and the tokens of its tables tell of the same
ids. So the pages that it reads hold exactly the rows that it stores, an insert never touches a
row that is there, and the store is not told apart from the list of rows by any answer.
-/

namespace TableMill

/-- A change of a store: from outside, or by an insert of a row. -/
inductive StoreChange
  | createTable (name : String)
  | putRow (name : String) (rowid : Int64) (values : Record)
  | insertRow (name : String) (rowid : Int64) (record : Record)
  | collide (count : Nat)
  | failRows (kinds : List FaultKind)

/-- Makes a change; the answer to an insert is dropped. -/
def Store.change (s : Store) : StoreChange → Store
  | .createTable name => s.createTable name
  | .putRow name rowid values => s.putRow name ⟨rowid, values⟩
  | .insertRow name rowid record => (s.insertRow name rowid record).2
  | .collide count => s.collide count
  | .failRows kinds => s.failRows kinds

namespace TokenStore

@[inherit_doc Store.change]
def change (s : TokenStore) : StoreChange → TokenStore
  | .createTable name => s.createTable name
  | .putRow name rowid values => s.putRow name rowid values
  | .insertRow name rowid record => (s.insertRow name rowid record).2
  | .collide count => s.collide count
  | .failRows kinds => s.failRows kinds

def views (tables : Assoc TokenTable) : Assoc StoredTable :=
  tables.map fun e => (e.1, e.2.view)

def view (s : TokenStore) : Store := ⟨views s.tables, s.indexes, s.faults⟩

def Stores (s : TokenStore) (name : String) (row : Row) : Prop :=
  ∃ t, s.tables.get? name = some t ∧ t.Stores row

def Consistent (s : TokenStore) : Prop :=
  ∀ name t, s.tables.get? name = some t → t.Consistent

def UsesFault (s s' : TokenStore) : Prop :=
  ∃ kind rest, s.faults.rows = kind :: rest ∧
    s' = { s with faults := { s.faults with rows := rest } }

/-- An injected collision takes a free row id for good. -/
def Collides (s : TokenStore) (name : String) (rowid : Int64) (s' : TokenStore) : Prop :=
  ∃ t, s.tables.get? name = some t ∧ 0 < s.faults.collisions ∧
    ¬ t.HasId rowid ∧ rowid ∉ t.collided ∧
    s' = { s with
      tables := s.tables.set name { t with collided := insertId rowid t.collided }
      faults := { s.faults with collisions := s.faults.collisions - 1 } }

/-- What an insert of a row may do. A row is only inserted under a free id. Any other answer
leaves the store as it is, but for one injected error or collision. The stored rows stay, and
only an inserted one joins them. -/
structure Inserts (s : TokenStore) (name : String) (rowid : Int64) (record : Record)
    (answer : StoreResult WriteAnswer) (s' : TokenStore) : Prop where
  free (h : answer = .ok .inserted) :
    ∃ t, s.tables.get? name = some t ∧ ¬ t.HasId rowid ∧ rowid ∉ t.collided
  other (h : answer ≠ .ok .inserted) : s' = s ∨ s.UsesFault s' ∨ s.Collides name rowid s'
  stores_iff (table : String) (row : Row) :
    s'.Stores table row ↔
      s.Stores table row ∨ answer = .ok .inserted ∧ table = name ∧ row = ⟨rowid, record⟩

/-- The reads and the inserts of a store tell exactly of the rows that its tables store. -/
structure Faithful (s : TokenStore) : Prop where
  consistent : s.Consistent
  /-- A page of ids has the stored rows among them, in their order. -/
  dataPage {name : String} {t : TokenTable} (ht : s.tables.get? name = some t)
    (rowids : List Int64) (limit : Nat) (hlimit : rowids.length ≤ limit) :
    ∃ page, s.dataPage name rowids limit = .ok page ∧
      page.map Row.rowid = rowids.filter (fun id => decide (t.HasId id)) ∧
      ∀ row ∈ page, t.Stores row
  /-- A page of a range that is not cut off has the stored rows with a token in the range. -/
  leftPage {name : String} {t : TokenTable} (ht : s.tables.get? name = some t)
    (range : TokenRange) (limit : Nat) (hlimit : (t.within range).length ≤ limit) :
    ∃ page, s.leftPage name range limit = .ok page ∧
      ∀ row, row ∈ page ↔ t.Stores row ∧ range.first ≤ row.token ∧ row.token ≤ range.last
  insertRow (name : String) (rowid : Int64) (record : Record) :
    s.Inserts name rowid record (s.insertRow name rowid record).1
      (s.insertRow name rowid record).2

/-- A store in memory answers as the store of rows does, and goes on to answer so. -/
structure Shows (s : TokenStore) (v : Store) : Prop where
  view : s.view = v
  dataPage (name : String) (rowids : List Int64) (limit : Nat) :
    s.dataPage name rowids limit = v.dataPage name rowids limit
  leftPage (name : String) (range : TokenRange) (limit : Nat) :
    s.leftPage name range limit = v.leftPage name range limit
  insertRow (name : String) (rowid : Int64) (record : Record) :
    ((s.insertRow name rowid record).1, (s.insertRow name rowid record).2.view) =
      v.insertRow name rowid record

/-! ## Tables by name -/

theorem get?_views (tables : Assoc TokenTable) (name : String) :
    (views tables).get? name = (tables.get? name).map TokenTable.view := by
  induction tables with
  | nil => rfl
  | cons e rest ih =>
    obtain ⟨key, t⟩ := e
    show Assoc.get? ((key, t.view) :: views rest) name = _
    rw [Assoc.get?_cons, Assoc.get?_cons, ih]
    split <;> rfl

theorem views_set (tables : Assoc TokenTable) (name : String) (t : TokenTable) :
    views (tables.set name t) = (views tables).set name t.view := by
  induction tables with
  | nil => rfl
  | cons e rest ih =>
    obtain ⟨key, u⟩ := e
    show views (Assoc.set ((key, u) :: rest) name t) =
      Assoc.set ((key, u.view) :: views rest) name t.view
    rw [Assoc.set, Assoc.set]
    by_cases hk : key = name
    · rw [if_pos hk, if_pos hk]
      rfl
    · rw [if_neg hk, if_neg hk, ← ih]
      rfl

variable {s : TokenStore} {name : String} {t : TokenTable}

theorem view_table (s : TokenStore) (name : String) :
    s.view.table name = (s.table name).map TokenTable.view := by
  have hget : s.view.tables.get? name = (s.tables.get? name).map TokenTable.view :=
    get?_views s.tables name
  rw [Store.table, TokenStore.table, hget]
  cases s.tables.get? name <;> rfl

theorem table_eq_ok_iff : s.table name = .ok t ↔ s.tables.get? name = some t := by
  rw [TokenStore.table]
  cases s.tables.get? name <;> simp

theorem stores_iff_of_get? (ht : s.tables.get? name = some t) {row : Row} :
    s.Stores name row ↔ t.Stores row := by
  simp [Stores, ht]

theorem stores_set (s : TokenStore) (name : String) (t : TokenTable) (faults : Faults)
    (table : String) (row : Row) :
    Stores ⟨s.tables.set name t, s.indexes, faults⟩ table row ↔
      if name = table then t.Stores row else s.Stores table row := by
  simp only [Stores, Assoc.get?_set]
  split <;> simp

/-! ## Changes -/

theorem Consistent.set (h : s.Consistent) (name : String) (ht : t.Consistent) (faults : Faults) :
    Consistent ⟨s.tables.set name t, s.indexes, faults⟩ := by
  intro table u hu
  rw [Assoc.get?_set] at hu
  split at hu
  · exact Option.some.inj hu ▸ ht
  · exact h table u hu

theorem Consistent.getD (h : s.Consistent) (name : String) :
    ((s.tables.get? name).getD .empty).Consistent := by
  cases ht : s.tables.get? name with
  | none => exact TokenTable.consistent_empty
  | some t => exact h name t ht

/-- The three ways in which an insert of a row changes a store, or leaves it as it is. -/
theorem insertRow_cases (h : s.Consistent) (name : String) (rowid : Int64) (record : Record) :
    ((s.insertRow name rowid record).1 ≠ .ok .inserted ∧
      ((s.insertRow name rowid record).2 = s ∨
        s.UsesFault (s.insertRow name rowid record).2 ∨
        s.Collides name rowid (s.insertRow name rowid record).2)) ∨
    ∃ t, s.tables.get? name = some t ∧ ¬ t.HasId rowid ∧ rowid ∉ t.collided ∧
      s.insertRow name rowid record =
        (.ok .inserted, { s with tables := s.tables.set name (t.put rowid record) }) := by
  simp only [TokenStore.insertRow]
  split
  · next kind rest hfaults => exact .inl ⟨by simp, .inr (.inl ⟨kind, rest, hfaults, rfl⟩)⟩
  · split
    · exact .inl ⟨by simp, .inl rfl⟩
    · next t ht =>
      have hget := table_eq_ok_iff.1 ht
      split
      · exact .inl ⟨by simp, .inl rfl⟩
      · next htaken =>
        have hfree : ¬ t.HasId rowid ∧ rowid ∉ t.collided := by
          rw [← (h name t hget).token?_iff]
          simpa [TokenTable.isTaken, not_or] using htaken
        split
        · next hcollide =>
          exact .inl ⟨by simp, .inr (.inr ⟨t, hget, hcollide, hfree.1, hfree.2, rfl⟩)⟩
        · exact .inr ⟨t, hget, hfree.1, hfree.2, rfl⟩

theorem Consistent.change (h : s.Consistent) (c : StoreChange) : (s.change c).Consistent := by
  cases c with
  | createTable name =>
    simp only [TokenStore.change, TokenStore.createTable]
    split
    · exact h
    · exact h.set name TokenTable.consistent_empty _
  | putRow name rowid values => exact h.set name ((h.getD name).put rowid values) _
  | insertRow name rowid record =>
    show (s.insertRow name rowid record).2.Consistent
    rcases insertRow_cases h name rowid record with ⟨-, hsame | hfault | hcollide⟩ | hinserted
    · rwa [hsame]
    · obtain ⟨kind, rest, -, heq⟩ := hfault
      rw [heq]
      exact h
    · obtain ⟨t, ht, -, -, -, heq⟩ := hcollide
      rw [heq]
      exact h.set name ((h name t ht).withCollided _) _
    · obtain ⟨t, ht, -, -, heq⟩ := hinserted
      rw [heq]
      exact h.set name ((h name t ht).put rowid record) _
  | collide count => exact h
  | failRows kinds => exact h

theorem Consistent.insertRow_view (h : s.Consistent) (name : String) (rowid : Int64)
    (record : Record) :
    ((s.insertRow name rowid record).1, (s.insertRow name rowid record).2.view) =
      s.view.insertRow name rowid record := by
  have hfaults : s.view.faults = s.faults := rfl
  simp only [TokenStore.insertRow, Store.insertRow, hfaults, view_table]
  cases s.faults.rows with
  | cons kind rest => rfl
  | nil =>
    cases htable : s.table name with
    | error e => rfl
    | ok t =>
      have ht : t.Consistent := h name t (table_eq_ok_iff.1 htable)
      simp only [Except.map, ht.isTaken_view]
      split
      · rfl
      · split
        · simp only [view, views_set]
          rfl
        · simp only [view, views_set, ht.view_put]

theorem Consistent.view_change (h : s.Consistent) (c : StoreChange) :
    (s.change c).view = s.view.change c := by
  have hget (name : String) : s.view.tables.get? name = (s.tables.get? name).map TokenTable.view :=
    get?_views s.tables name
  cases c with
  | createTable name =>
    have hhas : s.view.tables.has name = s.tables.has name := by
      rw [Assoc.has, Assoc.has, hget, Option.isSome_map]
    simp only [TokenStore.change, Store.change, TokenStore.createTable, Store.createTable, hhas]
    split
    · rfl
    · simp only [view, views_set]
      rfl
  | putRow name rowid values =>
    have hold : (s.view.tables.get? name).getD .empty =
        ((s.tables.get? name).getD .empty).view := by
      rw [hget]
      cases s.tables.get? name <;> rfl
    simp only [TokenStore.change, Store.change, TokenStore.putRow, Store.putRow, hold]
    simp only [view, views_set, (h.getD name).view_put]
  | insertRow name rowid record => exact congrArg Prod.snd (h.insertRow_view name rowid record)
  | collide count => rfl
  | failRows kinds => rfl

theorem Consistent.run (h : s.Consistent) (changes : List StoreChange) :
    (changes.foldl TokenStore.change s).Consistent ∧
      (changes.foldl TokenStore.change s).view = changes.foldl Store.change s.view := by
  induction changes generalizing s with
  | nil => exact ⟨h, rfl⟩
  | cons c rest ih =>
    rw [List.foldl_cons, List.foldl_cons, ← h.view_change c]
    exact ih (h.change c)

/-! ## Reads -/

theorem Consistent.dataPage_view (h : s.Consistent) (name : String) (rowids : List Int64)
    (limit : Nat) : s.dataPage name rowids limit = s.view.dataPage name rowids limit := by
  rw [TokenStore.dataPage, Store.dataPage, view_table]
  cases htable : s.table name with
  | error e => rfl
  | ok t =>
    have hrow : t.row? = t.view.row? :=
      funext (h name t (table_eq_ok_iff.1 htable)).row?_view
    show Except.ok ((rowids.filterMap t.row?).take limit) =
      Except.ok ((rowids.filterMap t.view.row?).take limit)
    rw [hrow]

theorem leftPage_of_table (ht : s.table name = .ok t) (range : TokenRange) (limit : Nat) :
    s.leftPage name range limit = .ok ((t.within range).take limit) := by
  rw [TokenStore.leftPage, ht]
  by_cases hrange : range.last < range.first
  · rw [t.within_eq_nil hrange, List.take_nil]
    exact if_pos hrange
  · exact if_neg hrange

theorem Consistent.leftPage_view (h : s.Consistent) (name : String) (range : TokenRange)
    (limit : Nat) : s.leftPage name range limit = s.view.leftPage name range limit := by
  cases htable : s.table name with
  | error e =>
    rw [TokenStore.leftPage, Store.leftPage, view_table, htable]
    rfl
  | ok t =>
    rw [leftPage_of_table htable, (h name t (table_eq_ok_iff.1 htable)).within_view, Store.leftPage,
      view_table, htable]
    rfl

theorem Consistent.shows (h : s.Consistent) : s.Shows s.view :=
  ⟨rfl, h.dataPage_view, h.leftPage_view, h.insertRow_view⟩

theorem Consistent.inserts (h : s.Consistent) (name : String) (rowid : Int64) (record : Record) :
    s.Inserts name rowid record (s.insertRow name rowid record).1
      (s.insertRow name rowid record).2 := by
  rcases insertRow_cases h name rowid record with ⟨hanswer, hother⟩ | ⟨t, ht, hid, hfree, heq⟩
  · refine ⟨fun h => absurd h hanswer, fun _ => hother, fun table row => ?_⟩
    have hrows : (s.insertRow name rowid record).2.Stores table row ↔ s.Stores table row := by
      rcases hother with hsame | ⟨kind, rest, -, heq⟩ | ⟨t, ht, -, -, -, heq⟩
      · rw [hsame]
      · rw [heq]
        rfl
      · rw [heq, stores_set]
        split
        · next htable => exact htable ▸ (stores_iff_of_get? ht).symm
        · rfl
    simp [hrows, hanswer]
  · rw [heq]
    refine ⟨fun _ => ⟨t, ht, hid, hfree⟩, fun h => absurd rfl h, fun table row => ?_⟩
    have htable := h name t ht
    rw [stores_set]
    by_cases hname : name = table
    · subst hname
      have hput : (t.put rowid record).Stores row ↔ row = ⟨rowid, record⟩ ∨ t.Stores row := by
        have hne : t.Stores row → row.rowid ≠ rowid := fun hrow hrid =>
          hid (TokenTable.hasId_iff.2 ⟨row, htable.stores_iff.1 hrow, hrid⟩)
        rw [(htable.put rowid record).stores_iff, htable.mem_put, ← htable.stores_iff]
        exact or_congr_right (and_iff_left_of_imp hne)
      rw [if_pos rfl, hput, stores_iff_of_get? ht]
      simp [or_comm]
    · rw [if_neg hname]
      simp [Ne.symm hname]

theorem Consistent.faithful (h : s.Consistent) : s.Faithful where
  consistent := h
  dataPage {name t} ht rowids limit hlimit := by
    have htable := h name t ht
    have hshort : (rowids.filterMap t.row?).length ≤ limit :=
      (List.length_filterMap_le _ _).trans hlimit
    refine ⟨rowids.filterMap t.row?, ?_, ?_, ?_⟩
    · rw [TokenStore.dataPage, table_eq_ok_iff.2 ht]
      exact congrArg Except.ok (List.take_of_length_le hshort)
    · exact htable.map_rowid_filterMap rowids
    · intro row hrow
      obtain ⟨id, -, hid⟩ := List.mem_filterMap.1 hrow
      exact (htable.row?_eq_some_iff.1 hid).1
  leftPage {name t} ht range limit hlimit := by
    refine ⟨t.within range, ?_, fun row => (h name t ht).mem_within⟩
    rw [leftPage_of_table (table_eq_ok_iff.2 ht), List.take_of_length_le hlimit]
  insertRow := h.inserts

/-- Whatever is done to an empty store in memory, its tables are consistent, its reads and its
inserts tell exactly of the stored rows, and it answers as the store of rows to which the same
is done. -/
theorem faithful_changes (changes : List StoreChange) :
    (changes.foldl change empty).Faithful ∧
      (changes.foldl change empty).Shows (changes.foldl Store.change .empty) := by
  have hempty : empty.Consistent := fun name t ht => by simp [empty] at ht
  have hend := hempty.run changes
  exact ⟨hend.1.faithful, hend.2 ▸ hend.1.shows⟩

end TokenStore
end TableMill
