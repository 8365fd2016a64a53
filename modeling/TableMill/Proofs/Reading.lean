import TableMill.Batch.Lookup
import TableMill.Proofs.StoreOrder

/-!
# What a reading step yields

A reading step yields an outcome and hands items to the writer. As long as the storage
answers like one fixed store, both are determined by that store, whatever others write to
it in the meantime.
-/

namespace TableMill

theorem ofTable_eq_ok {α : Type} {x : TableResult α} {a : α} : ofTable x = .ok a ↔ x = .ok a := by
  cases x <;> simp [ofTable]

theorem ofSettings_eq_ok {x : Except SettingsFault Unit} : ofSettings x = .ok () ↔ x = .ok () := by
  cases x <;> simp [ofSettings]

/-- A backend answers reads of a table, of a looked-up table and of an index like one store,
and reading keeps it so. -/
structure Backend.Answers {σ : Type} (b : Backend σ) (I : σ → Prop) (s : Store)
    (left right index : String) : Prop where
  leftPage {m : σ} (h : I m) (range : TokenRange) (limit : Nat) :
    ∃ m', I m' ∧ b.leftPage left range limit m = (s.leftPage left range limit, m')
  indexPage {m : σ} (h : I m) (keys : List String) (limit : Nat) (state : Option PageState) :
    ∃ m', I m' ∧ b.indexPage index keys limit state m = (s.indexPage index keys limit state, m')
  dataPage {m : σ} (h : I m) (rowids : List Int64) (limit : Nat) :
    ∃ m', I m' ∧ b.dataPage right rowids limit m = (s.dataPage right rowids limit, m')
  listed {m : σ} (h : I m) (keys : List String) :
    b.listed index keys m = (s.listing index keys).length

theorem Store.answers (s : Store) (left right index : String) :
    Store.backend.Answers (· = s) s left right index where
  leftPage h _ _ := ⟨s, rfl, h ▸ rfl⟩
  indexPage h _ _ _ := ⟨s, rfl, h ▸ rfl⟩
  dataPage h _ _ := ⟨s, rfl, h ▸ rfl⟩
  listed h _ := h ▸ rfl

namespace ReadM

variable {σ α β : Type} {I : σ → Prop}

/-- From every storage that satisfies `I`, a step ends with an outcome and hands over items,
and the storage satisfies `I` again. -/
def Yields (I : σ → Prop) (m : ReadM σ α) (outcome : BatchResult α) (items : List Item) : Prop :=
  ∀ r : Reading σ, I r.storage →
    ∃ s, I s ∧ m.run.run r = (outcome, ⟨s, r.handed ++ items⟩)

theorem run_bind (m : ReadM σ α) (f : α → ReadM σ β) (r : Reading σ) :
    (m >>= f).run.run r = match m.run.run r with
      | (.ok a, s) => (f a).run.run s
      | (.error e, s) => (.error e, s) := by
  rw [ExceptT.run_bind, StateT.run_bind]
  rcases m.run.run r with ⟨e | a, s⟩
  · rfl
  · rfl

theorem run_call (f : σ → StoreResult α × σ) (r : Reading σ) :
    (call f).run.run r = match f r.storage with
      | (.ok a, s) => (.ok a, { r with storage := s })
      | (.error e, s) => (.error (.store e), { r with storage := s }) := by
  have hget : (get : ReadM σ (Reading σ)).run.run r = (.ok r, r) := rfl
  unfold call
  rw [run_bind, hget]
  dsimp only
  rcases f r.storage with ⟨e | a, s⟩
  · rfl
  · rfl

theorem yields_pure (a : α) : Yields I (pure a) (.ok a) [] :=
  fun r h => ⟨r.storage, h, by rw [List.append_nil]; rfl⟩

theorem yields_lift {x outcome : BatchResult α} (hx : x = outcome) :
    Yields I (liftM x : ReadM σ α) outcome [] :=
  fun r h => ⟨r.storage, h, by rw [List.append_nil, hx]; rfl⟩

theorem yields_throw (e : BatchError) : Yields I (throw e : ReadM σ α) (.error e) [] :=
  fun r h => ⟨r.storage, h, by rw [List.append_nil]; rfl⟩

theorem yields_hand (items : List Item) : Yields I (hand items) (.ok ()) items :=
  fun r h => ⟨r.storage, h, rfl⟩

theorem yields_bind {m : ReadM σ α} {f : α → ReadM σ β} {a : α} {xs ys : List Item}
    {outcome : BatchResult β} (hm : Yields I m (.ok a) xs) (hf : Yields I (f a) outcome ys) :
    Yields I (m >>= f) outcome (xs ++ ys) := by
  intro r h
  obtain ⟨s, hs, hrun⟩ := hm r h
  obtain ⟨t, ht, hrun'⟩ := hf ⟨s, r.handed ++ xs⟩ hs
  refine ⟨t, ht, ?_⟩
  rw [run_bind, hrun]
  simpa only [List.append_assoc] using hrun'

theorem yields_seq {m : ReadM σ α} {f : α → ReadM σ β} {a : α} {items : List Item}
    {outcome : BatchResult β} (hm : Yields I m (.ok a) []) (hf : Yields I (f a) outcome items) :
    Yields I (m >>= f) outcome items :=
  yields_bind hm hf

theorem yields_hand_seq {items : List Item} {f : Unit → ReadM σ β} {outcome : BatchResult β}
    (hf : Yields I (f ()) outcome []) : Yields I (hand items >>= f) outcome items := by
  rw [← List.append_nil items]
  simpa only [List.append_nil] using yields_bind (yields_hand items) hf

theorem yields_call {f : σ → StoreResult α × σ} {a : α}
    (hf : ∀ s, I s → ∃ s', I s' ∧ f s = (.ok a, s')) : Yields I (call f) (.ok a) [] := by
  intro r h
  obtain ⟨s', hs', hrun⟩ := hf r.storage h
  refine ⟨s', hs', ?_⟩
  rw [run_call, hrun, List.append_nil]

theorem yields_peek {f : σ → α} {a : α} (hf : ∀ s, I s → f s = a) :
    Yields I (peek f) (.ok a) [] := by
  intro r h
  refine ⟨r.storage, h, ?_⟩
  rw [← hf r.storage h, List.append_nil]
  rfl

end ReadM

def WriteCall.Within (table : String) (indexes : List String) : WriteCall → Prop
  | .insertRow t _ _ => t = table
  | .insertKey index _ _ _ | .deleteKey index _ => index ∈ indexes

namespace Store

def writeAll (s : Store) (calls : List WriteCall) : Store :=
  calls.foldl (fun s c => (s.write c).2) s

variable {s : Store} {table : String} {indexes : List String}

theorem write_table {c : WriteCall} (h : c.Within table indexes) {name : String}
    (hn : name ≠ table) : (s.write c).2.tables.get? name = s.tables.get? name := by
  cases c with
  | insertRow t rowid record =>
    obtain rfl : t = table := h
    have hset := fun u => (Assoc.get?_set s.tables t name u).trans (if_neg fun e => hn e.symm)
    simp only [Store.write, Store.insertRow]
    split
    · rfl
    · split
      · rfl
      · split
        · rfl
        · split
          · exact hset _
          · exact hset _
  | insertKey index key rowid unique =>
    simp only [Store.write, Store.insertKey]
    split
    · rfl
    · split
      · rfl
      · split <;> rfl
  | deleteKey index key =>
    simp only [Store.write, Store.deleteKey]
    split <;> rfl

theorem write_index {c : WriteCall} (h : c.Within table indexes) {name : String}
    (hn : name ∉ indexes) : (s.write c).2.indexes.get? name = s.indexes.get? name := by
  have hset : ∀ index ∈ indexes, ∀ ix, (s.indexes.set index ix).get? name = s.indexes.get? name := by
    intro index hi ix
    rw [Assoc.get?_set, if_neg]
    rintro rfl
    exact hn hi
  cases c with
  | insertRow t rowid record =>
    simp only [Store.write, Store.insertRow]
    split
    · rfl
    · split
      · rfl
      · split
        · rfl
        · split <;> rfl
  | insertKey index key rowid unique =>
    simp only [Store.write, Store.insertKey]
    split
    · rfl
    · split
      · rfl
      · split
        · rfl
        · exact hset index h _
  | deleteKey index key =>
    simp only [Store.write, Store.deleteKey]
    split
    · rfl
    · exact hset index h _

theorem writeAll_frame {calls : List WriteCall} (h : ∀ c ∈ calls, c.Within table indexes) :
    (∀ name ≠ table, (s.writeAll calls).tables.get? name = s.tables.get? name) ∧
    ∀ name ∉ indexes, (s.writeAll calls).indexes.get? name = s.indexes.get? name := by
  induction calls generalizing s with
  | nil => exact ⟨fun _ _ => rfl, fun _ _ => rfl⟩
  | cons c rest ih =>
    have hc := h c List.mem_cons_self
    obtain ⟨ht, hi⟩ := ih (s := (s.write c).2) fun d hd => h d (List.mem_cons_of_mem _ hd)
    exact ⟨fun name hn => (ht name hn).trans (write_table hc hn),
      fun name hn => (hi name hn).trans (write_index hc hn)⟩

end Store

/-- A store that others write to while it is read: before every read, the next calls of a
schedule are made. -/
structure SharedStore where
  store : Store
  pending : List (List WriteCall)

namespace SharedStore

def advance (m : SharedStore) : SharedStore :=
  match m.pending with
  | [] => m
  | calls :: rest => ⟨m.store.writeAll calls, rest⟩

def backend : Backend SharedStore where
  leftPage table range limit m := (m.advance.store.leftPage table range limit, m.advance)
  indexPage index keys limit state m :=
    (m.advance.store.indexPage index keys limit state, m.advance)
  dataPage table rowids limit m := (m.advance.store.dataPage table rowids limit, m.advance)
  write call m := ((m.store.write call).1, { m with store := (m.store.write call).2 })
  listed index keys m := (m.store.listing index keys).length

/-- Some tables and an index are as in another store, and no call to come writes them. -/
structure Shows (s : Store) (left right index table : String) (indexes : List String)
    (m : SharedStore) : Prop where
  left_eq : m.store.tables.get? left = s.tables.get? left
  right_eq : m.store.tables.get? right = s.tables.get? right
  index_eq : m.store.indexes.get? index = s.indexes.get? index
  within : ∀ calls ∈ m.pending, ∀ c ∈ calls, c.Within table indexes

variable {s : Store} {left right index table : String} {indexes : List String} {m : SharedStore}

theorem Shows.advance (h : Shows s left right index table indexes m) (hl : left ≠ table)
    (hr : right ≠ table) (hi : index ∉ indexes) : Shows s left right index table indexes m.advance := by
  obtain ⟨store, pending⟩ := m
  cases pending with
  | nil => exact h
  | cons calls rest =>
    obtain ⟨ht, hx⟩ := Store.writeAll_frame (s := store) (h.within calls List.mem_cons_self)
    exact ⟨(ht left hl).trans h.left_eq, (ht right hr).trans h.right_eq, (hx index hi).trans h.index_eq,
      fun cs hcs => h.within cs (List.mem_cons_of_mem _ hcs)⟩

/-- What others write elsewhere does not show in the answers. -/
theorem answers (hl : left ≠ table) (hr : right ≠ table) (hi : index ∉ indexes) :
    backend.Answers (Shows s left right index table indexes) s left right index where
  leftPage {m} h range limit := by
    have ha := h.advance hl hr hi
    refine ⟨m.advance, ha, ?_⟩
    simp only [backend, Store.leftPage, Store.table, ha.left_eq]
  indexPage {m} h keys limit state := by
    have ha := h.advance hl hr hi
    refine ⟨m.advance, ha, ?_⟩
    simp only [backend, Store.indexPage, Store.index, Store.listing, ha.index_eq]
    rfl
  dataPage {m} h rowids limit := by
    have ha := h.advance hl hr hi
    refine ⟨m.advance, ha, ?_⟩
    simp only [backend, Store.dataPage, Store.table, ha.right_eq]
  listed {m} h keys := by
    simp only [backend, Store.listing, h.index_eq]

end SharedStore
end TableMill
