import TableMill.Batch.Error
import TableMill.Proofs.WriteEffects

/-!
# Faults that pass

A call that fails for a while is made again. If fewer faults wait for the inserts of a store than
a call has attempts, and all of them pass, then writing records ends as it does without any fault:
the first insert of a row uses up the faults of rows, and the first insert of a key those of keys.
-/

namespace TableMill

namespace Store

/-- The store without the faults that wait for its inserts; row ids may still be taken. -/
def faultless (s : Store) : Store :=
  { s with faults := { s.faults with rows := [], keys := [] } }

def withRowFaults (s : Store) (kinds : List FaultKind) : Store :=
  { s with faults := { s.faults with rows := kinds } }

def withKeyFaults (s : Store) (kinds : List FaultKind) : Store :=
  { s with faults := { s.faults with keys := kinds } }

variable {s : Store} {name key : String} {rowid : Int64} {record : Record} {unique : Bool}

theorem insertRow_faultless (hrows : s.faults.rows = []) :
    s.faultless.insertRow name rowid record =
      ((s.insertRow name rowid record).1, (s.insertRow name rowid record).2.faultless) := by
  obtain ⟨tables, indexes, rows, keys, collisions⟩ := s
  obtain rfl : rows = [] := hrows
  simp only [insertRow, faultless, Store.table]
  cases tables.get? name with
  | none => rfl
  | some t =>
    dsimp only
    cases t.isTaken rowid with
    | true => rfl
    | false => cases collisions <;> rfl

theorem insertKey_faultless (hkeys : s.faults.keys = []) :
    s.faultless.insertKey name key rowid unique =
      ((s.insertKey name key rowid unique).1, (s.insertKey name key rowid unique).2.faultless) := by
  obtain ⟨tables, indexes, rows, keys, collisions⟩ := s
  obtain rfl : keys = [] := hkeys
  simp only [insertKey, faultless, Store.index]
  cases indexes.get? name with
  | none => rfl
  | some ix =>
    dsimp only
    cases if unique then (ix.get? key).getD [] else [] <;> rfl

theorem deleteKey_faultless :
    s.faultless.deleteKey name key =
      ((s.deleteKey name key).1, (s.deleteKey name key).2.faultless) := by
  simp only [deleteKey, faultless, Store.index]
  cases s.indexes.get? name <;> rfl

theorem insertRow_eq_ok (rowid : Int64) (record : Record) (hrows : s.faults.rows = [])
    (htable : (s.tables.get? name).isSome) :
    ∃ answer, (s.insertRow name rowid record).1 = .ok answer := by
  obtain ⟨t, ht⟩ := Option.isSome_iff_exists.1 htable
  simp only [insertRow, hrows, Store.table, ht]
  split
  · exact ⟨_, rfl⟩
  · split <;> exact ⟨_, rfl⟩

theorem insertKey_eq_ok (key : String) (rowid : Int64) (unique : Bool)
    (hkeys : s.faults.keys = []) (hindex : (s.indexes.get? name).isSome) :
    (s.insertKey name key rowid unique).1 = .ok .inserted ∨
      ∃ existing ∈ s.idsUnder name key,
        (s.insertKey name key rowid unique).1 = .ok (.present existing) := by
  obtain ⟨ix, hix⟩ := Option.isSome_iff_exists.1 hindex
  simp only [insertKey, hkeys, Store.index, hix]
  split
  · next existing rest h =>
    refine .inr ⟨existing, ?_, rfl⟩
    cases unique with
    | true =>
      have hids : s.idsUnder name key = existing :: rest := by
        simpa [idsUnder, hix, StoredIndex.idsOf] using h
      rw [hids]
      exact List.mem_cons_self
    | false => cases h
  · exact .inl rfl

theorem deleteKey_eq_ok (hindex : (s.indexes.get? name).isSome) :
    (s.deleteKey name key).1 = .ok .deleted := by
  obtain ⟨ix, hix⟩ := Option.isSome_iff_exists.1 hindex
  simp only [deleteKey, Store.index, hix]

end Store

def Task.Supply.Draws (ids : Task.Supply) (drawable : Int64 → Prop) : Prop :=
  ∀ n, ids.drawn ≤ n → drawable (ids.ids n)

/-- Fewer faults wait than a call has attempts, and all of them pass. -/
structure WriterSettings.Outlasts (w : WriterSettings) (kinds : List FaultKind) : Prop where
  length : kinds.length < w.callAttempts
  transient : ∀ kind ∈ kinds, kind.isTransient = true

theorem WriterSettings.Outlasts.nil {w : WriterSettings} {kinds : List FaultKind}
    (h : w.Outlasts kinds) : w.Outlasts [] :=
  ⟨Nat.lt_of_le_of_lt (Nat.zero_le _) h.length, nofun⟩

def Writer.indexNames (w : Writer) : List String :=
  w.indexes.map Prod.fst ++ w.distinct.toList

/-- A store whose faults a writer outlasts. While faults of keys wait, no drawable row id is under
a key. -/
structure Store.Bearable (s : Store) (w : Writer) (drawable : Int64 → Prop) : Prop where
  table_isSome : (s.tables.get? w.table).isSome
  index_isSome {name : String} (hname : name ∈ w.indexNames) : (s.indexes.get? name).isSome
  rows : w.settings.Outlasts s.faults.rows
  keys : w.settings.Outlasts s.faults.keys
  unused : s.faults.keys = [] ∨
    ∀ rowid, drawable rowid → ∀ index key, rowid ∉ s.idsUnder index key

namespace Store.Bearable

variable {s : Store} {w : Writer} {drawable : Int64 → Prop} {name key : String} {rowid : Int64}
  {record : Record} {unique : Bool}

theorem noRowFaults (h : s.Bearable w drawable) : (s.withRowFaults []).Bearable w drawable where
  table_isSome := h.table_isSome
  index_isSome := h.index_isSome
  rows := h.rows.nil
  keys := h.keys
  unused := h.unused

theorem noKeyFaults (h : s.Bearable w drawable) : (s.withKeyFaults []).Bearable w drawable where
  table_isSome := h.table_isSome
  index_isSome := h.index_isSome
  rows := h.rows
  keys := h.keys.nil
  unused := .inl rfl

theorem insertRow (h : s.Bearable w drawable) (hrows : s.faults.rows = []) :
    (s.insertRow name rowid record).2.Bearable w drawable := by
  unfold Store.insertRow
  rw [hrows]
  dsimp only
  split
  · exact h
  · next t ht =>
    have hset (t' : StoredTable) : ((s.tables.set name t').get? w.table).isSome := by
      rw [Assoc.get?_set]
      split
      · rfl
      · exact h.table_isSome
    split
    · exact h
    · split
      · exact ⟨hset _, h.index_isSome, h.rows, h.keys, h.unused⟩
      · exact ⟨hset _, h.index_isSome, h.rows, h.keys, h.unused⟩

theorem setIndex (h : s.Bearable w drawable) {ix : StoredIndex}
    (hunused : s.faults.keys = [] ∨ ∀ rowid, drawable rowid → ∀ key, rowid ∉ ix.idsOf key) :
    Store.Bearable { s with indexes := s.indexes.set name ix } w drawable where
  table_isSome := h.table_isSome
  index_isSome hname := by
    rw [Assoc.get?_set]
    split
    · rfl
    · exact h.index_isSome hname
  rows := h.rows
  keys := h.keys
  unused := by
    rcases h.unused with hkeys | hids
    · exact .inl hkeys
    · refine hunused.imp_right fun hix rowid hdrawable index key => ?_
      by_cases hname : name = index
      · subst hname
        rw [idsUnder_set]
        exact hix rowid hdrawable key
      · rw [idsUnder_set_of_ne hname]
        exact hids rowid hdrawable index key

theorem insertKey (h : s.Bearable w drawable) (hkeys : s.faults.keys = []) :
    (s.insertKey name key rowid unique).2.Bearable w drawable := by
  unfold Store.insertKey
  rw [hkeys]
  dsimp only
  split
  · exact h
  · split
    · exact h
    · exact h.setIndex (.inl hkeys)

theorem deleteKey (h : s.Bearable w drawable) : (s.deleteKey name key).2.Bearable w drawable := by
  unfold Store.deleteKey
  split
  · exact h
  · next ix hix =>
    refine h.setIndex (h.unused.imp_right fun hids rowid hdrawable k hmem => ?_)
    have hold : s.idsUnder name k = ix.idsOf k := by simp [idsUnder, get?_of_index hix]
    rw [StoredIndex.idsOf, Assoc.get?_erase] at hmem
    split at hmem
    · cases hmem
    · exact hids rowid hdrawable name k (hold ▸ hmem)

end Store.Bearable

/-! ## Attempts -/

/-- An attempt makes one call and reads its answer, knowing the number of earlier attempts. -/
def Reads (c : WriteCall) (read : Nat → WriteAnswer → WriteAnswer)
    (attempt : Nat → Task (StoreResult WriteAnswer)) : Prop :=
  ∀ n ids s, (attempt n).run Store.backend ids s =
    ((s.write c).1.map (read n), ids, (s.write c).2)

/-- Faults that wait for a call in a store are met by its attempts one after the other. -/
def Waiting (c : WriteCall) (waiting : List FaultKind → Store) : Prop :=
  ∀ kind kinds, (waiting (kind :: kinds)).write c = (.error ⟨kind, .injected⟩, waiting kinds)

section

variable {w : WriterSettings} {purpose : Purpose} {attempt : Nat → Task (StoreResult WriteAnswer)}
  {ids : Task.Supply} {s s' : Store} {c : WriteCall} {answer : WriteAnswer}
  {read : Nat → WriteAnswer → WriteAnswer} {waiting : List FaultKind → Store}
  {kinds : List FaultKind}

theorem reads_perform : Reads c (fun _ answer => answer) fun _ => Task.perform c := by
  intro n ids s
  change ((s.write c).1, ids, (s.write c).2) = _
  cases (s.write c).1 <;> rfl

theorem Reads.retryFrom_of_ok (h : Reads c read attempt) (hcall : s.write c = (.ok answer, s'))
    (left n : Nat) :
    (retryFrom w purpose attempt left n).run Store.backend ids s =
      (.ok (read n answer), ids, s') := by
  unfold retryFrom
  rw [Task.run_andThen, h, hcall]
  rfl

/-- The attempts that are left once no fault waits go on without them. -/
theorem Reads.retryFrom_waiting (h : Reads c read attempt) (hwaiting : Waiting c waiting)
    (hkinds : ∀ kind ∈ kinds, kind.isTransient = true) (left n : Nat) :
    (retryFrom w purpose attempt (left + kinds.length) n).run Store.backend ids (waiting kinds) =
      (retryFrom w purpose attempt left (n + kinds.length)).run Store.backend ids (waiting []) := by
  induction kinds generalizing n with
  | nil => rfl
  | cons kind kinds ih =>
    rw [List.length_cons, ← Nat.add_assoc]
    conv_lhs => unfold retryFrom
    rw [Task.run_andThen, h, hwaiting]
    dsimp only [Except.map]
    rw [if_pos (hkinds kind List.mem_cons_self), Task.run,
      ih fun k hk => hkinds k (List.mem_cons_of_mem _ hk), Nat.add_right_comm, Nat.add_assoc]

/-- Waiting faults that a writer outlasts are got over by the attempts of one call. -/
theorem Reads.retry_outlasts (h : Reads c read attempt) (hwaiting : Waiting c waiting)
    (hkinds : w.Outlasts kinds) (hcall : (waiting []).write c = (.ok answer, s')) :
    (retry w purpose attempt).run.run Store.backend ids (waiting kinds) =
      (.ok (read kinds.length answer), ids, s') := by
  obtain ⟨left, hleft⟩ : ∃ left, w.callAttempts - 1 = left + kinds.length :=
    ⟨w.callAttempts - 1 - kinds.length, by have := hkinds.length; omega⟩
  change (retryFrom w purpose attempt (w.callAttempts - 1) 0).run _ _ _ = _
  rw [hleft, h.retryFrom_waiting hwaiting hkinds.transient, Nat.zero_add, h.retryFrom_of_ok hcall]

end

/-! ## Writings -/

/-- The faults of a bearable store change nothing about a writing but that they are used up. -/
def Writing.Unmoved {α : Type} (w : Writer) (drawable : Int64 → Prop) (post : α → Prop)
    (x : Writing α) : Prop :=
  ∀ (ids : Task.Supply) (s : Store), ids.Draws drawable → s.Bearable w drawable →
    ∃ r ids' s', x.run.run Store.backend ids s = (r, ids', s') ∧
      x.run.run Store.backend ids s.faultless = (r, ids', s'.faultless) ∧
      ids'.Draws drawable ∧ s'.Bearable w drawable ∧ ∀ a, r = .ok a → post a

namespace Writing.Unmoved

variable {α β : Type} {w : Writer} {drawable : Int64 → Prop}

theorem pure {post : α → Prop} {a : α} (h : post a) :
    Writing.Unmoved w drawable post (Pure.pure a) := by
  intro ids s hids hs
  refine ⟨.ok a, ids, s, rfl, rfl, hids, hs, fun b hb => ?_⟩
  cases hb
  exact h

theorem throw {post : α → Prop} (fault : WriteFault) :
    Writing.Unmoved w drawable post (MonadExcept.throw fault) :=
  fun ids s hids hs => ⟨.error fault, ids, s, rfl, rfl, hids, hs, nofun⟩

theorem bind {P : α → Prop} {Q : β → Prop} {x : Writing α} {f : α → Writing β}
    (hx : Writing.Unmoved w drawable P x) (hf : ∀ a, P a → Writing.Unmoved w drawable Q (f a)) :
    Writing.Unmoved w drawable Q (x >>= f) := by
  intro ids s hids hs
  have hrun (s : Store) : (x >>= f).run.run Store.backend ids s =
      Task.run Store.backend (ExceptT.bindCont f (x.run.run Store.backend ids s).1)
        (x.run.run Store.backend ids s).2.1 (x.run.run Store.backend ids s).2.2 :=
    Task.run_andThen ..
  obtain ⟨r, ids', s', hfaulty, hcalm, hids', hs', hP⟩ := hx ids s hids hs
  rw [hrun s, hrun s.faultless, hfaulty, hcalm]
  cases r with
  | error fault => exact ⟨.error fault, ids', s', rfl, rfl, hids', hs', nofun⟩
  | ok a => exact hf a (hP a rfl) ids' s' hids' hs'

end Writing.Unmoved

namespace Writer

open Writing (Unmoved)

variable {w : Writer} {drawable : Int64 → Prop} {item : Item} {name key : String} {rowid : Int64}

theorem freshId_unmoved : Unmoved w drawable drawable freshId := by
  intro ids s hids hs
  refine ⟨.ok (ids.ids ids.drawn), _, s, rfl, rfl, ?_, hs, fun a ha => ?_⟩
  · exact fun n hn => hids n (Nat.le_of_succ_le hn)
  · cases ha
    exact hids _ (Nat.le_refl _)

theorem keyOf_unmoved : Unmoved w drawable (fun _ => True) (keyOf item name) := by
  unfold keyOf
  split
  · exact .pure trivial
  · exact .throw _

theorem insertRow_unmoved (record : Record) :
    Unmoved w drawable (fun _ => True) (w.insertRow rowid record) := by
  intro ids s hids hs
  obtain ⟨answer, hanswer⟩ := Store.insertRow_eq_ok (s := s.withRowFaults []) rowid record rfl
    hs.table_isSome
  have hcalm : s.faultless.write (.insertRow w.table rowid record) =
      (.ok answer, ((s.withRowFaults []).insertRow w.table rowid record).2.faultless) := by
    rw [← hanswer]
    exact Store.insertRow_faultless (s := s.withRowFaults []) rfl
  have hreads := reads_perform (c := .insertRow w.table rowid record)
  have hwaiting : Waiting (.insertRow w.table rowid record) s.withRowFaults := fun _ _ => rfl
  refine ⟨.ok answer, ids, ((s.withRowFaults []).insertRow w.table rowid record).2, ?_, ?_, hids,
    hs.noRowFaults.insertRow rfl, fun _ _ => trivial⟩
  · exact hreads.retry_outlasts hwaiting hs.rows (Prod.ext hanswer rfl)
  · exact hreads.retryFrom_of_ok hcalm _ _

/-- The faults of keys change nothing about an insert whose answer is read in the same way by all
of its attempts. -/
theorem insertKey_calls_unmoved (key : String) (unique : Bool)
    (read : Nat → WriteAnswer → WriteAnswer) {purpose : Purpose}
    {attempt : Nat → Task (StoreResult WriteAnswer)} (hname : name ∈ w.indexNames)
    (hattempt : Reads (.insertKey name key rowid unique) read attempt)
    (hinserted : ∀ n, read n .inserted = .inserted)
    (hpresent : ∀ n existing, existing ≠ rowid → read n (.present existing) = .present existing)
    (hrowid : drawable rowid) :
    Unmoved w drawable (fun _ => True) (retry w.settings purpose attempt) := by
  intro ids s hids hs
  obtain ⟨answer, hanswer, hread⟩ : ∃ answer,
      ((s.withKeyFaults []).insertKey name key rowid unique).1 = .ok answer ∧
        read s.faults.keys.length answer = read 0 answer := by
    rcases Store.insertKey_eq_ok (s := s.withKeyFaults []) key rowid unique rfl
      (hs.index_isSome hname) with
      hanswer | ⟨existing, hmem, hanswer⟩
    · exact ⟨_, hanswer, by rw [hinserted, hinserted]⟩
    · refine ⟨_, hanswer, ?_⟩
      -- Attempts are made again only if faults wait, and then the row id is new to the indexes.
      rcases hs.unused with hkeys | hunused
      · rw [hkeys, List.length_nil]
      · have hne : existing ≠ rowid := fun h => hunused rowid hrowid name key (h ▸ hmem)
        rw [hpresent _ _ hne, hpresent _ _ hne]
  have hcalm : s.faultless.write (.insertKey name key rowid unique) =
      (.ok answer, ((s.withKeyFaults []).insertKey name key rowid unique).2.faultless) := by
    rw [← hanswer]
    exact Store.insertKey_faultless (s := s.withKeyFaults []) rfl
  have hwaiting : Waiting (.insertKey name key rowid unique) s.withKeyFaults := fun _ _ => rfl
  refine ⟨.ok (read 0 answer), ids, ((s.withKeyFaults []).insertKey name key rowid unique).2,
    ?_, ?_, hids, hs.noKeyFaults.insertKey rfl, fun _ _ => trivial⟩
  · rw [← hread]
    exact hattempt.retry_outlasts hwaiting hs.keys (Prod.ext hanswer rfl)
  · exact hattempt.retryFrom_of_ok hcalm _ _

theorem insertShared_unmoved (hname : name ∈ w.indexNames)
    (hrowid : drawable rowid) :
    Unmoved w drawable (fun _ => True) (w.insertShared name key rowid) :=
  insertKey_calls_unmoved key false _ hname reads_perform (fun _ => rfl) (fun _ _ _ => rfl) hrowid

/-- How an attempt that enters a key once reads its answer: that the row has the key already is its
own doing if an attempt was made before. -/
def readUnique (rowid : Int64) (n : Nat) : WriteAnswer → WriteAnswer
  | .present existing => if existing = rowid ∧ 0 < n then .inserted else .present existing
  | answer => answer

/-- That an attempt made before may have gone through plays no part: none did. -/
theorem insertUnique_unmoved (hname : name ∈ w.indexNames)
    (hrowid : drawable rowid) :
    Unmoved w drawable (fun _ => True) (w.insertUnique name key rowid) := by
  refine insertKey_calls_unmoved key true (readUnique rowid) hname (fun n ids s => ?_)
    (fun _ => rfl) (fun n existing hne => ?_) hrowid
  · simp only [Task.run, Store.backend]
    rcases (s.write (.insertKey name key rowid true)).1 with e | _ | existing | _ <;> rfl
  · exact if_neg fun h => hne h.1

theorem release_unmoved (hname : name ∈ w.indexNames) :
    Unmoved w drawable (fun _ => True) (w.release name key) := by
  intro ids s hids hs
  have hanswer : (s.deleteKey name key).1 = .ok .deleted :=
    Store.deleteKey_eq_ok (hs.index_isSome hname)
  have hcalm : s.faultless.write (.deleteKey name key) =
      (.ok .deleted, (s.deleteKey name key).2.faultless) := by
    rw [← hanswer]
    exact Store.deleteKey_faultless
  have hreads := reads_perform (c := .deleteKey name key)
  exact ⟨.ok .deleted, ids, (s.deleteKey name key).2,
    hreads.retryFrom_of_ok (Prod.ext hanswer rfl) _ _, hreads.retryFrom_of_ok hcalm _ _, hids,
    hs.deleteKey, fun _ _ => trivial⟩

theorem insertKey_unmoved (hname : name ∈ w.indexNames) (hrowid : drawable rowid)
    (unique : Bool) :
    Unmoved w drawable (fun _ => True) (w.insertKey item rowid name unique) := by
  unfold insertKey
  refine keyOf_unmoved.bind fun key _ => ?_
  split
  · refine (insertUnique_unmoved hname hrowid).bind fun answer _ => ?_
    split
    · exact .throw _
    · exact .pure trivial
  · exact (insertShared_unmoved hname hrowid).bind fun _ _ => .pure trivial

theorem insertKeys_unmoved (hrowid : drawable rowid) {indexes : Assoc Index}
    (hindexes : ∀ e ∈ indexes, e ∈ w.indexes) :
    Unmoved w drawable (fun _ => True) (w.insertKeys item rowid indexes) := by
  induction indexes with
  | nil => exact .pure trivial
  | cons e rest ih =>
    have hname : e.1 ∈ w.indexNames :=
      List.mem_append_left _ (List.mem_map_of_mem (hindexes e List.mem_cons_self))
    refine (insertKey_unmoved hname hrowid _).bind fun _ _ => ?_
    exact ih fun e he => hindexes e (List.mem_cons_of_mem _ he)

theorem writeDataFirst_unmoved (tries : Nat) :
    Unmoved w drawable (fun _ => True) (w.writeDataFirst item tries) := by
  induction tries with
  | zero => exact .throw _
  | succ tries ih =>
    refine freshId_unmoved.bind fun rowid hrowid => ?_
    refine (insertRow_unmoved item.record).bind fun answer _ => ?_
    split
    · exact ih
    · exact (insertKeys_unmoved hrowid fun _ he => he).bind fun _ _ => .pure trivial

theorem writeDistinct_unmoved (hname : name ∈ w.indexNames) (tries : Nat) :
    Unmoved w drawable (fun _ => True) (w.writeDistinct item name key tries) := by
  induction tries with
  | zero => exact .throw _
  | succ tries ih =>
    refine freshId_unmoved.bind fun rowid hrowid => ?_
    refine (insertUnique_unmoved hname hrowid).bind fun answer _ => ?_
    split
    · exact .pure trivial
    · refine (insertRow_unmoved item.record).bind fun answer _ => ?_
      split
      · exact (release_unmoved hname).bind fun _ _ => ih
      · refine (insertKeys_unmoved hrowid fun e he => (List.mem_filter.1 he).1).bind fun _ _ => ?_
        exact .pure trivial

theorem writing_unmoved (item : Item) :
    Unmoved w drawable (fun _ => True) (w.writing item) := by
  unfold writing
  split
  · exact writeDataFirst_unmoved _
  · next index hindex =>
    have hname : index ∈ w.indexNames := List.mem_append_right _ (by simp [hindex])
    exact keyOf_unmoved.bind fun key _ => writeDistinct_unmoved hname _

/-! ## Records one after the other -/

theorem task_unmoved (item : Item) {ids : Task.Supply} {s : Store} (hids : ids.Draws drawable)
    (hs : s.Bearable w drawable) :
    ∃ outcome ids' s', (w.task item).run Store.backend ids s = (outcome, ids', s') ∧
      (w.task item).run Store.backend ids s.faultless = (outcome, ids', s'.faultless) ∧
      ids'.Draws drawable ∧ s'.Bearable w drawable := by
  obtain ⟨r, ids', s', hfaulty, hcalm, hids', hs', -⟩ := writing_unmoved item ids s hids hs
  unfold task
  rw [Task.run_andThen, Task.run_andThen, hfaulty, hcalm]
  cases r with
  | ok outcome => exact ⟨outcome, ids', s', rfl, rfl, hids', hs'⟩
  | error fault => exact ⟨.failed fault, ids', s', rfl, rfl, hids', hs'⟩

variable {σ : Type}

def outcomes (w : Writer) (b : Backend σ) :
    List Item → Task.Supply → σ → List Outcome × Task.Supply × σ
  | [], ids, s => ([], ids, s)
  | item :: rest, ids, s =>
    let (outcome, ids, s) := (w.task item).run b ids s
    let (outcomes, ids, s) := w.outcomes b rest ids s
    (outcome :: outcomes, ids, s)

theorem writeAll_eq_outcomes (w : Writer) (b : Backend σ) (items : List Item) (t : Totals)
    (ids : Task.Supply) (s : σ) :
    w.writeAll b items t ids s =
      ((w.outcomes b items ids s).1.foldl (Totals.add w.settings.reportedErrors) t,
        (w.outcomes b items ids s).2) := by
  induction items generalizing t ids s with
  | nil => rfl
  | cons item rest ih => exact ih _ _ _

theorem outcomes_unmoved (items : List Item) {ids : Task.Supply} {s : Store}
    (hids : ids.Draws drawable) (hs : s.Bearable w drawable) :
    ∃ outcomes ids' s', w.outcomes Store.backend items ids s = (outcomes, ids', s') ∧
      w.outcomes Store.backend items ids s.faultless = (outcomes, ids', s'.faultless) := by
  induction items generalizing ids s with
  | nil => exact ⟨[], ids, s, rfl, rfl⟩
  | cons item rest ih =>
    obtain ⟨outcome, ids', s', hfaulty, hcalm, hids', hs'⟩ := task_unmoved item hids hs
    obtain ⟨outcomes, ids'', s'', hrest, hrestcalm⟩ := ih hids' hs'
    refine ⟨outcome :: outcomes, ids'', s'', ?_, ?_⟩
    · simp only [Writer.outcomes, hfaulty, hrest]
    · simp only [Writer.outcomes, hcalm, hrestcalm]

/-- What is left of writing records one after the other is the same from two stores, but for
faults that still wait. -/
structure SameEnd (w : Writer) (items : List Item) (ids : Task.Supply) (s t : Store) : Prop where
  outcomes : (w.outcomes Store.backend items ids s).1 = (w.outcomes Store.backend items ids t).1
  totals : (w.writeAll Store.backend items .empty ids s).1 =
    (w.writeAll Store.backend items .empty ids t).1
  drawn : (w.writeAll Store.backend items .empty ids s).2.1 =
    (w.writeAll Store.backend items .empty ids t).2.1
  tables : (w.writeAll Store.backend items .empty ids s).2.2.tables =
    (w.writeAll Store.backend items .empty ids t).2.2.tables
  indexes : (w.writeAll Store.backend items .empty ids s).2.2.indexes =
    (w.writeAll Store.backend items .empty ids t).2.2.indexes

/-- Faults that a writer outlasts are not seen in the end, whatever row ids are drawn that no
index of the store has, and whatever collisions are injected. -/
theorem sameEnd_faultless {s : Store} (htable : (s.tables.get? w.table).isSome)
    (hindexes : ∀ name ∈ w.indexNames, (s.indexes.get? name).isSome)
    (hrows : w.settings.Outlasts s.faults.rows) (hkeys : w.settings.Outlasts s.faults.keys)
    {ids : Task.Supply} (hids : ids.Draws fun rowid => ∀ index key, rowid ∉ s.idsUnder index key)
    (items : List Item) : w.SameEnd items ids s s.faultless := by
  have hbearable : s.Bearable w fun rowid => ∀ index key, rowid ∉ s.idsUnder index key :=
    ⟨htable, hindexes _, hrows, hkeys, .inr fun _ h => h⟩
  obtain ⟨outcomes, ids', s', hfaulty, hcalm⟩ := outcomes_unmoved items hids hbearable
  have hwritten := w.writeAll_eq_outcomes Store.backend items .empty ids s
  have hwrittencalm := w.writeAll_eq_outcomes Store.backend items .empty ids s.faultless
  rw [hfaulty] at hwritten
  rw [hcalm] at hwrittencalm
  exact
    { outcomes := by rw [hfaulty, hcalm]
      totals := by rw [hwritten, hwrittencalm]
      drawn := by rw [hwritten, hwrittencalm]
      tables := by
        rw [hwritten, hwrittencalm]
        rfl
      indexes := by
        rw [hwritten, hwrittencalm]
        rfl }

end Writer

namespace FaultSample

/-! Three records, two of them with one key. The first key is entered at the third attempt and the
first row stored at the second one, under a row id that then collides. -/

def writer : Writer :=
  ⟨"skus", [("idx_sku", ⟨true, [.plain "sku" .text]⟩)], some "idx_sku", .default⟩

def records : List Item :=
  ["x", "x", "z"].map fun sku => ⟨[("sku", .text sku)], [("idx_sku", sku)]⟩

def store : Store :=
  ((((Store.empty.createTable "skus").createIndex "idx_sku").failKeys
    [.missing, .timedOut]).failRows [.noResponses]).collide 1

def supply : Task.Supply := ⟨fun n => Int64.ofNat n, 0⟩

theorem idsUnder_store (index key : String) : store.idsUnder index key = [] := by
  have hindexes : store.indexes = [("idx_sku", [])] := rfl
  rw [Store.idsUnder, hindexes, Assoc.get?_cons]
  split <;> rfl

theorem sameEnd_faultless_three : store.faults.rows ≠ [] ∧ store.faults.keys ≠ [] ∧
    writer.SameEnd records supply store store.faultless := by
  refine ⟨by decide, by decide, Writer.sameEnd_faultless (by decide) (by decide)
    ⟨by decide, by decide⟩ ⟨by decide, by decide⟩ (fun n _ index key => ?_) records⟩
  rw [idsUnder_store]
  exact List.not_mem_nil

end FaultSample

end TableMill
