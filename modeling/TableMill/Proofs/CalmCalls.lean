import TableMill.Proofs.CalmStore

/-!
# Calls that go through

While no fault is injected and fresh row ids are drawn, every call inserts what it asks for, but for
that of a unique key which is there. So the task of a record makes one call after the other and is
done, unless the first call finds its key.
-/

namespace TableMill

open Writer (keyIn)

namespace WriteCall

def row? : WriteCall → Option Row
  | .insertRow _ rowid record => some ⟨rowid, record⟩
  | _ => none

def index? : WriteCall → Option String
  | .insertKey index .. => some index
  | _ => none

end WriteCall

namespace Store

/-- One store is another one in which calls have inserted the rows of a table and the keys that they
asked for. -/
structure Made (s : Store) (table : String) (indexes : Assoc Index) (start : Store)
    (calls : List WriteCall) : Prop where
  calm : s.Calm table indexes
  rows : (s.rowsIn table).Perm (start.rowsIn table ++ calls.filterMap WriteCall.row?)
  ids (index key : String) (rowid : Int64) : rowid ∈ s.idsUnder index key ↔
    rowid ∈ start.idsUnder index key ∨ ∃ unique, .insertKey index key rowid unique ∈ calls
  free (rowid : Int64) : s.Free table rowid ↔
    start.Free table rowid ∧ ∀ row ∈ calls.filterMap WriteCall.row?, row.rowid ≠ rowid
  other {name : String} (hne : name ≠ table) : s.tables.get? name = start.tables.get? name
  same (h : calls = []) : s = start

namespace Made

variable {table : String} {indexes : Assoc Index} {start s : Store} {calls : List WriteCall}

theorem refl (h : s.Calm table indexes) : s.Made table indexes s [] where
  calm := h
  rows := by simp
  ids _ _ _ := by simp
  free _ := by simp
  other _ := rfl
  same _ := rfl

theorem perm (h : s.Made table indexes start calls) {calls' : List WriteCall}
    (hperm : calls.Perm calls') : s.Made table indexes start calls' where
  calm := h.calm
  rows := h.rows.trans ((hperm.filterMap _).append_left _)
  ids index key rowid := by simp only [h.ids, hperm.mem_iff]
  free rowid := by simp only [h.free, (hperm.filterMap _).mem_iff]
  other := h.other
  same hnil := h.same (List.Perm.eq_nil (hnil ▸ hperm))

theorem putRow (h : s.Made table indexes start calls) {rowid : Int64}
    (hfree : s.Free table rowid) (record : Record) :
    (s.putRow table ⟨rowid, record⟩).Made table indexes start
      (.insertRow table rowid record :: calls) where
  calm := h.calm.putRow _
  rows := by
    refine (rowsIn_putRow_perm hfree).trans ((h.rows.cons _).trans ?_)
    exact List.perm_middle.symm
  ids index key r := by
    have hids : (s.putRow table ⟨rowid, record⟩).idsUnder index key = s.idsUnder index key := rfl
    simp [hids, h.ids]
  free r := by
    rw [free_putRow hfree, h.free]
    simp only [List.filterMap_cons, WriteCall.row?, List.forall_mem_cons]
    exact ⟨fun ⟨⟨hstart, hrows⟩, hne⟩ => ⟨hstart, hne.symm, hrows⟩,
      fun ⟨hstart, hne, hrows⟩ => ⟨⟨hstart, hrows⟩, hne.symm⟩⟩
  other {name} hne := by rw [tables_putRow, if_neg hne.symm, h.other hne]
  same := nofun

theorem putKey (h : s.Made table indexes start calls) (name key : String) (rowid : Int64)
    (unique : Bool) :
    (s.putKey name key rowid).Made table indexes start
      (.insertKey name key rowid unique :: calls) where
  calm := h.calm.putKey _
  rows := h.rows
  ids index k r := by
    rw [mem_idsUnder_putKey, h.ids]
    simp only [List.mem_cons, WriteCall.insertKey.injEq]
    constructor
    · rintro ((hold | ⟨u, hu⟩) | ⟨rfl, rfl, rfl⟩)
      · exact .inl hold
      · exact .inr ⟨u, .inr hu⟩
      · exact .inr ⟨unique, .inl ⟨rfl, rfl, rfl, rfl⟩⟩
    · rintro (hold | ⟨u, ⟨rfl, rfl, rfl, -⟩ | hu⟩)
      · exact .inl (.inl hold)
      · exact .inr ⟨rfl, rfl, rfl⟩
      · exact .inl (.inr ⟨u, hu⟩)
  free := h.free
  other := h.other
  same := nofun

theorem idsUnder_eq_nil (h : s.Made table indexes start calls) {index key : String} :
    s.idsUnder index key = [] ↔ start.idsUnder index key = [] ∧
      ∀ rowid unique, .insertKey index key rowid unique ∉ calls := by
  simp only [List.eq_nil_iff_forall_not_mem, h.ids, not_or, forall_and, not_exists]

theorem idsUnder_ne_nil (h : s.Made table indexes start calls) {s' : Store} {c : WriteCall}
    (h' : s'.Made table indexes start (c :: calls)) {index key : String}
    (hkey : s.idsUnder index key ≠ []) : s'.idsUnder index key ≠ [] := by
  intro hnil
  obtain ⟨hstart, hnone⟩ := h'.idsUnder_eq_nil.1 hnil
  exact hkey (h.idsUnder_eq_nil.2 ⟨hstart, fun rowid unique hmem =>
    hnone rowid unique (List.mem_cons_of_mem _ hmem)⟩)

end Made
end Store

/-! ## Tasks whose calls go through -/

/-- A task makes calls and ends, if every call inserts what it asks for. -/
inductive Task.Straight {α : Type} : Task α → List WriteCall → α → Prop
  | done (a : α) : Straight (.done a) [] a
  | call {c : WriteCall} {next : StoreResult WriteAnswer → Task α} {calls : List WriteCall} {a : α}
    (h : Straight (next (.ok .inserted)) calls a) : Straight (.call c next) (c :: calls) a

def Task.result? {α : Type} : Task α → Option α
  | .done a => some a
  | _ => none

/-- A task starts with a call and goes on with others, if it inserts what it asks for; if that is
present, the task ends. -/
def Task.Contested {α : Type} (t : Task α) (c : WriteCall) (calls : List WriteCall) (a : α)
    (b : Int64 → α) : Prop :=
  ∃ after, t = .call c after ∧ (after (.ok .inserted)).Straight calls a ∧
    ∀ m, after (.ok (.present m)) = .done (b m)

namespace Task

variable {α β : Type} {t : Task α} {f : α → Task β} {calls more all : List WriteCall} {a : α} {b : β}

theorem Straight.andThen (h : t.Straight calls a) (hf : (f a).Straight more b)
    (hall : calls ++ more = all) : (t.andThen f).Straight all b := by
  subst hall
  induction h with
  | done a => exact hf
  | call _ ih => exact .call (ih hf)

theorem Contested.andThen {c : WriteCall} {present : Int64 → α} {present' : Int64 → β}
    (h : t.Contested c calls a present) (hf : (f a).Straight more b)
    (hpresent : ∀ m, f (present m) = .done (present' m)) (hall : calls ++ more = all) :
    (t.andThen f).Contested c all b present' := by
  obtain ⟨after, rfl, hinserted, hafter⟩ := h
  refine ⟨fun answer => (after answer).andThen f, rfl, hinserted.andThen hf hall, fun m => ?_⟩
  simp only [hafter, Task.andThen, hpresent]

end Task

def Writing.Straight {α : Type} (x : Writing α) (calls : List WriteCall) (a : α) : Prop :=
  Task.Straight x.run calls (.ok a)

namespace Writing.Straight

variable {α β : Type} {calls more : List WriteCall}

theorem pure (a : α) : Writing.Straight (Pure.pure a) [] a := .done _

theorem bind {x : Writing α} {f : α → Writing β} {a : α} {b : β} {all : List WriteCall}
    (h : Writing.Straight x calls a) (hf : Writing.Straight (f a) more b)
    (hall : calls ++ more = all) : Writing.Straight (x >>= f) all b :=
  Task.Straight.andThen h hf hall

theorem retry {w : WriterSettings} {purpose : Purpose} {attempt : Nat → Task (StoreResult α)}
    {a : α} (h : (attempt 0).Straight calls (.ok a)) :
    Writing.Straight (TableMill.retry w purpose attempt) calls a := by
  have hfrom : ∀ left, (retryFrom w purpose attempt left 0).Straight calls (.ok a) := by
    intro left
    rw [retryFrom]
    exact h.andThen (.done _) (List.append_nil _)
  exact hfrom _

end Writing.Straight

namespace Writer

variable {w : Writer} {item : Item} {rowid : Int64} {index name key : String}

/-- The indexes into which keys are entered after the row. -/
def laterIndexes (w : Writer) : Assoc Index := w.indexes.filter fun e => w.distinct ≠ some e.1

def keyCall (item : Item) (rowid : Int64) (e : String × Index) : WriteCall :=
  .insertKey e.1 (keyIn e.1 item) rowid e.2.unique

/-- The calls that write a record whose key is not there: that for the key, if it comes first. -/
def claims (w : Writer) (item : Item) (rowid : Int64) : List WriteCall :=
  w.distinct.toList.map fun index => .insertKey index (keyIn index item) rowid true

/-- The others: those for the row and for the keys after it. -/
def body (w : Writer) (item : Item) (rowid : Int64) : List WriteCall :=
  .insertRow w.table rowid item.record :: w.laterIndexes.map (keyCall item rowid)

theorem insertRow_straight (w : Writer) (rowid : Int64) (record : Record) :
    Writing.Straight (w.insertRow rowid record) [.insertRow w.table rowid record] .inserted :=
  .retry (.call (.done _))

theorem insertKey_straight (w : Writer) (hkey : (Assoc.get? item.keys name).isSome)
    (unique : Bool) : Writing.Straight (w.insertKey item rowid name unique)
      [.insertKey name (keyIn name item) rowid unique] () := by
  obtain ⟨key, hget⟩ := Option.isSome_iff_exists.1 hkey
  have hin : keyIn name item = key := by rw [keyIn, hget, Option.getD_some]
  have hof : keyOf item name = Pure.pure key := by rw [keyOf, hget]
  rw [hin, insertKey, hof]
  refine .bind (.pure key) ?_ rfl
  cases unique with
  | true =>
    have hcall : Writing.Straight (w.insertUnique name key rowid)
        [.insertKey name key rowid true] .inserted := .retry (.call (.done _))
    exact .bind hcall (.pure ()) rfl
  | false =>
    have hcall : Writing.Straight (w.insertShared name key rowid)
        [.insertKey name key rowid false] .inserted := .retry (.call (.done _))
    exact .bind hcall (.pure ()) rfl

theorem insertKeys_straight (w : Writer) {indexes : Assoc Index}
    (hkeys : ∀ e ∈ indexes, (Assoc.get? item.keys e.1).isSome) :
    Writing.Straight (w.insertKeys item rowid indexes) (indexes.map (keyCall item rowid)) () := by
  induction indexes with
  | nil => exact .pure ()
  | cons e rest ih =>
    obtain ⟨hhead, hrest⟩ := List.forall_mem_cons.1 hkeys
    exact .bind (w.insertKey_straight hhead e.2.unique) (ih hrest) rfl

/-- The first call for a unique key settles whether it is there already. -/
theorem insertUnique_contested (w : Writer) (index key : String) (rowid : Int64) :
    (w.insertUnique index key rowid).run.Contested (.insertKey index key rowid true) []
      (.ok .inserted) fun m => .ok (.present m) := by
  have hrun : (w.insertUnique index key rowid).run = _ := retryFrom.eq_def ..
  refine ⟨_, hrun.trans rfl, .done _, fun m => ?_⟩
  have hfirst : ¬ (m = rowid ∧ 0 < 0) := by simp
  simp only [Task.andThen, if_neg hfirst]

/-- A record that is written row first makes the calls of its body. -/
theorem task_dataFirst (hdistinct : w.distinct = none) (hattempts : 0 < w.settings.rowidAttempts)
    (hkeys : ∀ e ∈ w.indexes, (Assoc.get? item.keys e.1).isSome) :
    ∃ next, w.task item = .draw next ∧
      ∀ rowid, (next rowid).Straight (w.body item rowid) .written := by
  obtain ⟨tries, htries⟩ := Nat.exists_eq_succ_of_ne_zero (Nat.ne_of_gt hattempts)
  have hwriting : w.writing item = w.writeDataFirst item (tries + 1) := by
    rw [writing, hdistinct]
    exact congrArg _ htries
  have hlater : w.laterIndexes = w.indexes := by
    rw [laterIndexes, hdistinct]
    exact List.filter_eq_self.2 fun _ _ => by simp
  rw [task, hwriting, writeDataFirst]
  refine ⟨_, rfl, fun rowid => ?_⟩
  rw [body, hlater]
  refine Task.Straight.andThen (Writing.Straight.bind (w.insertRow_straight rowid item.record) ?_ rfl)
    (.done Outcome.written) (List.append_nil _)
  exact .bind (w.insertKeys_straight hkeys) (.pure _) (List.append_nil _)

/-- A record whose key comes first makes one call for it, and is skipped if the key is there. -/
theorem task_distinct (hdistinct : w.distinct = some index)
    (hattempts : 0 < w.settings.rowidAttempts) (hkey : (Assoc.get? item.keys index).isSome)
    (hkeys : ∀ e ∈ w.indexes, (Assoc.get? item.keys e.1).isSome) :
    ∃ next, w.task item = .draw next ∧ ∀ rowid,
      (next rowid).Contested (.insertKey index (keyIn index item) rowid true) (w.body item rowid)
        .written fun _ => .skipped := by
  obtain ⟨tries, htries⟩ := Nat.exists_eq_succ_of_ne_zero (Nat.ne_of_gt hattempts)
  obtain ⟨key, hget⟩ := Option.isSome_iff_exists.1 hkey
  have hin : keyIn index item = key := by rw [keyIn, hget, Option.getD_some]
  have hof : keyOf item index = Pure.pure key := by rw [keyOf, hget]
  have hwriting : w.writing item = w.writeDistinct item index key (tries + 1) := by
    rw [writing, hdistinct]
    dsimp only
    rw [hof, htries]
    rfl
  have hlater : w.laterIndexes = w.indexes.filter fun e => e.1 ≠ index := by
    rw [laterIndexes, hdistinct]
    exact List.filter_congr fun e _ => by simp [eq_comm]
  rw [task, hwriting, writeDistinct, hin]
  refine ⟨_, rfl, fun rowid => ?_⟩
  rw [body, hlater]
  refine Task.Contested.andThen (α := Except WriteFault Outcome) (a := .ok .written)
    ((w.insertUnique_contested index key rowid).andThen ?_ (fun _ => rfl) rfl) (.done _)
    (fun _ => rfl) (List.append_nil _)
  refine Writing.Straight.bind (w.insertRow_straight rowid item.record) ?_ rfl
  exact .bind (w.insertKeys_straight fun e he => hkeys e (List.mem_filter.1 he).1) (.pure _)
    (List.append_nil _)

theorem mem_body {c : WriteCall} (h : c ∈ w.body item rowid) :
    c = .insertRow w.table rowid item.record ∨ ∃ e ∈ w.laterIndexes, c = keyCall item rowid e := by
  refine (List.mem_cons.1 h).imp_right fun h => ?_
  obtain ⟨e, he, rfl⟩ := List.mem_map.1 h
  exact ⟨e, he, rfl⟩

theorem insertKey_of_mem {r : Int64} {unique : Bool}
    (h : .insertKey index key r unique ∈ w.claims item rowid ++ w.body item rowid) :
    key = keyIn index item ∧ r = rowid := by
  rcases List.mem_append.1 h with h | h
  · obtain ⟨name, -, heq⟩ := List.mem_map.1 h
    cases heq
    exact ⟨rfl, rfl⟩
  · rcases mem_body h with heq | ⟨e, -, heq⟩ <;> cases heq
    exact ⟨rfl, rfl⟩

theorem rows_calls (w : Writer) (item : Item) (rowid : Int64) :
    (w.claims item rowid ++ w.body item rowid).filterMap WriteCall.row? =
      [⟨rowid, item.record⟩] := by
  have hclaims : (w.claims item rowid).filterMap WriteCall.row? = [] :=
    List.filterMap_eq_nil_iff.2 (List.forall_mem_map.2 fun _ _ => rfl)
  have hkeys : (w.laterIndexes.map (keyCall item rowid)).filterMap WriteCall.row? = [] :=
    List.filterMap_eq_nil_iff.2 (List.forall_mem_map.2 fun _ _ => rfl)
  rw [List.filterMap_append, hclaims]
  exact congrArg (List.cons _) hkeys

theorem indexes_calls (hkeyed : Assoc.Keyed w.indexes) (item : Item) (rowid : Int64) :
    ((w.claims item rowid ++ w.body item rowid).filterMap WriteCall.index?).Nodup := by
  have hnames : (w.claims item rowid ++ w.body item rowid).filterMap WriteCall.index? =
      w.distinct.toList ++ w.laterIndexes.map Prod.fst := by
    have hlater : (w.body item rowid).filterMap WriteCall.index? =
        (w.laterIndexes.map (keyCall item rowid)).filterMap WriteCall.index? := rfl
    rw [List.filterMap_append, hlater, claims, List.filterMap_map, List.filterMap_map]
    exact congrArg₂ _ List.filterMap_some (congrFun List.filterMap_eq_map _)
  rw [hnames, List.nodup_append]
  refine ⟨?_, hkeyed.sublist (List.filter_sublist.map _), fun index hindex name hname h => ?_⟩
  · cases w.distinct <;> simp
  · obtain ⟨e, he, rfl⟩ := List.mem_map.1 hname
    exact of_decide_eq_true (List.mem_filter.1 he).2 (h ▸ Option.mem_toList.1 hindex)

/-- A writer whose calls go through on a store, but for those for keys that come first. -/
structure Ready (w : Writer) (items : List Item) (start : Store) : Prop where
  attempts_pos : 0 < w.settings.rowidAttempts
  keyed : Assoc.Keyed w.indexes
  calm : start.Calm w.table w.indexes
  keys {item : Item} (hitem : item ∈ items) :
    ∀ e ∈ w.indexes, (Assoc.get? item.keys e.1).isSome
  index_mem {index : String} (h : w.distinct = some index) : ∃ ix, (index, ix) ∈ w.indexes
  nodup {e : String × Index} (he : e ∈ w.laterIndexes) (hunique : e.2.unique = true) :
    (items.map (keyIn e.1)).Nodup
  new {e : String × Index} (he : e ∈ w.laterIndexes) (hunique : e.2.unique = true) {item : Item}
    (hitem : item ∈ items) : start.idsUnder e.1 (keyIn e.1 item) = []

/-- At the start nothing keeps a record from being written. -/
def Wants (w : Writer) (start : Store) (item : Item) : Prop :=
  ∀ {index : String}, w.distinct = some index → start.idsUnder index (keyIn index item) = []

/-- A record waits for a row id first. -/
theorem Ready.task_eq_draw {items : List Item} {start : Store} (hw : w.Ready items start)
    (hitem : item ∈ items) : ∃ next, w.task item = .draw next := by
  cases hdistinct : w.distinct with
  | none =>
    obtain ⟨next, htask, -⟩ := task_dataFirst hdistinct hw.attempts_pos (hw.keys hitem)
    exact ⟨next, htask⟩
  | some index =>
    obtain ⟨ix, hix⟩ := hw.index_mem hdistinct
    obtain ⟨next, htask, -⟩ := task_distinct hdistinct hw.attempts_pos (hw.keys hitem _ hix)
      (hw.keys hitem)
    exact ⟨next, htask⟩

end Writer

end TableMill
