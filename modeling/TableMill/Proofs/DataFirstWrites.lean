import TableMill.Batch.Error
import TableMill.Proofs.DataFirstLogs
import TableMill.Proofs.DistinctWrites
import TableMill.Proofs.PoolEnds

/-!
# Writing rows first

Many workers write records row first, under any row ids, with any collisions and faults. At every
time each record has added at most one row and keys for that row only, nothing of the start is
lost, and in the end the report tells which records have their row and all of their keys.
-/

namespace TableMill

/-! ## Reports -/

/-- The totals are clean exactly if no outcome is a failure. -/
theorem isClean_foldl (most : Nat) (outcomes : List Outcome) (t : Totals) :
    (outcomes.foldl (Totals.add most) t).isClean = true ↔
      t.isClean = true ∧ ∀ o ∈ outcomes, ∀ fault, o ≠ .failed fault := by
  induction outcomes generalizing t with
  | nil => simp
  | cons o outcomes ih =>
    rw [List.foldl_cons, ih, List.forall_mem_cons, ← and_assoc]
    refine and_congr_left fun _ => ?_
    cases o with
    | written => simp [Totals.add, Totals.isClean]
    | skipped => simp [Totals.add, Totals.isClean]
    | failed fault =>
      have hbad : (t.add most (.failed fault)).isClean = false := by
        by_cases hroom : t.faults.length < most
        · simp [Totals.add, hroom, Totals.isClean]
        · simp [Totals.add, hroom, Totals.isClean]
      simp [hbad]

theorem Pool.result_isOk (p : Pool) (most : Nat) :
    (∃ totals, (p.totals most).result = .ok totals) ↔
      ∀ e ∈ p.settled, ∀ fault, e.2 ≠ .failed fault := by
  have hclean := isClean_foldl most (p.settled.map Prod.snd) .empty
  have hempty : Totals.empty.isClean = true := rfl
  rw [hempty, List.forall_mem_map] at hclean
  have hresult : (∃ totals, (p.totals most).result = .ok totals) ↔
      (p.totals most).isClean = true := by
    rw [Totals.result]
    by_cases h : (p.totals most).isClean = true
    · simp [h]
    · simp [h]
  exact hresult.trans (hclean.trans ⟨fun h => h.2, fun h => ⟨rfl, h⟩⟩)

/-! ## Later pools -/

theorem Pool.run_replay {w : Writer} {workers : Nat} {p q : Pool} {moves : List Move}
    (hrun : p.run w workers moves = some q) : ∃ trace, p.store.Replay trace q.store := by
  refine Pool.run_induction (P := fun q => ∃ trace, p.store.Replay trace q.store) hrun ?_
    ⟨[], .start⟩
  rintro a b hstep - - ⟨trace, htrace⟩
  cases hstep with
  | call => exact ⟨_, .call _ htrace⟩
  | _ => exact ⟨trace, htrace⟩

theorem Store.Gained.perm {table : String} {s t : Store} {added added' : List Row}
    (h : Store.Gained table s t added) (hperm : added.Perm added') :
    Store.Gained table s t added' where
  rows := h.rows.trans (hperm.append_left _)
  free row hrow := h.free row (hperm.mem_iff.2 hrow)
  distinct := (hperm.map _).nodup_iff.1 h.distinct
  collided := h.collided
  apart row hrow := h.apart row (hperm.mem_iff.2 hrow)

/-! ## Records and their rows -/

def Story.rows {β : Type} (table : String) (stories : List (Story β)) : List Row :=
  rowsAdded table (Story.calls stories)

def Story.entries {β : Type} (stories : List (Story β)) : List (String × Entry) :=
  entriesAdded (Story.calls stories)

/-- A record has added at most one row, and keys for this row only. -/
structure OneRow {β : Type} (table : String) (r : Story β) : Prop where
  length : (rowsAdded table r.log).length ≤ 1
  entries : ∀ e ∈ entriesAdded r.log, ∃ row ∈ rowsAdded table r.log, row.rowid = e.2.rowid

/-- What a pool that writes rows first has done, and what it will do. -/
structure DataFirst (w : Writer) (workers : Nat) (items : List Item) (start : Store)
    (running : List (Story (Task Outcome))) (ended : List (Story Outcome)) (p : Pool) : Prop where
  /-- Every record waits, is being written, or has one outcome, which is not that it is skipped. -/
  whole : (p.queue ++ (p.busy.map Prod.fst ++ p.settled.map Prod.fst)).Perm items
  outcome : ∀ e ∈ p.settled, e.2 = .written ∨ ∃ fault, e.2 = .failed fault
  /-- The run can be gone on with until all records are settled, and does not go on for ever. -/
  ends : ∃ moves q, p.run w workers moves = some q ∧ q.Idle
  finite : ∀ pools : Nat → Pool, pools 0 = p →
    ¬ ∀ n, ∃ m, (pools n).move w workers m = some (pools (n + 1))
  /-- A written record has added its row and nothing else, and every index has its key with the
  row id. -/
  written : ∀ r ∈ ended, r.now = .written →
    ∃ rowid, rowsAdded w.table r.log = [⟨rowid, r.item.record⟩] ∧
      ∀ e ∈ w.indexes, ∃ key, Assoc.get? r.item.keys e.1 = some key ∧
        rowid ∈ p.store.idsUnder e.1 key
  /-- Any record, failed or not, has added at most one row, and keys for this row only. -/
  oneRow : (∀ r ∈ running, OneRow w.table r) ∧ ∀ r ∈ ended, OneRow w.table r
  /-- The rows are those of the start and those that records have added, under row ids that were
  neither stored nor collided. -/
  gained : Store.Gained w.table start p.store
    (Story.rows w.table running ++ Story.rows w.table ended)
  others : ∀ name, name ≠ w.table → (p.store.rowsIn name).Perm (start.rowsIn name)
  /-- From now on tables only gain rows, too. -/
  later : ∀ moves q, p.run w workers moves = some q → ∀ name, ∃ added,
    Store.Gained name p.store q.store added
  /-- The entries are those of the start and those that records have added. -/
  entries : ∀ index key rowid, rowid ∈ p.store.idsUnder index key ↔
    rowid ∈ start.idsUnder index key ∨
      (index, ⟨key, rowid⟩) ∈ Story.entries running ++ Story.entries ended
  /-- A unique index that starts with at most one row id under a key does not get two. -/
  single : ∀ index, (∀ e ∈ w.indexes, e.1 = index → e.2.unique = true) →
    (∀ key, (start.idsUnder index key).length ≤ 1) →
    ∀ key, (p.store.idsUnder index key).length ≤ 1
  /-- The report is a good one exactly if no record failed, and then counts the rows gained. -/
  good : ∀ most, (∃ totals, (p.totals most).result = .ok totals) ↔
    ∀ e ∈ p.settled, ∀ fault, e.2 ≠ .failed fault
  growth : p.Idle → ∀ most totals, (p.totals most).result = .ok totals →
    (p.store.rowsIn w.table).length = (start.rowsIn w.table).length + totals.written

section

variable {w : Writer} {items : List Item} {start : Store} {trace : List Event}
  {running : List (Story (Task Outcome))} {ended : List (Story Outcome)} {p : Pool}

theorem Story.length_rows {β : Type} {table : String} {stories : List (Story β)}
    (h : ∀ r ∈ stories, (rowsAdded table r.log).length = 1) :
    (Story.rows table stories).length = stories.length := by
  induction stories with
  | nil => rfl
  | cons r rest ih =>
    obtain ⟨hfirst, hrest⟩ := List.forall_mem_cons.1 h
    have hrows : Story.rows table (r :: rest) = rowsAdded table r.log ++ Story.rows table rest :=
      rowsAdded_append _
    rw [hrows, List.length_append, hfirst, ih hrest, List.length_cons, Nat.add_comm]

namespace Recorded

theorem mem_trace_of_ended (h : Recorded w items start trace running ended p) {r : Story Outcome}
    (hr : r ∈ ended) {e : Event} (he : e ∈ r.log) : e ∈ trace :=
  h.logged.mem_iff.2 (List.mem_append_right _ (List.mem_flatMap.2 ⟨r, hr, he⟩))

theorem lawful_running (hdata : w.distinct = none)
    (h : Recorded w items start trace running ended p) {r : Story (Task Outcome)}
    (hr : r ∈ running) : Lawful (w.Allows r.item) r.log :=
  ((Writer.task_logs hdata r.item).path (h.atWork r hr)
    ((h.forall_log h.replay.possible).1 r hr)).1

/-- The log of a settled record is lawful, and tells what came of it. -/
theorem lawful_ended (hdata : w.distinct = none)
    (h : Recorded w items start trace running ended p) {r : Story Outcome} (hr : r ∈ ended) :
    Lawful (w.Allows r.item) r.log ∧ w.Tells r.item r.log r.now := by
  obtain ⟨hlawful, hlogs⟩ := (Writer.task_logs hdata r.item).path (h.told r hr)
    ((h.forall_log h.replay.possible).2 r hr)
  refine ⟨hlawful, ?_⟩
  cases hlogs with
  | done htells => exact htells

theorem makes (hdata : w.distinct = none) (h : Recorded w items start trace running ended p) :
    ∀ e ∈ trace, w.Makes e.call := by
  intro e he
  rcases List.mem_append.1 (h.logged.mem_iff.1 he) with hcalls | hcalls
  · obtain ⟨r, hr, her⟩ := List.mem_flatMap.1 hcalls
    exact Writer.makes_of_lawful (h.lawful_running hdata hr) e her
  · obtain ⟨r, hr, her⟩ := List.mem_flatMap.1 hcalls
    exact Writer.makes_of_lawful (h.lawful_ended hdata hr).1 e her

theorem keeps (hdata : w.distinct = none) (h : Recorded w items start trace running ended p) :
    ∀ e ∈ trace, ∀ index key, e.call ≠ .deleteKey index key := by
  intro e he index key hcall
  have hmakes := h.makes hdata e he
  rw [hcall] at hmakes
  exact hmakes

theorem written_row (hdata : w.distinct = none)
    (h : Recorded w items start trace running ended p) {r : Story Outcome} (hr : r ∈ ended)
    (hnow : r.now = .written) :
    ∃ rowid, rowsAdded w.table r.log = [⟨rowid, r.item.record⟩] ∧
      ∀ e ∈ w.indexes, ∃ key, Assoc.get? r.item.keys e.1 = some key ∧
        rowid ∈ p.store.idsUnder e.1 key := by
  have htells := (h.lawful_ended hdata hr).2
  rw [hnow] at htells
  obtain ⟨rowid, hrow, hkeys⟩ := htells
  refine ⟨rowid, hrow, fun e he => ?_⟩
  obtain ⟨key, hkey, unique, answer, hanswer, hmem⟩ := hkeys e he
  have hentered : Entered trace e.1 key rowid :=
    ⟨unique, answer, hanswer, h.mem_trace_of_ended hr hmem⟩
  exact ⟨key, hkey, h.replay.of_entered (h.keeps hdata) hentered⟩

end Recorded

theorem Writer.oneRow_of_lawful {β : Type} {r : Story β} (h : Lawful (w.Allows r.item) r.log) :
    OneRow w.table r := by
  rcases Writer.added_of_lawful h with ⟨hrows, hentries⟩ | ⟨rowid, hrows, hentries⟩
  · exact ⟨by simp [hrows], by simp [hentries]⟩
  · refine ⟨by simp [hrows], fun e he => ⟨⟨rowid, r.item.record⟩, by simp [hrows], ?_⟩⟩
    exact (hentries e he).1.symm

namespace Recorded

/-- The trace has added what the records have. -/
theorem rows_perm (h : Recorded w items start trace running ended p) (table : String) :
    (rowsAdded table trace).Perm (Story.rows table running ++ Story.rows table ended) := by
  have hperm := h.logged.filterMap (Event.row? table)
  rwa [List.filterMap_append] at hperm

theorem entries_perm (h : Recorded w items start trace running ended p) :
    (entriesAdded trace).Perm (Story.entries running ++ Story.entries ended) := by
  have hperm := h.logged.filterMap Event.entry?
  rwa [List.filterMap_append] at hperm

theorem rows_others (hdata : w.distinct = none)
    (h : Recorded w items start trace running ended p) {name : String} (hname : name ≠ w.table) :
    (p.store.rowsIn name).Perm (start.rowsIn name) := by
  have hnone : rowsAdded name trace = [] := by
    refine List.filterMap_eq_nil_iff.2 fun e he => ?_
    have hmakes := h.makes hdata e he
    obtain ⟨c, answer⟩ := e
    cases c with
    | insertRow table rowid record =>
      obtain rfl : table = w.table := hmakes
      rcases answer with e | _ | _ | _ <;> simp [Event.row?, hname.symm]
    | insertKey index key rowid unique => rfl
    | deleteKey index key => rfl
  have hrows := (h.replay.gained name).rows
  rwa [hnone, List.append_nil] at hrows

theorem single (hdata : w.distinct = none) (h : Recorded w items start trace running ended p)
    {index : String} (hunique : ∀ e ∈ w.indexes, e.1 = index → e.2.unique = true)
    (hsingle : ∀ key, (start.idsUnder index key).length ≤ 1) (key : String) :
    (p.store.idsUnder index key).length ≤ 1 := by
  refine h.replay.single (fun e he key rowid unique hcall => ?_) hsingle key
  have hmakes := h.makes hdata e he
  rw [hcall] at hmakes
  obtain ⟨ix, hix, rfl⟩ := hmakes
  exact hunique _ hix rfl

/-- If no record failed, the table has gained as many rows as were written. -/
theorem growth (hdata : w.distinct = none) (h : Recorded w items start trace running ended p)
    (hidle : p.Idle) (hclean : ∀ e ∈ p.settled, ∀ fault, e.2 ≠ .failed fault) (most : Nat) :
    (p.store.rowsIn w.table).length =
      (start.rowsIn w.table).length + (p.totals most).written := by
  have hrunning : running = [] := List.map_eq_nil_iff.1 (h.busy.symm.trans hidle.2)
  have hwritten : ∀ r ∈ ended, r.now = .written := by
    intro r hr
    have hmem : (r.item, r.now) ∈ p.settled := h.settled ▸ List.mem_map_of_mem hr
    have htells := (h.lawful_ended hdata hr).2
    cases hnow : r.now with
    | written => rfl
    | skipped => exact (hnow ▸ htells : w.Tells r.item r.log .skipped).elim
    | failed fault => exact absurd hnow (hclean _ hmem fault)
  have hrows : (Story.rows w.table ended).length = ended.length := by
    refine Story.length_rows fun r hr => ?_
    obtain ⟨rowid, hrow, -⟩ := h.written_row hdata hr (hwritten r hr)
    rw [hrow, List.length_singleton]
  have houtcomes : p.settled.map Prod.snd = ended.map Story.now := by
    rw [h.settled, List.map_map]
    rfl
  have hall : (p.settled.map Prod.snd).filter (fun o => o = .written) = ended.map Story.now := by
    rw [houtcomes, List.filter_eq_self]
    simpa using hwritten
  have hends : ∀ o ∈ p.settled.map Prod.snd, o = .written ∨ o = .skipped := by
    rw [houtcomes]
    exact List.forall_mem_map.2 fun r hr => .inl (hwritten r hr)
  have htotals : (p.totals most).written = ended.length := by
    rw [Pool.totals, totals_of_clean most hends, hall]
    simp [Totals.empty]
  have hgained := ((h.replay.gained w.table).perm (h.rows_perm w.table)).rows.length_eq
  rw [hrunning, List.length_append] at hgained
  rw [hgained, htotals, ← hrows]
  rfl

end Recorded

/-- Whatever the turns of the workers, the row ids drawn, the collisions and the faults: a pool that
writes rows first has a history in which each record has added at most one row and keys for it. -/
theorem Pool.dataFirst {workers : Nat} (hworkers : 0 < workers) (hdata : w.distinct = none)
    {moves : List Move} (hrun : (Pool.start items start).run w workers moves = some p) :
    ∃ trace running ended, Recorded w items start trace running ended p ∧
      DataFirst w workers items start running ended p := by
  obtain ⟨trace, running, ended, h⟩ := Recorded.run hrun
  refine ⟨trace, running, ended, h, ?_⟩
  constructor
  case whole =>
    have hwhole := h.whole
    rw [h.busy, h.settled, List.map_map, List.map_map]
    exact hwhole
  case outcome =>
    intro e he
    rw [h.settled] at he
    obtain ⟨r, hr, rfl⟩ := List.mem_map.1 he
    have htells := (h.lawful_ended hdata hr).2
    cases hnow : r.now with
    | written => exact .inl rfl
    | skipped => exact (hnow ▸ htells : w.Tells r.item r.log .skipped).elim
    | failed fault => exact .inr ⟨fault, rfl⟩
  case ends => exact Pool.exists_idle w hworkers p
  case finite =>
    intro pools _ hmoves
    exact Pool.not_endless w pools fun n => (hmoves n).elim fun m hm => Pool.step_of_move hm
  case written => exact fun r hr hnow => h.written_row hdata hr hnow
  case oneRow =>
    exact ⟨fun r hr => Writer.oneRow_of_lawful (h.lawful_running hdata hr),
      fun r hr => Writer.oneRow_of_lawful (h.lawful_ended hdata hr).1⟩
  case gained => exact (h.replay.gained w.table).perm (h.rows_perm w.table)
  case others => exact fun name hname => h.rows_others hdata hname
  case later =>
    intro moves q hlater name
    obtain ⟨trace, htrace⟩ := Pool.run_replay hlater
    exact ⟨_, htrace.gained name⟩
  case entries =>
    intro index key rowid
    rw [h.replay.mem_idsUnder (h.keeps hdata), h.entries_perm.mem_iff]
  case single => exact fun index hunique hsingle => h.single hdata hunique hsingle
  case good => exact fun most => p.result_isOk most
  case growth =>
    intro hidle most totals hresult
    have hclean := (p.result_isOk most).1 ⟨totals, hresult⟩
    have htotals : p.totals most = totals := by
      rw [Totals.result] at hresult
      split at hresult
      · exact Except.ok.inj hresult
      · cases hresult
    rw [← htotals]
    exact h.growth hdata hidle hclean most

end

namespace DuplicateSample

/-! Two workers and three records, two of them with one key of a unique index. The first row id
drawn collides and is drawn again, and so is the row id of the first record. -/

def writer : Writer :=
  ⟨"skus", [("idx_sku", ⟨true, [.plain "sku" .text]⟩)], none, .default⟩

def item (sku : String) : Item := ⟨[("sku", .text sku)], [("idx_sku", sku)]⟩

def records : List Item := [item "x", item "x", item "z"]

def store : Store :=
  ((Store.empty.createTable "skus").createIndex "idx_sku").collide 1

def moves : List Move :=
  [.take, .take, .go 0 1, .go 1 1, .go 0 0, .go 1 0, .go 0 2, .go 1 2, .go 0 0, .go 1 0, .go 0 0,
    .go 1 3, .go 1 0, .go 0 0, .go 0 0, .go 0 0, .take, .go 0 4, .go 0 0, .go 0 0, .go 0 0]

def final : Pool :=
  ((Pool.start records store).run writer 2 moves).getD (Pool.start records store)

theorem run_final : (Pool.start records store).run writer 2 moves = some final := by
  have hsome : ((Pool.start records store).run writer 2 moves).isSome := by decide +kernel
  obtain ⟨p, hp⟩ := Option.isSome_iff_exists.1 hsome
  rw [final, hp, Option.getD_some]

theorem final_settled : final.settled =
    [(item "x", .written), (item "x", .failed (.duplicateKey "x" "idx_sku" 2 3)),
      (item "z", .written)] := by
  decide +kernel

theorem dataFirst_two_workers : final.settled.length = 3 ∧
    ∃ trace running ended, Recorded writer records store trace running ended final ∧
      DataFirst writer 2 records store running ended final := by
  refine ⟨?_, Pool.dataFirst (by decide) rfl run_final⟩
  rw [final_settled]
  rfl

end DuplicateSample
end TableMill
