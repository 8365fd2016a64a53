import TableMill.Proofs.CalmPools
import TableMill.Proofs.RowBatches

/-!
# Batches with many workers

What a batch hands over is written by a pool of workers, in turns of any kind. Writing the records
one after the other, as a single worker does, is one of its runs.
-/

namespace TableMill

namespace Pool

variable {w : Writer} {workers : Nat}

/-- A worker that is alone goes on with its record to the end. -/
theorem exists_run_task (w : Writer) (workers : Nat) (task : Task Outcome) (item : Item)
    (queue : List Item) (settled : List (Item × Outcome)) (drawn : List Int64) (ids : Task.Supply)
    (s : Store) :
    ∃ moves count, (task.run Store.backend ids s).2.1 = ids.after count ∧
      Pool.run w workers ⟨queue, [(item, task)], settled, drawn, s⟩ moves =
        some ⟨queue, [], settled ++ [(item, (task.run Store.backend ids s).1)],
          drawn ++ ids.next count, (task.run Store.backend ids s).2.2⟩ := by
  induction task generalizing drawn ids s with
  | done outcome =>
    refine ⟨[.go 0 0], 0, rfl, ?_⟩
    simp [run, move, go, Task.Supply.next]
  | draw next ih =>
    obtain ⟨moves, count, hids, hrun⟩ := ih _ (drawn ++ [ids.ids ids.drawn]) (ids.after 1) s
    refine ⟨.go 0 (ids.ids ids.drawn) :: moves, 1 + count, hids.trans (ids.after_add ..).symm, ?_⟩
    rw [ids.next_add, ids.next_one, ← List.append_assoc]
    exact hrun
  | pause millis next ih =>
    obtain ⟨moves, count, hids, hrun⟩ := ih drawn ids s
    exact ⟨.go 0 0 :: moves, count, hids, hrun⟩
  | call c next ih =>
    obtain ⟨moves, count, hids, hrun⟩ := ih (s.write c).1 drawn ids (s.write c).2
    exact ⟨.go 0 0 :: moves, count, hids, hrun⟩

theorem run_append {p q : Pool} {moves : List Move} (h : p.run w workers moves = some q)
    (more : List Move) : p.run w workers (moves ++ more) = q.run w workers more := by
  induction moves generalizing p with
  | nil =>
    cases h
    rfl
  | cons m moves ih =>
    obtain ⟨p', hmove, hrun⟩ := Option.bind_eq_some_iff.1 h
    rw [List.cons_append, run, hmove]
    exact ih hrun

/-- Writing records one after the other is a run of the pool. -/
theorem exists_run_writeAll (hworkers : 0 < workers) (items : List Item)
    (settled : List (Item × Outcome)) (drawn : List Int64) (ids : Task.Supply) (s : Store)
    (t : Totals) :
    ∃ moves count new,
      w.writeAll Store.backend items t ids s =
        ((new.map Prod.snd).foldl (Totals.add w.settings.reportedErrors) t, ids.after count,
          (w.writeAll Store.backend items t ids s).2.2) ∧
      Pool.run w workers ⟨items, [], settled, drawn, s⟩ moves =
        some ⟨[], [], settled ++ new, drawn ++ ids.next count,
          (w.writeAll Store.backend items t ids s).2.2⟩ := by
  induction items generalizing settled drawn ids s t with
  | nil => exact ⟨[], 0, [], rfl, by simp [run, Task.Supply.next, Writer.writeAll]⟩
  | cons item rest ih =>
    obtain ⟨moves, count, hids, hrun⟩ :=
      exists_run_task w workers (w.task item) item rest settled drawn ids s
    generalize hresult : (w.task item).run Store.backend ids s = result at hids hrun
    obtain ⟨outcome, ids', s'⟩ := result
    obtain rfl : ids' = ids.after count := hids
    obtain ⟨moves', count', new, hwrite, hrest⟩ := ih (settled ++ [(item, outcome)])
      (drawn ++ ids.next count) (ids.after count) s' (t.add w.settings.reportedErrors outcome)
    have hfirst : w.writeAll Store.backend (item :: rest) t ids s =
        w.writeAll Store.backend rest (t.add w.settings.reportedErrors outcome) (ids.after count)
          s' := by rw [Writer.writeAll, hresult]
    have htake : Pool.move w workers ⟨item :: rest, [], settled, drawn, s⟩ .take =
        some ⟨rest, [(item, w.task item)], settled, drawn, s⟩ := if_pos hworkers
    have hhead : Pool.run w workers ⟨item :: rest, [], settled, drawn, s⟩ (.take :: moves) =
        some ⟨rest, [], settled ++ [(item, outcome)], drawn ++ ids.next count, s'⟩ := by
      rw [run, htake]
      exact hrun
    refine ⟨.take :: moves ++ moves', count + count', (item, outcome) :: new, ?_, ?_⟩
    · rw [hfirst, ids.after_add]
      exact hwrite
    · have hsettled : settled ++ (item, outcome) :: new = settled ++ [(item, outcome)] ++ new :=
        List.append_cons ..
      rw [run_append hhead, hfirst, ids.next_add, ← List.append_assoc, hsettled]
      exact hrest

end Pool

namespace Batch

/-- A node is run over a range of tokens: what it hands over is written in turns of any kind, under
row ids in the order in which they are drawn. -/
inductive Pooled (environment : Option String) (settings : BatchSettings) (n : Node)
    (kind : NodeKind) (time : DateTime) (range : TokenRange) : Task.Supply → Store →
      BatchResult BatchStats → Task.Supply → Store → Prop
  | refused {e ids s} (h : prepare Store.backend time settings n kind range = .error e) :
    Pooled environment settings n kind time range ids s (.error e) ids s
  | ran {batch outcome r moves p ids s}
    (h : prepare Store.backend time settings n kind range = .ok batch)
    (hread : batch.reading.run.run ⟨s, []⟩ = ((outcome, r) : BatchResult Nat × Reading Store))
    (hrun : (Pool.start r.handed r.storage).run batch.writer
      (batch.writer.settings.effectiveWorkers environment) moves = some p)
    (hidle : p.Idle) (hdrawn : p.drawn = ids.next p.drawn.length) :
    Pooled environment settings n kind time range ids s
      (outcome.bind fun count =>
        report batch.node count (p.totals batch.writer.settings.reportedErrors))
      (ids.after p.drawn.length) p.store

inductive PooledAll (environment : Option String) (settings : BatchSettings) (n : Node)
    (kind : NodeKind) : List (DateTime × TokenRange) → Task.Supply → Store →
      List (BatchResult BatchStats) → Task.Supply → Store → Prop
  | nil {ids s} : PooledAll environment settings n kind [] ids s [] ids s
  | cons {time range rest ids s result ids' s' results ids'' s''}
    (h : Pooled environment settings n kind time range ids s result ids' s')
    (hrest : PooledAll environment settings n kind rest ids' s' results ids'' s'') :
    PooledAll environment settings n kind ((time, range) :: rest) ids s (result :: results)
      ids'' s''

variable {environment : Option String} {settings : BatchSettings} {n : Node} {kind : NodeKind}
  {time now : DateTime} {range : TokenRange} {ids ids' : Task.Supply} {s s' : Store}
  {result : BatchResult BatchStats} {w : Writer} {columns : Columns} {t : StoredTable}

theorem start_of_prepare {σ : Type} {b : Backend σ} {batch : Batch σ}
    (h : prepare b time settings n kind range = .ok batch) :
    ∃ distinct, Writer.start n.output settings.writer distinct = .ok batch.writer := by
  obtain ⟨_, -, h⟩ := bind_eq_ok.1 h
  cases kind with
  | table =>
    obtain ⟨_, -, h⟩ := bind_eq_ok.1 h
    obtain ⟨_, -, h⟩ := bind_eq_ok.1 h
    obtain ⟨w, hw, h⟩ := bind_eq_ok.1 h
    obtain rfl := Except.ok.inj h
    exact ⟨false, hw⟩
  | distinct =>
    obtain ⟨_, -, h⟩ := bind_eq_ok.1 h
    obtain ⟨_, -, h⟩ := bind_eq_ok.1 h
    obtain ⟨_, -, h⟩ := bind_eq_ok.1 h
    obtain ⟨w, hw, h⟩ := bind_eq_ok.1 h
    obtain rfl := Except.ok.inj h
    exact ⟨true, hw⟩
  | lookup =>
    simp only [joined] at h
    split at h
    · cases h
    · obtain ⟨_, -, h⟩ := bind_eq_ok.1 h
      obtain ⟨_, -, h⟩ := bind_eq_ok.1 h
      obtain ⟨w, hw, h⟩ := bind_eq_ok.1 h
      obtain rfl := Except.ok.inj h
      exact ⟨false, hw⟩

/-- A batch whose records are written one after the other is one of the runs of its pool. -/
theorem pooled_run (environment : Option String) (ids : Task.Supply) (s : Store) :
    Pooled environment settings n kind time range ids s
      (run Store.backend time settings n kind range ids s).1
      (run Store.backend time settings n kind range ids s).2.1
      (run Store.backend time settings n kind range ids s).2.2 := by
  cases hprepare : prepare Store.backend time settings n kind range with
  | error e =>
    rw [run, hprepare]
    exact .refused hprepare
  | ok batch =>
    obtain ⟨distinct, hstart⟩ := start_of_prepare hprepare
    have hworkers := WriterSettings.effectiveWorkers_pos (Writer.start_eq_ok hstart).1 environment
    generalize hread : (batch.reading.run.run ⟨s, []⟩ : BatchResult Nat × Reading Store) = read
    obtain ⟨outcome, r⟩ := read
    obtain ⟨moves, count, new, hwrite, hrun⟩ := Pool.exists_run_writeAll (w := batch.writer)
      hworkers r.handed [] [] ids r.storage .empty
    have hexecute : run Store.backend time settings n kind range ids s =
        (outcome.bind fun count => report batch.node count
            ((new.map Prod.snd).foldl (Totals.add batch.writer.settings.reportedErrors) .empty),
          ids.after count,
          (batch.writer.writeAll Store.backend r.handed .empty ids r.storage).2.2) := by
      simp only [run, hprepare, execute, hread]
      rw [hwrite]
      rfl
    rw [List.nil_append, List.nil_append] at hrun
    have hpooled : Pooled environment settings n kind time range ids s _ _ _ :=
      .ran hprepare hread hrun ⟨rfl, rfl⟩ (by rw [ids.length_next])
    rw [ids.length_next] at hpooled
    rw [hexecute]
    exact hpooled

theorem pooledAll_runAll (environment : Option String) (batches : List (DateTime × TokenRange))
    (ids : Task.Supply) (s : Store) :
    PooledAll environment settings n kind batches ids s
      (runAll Store.backend settings n kind batches ids s).1
      (runAll Store.backend settings n kind batches ids s).2.1
      (runAll Store.backend settings n kind batches ids s).2.2 := by
  induction batches generalizing ids s with
  | nil => exact .nil
  | cons batch rest ih => exact .cons (pooled_run environment ids s) (ih _ _)

/-- On a calm store a batch that goes row by row writes what it hands over or skips it, and says
how much it has written. -/
theorem RowByRow.pooled_calm (h : RowByRow n w settings kind columns)
    (ht : s.tables.get? n.reader.table = some t) (hrows : n.Readable now t.rows)
    (hsteady : n.Steady n.readRow t.rows now time) (range : TokenRange) :
    ∃ pages, pages.flatten = range.rowsOf t.rows ∧
      ∀ {handed environment ids result ids' s'}, n.firstsOf now w pages = handed →
        w.Ready handed s →
        (∀ item ∈ handed, w.Wants s item → s.Fresh w.table ids handed.length) →
        Pooled environment settings n kind time range ids s result ids' s' →
        ∃ entries skipped, w.CalmEnd handed s (ids.next handed.length) s' entries skipped ∧
          result = .ok ⟨(range.rowsOf t.rows).length, entries.length, n.reader.table,
            n.output.name⟩ ∧
          ids' = ids.after handed.length := by
  obtain ⟨pages, hpages, hreads⟩ := h.reads ht hrows hsteady range
  refine ⟨pages, hpages, ?_⟩
  rintro _ environment ids result ids' s' rfl hready hfresh hpooled
  cases hpooled with
  | refused hrefused => cases hrefused.symm.trans (h.prepare _ time range)
  | @ran batch outcome r moves p _ _ hprepare hread hrun hidle hdrawn =>
    obtain rfl := Except.ok.inj ((h.prepare _ time range).symm.trans hprepare)
    obtain ⟨rfl, rfl⟩ := Prod.mk.inj (hreads.symm.trans hread)
    obtain ⟨entries, skipped, hend, hlength, htotals⟩ := Pool.calm_idle hready hrun hidle
      fun item hitem hwants => (hfresh item hitem hwants).unused_take hdrawn
    rw [hlength] at hdrawn ⊢
    refine ⟨entries, skipped, hdrawn ▸ hend, ?_, rfl⟩
    rw [htotals]
    rfl

end Batch
end TableMill
