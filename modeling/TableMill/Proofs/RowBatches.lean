import TableMill.Proofs.JoinRefinement
import TableMill.Proofs.RowByRow

/-!
# Batches that go row by row

A batch of a node without a lookup hands over what the rows in its range make, page by page,
and then writes it. Batches are run one after the other on one store, every one at its own time.
-/

namespace TableMill

open ReadM

namespace WriterSettings

variable {w : WriterSettings}

theorem check_eq_ok (h : w.check = .ok ()) : 0 < w.workers ∧ 0 < w.rowidAttempts := by
  unfold check at h
  split at h
  · cases h
  · split at h
    · cases h
    · split at h
      · cases h
      · omega

theorem effectiveWorkers_pos (h : 0 < w.workers) (environment : Option String) :
    0 < w.effectiveWorkers environment := by
  unfold effectiveWorkers
  split
  · exact h
  · split
    · split
      · assumption
      · exact h
    · exact h

end WriterSettings

theorem Writer.start_eq_ok {t : Table} {settings : WriterSettings} {distinct : Bool} {w : Writer}
    (h : Writer.start t settings distinct = .ok w) :
    0 < w.settings.workers ∧ 0 < w.settings.rowidAttempts ∧ w.indexes = t.indexes ∧
      (distinct = true → ∃ unique, t.uniqueIndex = .ok unique) := by
  obtain ⟨_, hcheck, h⟩ := bind_eq_ok.1 h
  obtain ⟨hworkers, hattempts⟩ := WriterSettings.check_eq_ok (ofSettings_eq_ok.1 hcheck)
  cases distinct with
  | false =>
    obtain rfl := Except.ok.inj h
    exact ⟨hworkers, hattempts, rfl, nofun⟩
  | true =>
    obtain ⟨unique, hunique, h⟩ := bind_eq_ok.1 h
    obtain rfl := Except.ok.inj h
    exact ⟨hworkers, hattempts, rfl, fun _ => ⟨unique, ofTable_eq_ok.1 hunique⟩⟩

theorem Writer.start_of_unique {settings : BatchSettings} (h : settings.check = .ok ())
    {output : Table} {unique : String × Index} (hunique : output.uniqueIndex = .ok unique) :
    Writer.start output settings.writer true =
      .ok ⟨output.name, output.indexes, some unique.1, settings.writer⟩ :=
  bind_eq_ok.2 ⟨(), ofSettings_eq_ok.2 (BatchSettings.check_eq_ok h).1,
    bind_eq_ok.2 ⟨unique, ofTable_eq_ok.2 hunique, rfl⟩⟩

namespace Batch

variable {σ : Type}

/-- Runs a node over one range of tokens after the other, each at its time. -/
def runAll (b : Backend σ) (settings : BatchSettings) (n : Node) (kind : NodeKind) :
    List (DateTime × TokenRange) → Task.Supply → σ →
      List (BatchResult BatchStats) × Task.Supply × σ
  | [], ids, s => ([], ids, s)
  | (time, range) :: rest, ids, s =>
    let (result, ids, s) := run b time settings n kind range ids s
    let (results, ids, s) := runAll b settings n kind rest ids s
    (result :: results, ids, s)

/-- What a batch reports whose reading side read some rows. -/
def report (n : Node) (count : Nat) (totals : Totals) : BatchResult BatchStats := do
  let totals ← totals.result
  .ok ⟨count, totals.written, n.reader.table, n.output.name⟩

/-- A node without a lookup, set up to read pages with some columns and to write. -/
structure RowByRow (n : Node) (w : Writer) (settings : BatchSettings) (kind : NodeKind)
    (columns : Columns) : Prop where
  prepare {σ : Type} (b : Backend σ) (now : DateTime) (range : TokenRange) :
    Batch.prepare b now settings n kind range =
      .ok ⟨n, w, n.scan b columns range (n.rowPage now w)⟩
  writes : w.indexes = n.output.indexes
  attempts_pos : 0 < w.settings.rowidAttempts
  sees (r : Row) {f : Field} (hf : f ∈ n.output.fields) : Bindings.AgreeOn f.expr.selectors
    (columns.bindBy r.pagedIn) (n.readRow r)
  fill {rows : List Row} (hrows : n.readerColumns.Hold rows) {room : Nat}
    (hroom : rows.length ≤ room) :
    ((RowPage.ofColumns columns).init room).fill rows = .ok (.ofRows columns room rows)

variable {n : Node} {w : Writer} {settings : BatchSettings} {kind : NodeKind} {columns : Columns}
  {now time : DateTime} {t : StoredTable} {s : Store}

theorem RowByRow.keys_isSome (h : RowByRow n w settings kind columns) {rows : List Row}
    {item : Item} (hitem : item ∈ rows.flatMap (n.made now)) :
    ∀ e ∈ w.indexes, (Assoc.get? item.keys e.1).isSome := by
  obtain ⟨r, -, hmade⟩ := List.mem_flatMap.1 hitem
  exact h.writes ▸ Node.keys_of_made hmade

/-- A batch reads all rows in its range and hands over, of every page, the first items of their
keys. -/
theorem RowByRow.reads (h : RowByRow n w settings kind columns)
    (ht : s.tables.get? n.reader.table = some t) (hrows : n.Readable now t.rows)
    (hsteady : n.Steady n.readRow t.rows now time) (range : TokenRange) :
    ∃ pages, pages.flatten = range.rowsOf t.rows ∧
      (n.scan Store.backend columns range (n.rowPage time w)).run.run ⟨s, []⟩ =
        ((.ok (range.rowsOf t.rows).length, ⟨s, n.firstsOf now w pages⟩) :
          BatchResult Nat × Reading Store) := by
  have hstored : range.rowsOf t.rows ⊆ t.rows := fun r hr => (TokenRange.mem_rowsOf.1 hr).1
  obtain ⟨handed, hyields, pages, hpages, rfl⟩ :
      ∃ handed, Yields (· = s) (n.scan Store.backend columns range (n.rowPage time w))
        (.ok (range.rowsOf t.rows).length) handed ∧
      ∃ pages : List (List Row), pages.flatten = range.rowsOf t.rows ∧
        handed = n.firstsOf now w pages := by
    refine Node.scan_yields (s.answers n.reader.table "" "") ht hrows.rising hrows.page_pos
      (.ofRows columns n.reader.pageSize) ?_
      (fun rows items => ∃ pages : List (List Row), pages.flatten = rows ∧
        items = n.firstsOf now w pages) ⟨[], rfl, rfl⟩ ?_ ?_
    · intro rows hlength hsub
      have hhold : n.readerColumns.Hold rows := fun r hr => hrows.kinds r (hstored (hsub hr))
      exact ⟨h.fill hhold hlength, RowPage.rowCount_ofRows⟩
    · rintro rows rows' items items' ⟨pages, rfl, rfl⟩ ⟨pages', rfl, rfl⟩
      refine ⟨pages ++ pages', List.flatten_append, ?_⟩
      rw [Node.firstsOf, Node.firstsOf, Node.firstsOf, List.flatMap_append]
    · intro rows hlength hsub
      have hmakes : ∀ r ∈ rows, ∃ item, n.itemFor time (n.readRow r) = .ok item := fun r hr =>
        hsteady r (hstored (hsub hr)) ▸ hrows.makes (hstored (hsub hr))
      refine ⟨_, Node.rowPage_yields h.writes (fun r f hf => h.sees r hf) hmakes, [rows], by simp, ?_⟩
      rw [Node.firstsOf, List.flatMap_singleton,
        Node.flatMap_made_of_steady hsteady fun r hr => hstored (hsub hr)]
  obtain ⟨_, rfl, hrun⟩ := hyields ⟨s, []⟩ rfl
  exact ⟨pages, hpages, hrun⟩

end Batch

namespace Node

variable {n : Node} {defined : DateTime} {name : String} {reader : Reader} {source output : Table}
  {settings : BatchSettings}

theorem rowByRow_of_accepted {w : Writer} {kind : NodeKind} {distinct : Bool}
    (hn : n.Accepted defined)
    (hprepare : ∀ {σ : Type} (b : Backend σ) now range, Batch.prepare b now settings n kind range =
      Batch.rowByRow b now settings n range distinct)
    (hlookup : n.lookup = none) (hreader : n.readerColumns = source.columnsAs readerAlias)
    (hsettings : settings.check = .ok ())
    (hw : Writer.start n.output settings.writer distinct = .ok w) :
    ∃ columns, Batch.RowByRow n w settings kind columns := by
  obtain ⟨columns, hcolumns, hreads, hused⟩ := reads_rowColumns hn hlookup hreader
  obtain ⟨-, hattempts, hindexes, hunique⟩ := Writer.start_eq_ok hw
  refine ⟨_, ?_, hindexes, hattempts, fun r _ hf => sees_rowColumns hreads hused r hf, ?_⟩
  · intro σ b now range
    rw [hprepare]
    have hcolumns := ofTable_eq_ok.2 hcolumns
    refine bind_eq_ok.2 ⟨(), ofSettings_eq_ok.2 hsettings, ?_⟩
    cases distinct with
    | false => exact bind_eq_ok.2 ⟨_, hcolumns, bind_eq_ok.2 ⟨w, hw, rfl⟩⟩
    | true =>
      obtain ⟨unique, hunique⟩ := hunique rfl
      exact bind_eq_ok.2 ⟨unique, ofTable_eq_ok.2 hunique,
        bind_eq_ok.2 ⟨_, hcolumns, bind_eq_ok.2 ⟨w, hw, rfl⟩⟩⟩
  · intro rows hrows room hroom
    have hempty : ([] : List Row).length + rows.length ≤ room := by simpa using hroom
    exact RowPage.fill_ofRows (fun r hr c hc => hreads.kind_paged hrows hr hc) hempty

end Node
end TableMill
