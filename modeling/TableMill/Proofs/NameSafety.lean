import TableMill.Proofs.JoinNames

/-!
# Names in batches

Batches bind pages of left rows one by one, or join them with right rows. Both bind the columns that
the expressions of the node use. So no batch of an accepted node fails by a name, with the one
exception that joins have.
-/

namespace TableMill

/-! ## Row by row -/

namespace Node

variable {n : Node} {columns : Columns} {page : RowPage} {σ : Type}

/-- A node that goes row by row, and the columns of its pages: its rows bind what its fields use. -/
structure BindsRows (n : Node) (columns : Columns) : Prop where
  promises : n.Promises
  ungrouped : n.grouped = false
  distinct : columns.Distinct
  fill {f : Field} (hf : f ∈ n.output.fields) {b : Bindings} (hb : b.Covers columns) :
    b.Fill (f.expr.usedColumns n.sourceColumns)

theorem reports_row {α : Type} {P : α → Prop} (context : Option RowContext) :
    ∀ {x : TableResult α}, Nameless P x → Ends n.Reports P (match x with
      | .ok a => .ok a
      | .error e => .error (.row ⟨context, e⟩)) := by
  intro x h
  cases x with
  | ok a => exact h
  | error e =>
    intro r hr
    obtain rfl := List.mem_singleton.1 hr
    exact RowError.Other.allows (e := ⟨context, e⟩) h n

theorem rowItem_reports (hn : n.BindsRows columns) (hpage : page.Typed columns) (now : DateTime)
    (w : Writer) (i : Nat) : Ends n.Reports (fun _ => True) (n.rowItem now w page i) := by
  unfold rowItem
  refine (reports_ofTable (RowPage.nameless_bindRow hpage hn.distinct i)).bind fun vars hvars => ?_
  have hrecord := hn.promises.nameless_record hn.ungrouped (fun _ hf => hn.fill hf hvars) now
  refine (reports_row _ hrecord).bind fun record hrecord => ?_
  have hhaving := Table.nameless_meetsHaving hrecord (fun e he => hn.promises.having he) now
  refine (reports_row _ hhaving).bind fun meets _ => ?_
  cases meets with
  | false => trivial
  | true => exact (reports_ofTable (w.nameless_keys record)).bind fun _ _ => trivial

theorem rowItems_reports (hn : n.BindsRows columns) (hpage : page.Typed columns) (now : DateTime)
    (w : Writer) (is : List Nat) (sent : List String) :
    Ends n.Reports (fun _ => True) (n.rowItems now w page is sent).2 := by
  induction is generalizing sent with
  | nil => trivial
  | cons i rest ih =>
    have hitem := rowItem_reports hn hpage now w i
    unfold rowItems
    split
    · next e he =>
      rw [he] at hitem
      exact hitem
    · exact ih sent
    · split
      · exact ih sent
      · split
        · exact ih sent
        · exact ih _

theorem rowPage_always (hn : n.BindsRows columns) (hpage : page.Typed columns) (now : DateTime)
    (w : Writer) : ReadM.Always n.Reports (fun _ => True) (n.rowPage now w page : ReadM σ Unit) := by
  have hitems := rowItems_reports hn hpage now w (List.range page.rowCount) []
  unfold rowPage
  rcases hrun : n.rowItems now w page (List.range page.rowCount) [] with ⟨items, outcome⟩
  rw [hrun] at hitems
  exact (ReadM.Always.hand items).bind fun _ _ => .lift hitems

/-! ## Scans -/

theorem leftPage_always (b : Backend σ) {empty : RowPage} (hempty : empty.Typed columns)
    (range : TokenRange) : ReadM.Always n.Reports (fun r => r.1.Typed columns)
      (n.leftPage b empty range) := by
  refine (ReadM.Always.call (Join.reports_store n) _).bind fun rows _ => ?_
  exact (ReadM.Always.lift (reports_ofTable (RowPage.nameless_fill hempty rows))).bind
    fun page hpage => .pure hpage

theorem scan_always (b : Backend σ) (range : TokenRange) {process : RowPage → ReadM σ Unit}
    (hprocess : ∀ page : RowPage, page.Typed columns →
      ReadM.Always n.Reports (fun _ => True) (process page)) :
    ReadM.Always n.Reports (fun _ => True) (n.scan b columns range process) := by
  have hempty : RowPage.Typed columns ((RowPage.ofColumns columns).init n.reader.pageSize) :=
    .empty columns _
  have hfrom : ∀ fuel next count, ReadM.Always n.Reports (fun _ => True)
      (n.scanFrom b ((RowPage.ofColumns columns).init n.reader.pageSize) range.last process
        fuel next count) := by
    intro fuel
    induction fuel with
    | zero => exact fun _ _ => .pure trivial
    | succ fuel ih =>
      intro next count
      cases next with
      | none => exact .pure trivial
      | some first =>
        unfold scanFrom
        refine (leftPage_always b hempty _).bind fun r hr => ?_
        obtain ⟨page, next⟩ := r
        dsimp only
        split
        · exact .pure trivial
        · exact (hprocess page hr).bind fun _ _ => ih next _
  exact hfrom _ _ _

/-! ## Accepted nodes -/

namespace Defined

variable {checked now : DateTime} {source : Table} {l : Lookup}

theorem lookup_eq_none (hn : n.Defined checked source) (hkind : n.kind ≠ .lookup) :
    n.lookup = none := by
  cases hn with
  | table h | distinct h => rw [(check_eq_ok h).2.1]
  | joined h =>
    obtain ⟨_, -, h⟩ := bind_eq_ok.1 h
    rw [(check_eq_ok h).2.1] at hkind
    exact absurd rfl hkind

theorem joinColumn (hn : n.Defined checked source) (hlookup : n.lookup = some l) :
    ∀ c ∈ l.leftColumns, Lookup.JoinColumn readerAlias n.readerColumns c := by
  cases hn with
  | table h | distinct h =>
    rw [(check_eq_ok h).2.1] at hlookup
    cases hlookup
  | joined h =>
    obtain ⟨k, hk, h⟩ := bind_eq_ok.1 h
    rw [(check_eq_ok h).2.1] at hlookup ⊢
    obtain rfl : k = l := Option.some.inj hlookup
    obtain ⟨-, -, -, -, hjoin, -⟩ := Lookup.ofSource_eq_ok hk
    exact Lookup.joinColumns_spec hjoin

theorem bindsRows (hn : n.Defined checked source)
    (hsource : ∀ f ∈ source.fields, f.name ≠ rowidName) (hlookup : n.lookup = none)
    (hcolumns : n.leftColumns = .ok columns) : n.BindsRows columns where
  promises := hn.promises
  ungrouped := by simp [grouped, hlookup]
  distinct := (reads_of_leftColumns hn hcolumns).1.distinct_paged
  fill hf b hb := by
    have hnone : ∀ l, n.lookup = some l → Bindings.Fill [] l.rightColumns := by
      intro l hl
      rw [hlookup] at hl
      cases hl
    exact fill_pair hn hsource hcolumns hf hb hnone (fun _ => rfl) Assoc.keyed_nil

theorem prepared (hn : n.Defined checked source)
    (hsource : ∀ f ∈ source.fields, f.name ≠ rowidName) (hlookup : n.lookup = some l)
    (hright : ∀ f ∈ l.right.fields, f.name ≠ rowidName) (hcolumns : n.leftColumns = .ok columns)
    (w : Writer) : Join.Prepared ⟨n, l, w, now⟩ columns l.pageColumns := by
  obtain ⟨cs, hcs, hpages, hjoins, -⟩ := pages_leftColumns hn.accepted hlookup hn.readerColumns_eq
    (hn.lookup_accepted hlookup) hsource
  obtain rfl := Except.ok.inj (hcs.symm.trans hcolumns)
  have hpaged := Lookup.pages_pageColumns (hn.lookup_accepted hlookup) hright
  have hsubset : l.rightColumns ⊆ l.pageColumns := fun _ hc =>
    Lookup.mem_pageColumns (hn.lookup_accepted hlookup) hright hc
  refine ⟨⟨hn.promises, hlookup, hsubset, fun {f} hf {b m} hb hm => ?_, fun hf hplain _ hb =>
    missing_calculate hn hsource hcolumns hf hplain hb now⟩, hpages.distinct_paged,
    hpaged.distinct_paged, Columns.subset_append _ _ _ List.mem_cons_self,
    fun {page} hpage {i} hi {c} hc => ?_⟩
  · refine fill_pair hn hsource hcolumns hf hb (fun l' hl => ?_) (hm.other fun c hc ht => ?_) hm.keyed
    · exact Option.some.inj (hlookup.symm.trans hl) ▸ hm.fill.mono hsubset
    · exact absurd (ht.symm.trans (hpaged.table_eq_of_paged hc)) (by decide)
  · have hjoin := hn.joinColumn hlookup c hc
    obtain ⟨v, hv, -⟩ := hpage.value_eq_ok hpages.distinct_paged (hjoins hc) hjoin.table_dotless
      hjoin.name_dotless hi
    exact ⟨v, hv⟩

end Defined
end Node

/-! ## Batches -/

namespace Batch

variable {n : Node} {checked : DateTime} {source : Table} {σ : Type}

theorem reports_ofSettings (n : Node) (x : Except SettingsFault Unit) :
    Ends n.Reports (fun _ => True) (ofSettings x) := by
  cases x with
  | ok u => trivial
  | error fault => exact nofun

theorem nameless_uniqueIndex (t : Table) : Nameless (fun _ => True) t.uniqueIndex := by
  unfold Table.uniqueIndex
  split
  · trivial
  · rfl
  · rfl

theorem start_reports (n : Node) (t : Table) (settings : WriterSettings) (distinct : Bool) :
    Ends n.Reports (fun _ => True) (Writer.start t settings distinct) := by
  refine (reports_ofSettings n _).bind fun _ _ => ?_
  cases distinct with
  | false => trivial
  | true => exact (Node.reports_ofTable (nameless_uniqueIndex t)).bind fun _ _ => trivial

variable (b : Backend σ) (now : DateTime) (settings : BatchSettings) (range : TokenRange)

abbrev Reports (n : Node) (batch : Batch σ) : Prop :=
  ReadM.Always n.Reports (fun _ => True) batch.reading

theorem rowByRow_reports {columns : Columns} (hn : n.BindsRows columns)
    (hcolumns : n.leftColumns = .ok columns) (distinct : Bool) :
    Ends n.Reports (Reports n) (rowByRow b now settings n range distinct) := by
  have hstart : Ends n.Reports (Reports n) (do
      let w ← Writer.start n.output settings.writer distinct
      .ok ⟨n, w, n.scan b columns range (n.rowPage now w)⟩) :=
    (start_reports n _ _ _).bind fun w _ =>
      Node.scan_always b range fun page hpage => Node.rowPage_always hn hpage now w
  unfold rowByRow
  rw [hcolumns]
  refine (reports_ofSettings n _).bind fun _ _ => ?_
  cases distinct with
  | false => exact hstart
  | true => exact (Node.reports_ofTable (nameless_uniqueIndex _)).bind fun _ _ => hstart

theorem joined_reports {columns : Columns} {l : Lookup} (hlookup : n.lookup = some l)
    (hn : ∀ w, Join.Prepared ⟨n, l, w, now⟩ columns l.pageColumns)
    (hcolumns : n.leftColumns = .ok columns) :
    Ends n.Reports (Reports n) (joined b now settings n range) := by
  unfold joined
  rw [hlookup]
  dsimp only
  rw [hcolumns]
  refine (reports_ofSettings n _).bind fun _ _ => (start_reports n _ _ _).bind fun w _ => ?_
  have hempty : RowPage.Typed l.pageColumns (Join.rightPage l settings.rowidChunk) :=
    .empty l.pageColumns _
  exact Node.scan_always b range fun page hpage => Join.page_always (hn w) b hempty _ hpage

theorem prepare_reports (hn : n.Defined checked source)
    (hsource : ∀ f ∈ source.fields, f.name ≠ rowidName)
    (hright : ∀ l, n.lookup = some l → ∀ f ∈ l.right.fields, f.name ≠ rowidName) (kind : NodeKind) :
    Ends n.Reports (Reports n) (prepare b now settings n kind range) := by
  obtain ⟨columns, hcolumns, -⟩ := Node.reads_leftColumns hn
  have hrows : n.kind ≠ .lookup → n.BindsRows columns := fun hkind =>
    hn.bindsRows hsource (hn.lookup_eq_none hkind) hcolumns
  have hkind : Ends n.Reports (fun _ => n.kind = kind) (expectKind n kind) := by
    unfold expectKind
    split
    · assumption
    · exact nofun
  refine hkind.bind fun _ hkind => ?_
  cases kind with
  | table =>
    exact rowByRow_reports b now settings range (hrows (by rw [hkind]; decide)) hcolumns false
  | distinct =>
    exact rowByRow_reports b now settings range (hrows (by rw [hkind]; decide)) hcolumns true
  | lookup =>
    cases hlookup : n.lookup with
    | none =>
      unfold joined
      rw [hlookup]
      exact nofun
    | some l =>
      exact joined_reports b now settings range hlookup
        (hn.prepared hsource hlookup (hright l hlookup) hcolumns) hcolumns

theorem execute_reports (batch : Batch σ) (ids : Task.Supply) (s : σ) (hbatch : Reports n batch)
    {e : BatchError} (h : (batch.execute b ids s).1 = .error e) : n.Reports e := by
  have hreading := hbatch ⟨s, []⟩
  unfold execute at h
  rcases hrun : batch.reading.run.run ⟨s, []⟩ with ⟨outcome, r⟩
  rcases hwrite : batch.writer.writeAll b r.handed .empty ids r.storage with ⟨totals, ids', s'⟩
  simp only [hrun, hwrite] at h hreading
  cases outcome with
  | error e' =>
    obtain rfl := Except.error.inj h
    exact hreading
  | ok count =>
    -- What is left to fail is the writer, which reports no definition and no row.
    have hresult : Ends n.Reports (fun _ => True) totals.result := by
      unfold Totals.result
      split
      · trivial
      · exact nofun
    cases htotals : totals.result with
    | ok totals' => simp [htotals, bind, Except.bind] at h
    | error e' =>
      rw [htotals] at h hresult
      obtain rfl := Except.error.inj h
      exact hresult

/-- No batch of an accepted node, over tables without a column of the name of the column of ids,
fails by a name, whatever the storage answers, with one exception: the field of a grouped left
lookup that is no aggregate and asks for a column of right rows, on a left row without right
rows. -/
theorem asksMissing_of_named (hn : n.Defined checked source)
    (hsource : ∀ f ∈ source.fields, f.name ≠ rowidName)
    (hright : ∀ l, n.lookup = some l → ∀ f ∈ l.right.fields, f.name ≠ rowidName)
    (kind : NodeKind) (ids : Task.Supply) (s : σ) {e : BatchError}
    (h : (run b now settings n kind range ids s).1 = .error e) :
    ∀ r ∈ e.rowErrors, r.error.ofNames = true → n.AsksMissing r := by
  have hprepare := prepare_reports b now settings range hn hsource hright kind
  unfold run at h
  split at h
  · next e' he =>
    rw [he] at hprepare
    obtain rfl := Except.error.inj h
    exact hprepare
  · next batch hbatch =>
    rw [hbatch] at hprepare
    exact execute_reports b batch ids s hprepare h

end Batch

namespace ShipmentSample

/-! Orders are shipped by the carrier of their parcels. An order has no parcel. -/

def orders : Table := ⟨"orders", "", none, [⟨"id", .int, "", .int 0, ""⟩], []⟩

def parcels : Table :=
  ⟨"parcels", "", none, [⟨"order", .int, "", .int 0, ""⟩, ⟨"carrier", .text, "", .text "", ""⟩],
    [("idx_order", ⟨false, [.plain "order" .int]⟩)]⟩

def shipments : Table :=
  ⟨"shipments", "", none,
    [⟨"carrier", .text, "l.carrier", .selector "l" "carrier", "none"⟩,
      ⟨"order", .int, "r.id", .selector "r" "id", ""⟩], []⟩

def node : Node :=
  ⟨"ship", .lookup, ⟨"orders", 1, 1⟩, orders.columnsAs readerAlias, shipments,
    some ⟨"idx_order", [⟨"r", "id", .int⟩], true, "", none, .left, 1, 1, parcels,
      ⟨false, [.plain "order" .int]⟩⟩⟩

def order : Row := ⟨1, [("id", .int 7)]⟩

def parcel : Row := ⟨2, [("order", .int 8), ("carrier", .text "rail")]⟩

def store : Store :=
  ((Store.empty.putRow "orders" order).putRow "parcels" parcel).putKey "idx_order"
    "0000000000000000008" 2

def range : TokenRange := ⟨6238072747940578789, 6238072747940578789⟩

def missing : RowError :=
  ⟨some (.left 1), .fieldEval "carrier" (.unknownAlias "l" "carrier")⟩

theorem asksMissing_of_named_shipments :
    Node.joined .unset "ship" ⟨"orders", 1, 1⟩ orders shipments
        ⟨"idx_order", "r.id", true, "", "left", 1, 1⟩ parcels = .ok node ∧
      (∀ f ∈ orders.fields, f.name ≠ rowidName) ∧ (∀ f ∈ parcels.fields, f.name ≠ rowidName) ∧
      (Batch.run Store.backend .unset .default node .lookup range ⟨fun _ => 0, 0⟩ store).1 =
        .error (.rows [missing]) ∧
      node.AsksMissing missing := by
  have hnode : Node.joined .unset "ship" ⟨"orders", 1, 1⟩ orders shipments
      ⟨"idx_order", "r.id", true, "", "left", 1, 1⟩ parcels = .ok node := rfl
  have hsource : ∀ f ∈ orders.fields, f.name ≠ rowidName := by decide
  have hright : ∀ f ∈ parcels.fields, f.name ≠ rowidName := by decide
  have hrun : (Batch.run Store.backend .unset .default node .lookup range ⟨fun _ => 0, 0⟩ store).1 =
      .error (.rows [missing]) := rfl
  exact ⟨hnode, hsource, hright, hrun, Batch.asksMissing_of_named _ _ _ _ (.joined hnode) hsource
    (fun l hl => Option.some.inj hl ▸ hright) _ _ _ hrun missing List.mem_cons_self rfl⟩

end ShipmentSample
end TableMill
