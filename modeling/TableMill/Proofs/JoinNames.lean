import TableMill.Proofs.Arrivals
import TableMill.Proofs.CheckedNodes

/-!
# Names in joins

What a join binds has the columns that the expressions of its node use: pairs of a left and a right
row, right rows for the filter, and finished records for the condition. So a page of a join fails
by a name in one way only. A field of a grouped left lookup that is no aggregate but asks for a
column of right rows has none where there is no right row.
-/

namespace TableMill

/-- An error of a left row without right rows: a field that is no aggregate asks for a column of
right rows. -/
inductive Node.AsksMissing (n : Node) : RowError → Prop
  | intro {l : Lookup} {f : Field} {field : String} {context : RowContext}
    (hlookup : n.lookup = some l) (hgrouped : l.grouped = true) (hjoin : l.join = .left)
    (hfield : f ∈ n.output.fields) (hplain : f.isAggregate = false)
    (hused : (lookupAlias, field) ∈ f.usedFields)
    (hcontext : (∃ rowid, context = .left rowid) ∨ ∃ place, context = .leftPlace place) :
    AsksMissing n ⟨some context, .fieldEval f.name (.unknownAlias lookupAlias field)⟩

/-- An error of a row is by a name only if it is of a left row without right rows. -/
def Node.Allows (n : Node) (e : RowError) : Prop :=
  e.error.ofNames = true → n.AsksMissing e

/-- All errors that a batch reports are like that. -/
def Node.Reports (n : Node) (e : BatchError) : Prop :=
  ∀ r ∈ e.rowErrors, n.Allows r

theorem Node.reports_ofTable {α : Type} {n : Node} {P : α → Prop} {x : TableResult α}
    (h : Nameless P x) : Ends n.Reports P (ofTable x) := by
  cases x with
  | ok a => exact h
  | error e =>
    intro r hr hnames
    obtain rfl := List.mem_singleton.1 hr
    have hother : e.ofNames = false := h
    simp [hother] at hnames

abbrev RowError.Other (e : RowError) : Prop := e.error.ofNames = false

theorem RowError.Other.allows {e : RowError} (h : e.Other) (n : Node) : n.Allows e :=
  fun hnames => absurd hnames (by simp [h])

/-! ## Left rows -/

/-- What the groups of a left row hold: for every field a state that its check has foreseen, and a
value of its type if it has one. -/
structure Group.Fine (g : Group) (n : Node) : Prop where
  states : List.Forall₂ (fun (f : Field) s => f.Foreseen n.sourceColumns s) n.output.fields g.states
  values : List.Forall₂ (fun (f : Field) v => ∀ w : Value, v = some w → w.kind = f.kind)
    n.output.fields g.values

/-- A left row of a page with some columns. -/
structure LeftRow.Fine (row : LeftRow) (j : Join) (columns : Columns) : Prop where
  context : (∃ rowid, row.context = .left rowid) ∨ ∃ place, row.context = .leftPlace place
  covers : row.vars.Covers columns
  grouped : row.group.isSome = j.lookup.grouped
  group {g : Group} (h : row.group = some g) : g.Fine j.node

structure JoinPage.Fine (p : JoinPage) (j : Join) (columns : Columns) : Prop where
  rows : ∀ row ∈ p.rows, row.Fine j columns
  errors : ∀ e ∈ p.errors, e.Other

namespace Join

/-- The parts of a join come from a checked node: rows with the columns of its pages bind what its
expressions use. -/
structure Binds (j : Join) (columns right : Columns) : Prop where
  promises : j.node.Promises
  lookup_eq : j.node.lookup = some j.lookup
  filter_subset : j.lookup.rightColumns ⊆ right
  pair {f : Field} (hf : f ∈ j.node.output.fields) {b m : Bindings} (hb : b.Covers columns)
    (hm : m.Covers right) :
    Bindings.Fill (Assoc.merge b m) (f.expr.usedColumns j.node.sourceColumns)
  missing {f : Field} (hf : f ∈ j.node.output.fields) (hplain : f.isAggregate = false)
    {b : Bindings} (hb : b.Covers columns) :
    Nameless (fun v => v.kind = f.kind) (f.calculate j.now b none).1 ∨
      ∃ field, (lookupAlias, field) ∈ f.usedFields ∧ (f.calculate j.now b none).1 =
        .error (.fieldEval f.name (.unknownAlias lookupAlias field))

variable {j : Join} {columns right : Columns} {p : JoinPage} {row : LeftRow} {page : RowPage}

theorem context_left (page : RowPage) (i : Nat) :
    (∃ rowid, leftContext page i = .left rowid) ∨ ∃ place, leftContext page i = .leftPlace place := by
  unfold leftContext
  split
  · exact Or.inl ⟨_, rfl⟩
  · exact Or.inr ⟨_, rfl⟩

theorem freshGroup_fine (hj : j.Binds columns right) :
    ∃ g, j.node.output.freshGroup = .ok g ∧ g.Fine j.node := by
  have hstates : Ends (fun _ : EvalError => False)
      (List.Forall₂ (fun (f : Field) s => f.Foreseen j.node.sourceColumns s) j.node.output.fields)
      (j.node.output.fields.mapM fun f => Aggregation.forExpr f.expr) := by
    refine Ends.mapM fun f hf => ?_
    obtain ⟨s, hs, hforeseen⟩ := hj.promises.field hf
    rw [hs]
    exact hforeseen
  unfold Table.freshGroup
  cases hrun : j.node.output.fields.mapM fun f => Aggregation.forExpr f.expr with
  | error e =>
    rw [hrun] at hstates
    exact hstates.elim
  | ok states =>
    rw [hrun] at hstates
    refine ⟨_, rfl, hstates, ?_⟩
    rw [List.forall₂_map_right_iff]
    exact List.forall₂_same.2 fun _ _ => nofun

theorem leftRow_fine (hj : j.Binds columns right) (hpage : page.Typed columns)
    (hdistinct : columns.Distinct) (i : Nat) :
    Ends j.node.Reports (fun row => row.Fine j columns) (j.leftRow page i) := by
  refine (Node.reports_ofTable (RowPage.nameless_bindRow hpage hdistinct i)).bind fun vars hvars => ?_
  cases hgrouped : j.lookup.grouped with
  | false =>
    exact ⟨context_left page i, hvars, by rw [hgrouped]; rfl, nofun⟩
  | true =>
    obtain ⟨g, hg, hfine⟩ := freshGroup_fine hj
    rw [hg]
    exact ⟨context_left page i, hvars, by rw [hgrouped]; rfl,
      fun h => Option.some.inj h ▸ hfine⟩

theorem start_fine (hj : j.Binds columns right) (hpage : page.Typed columns)
    (hdistinct : columns.Distinct) :
    Ends j.node.Reports (fun p => p.Fine j columns) (j.start page) := by
  have hrows : Ends j.node.Reports (List.Forall₂ (fun _ row => row.Fine j columns)
      (List.range page.rowCount)) ((List.range page.rowCount).mapM (j.leftRow page)) :=
    Ends.mapM fun i _ => leftRow_fine hj hpage hdistinct i
  refine hrows.bind fun rows hrows => ⟨fun row hrow => ?_, nofun⟩
  obtain ⟨n, hn, rfl⟩ := List.getElem_of_mem hrow
  obtain ⟨hlength, hget⟩ := List.forall₂_iff_get.1 hrows
  exact hget n (hlength ▸ hn) hn

theorem forall_fail {P : LeftRow → Prop} (hP : ∀ row, P row → P { row with failed := true })
    (h : ∀ row ∈ p.rows, P row) (places : List Nat) (e : RowError) :
    ∀ row ∈ (fail places p e).rows, P row := by
  intro row hrow
  obtain ⟨i, hi⟩ := List.mem_iff_getElem?.1 hrow
  rw [fail_rows] at hi
  split at hi
  · obtain ⟨old, hold, rfl⟩ := Option.map_eq_some_iff.1 hi
    exact hP old (h old (List.mem_of_getElem? hold))
  · exact h row (List.mem_of_getElem? hi)

theorem forall_put {P : LeftRow → Prop} (h : ∀ row ∈ p.rows, P row) (i : Nat) (hrow : P row)
    (outcome : Except RowError (Option Item)) : ∀ r ∈ (put p i row outcome).1.rows, P r := by
  have hset : ∀ r ∈ p.rows.set i row, P r := fun r hr =>
    (List.mem_or_eq_of_mem_set hr).elim (h r) fun heq => heq ▸ hrow
  cases outcome with
  | ok item => exact hset
  | error e => exact hset

theorem fail_fine (hp : p.Fine j columns) (places : List Nat) {e : RowError} (he : e.Other) :
    (fail places p e).Fine j columns where
  rows := forall_fail (fun _ hrow => ⟨hrow.context, hrow.covers, hrow.grouped, hrow.group⟩) hp.rows
    places e
  errors := List.forall_mem_append.2 ⟨hp.errors, List.forall_mem_singleton.2 he⟩

theorem keyPlaces_fine (hvalues : ∀ i < page.rowCount, ∀ c ∈ j.lookup.leftColumns,
      ∃ v, page.value i c.table c.name = .ok v) {is : List Nat} (his : ∀ i ∈ is, i < page.rowCount)
    (hp : p.Fine j columns) (places : Assoc (List Nat)) :
    (j.keyPlaces page is places p).2.Fine j columns := by
  induction is generalizing places p with
  | nil => exact hp
  | cons i rest ih =>
    obtain ⟨hi, hrest⟩ := List.forall_mem_cons.1 his
    have hkey := j.lookup.nameless_key (hvalues i hi)
    unfold keyPlaces
    split
    · exact ih hrest hp _
    · next e he =>
      rw [he] at hkey
      have hother : RowError.Other ⟨some (leftContext page i), e⟩ := hkey
      exact ih hrest (fail_fine hp [i] hother) _

/-! ## Pairs -/

theorem item_other (hj : j.Binds columns right) (context : RowContext) {record : Record}
    (hrecord : j.node.output.Fits record) :
    Ends RowError.Other (fun _ => True) (j.item context record) := by
  have hhaving := Table.nameless_meetsHaving hrecord (fun e he => hj.promises.having he) j.now
  have hkeys := j.writer.nameless_keys record
  unfold item
  split
  · next e he =>
    rw [he] at hhaving
    exact hhaving
  · trivial
  · split
    · next e he =>
      rw [he] at hkeys
      exact hkeys
    · trivial

theorem feedFields_fine {vars : Bindings} {fields : List Field} {states : List (Option Aggregation)}
    {source : Columns} (hstates : List.Forall₂ (fun (f : Field) s => f.Foreseen source s) fields states)
    (hvars : ∀ f ∈ fields, vars.Fill (f.expr.usedColumns source)) :
    Nameless (fun r : List (Option Aggregation) × List (Option Value) =>
        List.Forall₂ (fun (f : Field) s => f.Foreseen source s) fields r.1 ∧
        List.Forall₂ (fun (f : Field) v => ∀ w : Value, v = some w → w.kind = f.kind) fields r.2)
      (j.feedFields vars fields states) := by
  induction hstates with
  | nil => exact ⟨.nil, .nil⟩
  | @cons f s fs ss hf _ ih =>
    obtain ⟨hfill, hrest⟩ := List.forall_mem_cons.1 hvars
    obtain ⟨hstate, hvalue⟩ := hf.calculate hfill j.now
    unfold feedFields
    rcases hcalc : f.calculate j.now vars s with ⟨outcome, s'⟩
    rw [hcalc] at hstate hvalue
    refine Ends.bind hvalue fun v hv => (ih hrest).bind fun r hr => ?_
    exact ⟨.cons hstate hr.1, .cons (fun w hw => Option.some.inj hw ▸ hv) hr.2⟩

theorem pair_fine (hj : j.Binds columns right) (hrow : row.Fine j columns) {m : Bindings}
    (hm : m.Covers right) (rowid : Int64) :
    (j.pair row m rowid).1.Fine j columns ∧
      Ends RowError.Other (fun _ => True) (j.pair row m rowid).2 := by
  have hfill : ∀ f ∈ j.node.output.fields,
      Bindings.Fill (Assoc.merge row.vars m) (f.expr.usedColumns j.node.sourceColumns) :=
    fun f hf => hj.pair hf hrow.covers hm
  unfold pair
  split
  · exact ⟨hrow, trivial⟩
  · dsimp only
    split
    · next g hg =>
      have hfeed := feedFields_fine (j := j) (hrow.group hg).states hfill
      split
      · next states values heq =>
        rw [heq] at hfeed
        exact ⟨⟨hrow.context, hrow.covers, by rw [← hrow.grouped, hg]; rfl,
          fun h => Option.some.inj h ▸ ⟨hfeed.1, hfeed.2⟩⟩, trivial⟩
      · next e heq =>
        rw [heq] at hfeed
        exact ⟨⟨hrow.context, hrow.covers, hrow.grouped, hrow.group⟩, hfeed⟩
    · next hg =>
      have hgrouped : j.lookup.grouped = false := by rw [← hrow.grouped, hg]; rfl
      have hrecord := hj.promises.nameless_record
        (by simp [Node.grouped, hj.lookup_eq, hgrouped]) hfill j.now
      have hfailed : LeftRow.Fine { row with matched := true, failed := true } j columns :=
        ⟨hrow.context, hrow.covers, hrow.grouped, hrow.group⟩
      split
      · next e heq =>
        rw [heq] at hrecord
        exact ⟨hfailed, hrecord⟩
      · next record heq =>
        rw [heq] at hrecord
        have hitem := item_other hj row.context hrecord
        split
        · exact ⟨⟨hrow.context, hrow.covers, hrow.grouped, hrow.group⟩, trivial⟩
        · next e heq =>
          rw [heq] at hitem
          exact ⟨hfailed, hitem⟩

theorem put_fine (hp : p.Fine j columns) (i : Nat) (hrow : row.Fine j columns)
    {outcome : Except RowError (Option Item)} (houtcome : Ends RowError.Other (fun _ => True) outcome) :
    (put p i row outcome).1.Fine j columns := by
  have hrows := forall_put hp.rows i hrow outcome
  cases outcome with
  | ok item => exact ⟨hrows, hp.errors⟩
  | error e =>
    exact ⟨hrows, List.forall_mem_append.2 ⟨hp.errors, List.forall_mem_singleton.2 houtcome⟩⟩

theorem pairAll_fine (hj : j.Binds columns right) {m : Bindings} (hm : m.Covers right)
    (rowid : Int64) (hp : p.Fine j columns) (places : List Nat) :
    (j.pairAll m rowid places p).1.Fine j columns := by
  induction places generalizing p with
  | nil => exact hp
  | cons i rest ih =>
    unfold pairAll
    split
    · exact ih hp
    · next row hget =>
      obtain ⟨hrow, houtcome⟩ := pair_fine hj (hp.rows row (List.mem_of_getElem? hget)) hm rowid
      exact ih (put_fine hp i hrow houtcome)

theorem rightRow_fine (hj : j.Binds columns right) {m : Bindings} (hm : m.Covers right)
    (rowid : Int64) (hp : p.Fine j columns) (places : List Nat) :
    (j.rightRow places m rowid p).1.Fine j columns := by
  have hpasses := Lookup.nameless_passes (fun e he => hj.promises.filter hj.lookup_eq he)
    (hm.fill.mono hj.filter_subset) j.now
  unfold rightRow
  split
  · next e he =>
    rw [he] at hpasses
    have hother : RowError.Other ⟨some (.lookup rowid), e⟩ := hpasses
    exact fail_fine hp places hother
  · exact hp
  · exact pairAll_fine hj hm rowid hp places

theorem rightRows_fine (hj : j.Binds columns right) (hpage : page.Typed right)
    (hdistinct : right.Distinct) (hrowid : .rowid lookupAlias ∈ right)
    (keyOf : List (Int64 × String)) (places : Assoc (List Nat)) (is : List Nat)
    (hp : p.Fine j columns) :
    Ends j.node.Reports (fun r => r.1.Fine j columns) (j.rightRows keyOf places page is p) := by
  induction is generalizing p with
  | nil => exact hp
  | cons i rest ih =>
    unfold rightRows
    refine (Node.reports_ofTable (RowPage.nameless_rowid hpage hrowid i)).bind fun rowid _ => ?_
    split
    · exact ih hp
    · next lefts _ =>
      refine (Node.reports_ofTable (RowPage.nameless_bindRow hpage hdistinct i)).bind
        fun m hm => ?_
      exact (ih (rightRow_fine hj hm rowid hp lefts)).bind fun r hr => hr

/-! ## The end of left rows -/

theorem default_other (f : Field) {e : TableError} (h : f.defaultValue = .error e) :
    RowError.Other ⟨none, e⟩ := by
  have hdefault := f.nameless_defaultValue
  rw [h] at hdefault
  exact hdefault

theorem default_kind (f : Field) {v : Value} (h : f.defaultValue = .ok v) : v.kind = f.kind := by
  have hdefault := f.nameless_defaultValue
  rw [h] at hdefault
  exact hdefault

/-- The record of a group fits the table, or fails as a default does. -/
theorem ends_groupedRecord {E : RowError → Prop} {g : Group}
    (hvalues : List.Forall₂ (fun (f : Field) v => ∀ w : Value, v = some w → w.kind = f.kind)
      j.node.output.fields g.values)
    (hdefault : ∀ f ∈ j.node.output.fields, ∀ e, f.defaultValue = .error e → E ⟨none, e⟩) :
    Ends E j.node.output.Fits (j.groupedRecord g) := by
  have hnames : (j.node.output.fields.zip g.values).map Prod.fst = j.node.output.fields :=
    List.map_fst_zip (Nat.le_of_eq hvalues.length_eq)
  have hrecord : Ends E
      (List.Forall₂ (fun (q : Field × Option Value) e => e.1 = q.1.name ∧ e.2.kind = q.1.kind)
        (j.node.output.fields.zip g.values)) (j.groupedRecord g) := by
    refine Ends.mapM fun q hq => ?_
    obtain ⟨f, v⟩ := q
    dsimp only
    split
    · next w => exact ⟨rfl, List.forall₂_zip hvalues hq w rfl⟩
    · split
      · next w hw => exact ⟨rfl, default_kind f hw⟩
      · next e he => exact hdefault f (List.of_mem_zip hq).1 e he
  refine hrecord.imp (fun _ he => he) fun record hrecord => ?_
  unfold Table.Fits
  rw [← hnames, List.forall₂_map_left_iff]
  exact hrecord

theorem groupedRecord_other {g : Group} (hg : g.Fine j.node) :
    Ends RowError.Other j.node.output.Fits (j.groupedRecord g) :=
  ends_groupedRecord hg.values fun f _ _ he => default_other f he

/-- Without right rows, a field takes its default or is computed from the left row alone. -/
theorem unmatchedRecord_allows (hj : j.Binds columns right) (hrow : row.Fine j columns)
    (hjoin : j.lookup.join = .left) :
    Ends j.node.Allows j.node.output.Fits (j.unmatchedRecord row) := by
  refine Ends.mapM fun f hf => ?_
  split
  · split
    · next v hv => exact ⟨rfl, default_kind f hv⟩
    · next e he => exact (default_other f he).allows j.node
  · next htakes =>
    rw [takesDefault] at htakes
    have hplain : f.isAggregate = false := by
      cases hgrouped : j.lookup.grouped with
      | true => simpa [hgrouped] using htakes
      | false => exact hj.promises.plain (by simp [Node.grouped, hj.lookup_eq, hgrouped]) hf
    have hmissing := hj.missing hf hplain hrow.covers
    split
    · next v hv =>
      rw [hv] at hmissing
      rcases hmissing with hkind | ⟨_, -, herror⟩
      · exact ⟨rfl, hkind⟩
      · cases herror
    · next e he =>
      rw [he] at hmissing
      rcases hmissing with hother | ⟨field, hused, herror⟩
      · exact RowError.Other.allows (e := ⟨some row.context, e⟩) hother j.node
      · obtain rfl := Except.error.inj herror
        have hgrouped : j.lookup.grouped = true := by
          by_contra hnot
          rw [if_neg hnot] at htakes
          exact htakes (List.any_eq_true.2 ⟨_, hused, by simp⟩)
        exact fun _ => .intro hj.lookup_eq hgrouped hjoin hf hplain hused hrow.context

theorem lastRecord_allows (hj : j.Binds columns right) (hrow : row.Fine j columns)
    {outcome : Except RowError Record} (h : j.lastRecord? row = some outcome) :
    Ends j.node.Allows j.node.output.Fits outcome := by
  unfold lastRecord? at h
  split at h
  · cases h
  · split at h
    · next g _ _ hg _ =>
      obtain rfl := Option.some.inj h
      exact (groupedRecord_other (hrow.group hg)).imp (fun e he => he.allows j.node) fun _ hr => hr
    · next hjoin =>
      obtain rfl := Option.some.inj h
      exact unmatchedRecord_allows hj hrow hjoin
    · cases h

theorem finish_allows (hj : j.Binds columns right) {rows : List LeftRow}
    (hrows : ∀ row ∈ rows, row.Fine j columns) {errors : List RowError}
    (herrors : ∀ e ∈ errors, j.node.Allows e) : ∀ e ∈ (j.finish rows errors).2, j.node.Allows e := by
  induction rows generalizing errors with
  | nil => exact herrors
  | cons row rest ih =>
    obtain ⟨hrow, hrest⟩ := List.forall_mem_cons.1 hrows
    unfold finish
    split
    · exact ih hrest herrors
    · next outcome houtcome =>
      have hitem : Ends j.node.Allows (fun _ => True) (outcome.bind (j.item row.context)) :=
        (lastRecord_allows hj hrow houtcome).bind fun record hrecord =>
          (item_other hj row.context hrecord).imp (fun e he => he.allows j.node) fun _ h => h
      split
      · next e he =>
        rw [he] at hitem
        exact ih hrest (List.forall_mem_append.2 ⟨herrors, List.forall_mem_singleton.2 hitem⟩)
      · exact ih hrest herrors

/-! ## Pages -/

variable {σ : Type} {empty : RowPage}

structure Prepared (j : Join) (columns right : Columns) : Prop where
  binds : j.Binds columns right
  distinct : columns.Distinct
  distinct_right : right.Distinct
  rowid_right : .rowid lookupAlias ∈ right
  keyed {page : RowPage} (hpage : page.Typed columns) {i : Nat} (hi : i < page.rowCount) {c : Column}
    (hc : c ∈ j.lookup.leftColumns) : ∃ v, page.value i c.table c.name = .ok v

theorem reports_store (n : Node) (e : StoreError) : n.Reports (.store e) := nofun

theorem list_always (b : Backend σ) (keys : List String) :
    ReadM.Always j.node.Reports (fun _ => True) (j.list b keys) := by
  have hfrom : ∀ fuel state found, ReadM.Always j.node.Reports (fun _ => True)
      (j.listFrom b keys fuel state found) := by
    intro fuel
    induction fuel with
    | zero => exact fun _ _ => .pure trivial
    | succ fuel ih =>
      intro state found
      unfold listFrom
      refine (ReadM.Always.call (reports_store j.node) _).bind fun r _ => ?_
      obtain ⟨entries, next⟩ := r
      cases next with
      | none => exact .pure trivial
      | some state => exact ih (some state) _
  exact (ReadM.Always.peek _).bind fun bound _ => hfrom _ _ _

theorem dataChunk_always (hj : j.Prepared columns right) (b : Backend σ) (hempty : empty.Typed right)
    (keyOf : List (Int64 × String)) (places : Assoc (List Nat)) (ids : List Int64)
    (hp : p.Fine j columns) : ReadM.Always j.node.Reports (fun p => p.Fine j columns)
      (j.dataChunk b empty keyOf places ids p) := by
  refine (ReadM.Always.call (reports_store j.node) _).bind fun rows _ => ?_
  refine (ReadM.Always.lift (Node.reports_ofTable (RowPage.nameless_fill hempty _))).bind
    fun page hpage => ?_
  refine (ReadM.Always.lift (rightRows_fine hj.binds hpage hj.distinct_right hj.rowid_right keyOf
    places _ hp)).bind fun r hr => ?_
  exact (ReadM.Always.hand _).bind fun _ _ => .pure hr

theorem keyChunk_always (hj : j.Prepared columns right) (b : Backend σ) (hempty : empty.Typed right)
    (places : Assoc (List Nat)) (keys : List String) (hp : p.Fine j columns) :
    ReadM.Always j.node.Reports (fun p => p.Fine j columns) (j.keyChunk b empty places keys p) :=
  (list_always b keys).bind fun keyOf _ =>
    .foldlM (fun _ ids hp => dataChunk_always hj b hempty keyOf places ids hp) hp

theorem page_always (hj : j.Prepared columns right) (b : Backend σ) (hempty : empty.Typed right)
    (size : Nat) (hpage : page.Typed columns) :
    ReadM.Always j.node.Reports (fun _ => True) (j.page b empty size page) := by
  refine (ReadM.Always.lift (start_fine hj.binds hpage hj.distinct)).bind fun p hp => ?_
  have hkeyed := keyPlaces_fine (fun i hi c hc => hj.keyed hpage hi hc)
    (fun i hi => List.mem_range.1 hi) hp []
  rcases hplaces : j.keyPlaces page (List.range page.rowCount) [] p with ⟨places, p'⟩
  rw [hplaces] at hkeyed
  dsimp only
  refine (ReadM.Always.foldlM (fun _ keys hp => keyChunk_always hj b hempty places keys hp)
    hkeyed).bind fun q hq => ?_
  have hfinish := finish_allows hj.binds hq.rows fun e he => (hq.errors e he).allows j.node
  rcases hlast : j.finish q.rows q.errors with ⟨items, errors⟩
  rw [hlast] at hfinish
  refine (ReadM.Always.hand items).bind fun _ _ => ?_
  by_cases hnone : errors.isEmpty = true
  · simp only [hnone]
    exact .pure trivial
  · simp only [hnone]
    exact .throw hfinish

end Join

end TableMill
