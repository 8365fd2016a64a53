import TableMill.Proofs.JoinPage

/-!
# One left row

A left row of a page makes of its right rows what the nested loop makes of them, although it
only sees the columns of the page.
-/

namespace TableMill

theorem Table.record_congr {t : Table} {now : DateTime} {b b' : Bindings}
    (h : ∀ f ∈ t.fields, Bindings.AgreeOn f.expr.selectors b b') :
    t.record now b = t.record now b' := by
  have hfields : (t.fields.map fun f => (f.name, (f.calculate now b none).1)) =
      t.fields.map fun f => (f.name, (f.calculate now b' none).1) := by
    apply List.map_congr_left
    intro f hf
    rw [Field.calculate_congr (h f hf)]
  simp only [record, hfields]

theorem Field.feed_congr {f : Field} {now : DateTime} {bs bs' : List Bindings}
    (h : List.Forall₂ (Bindings.AgreeOn f.expr.selectors) bs bs') (s : Option Aggregation)
    (last : Option Value) : f.feed now bs s last = f.feed now bs' s last := by
  induction h generalizing s last with
  | nil => rfl
  | @cons b b' rest rest' hb _ ih =>
    simp only [feed, Field.calculate_congr hb, ih]

structure Cell where
  field : Field
  state : Option Aggregation
  value : Option Value

namespace Cell

def next (now : DateTime) (vars : Bindings) (c : Cell) : Cell :=
  let step := c.field.calculate now vars c.state
  ⟨c.field, step.2, step.1.toOption⟩

def Ends (now : DateTime) (rows : List Bindings) (c : Cell) (last : Option Value) : Prop :=
  c.field.feed now rows c.state c.value = .ok last

theorem ends_cons {now : DateTime} {vars : Bindings} {rest : List Bindings} {c : Cell}
    {last : Option Value} (h : c.Ends now (vars :: rest) last) :
    (∃ v, (c.field.calculate now vars c.state).1 = .ok v) ∧ (c.next now vars).Ends now rest last := by
  simp only [Ends, Field.feed] at h
  simp only [Ends, next]
  rcases hcalc : c.field.calculate now vars c.state with ⟨e | v, s⟩
  · simp [hcalc] at h
  · simp only [hcalc] at h
    exact ⟨⟨v, rfl⟩, h⟩

end Cell

namespace Join

variable {j : Join}

theorem feedFields_cells {vars : Bindings} {cells : List Cell}
    (h : ∀ c ∈ cells, ∃ v, (c.field.calculate j.now vars c.state).1 = .ok v) :
    j.feedFields vars (cells.map Cell.field) (cells.map Cell.state) =
      .ok ((cells.map (Cell.next j.now vars)).map Cell.state,
        (cells.map (Cell.next j.now vars)).map Cell.value) := by
  induction cells with
  | nil => rfl
  | cons c rest ih =>
    obtain ⟨v, hv⟩ := h c List.mem_cons_self
    have hrest := ih fun d hd => h d (List.mem_cons_of_mem _ hd)
    simp only [List.map_cons, feedFields, Cell.next] at hrest ⊢
    rcases hcalc : c.field.calculate j.now vars c.state with ⟨outcome, s⟩
    rw [hcalc] at hv
    obtain rfl : outcome = .ok v := hv
    simp only [hrest]
    rfl

theorem item_eq_ok (hw : j.writer.indexes = j.node.output.indexes) (context : RowContext)
    {record : Record} {item : Option Item} :
    j.item context record = .ok item ↔ j.node.output.item? j.now record = .ok item := by
  have hitem : j.node.output.item? j.now record =
      (j.node.output.meetsHaving j.now record >>= fun met =>
        if met then j.writer.keys record >>= fun keys => .ok (some ⟨record, keys⟩)
        else .ok none) := by
    rw [Writer.keys, hw]
    rfl
  rw [hitem, Join.item]
  cases j.node.output.meetsHaving j.now record with
  | error e => simp [bind, Except.bind]
  | ok met =>
    cases met with
    | false => simp [bind, Except.bind]
    | true => cases j.writer.keys record <;> simp [bind, Except.bind]

/-- The columns of the pages show every expression what the stored rows would show it. -/
structure Sees (j : Join) (columns rightColumns : Columns) : Prop where
  filter (m : Row) : j.lookup.passes j.now (rightColumns.bindBy m.pagedIn) =
    j.lookup.passes j.now (m.bound j.lookup.rightColumns)
  left (r : Row) : ∀ f ∈ j.node.output.fields, Bindings.AgreeOn f.expr.selectors
    (columns.bindBy r.pagedIn) (r.bound j.node.readerColumns)
  pair (r m : Row) : ∀ f ∈ j.node.output.fields, Bindings.AgreeOn f.expr.selectors
    (Assoc.merge (columns.bindBy r.pagedIn) (rightColumns.bindBy m.pagedIn))
    (Assoc.merge (r.bound j.node.readerColumns) (m.bound j.lookup.rightColumns))

variable {columns rightColumns : Columns}

theorem passing_cons {m : Row} {rest found : List Row}
    (h : j.lookup.passing j.now (m :: rest) = .ok found) :
    ∃ passes more, j.lookup.passes j.now (m.bound j.lookup.rightColumns) = .ok passes ∧
      j.lookup.passing j.now rest = .ok more ∧ found = if passes then m :: more else more := by
  obtain ⟨passes, hpasses, h⟩ := bind_eq_ok.1 h
  obtain ⟨more, hmore, h⟩ := bind_eq_ok.1 h
  exact ⟨passes, more, hpasses, hmore, (Except.ok.inj h).symm⟩

theorem meet_false (hj : j.Sees columns rightColumns) {m : Row} (row : LeftRow)
    (h : j.lookup.passes j.now (m.bound j.lookup.rightColumns) = .ok false) :
    j.meet row (arrivalAt rightColumns [] m) = (row, []) := by
  have hpass := (hj.filter m).trans h
  simp only [meet, arrivalAt, hpass]

theorem meet_true (hj : j.Sees columns rightColumns) {m : Row} (row : LeftRow)
    (h : j.lookup.passes j.now (m.bound j.lookup.rightColumns) = .ok true) :
    j.meet row (arrivalAt rightColumns [] m) =
      ((j.pair row (rightColumns.bindBy m.pagedIn) m.rowid).1,
        outcomeItems (j.pair row (rightColumns.bindBy m.pagedIn) m.rowid).2) := by
  have hpass := (hj.filter m).trans h
  simp only [meet, arrivalAt, hpass]

/-- Pairs of a left row that is not grouped give one record each. -/
theorem meetAll_pairs (hj : j.Sees columns rightColumns)
    (hw : j.writer.indexes = j.node.output.indexes) {r : Row} (row : LeftRow)
    (hvars : row.vars = columns.bindBy r.pagedIn) (hfailed : row.failed = false)
    (hgroup : row.group = none) {rows found : List Row} {records : List Record}
    {items : List (Option Item)} (hfound : j.lookup.passing j.now rows = .ok found)
    (hrecords : (found.map fun m => Assoc.merge (r.bound j.node.readerColumns)
      (m.bound j.lookup.rightColumns)).mapM (j.node.output.record j.now) = .ok records)
    (hitems : records.mapM (j.node.output.item? j.now) = .ok items) :
    j.meetAll row (rows.map (arrivalAt rightColumns [])) =
      ({ row with matched := row.matched || !found.isEmpty }, items.filterMap id) := by
  induction rows generalizing row found records items with
  | nil =>
    obtain rfl := Except.ok.inj hfound
    obtain rfl : records = [] := by simpa using (mapM_eq_ok.1 hrecords)
    obtain rfl : items = [] := by simpa using (mapM_eq_ok.1 hitems)
    simp [meetAll]
  | cons m rest ih =>
    obtain ⟨passes, more, hpasses, hmore, rfl⟩ := passing_cons hfound
    rw [List.map_cons, meetAll_cons]
    cases passes with
    | false =>
      rw [meet_false hj row hpasses]
      exact ih row hvars hfailed hgroup hmore hrecords hitems
    | true =>
      rw [meet_true hj row hpasses]
      simp only [if_true, List.map_cons, mapM_eq_ok, List.forall₂_cons_left_iff] at hrecords
      obtain ⟨record, records', hrecord, hrecords', rfl⟩ := hrecords
      simp only [mapM_eq_ok, List.forall₂_cons_left_iff] at hitems
      obtain ⟨item, items', hitem, hitems', rfl⟩ := hitems
      have hrecord' : j.node.output.record j.now
          (Assoc.merge row.vars (rightColumns.bindBy m.pagedIn)) = .ok record := by
        rw [hvars, Table.record_congr (hj.pair r m)]
        exact hrecord
      have hpair : j.pair row (rightColumns.bindBy m.pagedIn) m.rowid =
          ({ row with matched := true }, .ok item) := by
        simp only [pair, hfailed, Bool.false_eq_true, if_false, hgroup, hrecord',
          (item_eq_ok hw row.context).2 hitem]
      rw [hpair]
      have hrest := ih { row with matched := true } hvars hfailed hgroup hmore
        (mapM_eq_ok.2 hrecords') (mapM_eq_ok.2 hitems')
      simp only [hrest]
      cases item <;> simp [outcomeItems]

/-- Pairs of a grouped left row are taken into its aggregations. -/
theorem meetAll_group (hj : j.Sees columns rightColumns) {r : Row} (row : LeftRow)
    (hvars : row.vars = columns.bindBy r.pagedIn) (hfailed : row.failed = false)
    {cells : List Cell} (hfields : j.node.output.fields = cells.map Cell.field)
    (hgroup : row.group = some ⟨cells.map Cell.state, cells.map Cell.value⟩)
    {rows found : List Row} {lasts : List (Option Value)}
    (hfound : j.lookup.passing j.now rows = .ok found)
    (hends : List.Forall₂ (Cell.Ends j.now (found.map fun m =>
      Assoc.merge (columns.bindBy r.pagedIn) (rightColumns.bindBy m.pagedIn))) cells lasts) :
    ∃ states, j.meetAll row (rows.map (arrivalAt rightColumns [])) =
      ({ row with
          matched := row.matched || !found.isEmpty
          group := some ⟨states, lasts⟩ }, []) := by
  induction rows generalizing row found cells with
  | nil =>
    obtain rfl := Except.ok.inj hfound
    have hlasts : cells.map Cell.value = lasts := by
      have heq : List.Forall₂ (fun c last => Cell.value c = last) cells lasts :=
        hends.imp fun c last h => Except.ok.inj h
      rw [← List.forall₂_eq_eq_eq]
      exact List.forall₂_map_left_iff.2 heq
    refine ⟨cells.map Cell.state, ?_⟩
    rw [hlasts] at hgroup
    obtain ⟨context, vars, matched, failed, group⟩ := row
    obtain rfl : group = _ := hgroup
    simp [meetAll]
  | cons m rest ih =>
    obtain ⟨passes, more, hpasses, hmore, rfl⟩ := passing_cons hfound
    rw [List.map_cons, meetAll_cons]
    cases passes with
    | false =>
      rw [meet_false hj row hpasses]
      exact ih row hvars hfailed hfields hgroup hmore hends
    | true =>
      rw [meet_true hj row hpasses]
      simp only [if_true, List.map_cons] at hends
      obtain ⟨hok, hnext⟩ := (List.forall₂_and_left _ _).1 (hends.imp fun c last h => Cell.ends_cons h)
      have hfed := feedFields_cells hok
      have hpair : j.pair row (rightColumns.bindBy m.pagedIn) m.rowid =
          ({ row with
              matched := true
              group := some ⟨(cells.map (Cell.next j.now (Assoc.merge (columns.bindBy r.pagedIn)
                  (rightColumns.bindBy m.pagedIn)))).map Cell.state,
                (cells.map (Cell.next j.now (Assoc.merge (columns.bindBy r.pagedIn)
                  (rightColumns.bindBy m.pagedIn)))).map Cell.value⟩ }, .ok none) := by
        simp only [pair, hfailed, Bool.false_eq_true, if_false, hgroup, hvars, hfields, hfed]
      have hfields' : j.node.output.fields = (cells.map (Cell.next j.now (Assoc.merge
          (columns.bindBy r.pagedIn) (rightColumns.bindBy m.pagedIn)))).map Cell.field := by
        rw [hfields, List.map_map]
        rfl
      rw [hpair]
      obtain ⟨states, hrest⟩ := ih { row with
        matched := true
        group := _ } hvars hfailed hfields' rfl hmore (List.forall₂_map_left_iff.2 hnext)
      refine ⟨states, ?_⟩
      simp only [hrest]
      simp [outcomeItems]

theorem freshCells {t : Table} {g : Group} (h : t.freshGroup = .ok g) :
    ∃ cells : List Cell, t.fields = cells.map Cell.field ∧
      g = ⟨cells.map Cell.state, cells.map Cell.value⟩ ∧
      ∀ c ∈ cells, Aggregation.forExpr c.field.expr = .ok c.state ∧ c.value = none := by
  obtain ⟨states, hbind, hg⟩ := bind_eq_ok.1 h
  obtain rfl := Except.ok.inj hg
  have hstates := mapM_eq_ok.1 hbind
  clear h hg hbind
  generalize t.fields = fields at *
  induction hstates with
  | nil => exact ⟨[], rfl, rfl, by simp⟩
  | @cons f s fs ss hs _ ih =>
    obtain ⟨cells, hfields, hgroup, hcells⟩ := ih
    obtain ⟨hstates, hvalues⟩ := Group.mk.inj hgroup
    refine ⟨⟨f, s, none⟩ :: cells, by simp [hfields], by simp [hstates, hvalues], ?_⟩
    intro c hc
    rcases List.mem_cons.1 hc with rfl | hc
    · exact ⟨hs, rfl⟩
    · exact hcells c hc

/-- The record of a group is what its fields gather. -/
theorem groupedRecord_cells {rows : List Bindings} {cells : List Cell} {record : Record}
    (hcells : ∀ c ∈ cells, Aggregation.forExpr c.field.expr = .ok c.state ∧ c.value = none)
    (h : (cells.map Cell.field).mapM (fun f => do
      let v ← f.gather j.now rows
      .ok (f.name, v)) = .ok record)
    (hfields : j.node.output.fields = cells.map Cell.field) :
    ∃ lasts, List.Forall₂ (Cell.Ends j.now rows) cells lasts ∧
      ∀ states, j.groupedRecord ⟨states, lasts⟩ = .ok record := by
  simp only [groupedRecord, hfields, mapM_eq_ok]
  clear hfields
  replace h := mapM_eq_ok.1 h
  induction cells generalizing record with
  | nil =>
    obtain rfl : record = [] := by simpa using h
    exact ⟨[], .nil, fun _ => by simp⟩
  | cons c rest ih =>
    rw [List.map_cons, List.forall₂_cons_left_iff] at h
    obtain ⟨e, record', he, hrecord, rfl⟩ := h
    obtain ⟨v, hv, he⟩ := bind_eq_ok.1 he
    obtain rfl := Except.ok.inj he
    obtain ⟨lasts, hlasts, hgrouped⟩ := ih (fun d hd => hcells d (List.mem_cons_of_mem _ hd)) hrecord
    obtain ⟨hstate, hvalue⟩ := hcells c List.mem_cons_self
    simp only [Field.gather, hstate] at hv
    obtain ⟨last, hlast, hv⟩ := bind_eq_ok.1 hv
    refine ⟨last :: lasts, .cons ?_ hlasts, fun states => ?_⟩
    · rw [Cell.Ends, hvalue]
      exact hlast
    · rw [List.map_cons, List.zip_cons_cons]
      refine .cons ?_ (hgrouped states)
      cases last with
      | some u => rw [Except.ok.inj hv]
      | none => simp only [hv]

theorem unmatchedRecord_eq_ok (hj : j.Sees columns rightColumns) {r : Row} {row : LeftRow}
    (hvars : row.vars = columns.bindBy r.pagedIn) {record : Record} :
    j.unmatchedRecord row = .ok record ↔
      j.node.loneRecord j.lookup j.now (r.bound j.node.readerColumns) = .ok record := by
  refine mapM_eq_ok_congr fun f hf e => ?_
  rw [hvars, Field.calculate_congr (hj.left r f hf) none, Node.loneValue, ← takesDefault]
  cases j.takesDefault f with
  | true => cases f.defaultValue <;> simp [bind, Except.bind]
  | false =>
    cases (f.calculate j.now (r.bound j.node.readerColumns) none).1 <;> simp [bind, Except.bind]

theorem lastOutcome_unmatched (hj : j.Sees columns rightColumns)
    (hw : j.writer.indexes = j.node.output.indexes) {r : Row} (row : LeftRow)
    (hvars : row.vars = columns.bindBy r.pagedIn) (hfailed : row.failed = false)
    (hmatched : row.matched = false) {records : List Record} {items : List (Option Item)}
    (hrecords : j.node.joinRecords j.lookup j.now (r.bound j.node.readerColumns) [] = .ok records)
    (hitems : records.mapM (j.node.output.item? j.now) = .ok items) :
    ∃ item, j.lastOutcome row = .ok item ∧ item.toList = items.filterMap id := by
  simp only [Node.joinRecords, List.isEmpty_nil, if_true] at hrecords
  unfold lastOutcome lastRecord?
  simp only [hfailed, Bool.false_eq_true, if_false, hmatched]
  cases hjoin : j.lookup.join with
  | inner =>
    rw [hjoin] at hrecords
    obtain rfl := Except.ok.inj hrecords
    obtain rfl : items = [] := by simpa using mapM_eq_ok.1 hitems
    refine ⟨none, ?_, rfl⟩
    cases row.group <;> rfl
  | left =>
    rw [hjoin] at hrecords
    obtain ⟨record, hrecord, hrecords⟩ := bind_eq_ok.1 hrecords
    obtain rfl := Except.ok.inj hrecords
    simp only [mapM_eq_ok, List.forall₂_cons_left_iff, List.forall₂_nil_left_iff] at hitems
    obtain ⟨item, _, hitem, rfl, rfl⟩ := hitems
    refine ⟨item, ?_, by cases item <;> simp⟩
    have hlone := (unmatchedRecord_eq_ok hj hvars).2 hrecord
    cases row.group with
    | none => simpa only [hlone, Except.bind] using (item_eq_ok hw row.context).2 hitem
    | some g => simpa only [hlone, Except.bind] using (item_eq_ok hw row.context).2 hitem

/-- Seen from the pages, a pair shows every cell the same. -/
theorem ends_of_pairs (hj : j.Sees columns rightColumns) {r : Row} {cells : List Cell}
    (hfields : j.node.output.fields = cells.map Cell.field) (found : List Row)
    {lasts : List (Option Value)} :
    List.Forall₂ (Cell.Ends j.now (found.map fun m =>
      Assoc.merge (columns.bindBy r.pagedIn) (rightColumns.bindBy m.pagedIn))) cells lasts ↔
    List.Forall₂ (Cell.Ends j.now (found.map fun m =>
      Assoc.merge (r.bound j.node.readerColumns) (m.bound j.lookup.rightColumns))) cells lasts := by
  have hpair : ∀ c ∈ cells, ∀ last, Cell.Ends j.now (found.map fun m =>
      Assoc.merge (columns.bindBy r.pagedIn) (rightColumns.bindBy m.pagedIn)) c last ↔
      Cell.Ends j.now (found.map fun m =>
        Assoc.merge (r.bound j.node.readerColumns) (m.bound j.lookup.rightColumns)) c last := by
    intro c hc last
    have hagree := fun m => hj.pair r m c.field (hfields ▸ List.mem_map_of_mem hc)
    rw [Cell.Ends, Cell.Ends, Field.feed_congr (List.forall₂_map_right_iff.2
      (List.forall₂_map_left_iff.2 (List.forall₂_same.2 fun m _ => hagree m)))]
  clear hfields
  induction cells generalizing lasts with
  | nil => simp
  | cons c cells ih =>
    have hrest : ∀ more, List.Forall₂ _ cells more ↔ List.Forall₂ _ cells more :=
      fun more => ih fun d hd => hpair d (List.mem_cons_of_mem _ hd)
    simp only [List.forall₂_cons_left_iff, hpair c List.mem_cons_self, hrest]

/-- Whether a left row that meets right rows ends without a failure, having given items. -/
def Gives (j : Join) (columns rightColumns : Columns) (r : Row) (rows : List Row)
    (items : List Item) : Prop :=
  ∃ row made item, j.meetAll (j.freshRow columns r) (rows.map (arrivalAt rightColumns [])) =
      (row, made) ∧ row.failed = false ∧ j.lastOutcome row = .ok item ∧
    made ++ item.toList = items

section Modes

variable {r : Row} {rows found : List Row} {records : List Record} {outs : List (Option Item)}

theorem gives_pairs (hj : j.Sees columns rightColumns)
    (hw : j.writer.indexes = j.node.output.indexes) (hgrouped : ¬j.lookup.grouped = true)
    (hfound : j.lookup.passing j.now rows = .ok found)
    (hrecords : j.node.joinRecords j.lookup j.now (r.bound j.node.readerColumns)
      (found.map fun m => m.bound j.lookup.rightColumns) = .ok records)
    (houts : records.mapM (j.node.output.item? j.now) = .ok outs) :
    j.Gives columns rightColumns r rows (outs.filterMap id) := by
  have hstart : (j.freshRow columns r).group = none := by
    simp only [freshRow, startGroup, hgrouped]
    rfl
  cases found with
  | nil =>
    have hmeet := meetAll_pairs hj hw (j.freshRow columns r) rfl rfl hstart hfound
      (mapM_eq_ok.2 .nil) (mapM_eq_ok.2 .nil)
    obtain ⟨item, hlast, hitem⟩ := lastOutcome_unmatched hj hw
      { j.freshRow columns r with matched := false } rfl rfl rfl hrecords houts
    exact ⟨_, [], item, hmeet, rfl, hlast, hitem⟩
  | cons m more =>
    simp only [Node.joinRecords, List.isEmpty_map, List.isEmpty_cons, Bool.false_eq_true,
      if_false, hgrouped, List.map_map] at hrecords
    have hmeet := meetAll_pairs hj hw (j.freshRow columns r) rfl rfl hstart hfound hrecords houts
    refine ⟨_, _, none, hmeet, rfl, ?_, by simp⟩
    simp only [lastOutcome, lastRecord?, hstart]
    rfl

theorem gives_group (hj : j.Sees columns rightColumns)
    (hw : j.writer.indexes = j.node.output.indexes) (hgrouped : j.lookup.grouped = true)
    {g : Group} (hg : j.node.output.freshGroup = .ok g)
    (hfound : j.lookup.passing j.now rows = .ok found)
    (hrecords : j.node.joinRecords j.lookup j.now (r.bound j.node.readerColumns)
      (found.map fun m => m.bound j.lookup.rightColumns) = .ok records)
    (houts : records.mapM (j.node.output.item? j.now) = .ok outs) :
    j.Gives columns rightColumns r rows (outs.filterMap id) := by
  obtain ⟨cells, hfields, rfl, hcells⟩ := freshCells hg
  have hstart : (j.freshRow columns r).group =
      some ⟨cells.map Cell.state, cells.map Cell.value⟩ := by
    simp only [freshRow, startGroup, hgrouped, if_true, hg]
    rfl
  cases found with
  | nil =>
    have hends : List.Forall₂ (Cell.Ends j.now ([].map fun m : Row => Assoc.merge
        (columns.bindBy r.pagedIn) (rightColumns.bindBy m.pagedIn))) cells
        (cells.map Cell.value) :=
      List.forall₂_map_right_iff.2 (List.forall₂_same.2 fun c _ => rfl)
    obtain ⟨states, hmeet⟩ := meetAll_group hj (j.freshRow columns r) rfl rfl hfields hstart
      hfound hends
    obtain ⟨item, hlast, hitem⟩ := lastOutcome_unmatched hj hw
      { j.freshRow columns r with
        matched := false
        group := some ⟨states, cells.map Cell.value⟩ } rfl rfl rfl hrecords houts
    exact ⟨_, [], item, hmeet, rfl, hlast, hitem⟩
  | cons m more =>
    simp only [Node.joinRecords, List.isEmpty_map, List.isEmpty_cons, Bool.false_eq_true,
      if_false, hgrouped, if_true, List.map_map] at hrecords
    obtain ⟨record, hrecord, hrecords⟩ := bind_eq_ok.1 hrecords
    obtain rfl := Except.ok.inj hrecords
    simp only [mapM_eq_ok, List.forall₂_cons_left_iff, List.forall₂_nil_left_iff] at houts
    obtain ⟨item, _, hitem, rfl, rfl⟩ := houts
    rw [Node.gatheredRecord, hfields] at hrecord
    obtain ⟨lasts, hends, hgathered⟩ := groupedRecord_cells hcells hrecord hfields
    have hends' := (ends_of_pairs hj hfields (m :: more)).2 hends
    obtain ⟨states, hmeet⟩ := meetAll_group hj (j.freshRow columns r) rfl rfl hfields hstart
      hfound hends'
    refine ⟨_, [], item, hmeet, rfl, ?_, by cases item <;> simp⟩
    show (j.groupedRecord ⟨states, lasts⟩).bind (j.item (j.freshRow columns r).context) = .ok item
    rw [hgathered]
    exact (item_eq_ok hw _).2 hitem

end Modes

/-- Alone, a left row hands over what the nested loop makes of it. -/
theorem one_eq (hj : j.Sees columns rightColumns)
    (hw : j.writer.indexes = j.node.output.indexes)
    (hgroup : j.lookup.grouped = true → ∃ g, j.node.output.freshGroup = .ok g)
    {right : StoredTable} {ix : StoredIndex} {r : Row} {items : List Item}
    (h : j.node.joinRow j.lookup j.now right ix r = .ok items) :
    j.CleanOne columns rightColumns right ix r ∧
      j.itemsOne columns rightColumns right ix r = items := by
  obtain ⟨found, hmatching, h⟩ := bind_eq_ok.1 h
  obtain ⟨key, hkey, hfound⟩ := bind_eq_ok.1 hmatching
  obtain ⟨records, hrecords, h⟩ := bind_eq_ok.1 h
  obtain ⟨outs, houts, h⟩ := bind_eq_ok.1 h
  obtain rfl := Except.ok.inj h
  have hgives : j.Gives columns rightColumns r (Lookup.listed right ix key) (outs.filterMap id) := by
    by_cases hgrouped : j.lookup.grouped = true
    · obtain ⟨g, hg⟩ := hgroup hgrouped
      exact gives_group hj hw hgrouped hg hfound hrecords houts
    · exact gives_pairs hj hw hgrouped hfound hrecords houts
  obtain ⟨row, made, item, hmeet, hfailed, hlast, hsum⟩ := hgives
  have hone : j.joinOne columns rightColumns right ix r = (row, made) := by
    rw [← hmeet]
    simp only [joinOne, hkey]
  unfold CleanOne itemsOne
  simp only [hone, hlast, outcomeErrors, outcomeItems]
  exact ⟨⟨hfailed, trivial⟩, hsum⟩

end Join
end TableMill
