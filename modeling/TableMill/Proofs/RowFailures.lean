import TableMill.Proofs.JoinRow

/-!
# Left rows that fail

A left row fails on a page if and only if the nested loop fails on it. By then a row that is not
grouped has handed over what its pairs gave before the first one that fails.
-/

namespace TableMill

namespace Node

variable (n : Node) (l : Lookup) (now : DateTime)

/-- What a left row gives with one right row: nothing if the right row does not pass. -/
def pairItem (left m : Row) : TableResult (Option Item) := do
  let passes ← l.passes now (m.bound l.rightColumns)
  if passes then
    let record ← n.output.record now
      (Assoc.merge (left.bound n.readerColumns) (m.bound l.rightColumns))
    n.output.item? now record
  else .ok none

/-- What a left row gives with right rows, up to the first pair that fails. -/
def itemsBefore (left : Row) : List Row → List Item
  | [] => []
  | m :: rest => match n.pairItem l now left m with
    | .ok item => item.toList ++ itemsBefore left rest
    | .error _ => []

/-- What a left row that fails hands over all the same. -/
def leftover (right : StoredTable) (ix : StoredIndex) (left : Row) : List Item :=
  if l.grouped then []
  else match l.rowKey left with
    | .ok key => n.itemsBefore l now left (Lookup.listed right ix key)
    | .error _ => []

/-- What a left row hands over on a page, whether it fails or not. -/
def share (right : StoredTable) (ix : StoredIndex) (left : Row) : List Item :=
  match n.joinRow l now right ix left with
  | .ok items => items
  | .error _ => n.leftover l now right ix left

variable {n l now}

theorem matches_of_pairItems {left : Row} {rows : List Row}
    (h : ∀ m ∈ rows, ∃ item, n.pairItem l now left m = .ok item) :
    ∃ found records items, l.passing now rows = .ok found ∧
      (found.map fun m => Assoc.merge (left.bound n.readerColumns)
        (m.bound l.rightColumns)).mapM (n.output.record now) = .ok records ∧
      records.mapM (n.output.item? now) = .ok items := by
  induction rows with
  | nil => exact ⟨[], [], [], rfl, rfl, rfl⟩
  | cons m rest ih =>
    obtain ⟨item, hitem⟩ := h m List.mem_cons_self
    obtain ⟨found, records, items, hfound, hrecords, hitems⟩ :=
      ih fun m' hm' => h m' (List.mem_cons_of_mem _ hm')
    obtain ⟨passes, hpasses, hitem⟩ := bind_eq_ok.1 hitem
    have hcons : l.passing now (m :: rest) = .ok (if passes then m :: found else found) :=
      bind_eq_ok.2 ⟨passes, hpasses, bind_eq_ok.2 ⟨found, hfound, rfl⟩⟩
    cases passes with
    | false => exact ⟨found, records, items, hcons, hrecords, hitems⟩
    | true =>
      obtain ⟨record, hrecord, hitem⟩ := bind_eq_ok.1 hitem
      refine ⟨m :: found, record :: records, item :: items, hcons, ?_, ?_⟩
      · exact mapM_eq_ok.2 (.cons hrecord (mapM_eq_ok.1 hrecords))
      · exact mapM_eq_ok.2 (.cons hitem (mapM_eq_ok.1 hitems))

end Node

namespace Join

variable {j : Join} {columns rightColumns : Columns}

theorem outcomeErrors_eq_nil {outcome : Except RowError (Option Item)} :
    outcomeErrors outcome = [] ↔ ∃ item, outcome = .ok item := by
  cases outcome <;> simp [outcomeErrors]

theorem meet_failed {row : LeftRow} (h : row.failed = true) (a : Arrival) :
    j.meet row a = (row, []) := by
  have hpair : j.pair row a.vars a.rowid = (row, .ok none) := if_pos h
  unfold meet
  cases j.lookup.passes j.now a.vars with
  | error e =>
    obtain ⟨context, vars, matched, failed, group⟩ := row
    obtain rfl : failed = true := h
    rfl
  | ok passes =>
    cases passes with
    | false => rfl
    | true => simp only [hpair, outcomeItems, Option.toList_none]

theorem meetAll_failed {row : LeftRow} (h : row.failed = true) (as : List Arrival) :
    j.meetAll row as = (row, []) := by
  induction as with
  | nil => rfl
  | cons a rest ih => simp only [meetAll_cons, meet_failed h, ih, List.nil_append]

theorem meet_error (hj : j.Sees columns rightColumns) {m : Row} (row : LeftRow) {e : TableError}
    (h : j.lookup.passes j.now (m.bound j.lookup.rightColumns) = .error e) :
    j.meet row (arrivalAt rightColumns [] m) = ({ row with failed := true }, []) := by
  have hpass := (hj.filter m).trans h
  simp only [meet, arrivalAt, hpass]

section Pairs

variable {r : Row} {row : LeftRow}

theorem meet_of_pairItem_ok (hj : j.Sees columns rightColumns)
    (hw : j.writer.indexes = j.node.output.indexes) (hvars : row.vars = columns.bindBy r.pagedIn)
    (hfailed : row.failed = false) (hgroup : row.group = none) {m : Row} {item : Option Item}
    (h : j.node.pairItem j.lookup j.now r m = .ok item) :
    ∃ matched, j.meet row (arrivalAt rightColumns [] m) =
      ({ row with matched := matched }, item.toList) := by
  obtain ⟨passes, hpasses, h⟩ := bind_eq_ok.1 h
  cases passes with
  | false =>
    obtain rfl := Except.ok.inj h
    exact ⟨row.matched, meet_false hj row hpasses⟩
  | true =>
    obtain ⟨record, hrecord, hitem⟩ := bind_eq_ok.1 h
    rw [← Table.record_congr (hj.pair r m), ← hvars] at hrecord
    refine ⟨true, ?_⟩
    rw [meet_true hj row hpasses]
    simp only [pair, hfailed, Bool.false_eq_true, if_false, hgroup, hrecord,
      (item_eq_ok hw row.context).2 hitem, outcomeItems]

/-- A pair that fails makes the left row fail. -/
theorem meet_of_pairItem_error (hj : j.Sees columns rightColumns)
    (hw : j.writer.indexes = j.node.output.indexes) (hvars : row.vars = columns.bindBy r.pagedIn)
    (hfailed : row.failed = false) (hgroup : row.group = none) {m : Row} {e : TableError}
    (h : j.node.pairItem j.lookup j.now r m = .error e) :
    (j.meet row (arrivalAt rightColumns [] m)).1.failed = true ∧
      (j.meet row (arrivalAt rightColumns [] m)).2 = [] := by
  cases hpasses : j.lookup.passes j.now (m.bound j.lookup.rightColumns) with
  | error e => simp [meet_error hj row hpasses]
  | ok passes =>
    simp only [Node.pairItem, hpasses, bind, Except.bind] at h
    cases passes with
    | false => simp at h
    | true =>
      rw [meet_true hj row hpasses]
      rw [← Table.record_congr (hj.pair r m), ← hvars] at h
      cases hrecord : j.node.output.record j.now
          (Assoc.merge row.vars (rightColumns.bindBy m.pagedIn)) with
      | error e => simp [pair, hfailed, hgroup, hrecord, outcomeItems]
      | ok record =>
        simp only [hrecord, if_true] at h
        cases hitem : j.item row.context record with
        | ok item => simp [(item_eq_ok hw _).1 hitem] at h
        | error e => simp [pair, hfailed, hgroup, hrecord, hitem, outcomeItems]

/-- Of a left row that is not grouped, the pairs before the first one that fails are handed
over. -/
theorem meetAll_itemsBefore (hj : j.Sees columns rightColumns)
    (hw : j.writer.indexes = j.node.output.indexes) (hvars : row.vars = columns.bindBy r.pagedIn)
    (hfailed : row.failed = false) (hgroup : row.group = none) (rows : List Row) :
    (j.meetAll row (rows.map (arrivalAt rightColumns []))).2 =
      j.node.itemsBefore j.lookup j.now r rows := by
  induction rows generalizing row with
  | nil => rfl
  | cons m rest ih =>
    rw [List.map_cons, meetAll_cons, Node.itemsBefore]
    cases hpair : j.node.pairItem j.lookup j.now r m with
    | error e =>
      obtain ⟨hmet, hitems⟩ := meet_of_pairItem_error hj hw hvars hfailed hgroup hpair
      simp only [meetAll_failed hmet, hitems, List.append_nil]
    | ok item =>
      obtain ⟨matched, hmet⟩ := meet_of_pairItem_ok hj hw hvars hfailed hgroup hpair
      have hrest := @ih { row with matched := matched } hvars hfailed hgroup
      simp only [hmet, hrest]

theorem pairItem_of_meetAll (hj : j.Sees columns rightColumns)
    (hw : j.writer.indexes = j.node.output.indexes) (hvars : row.vars = columns.bindBy r.pagedIn)
    (hfailed : row.failed = false) (hgroup : row.group = none) {rows : List Row}
    (h : (j.meetAll row (rows.map (arrivalAt rightColumns []))).1.failed = false) :
    ∀ m ∈ rows, ∃ item, j.node.pairItem j.lookup j.now r m = .ok item := by
  induction rows generalizing row with
  | nil => simp
  | cons m rest ih =>
    rw [List.map_cons, meetAll_cons] at h
    cases hpair : j.node.pairItem j.lookup j.now r m with
    | error e =>
      obtain ⟨hmet, -⟩ := meet_of_pairItem_error hj hw hvars hfailed hgroup hpair
      simp only [meetAll_failed hmet, hmet] at h
      cases h
    | ok item =>
      obtain ⟨matched, hmet⟩ := meet_of_pairItem_ok hj hw hvars hfailed hgroup hpair
      simp only [hmet] at h
      have hrest := @ih { row with matched := matched } hvars hfailed hgroup h
      exact List.forall_mem_cons.2 ⟨⟨item, hpair⟩, hrest⟩

end Pairs

section Groups

theorem calculated_of_feedFields {vars : Bindings} {cells : List Cell}
    {fed : List (Option Aggregation) × List (Option Value)}
    (h : j.feedFields vars (cells.map Cell.field) (cells.map Cell.state) = .ok fed) :
    ∀ c ∈ cells, ∃ v, (c.field.calculate j.now vars c.state).1 = .ok v := by
  induction cells generalizing fed with
  | nil => simp
  | cons c rest ih =>
    simp only [List.map_cons, feedFields] at h
    obtain ⟨v, hv, h⟩ := bind_eq_ok.1 h
    obtain ⟨more, hmore, -⟩ := bind_eq_ok.1 h
    exact List.forall_mem_cons.2 ⟨⟨v, hv⟩, ih hmore⟩

theorem Cell.ends_cons_of_ok {now : DateTime} {vars : Bindings} {rest : List Bindings} {c : Cell}
    {last : Option Value} (hok : ∃ v, (c.field.calculate now vars c.state).1 = .ok v)
    (h : (c.next now vars).Ends now rest last) : c.Ends now (vars :: rest) last := by
  obtain ⟨v, hv⟩ := hok
  simp only [Cell.Ends, Cell.next, Field.feed] at h ⊢
  rcases hcalc : c.field.calculate now vars c.state with ⟨outcome, s⟩
  rw [hcalc] at hv h
  obtain rfl : outcome = .ok v := hv
  exact h

theorem ends_of_meetAll (hj : j.Sees columns rightColumns) {r : Row} (row : LeftRow)
    (hvars : row.vars = columns.bindBy r.pagedIn) (hfailed : row.failed = false)
    {cells : List Cell} (hfields : j.node.output.fields = cells.map Cell.field)
    (hgroup : row.group = some ⟨cells.map Cell.state, cells.map Cell.value⟩) {rows : List Row}
    (h : (j.meetAll row (rows.map (arrivalAt rightColumns []))).1.failed = false) :
    ∃ found lasts, j.lookup.passing j.now rows = .ok found ∧
      List.Forall₂ (Cell.Ends j.now (found.map fun m =>
        Assoc.merge (columns.bindBy r.pagedIn) (rightColumns.bindBy m.pagedIn))) cells lasts := by
  induction rows generalizing row cells with
  | nil =>
    refine ⟨[], cells.map Cell.value, rfl, ?_⟩
    exact List.forall₂_map_right_iff.2 (List.forall₂_same.2 fun c _ => rfl)
  | cons m rest ih =>
    rw [List.map_cons, meetAll_cons] at h
    cases hpasses : j.lookup.passes j.now (m.bound j.lookup.rightColumns) with
    | error e =>
      simp only [meet_error hj row hpasses] at h
      rw [meetAll_failed rfl] at h
      cases h
    | ok passes =>
      cases passes with
      | false =>
        simp only [meet_false hj row hpasses] at h
        obtain ⟨found, lasts, hfound, hends⟩ := ih row hvars hfailed hfields hgroup h
        have hpassing : j.lookup.passing j.now (m :: rest) = .ok found :=
          bind_eq_ok.2 ⟨false, hpasses, bind_eq_ok.2 ⟨found, hfound, rfl⟩⟩
        exact ⟨found, lasts, hpassing, hends⟩
      | true =>
        rw [meet_true hj row hpasses] at h
        generalize hall : Assoc.merge (columns.bindBy r.pagedIn) (rightColumns.bindBy m.pagedIn) =
          vars
        cases hfed : j.feedFields vars (cells.map Cell.field) (cells.map Cell.state) with
        | error e =>
          simp only [pair, hfailed, Bool.false_eq_true, if_false, hgroup, hvars, hfields, hall,
            hfed] at h
          rw [meetAll_failed rfl] at h
          cases h
        | ok fed =>
          have hok := calculated_of_feedFields hfed
          rw [feedFields_cells hok] at hfed
          obtain rfl := Except.ok.inj hfed
          simp only [pair, hfailed, Bool.false_eq_true, if_false, hgroup, hvars, hfields, hall,
            feedFields_cells hok] at h
          have hfields' : j.node.output.fields =
              (cells.map (Cell.next j.now vars)).map Cell.field := by
            rw [hfields, List.map_map]
            rfl
          obtain ⟨found, lasts, hfound, hends⟩ := ih _ rfl rfl hfields' rfl h
          refine ⟨m :: found, lasts,
            bind_eq_ok.2 ⟨true, hpasses, bind_eq_ok.2 ⟨found, hfound, rfl⟩⟩, ?_⟩
          rw [List.map_cons, hall]
          have hends' := (List.forall₂_and_left _ _).2 ⟨hok, List.forall₂_map_left_iff.1 hends⟩
          exact hends'.imp fun c last hc => Cell.ends_cons_of_ok hc.1 hc.2

/-- If a group gives a record, its fields gather that record. -/
theorem gatheredRecord_of_groupedRecord {rows : List Bindings} {cells : List Cell}
    (hcells : ∀ c ∈ cells, Aggregation.forExpr c.field.expr = .ok c.state ∧ c.value = none)
    (hfields : j.node.output.fields = cells.map Cell.field) {lasts : List (Option Value)}
    (hends : List.Forall₂ (Cell.Ends j.now rows) cells lasts) {states : List (Option Aggregation)}
    {record : Record} (h : j.groupedRecord ⟨states, lasts⟩ = .ok record) :
    j.node.gatheredRecord j.now rows = .ok record := by
  simp only [groupedRecord, Node.gatheredRecord, hfields, mapM_eq_ok] at h ⊢
  clear hfields
  induction hends generalizing record with
  | nil =>
    obtain rfl : record = [] := by simpa using h
    exact .nil
  | @cons c last rest lasts hc _ ih =>
    rw [List.map_cons, List.zip_cons_cons, List.forall₂_cons_left_iff] at h
    obtain ⟨e, record', he, hrecord, rfl⟩ := h
    obtain ⟨hstate, hvalue⟩ := hcells c List.mem_cons_self
    refine .cons ?_ (ih (fun d hd => hcells d (List.mem_cons_of_mem _ hd)) hrecord)
    rw [Cell.Ends, hvalue] at hc
    simp only [Field.gather, hstate, hc]
    cases last with
    | some v => exact congrArg _ (Except.ok.inj he)
    | none =>
      dsimp only at he
      cases hdefault : c.field.defaultValue with
      | error err => simp [hdefault] at he
      | ok v =>
        rw [hdefault] at he
        exact congrArg _ (Except.ok.inj he)

end Groups

theorem joinRecords_of_lastOutcome (hj : j.Sees columns rightColumns)
    (hw : j.writer.indexes = j.node.output.indexes) {r : Row} {row : LeftRow}
    (hvars : row.vars = columns.bindBy r.pagedIn) (hfailed : row.failed = false)
    (hmatched : row.matched = false) {item : Option Item} (h : j.lastOutcome row = .ok item) :
    ∃ records items,
      j.node.joinRecords j.lookup j.now (r.bound j.node.readerColumns) [] = .ok records ∧
      records.mapM (j.node.output.item? j.now) = .ok items := by
  unfold lastOutcome lastRecord? at h
  simp only [hfailed, Bool.false_eq_true, if_false, hmatched] at h
  simp only [Node.joinRecords, List.isEmpty_nil, if_true]
  cases hjoin : j.lookup.join with
  | inner => exact ⟨[], [], rfl, rfl⟩
  | left =>
    have hlast : (j.unmatchedRecord row).bind (j.item row.context) = .ok item := by
      rw [hjoin] at h
      cases hgroup : row.group <;> simpa only [hgroup] using h
    obtain ⟨record, hrecord, hitem⟩ := bind_eq_ok.1 hlast
    refine ⟨[record], [item], ?_, ?_⟩
    · exact bind_eq_ok.2 ⟨record, (unmatchedRecord_eq_ok hj hvars).1 hrecord, rfl⟩
    · exact mapM_eq_ok.2 (.cons ((item_eq_ok hw _).1 hitem) .nil)

section Whole

variable {right : StoredTable} {ix : StoredIndex} {r : Row}

def Succeeds (j : Join) (r : Row) (rows : List Row) : Prop :=
  ∃ found records items, j.lookup.passing j.now rows = .ok found ∧
    j.node.joinRecords j.lookup j.now (r.bound j.node.readerColumns)
      (found.map fun m => m.bound j.lookup.rightColumns) = .ok records ∧
    records.mapM (j.node.output.item? j.now) = .ok items

theorem succeeds_of_pairs (hj : j.Sees columns rightColumns)
    (hw : j.writer.indexes = j.node.output.indexes) (hgrouped : ¬j.lookup.grouped = true)
    {rows : List Row} {row : LeftRow}
    (hmet : (j.meetAll (j.freshRow columns r) (rows.map (arrivalAt rightColumns []))).1 = row)
    (hfailed : row.failed = false) {item : Option Item} (hlast : j.lastOutcome row = .ok item) :
    j.Succeeds r rows := by
  have hstart : (j.freshRow columns r).group = none := by
    simp only [freshRow, startGroup, hgrouped]
    rfl
  obtain ⟨found, records, items, hfound, hrecords, hitems⟩ := Node.matches_of_pairItems
    (pairItem_of_meetAll hj hw rfl rfl hstart (hmet ▸ hfailed))
  have hall := meetAll_pairs hj hw (j.freshRow columns r) rfl rfl hstart hfound hrecords hitems
  cases found with
  | nil =>
    have hmatched : row.matched = false := by rw [← hmet, hall]; rfl
    have hvars : row.vars = columns.bindBy r.pagedIn := by rw [← hmet, hall]; rfl
    obtain ⟨records, items, h⟩ := joinRecords_of_lastOutcome hj hw hvars hfailed hmatched hlast
    exact ⟨[], records, items, hfound, h⟩
  | cons m more =>
    refine ⟨m :: more, records, items, hfound, ?_, hitems⟩
    simp only [Node.joinRecords, List.isEmpty_map, List.isEmpty_cons, Bool.false_eq_true,
      if_false, hgrouped, List.map_map]
    exact hrecords

theorem succeeds_of_group (hj : j.Sees columns rightColumns)
    (hw : j.writer.indexes = j.node.output.indexes) (hgrouped : j.lookup.grouped = true)
    {g : Group} (hg : j.node.output.freshGroup = .ok g) {rows : List Row} {row : LeftRow}
    (hmet : (j.meetAll (j.freshRow columns r) (rows.map (arrivalAt rightColumns []))).1 = row)
    (hfailed : row.failed = false) {item : Option Item} (hlast : j.lastOutcome row = .ok item) :
    j.Succeeds r rows := by
  obtain ⟨cells, hfields, rfl, hcells⟩ := freshCells hg
  have hstart : (j.freshRow columns r).group =
      some ⟨cells.map Cell.state, cells.map Cell.value⟩ := by
    simp only [freshRow, startGroup, hgrouped, if_true, hg]
    rfl
  obtain ⟨found, lasts, hfound, hends⟩ :=
    ends_of_meetAll hj _ rfl rfl hfields hstart (hmet ▸ hfailed)
  obtain ⟨states, hall⟩ := meetAll_group hj _ rfl rfl hfields hstart hfound hends
  rw [hall] at hmet
  subst hmet
  cases found with
  | nil =>
    obtain ⟨records, items, h⟩ := joinRecords_of_lastOutcome hj hw rfl rfl rfl hlast
    exact ⟨[], records, items, hfound, h⟩
  | cons m more =>
    have hgroup : (j.groupedRecord ⟨states, lasts⟩).bind (j.item (.left r.rowid)) = .ok item :=
      hlast
    obtain ⟨record, hrecord, hitem⟩ := bind_eq_ok.1 hgroup
    have hgathered := gatheredRecord_of_groupedRecord hcells hfields
      ((ends_of_pairs hj hfields (m :: more)).1 hends) hrecord
    refine ⟨m :: more, [record], [item], hfound, ?_,
      mapM_eq_ok.2 (.cons ((item_eq_ok hw _).1 hitem) .nil)⟩
    simp only [Node.joinRecords, List.isEmpty_map, List.isEmpty_cons, Bool.false_eq_true,
      if_false, hgrouped, if_true, List.map_map]
    exact bind_eq_ok.2 ⟨record, hgathered, rfl⟩

/-- A left row has no error alone if and only if the nested loop succeeds on it. -/
theorem cleanOne_iff (hj : j.Sees columns rightColumns)
    (hw : j.writer.indexes = j.node.output.indexes)
    (hgroup : j.lookup.grouped = true → ∃ g, j.node.output.freshGroup = .ok g) :
    j.CleanOne columns rightColumns right ix r ↔
      ∃ items, j.node.joinRow j.lookup j.now right ix r = .ok items := by
  refine ⟨fun h => ?_, fun ⟨items, h⟩ => (one_eq hj hw hgroup h).1⟩
  obtain ⟨hfailed, herrors⟩ := h
  obtain ⟨item, hlast⟩ := outcomeErrors_eq_nil.1 herrors
  unfold joinOne at hfailed hlast
  cases hkey : j.lookup.rowKey r with
  | error e => simp [hkey] at hfailed
  | ok key =>
    simp only [hkey] at hfailed hlast
    have hsucceeds : j.Succeeds r (Lookup.listed right ix key) := by
      by_cases hgrouped : j.lookup.grouped = true
      · obtain ⟨g, hg⟩ := hgroup hgrouped
        exact succeeds_of_group hj hw hgrouped hg rfl hfailed hlast
      · exact succeeds_of_pairs hj hw hgrouped rfl hfailed hlast
    obtain ⟨found, records, items, hfound, hrecords, hitems⟩ := hsucceeds
    refine ⟨items.filterMap id, bind_eq_ok.2 ⟨found, ?_, bind_eq_ok.2 ⟨records, hrecords,
      bind_eq_ok.2 ⟨items, hitems, rfl⟩⟩⟩⟩
    exact bind_eq_ok.2 ⟨key, hkey, hfound⟩

/-- A grouped left row hands nothing over while it is matched. -/
theorem meetAll_items_group {row : LeftRow} (hgroup : row.group.isSome) (as : List Arrival) :
    (j.meetAll row as).2 = [] := by
  have hmeet : ∀ row : LeftRow, row.group.isSome → ∀ a,
      (j.meet row a).2 = [] ∧ (j.meet row a).1.group.isSome := by
    intro row hgroup a
    obtain ⟨g, hg⟩ := Option.isSome_iff_exists.1 hgroup
    unfold meet pair
    split
    · exact ⟨rfl, hgroup⟩
    · exact ⟨rfl, hgroup⟩
    · split
      · exact ⟨rfl, hgroup⟩
      · simp only [hg]
        split
        · exact ⟨rfl, rfl⟩
        · exact ⟨rfl, rfl⟩
  induction as generalizing row with
  | nil => rfl
  | cons a rest ih =>
    obtain ⟨hitems, hsome⟩ := hmeet row hgroup a
    simp only [meetAll_cons, hitems, ih hsome, List.append_nil]

/-- A left row that has an error gives nothing at the end. -/
theorem lastItems_of_not_clean {row : LeftRow}
    (h : ¬(row.failed = false ∧ outcomeErrors (j.lastOutcome row) = [])) :
    outcomeItems (j.lastOutcome row) = [] := by
  by_cases hfailed : row.failed = true
  · have hlast : j.lastRecord? row = none := if_pos hfailed
    simp [lastOutcome, hlast, outcomeItems]
  · cases hlast : j.lastOutcome row with
    | error e => rfl
    | ok item =>
      refine absurd ⟨Bool.eq_false_of_not_eq_true hfailed, ?_⟩ h
      rw [hlast]
      rfl

/-- Alone, a left row hands over its share. -/
theorem itemsOne_eq_share (hj : j.Sees columns rightColumns)
    (hw : j.writer.indexes = j.node.output.indexes)
    (hgroup : j.lookup.grouped = true → ∃ g, j.node.output.freshGroup = .ok g) :
    j.itemsOne columns rightColumns right ix r = j.node.share j.lookup j.now right ix r := by
  unfold Node.share
  cases hrow : j.node.joinRow j.lookup j.now right ix r with
  | ok items => exact (one_eq hj hw hgroup hrow).2
  | error e =>
    have hnot : ¬j.CleanOne columns rightColumns right ix r := by
      rw [cleanOne_iff hj hw hgroup, hrow]
      simp
    have hlast := lastItems_of_not_clean hnot
    rw [itemsOne, hlast, List.append_nil, joinOne, Node.leftover]
    by_cases hgrouped : j.lookup.grouped = true
    · obtain ⟨g, hg⟩ := hgroup hgrouped
      have hsome : (j.freshRow columns r).group.isSome := by
        simp [freshRow, startGroup, hgrouped, hg, Except.toOption]
      rw [if_pos hgrouped]
      cases j.lookup.rowKey r with
      | error e => rfl
      | ok key => exact meetAll_items_group hsome _
    · have hnone : (j.freshRow columns r).group = none := by
        simp only [freshRow, startGroup, hgrouped]
        rfl
      rw [if_neg hgrouped]
      cases j.lookup.rowKey r with
      | error e => rfl
      | ok key => exact meetAll_itemsBefore hj hw rfl rfl hnone _

end Whole

end Join
end TableMill
