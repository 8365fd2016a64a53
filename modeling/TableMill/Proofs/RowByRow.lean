import TableMill.Batch.Run
import TableMill.Proofs.LeftScan
import TableMill.Proofs.PageColumns

/-!
# Rows one at a time

A node without a lookup makes at most one item out of every row. Its pages only have the columns
that its fields use, and still it makes of a row what all columns of the row give. What is handed
over within a page is not handed over again if the table has no repeated keys.
-/

namespace TableMill

open ReadM

theorem Index.names_of_keys {indexes : Assoc Index} {record : Record} {keys : Keys}
    (h : (indexes.mapM fun e => do
      let key ← e.2.key record
      .ok (e.1, key)) = .ok keys) : keys.map Prod.fst = indexes.map Prod.fst := by
  have hall := mapM_eq_ok.1 h
  clear h
  induction hall with
  | nil => rfl
  | cons hkey _ ih =>
    obtain ⟨key, -, hpair⟩ := bind_eq_ok.1 hkey
    obtain rfl := Except.ok.inj hpair
    rw [List.map_cons, List.map_cons, ih]

/-- The columns of a page that is read: the column of ids, and declared columns of other names. -/
structure Columns.Reads (paged declared : Columns) (table : String) : Prop where
  rowid_mem : .rowid table ∈ paged
  mem_or {c : Column} (hc : c ∈ paged) : c = .rowid table ∨ c ∈ declared
  table_eq {c : Column} (hc : c ∈ declared) : c.table = table
  distinct : declared.Distinct
  distinct_paged : paged.Distinct

namespace Columns.Reads

variable {paged declared : Columns} {table : String}

theorem table_eq_of_paged (h : paged.Reads declared table) {c : Column} (hc : c ∈ paged) :
    c.table = table := by
  rcases h.mem_or hc with rfl | hc
  · rfl
  · exact h.table_eq hc

theorem mem_of_ne (h : paged.Reads declared table) {c : Column} (hc : c ∈ paged)
    (hne : c ≠ .rowid table) : c ∈ declared ∧ c.name ≠ rowidName :=
  ⟨(h.mem_or hc).resolve_left hne, fun hname =>
    hne (h.distinct_paged c hc _ h.rowid_mem (h.table_eq_of_paged hc) hname)⟩

theorem kind_paged (h : paged.Reads declared table) {rows : List Row} (hrows : declared.Hold rows)
    {r : Row} (hr : r ∈ rows) {c : Column} (hc : c ∈ paged) : (r.pagedIn c).kind = c.kind := by
  by_cases hrowid : c = .rowid table
  · rw [hrowid]
    rfl
  · obtain ⟨hdeclared, hname⟩ := h.mem_of_ne hc hrowid
    rw [Row.pagedIn_of_ne hname]
    exact hrows r hr c hdeclared

theorem pagedIn_eq (h : paged.Reads declared table) (r : Row) {c d : Column} (hc : c ∈ declared)
    (hd : d ∈ paged) (hname : d.name = c.name) : r.pagedIn d = r.pagedIn c := by
  by_cases hrowid : c.name = rowidName
  · rw [Row.pagedIn, Row.pagedIn, if_pos hrowid, if_pos (hname.trans hrowid)]
  · have hdeclared : d ∈ declared := by
      refine (h.mem_or hd).resolve_left fun heq => hrowid ?_
      rw [← hname, heq]
      rfl
    rw [h.distinct d hdeclared c hc ((h.table_eq hdeclared).trans (h.table_eq hc).symm) hname]

/-- A page shows of a column that it has what all columns of the row would show. -/
theorem look_eq (h : paged.Reads declared table) (r : Row) {c d : Column} (hc : c ∈ declared)
    (hd : d ∈ paged) (hname : d.name = c.name) :
    (paged.bindBy r.pagedIn).look table c.name = (declared.bindBy r.pagedIn).look table c.name := by
  have hleft := look_bindBy r.pagedIn hd fun e he ht hn =>
    congrArg r.pagedIn (h.distinct_paged e he d hd ht hn)
  have hright := look_bindBy r.pagedIn hc fun e he ht hn =>
    congrArg r.pagedIn (h.distinct e he c hc ht hn)
  rw [h.table_eq_of_paged hd, hname, h.pagedIn_eq r hc hd hname] at hleft
  rw [h.table_eq hc] at hright
  exact hleft.trans hright.symm

theorem look_other (h : paged.Reads declared table) (r : Row) {other : String}
    (hother : other ≠ table) (field : String) :
    (paged.bindBy r.pagedIn).look other field = (declared.bindBy r.pagedIn).look other field := by
  rw [look_bindBy_none _ fun _ hc ht => hother (ht.symm.trans (h.table_eq_of_paged hc)),
    look_bindBy_none _ fun _ hc ht => hother (ht.symm.trans (h.table_eq hc))]

end Columns.Reads

namespace Node

variable {n : Node} {now : DateTime}

def storedRow (n : Node) (r : Row) : Bindings :=
  r.bound n.readerColumns

/-- What fields see of a row that is read: its id in a column of the name of the column of ids. -/
def readRow (n : Node) (r : Row) : Bindings :=
  n.readerColumns.bindBy r.pagedIn

theorem readRow_eq {source : Table} (hreader : n.readerColumns = source.columnsAs readerAlias)
    (hnames : ∀ f ∈ source.fields, f.name ≠ rowidName) : n.readRow = n.storedRow := by
  funext r
  refine Columns.bindBy_congr fun c hc => Row.pagedIn_of_ne ?_
  obtain ⟨-, f, hf, hname⟩ := Table.mem_columnsAs (hreader ▸ hc)
  exact hname ▸ hnames f hf

/-- What fields make of what they see of a row: a record with its keys, if it meets the
condition. -/
def itemFor (n : Node) (now : DateTime) (vars : Bindings) : TableResult (Option Item) := do
  let record ← n.output.record now vars
  n.output.item? now record

def itemsOf (n : Node) (now : DateTime) (see : Row → Bindings) (rows : List Row) :
    TableResult (List Item) := do
  let items ← rows.mapM fun r => n.itemFor now (see r)
  .ok (items.filterMap id)

def made (n : Node) (now : DateTime) (r : Row) : List Item :=
  ((n.itemFor now (n.readRow r)).toOption.bind id).toList

/-- At some time, rows make what they make now. Only a field that asks for the time can make
something else. -/
def Steady (n : Node) (see : Row → Bindings) (rows : List Row) (now time : DateTime) : Prop :=
  ∀ r ∈ rows, n.itemFor time (see r) = n.itemFor now (see r)

structure Readable (n : Node) (now : DateTime) (rows : List Row) : Prop where
  page_pos : 0 < n.reader.pageSize
  rising : StoredTable.Rising rows
  kinds : n.readerColumns.Hold rows
  makes {r : Row} (hr : r ∈ rows) : ∃ item, n.itemFor now (n.readRow r) = .ok item

theorem itemsOf_eq_ok {rows : List Row} {items : List Item}
    (h : n.itemsOf now n.readRow rows = .ok items) :
    (∀ r ∈ rows, ∃ item, n.itemFor now (n.readRow r) = .ok item) ∧
      items = rows.flatMap (n.made now) := by
  obtain ⟨outcomes, houtcomes, hitems⟩ := bind_eq_ok.1 h
  obtain rfl := Except.ok.inj hitems
  have hrows := mapM_eq_ok.1 houtcomes
  clear h houtcomes hitems
  induction hrows with
  | nil => exact ⟨by simp, rfl⟩
  | @cons r item rows outcomes hr _ ih =>
    obtain ⟨hall, hflat⟩ := ih
    refine ⟨List.forall_mem_cons.2 ⟨⟨item, hr⟩, hall⟩, ?_⟩
    rw [List.flatMap_cons, ← hflat, made, hr]
    cases item <;> rfl

theorem flatMap_made_of_steady {rows few : List Row} {time : DateTime}
    (h : n.Steady n.readRow rows now time) (hfew : few ⊆ rows) :
    few.flatMap (n.made time) = few.flatMap (n.made now) :=
  List.flatMap_congr fun r hr => by rw [made, made, h r (hfew hr)]

/-- A row that makes an item makes it alone. -/
theorem itemFor_of_made {r : Row} {item : Item} (h : item ∈ n.made now r) :
    n.itemFor now (n.readRow r) = .ok (some item) := by
  rw [made] at h
  cases houtcome : n.itemFor now (n.readRow r) with
  | error e => simp [houtcome, Except.toOption] at h
  | ok outcome =>
    rw [houtcome] at h
    exact congrArg Except.ok (Option.mem_toList.1 h)

theorem keys_of_itemFor {vars : Bindings} {item : Item}
    (h : n.itemFor now vars = .ok (some item)) :
    (n.output.indexes.mapM fun e => do
      let key ← e.2.key item.record
      .ok (e.1, key)) = .ok item.keys := by
  obtain ⟨record, -, hitem⟩ := bind_eq_ok.1 h
  obtain ⟨met, -, hitem⟩ := bind_eq_ok.1 hitem
  cases met with
  | false => cases hitem
  | true =>
    obtain ⟨keys, hkeys, hitem⟩ := bind_eq_ok.1 hitem
    obtain rfl := Option.some.inj (Except.ok.inj hitem)
    exact hkeys

theorem keys_of_made {r : Row} {item : Item} (h : item ∈ n.made now r) :
    ∀ e ∈ n.output.indexes, (Assoc.get? item.keys e.1).isSome := by
  have hnames := Index.names_of_keys (keys_of_itemFor (itemFor_of_made h))
  intro e he
  rw [Option.isSome_iff_ne_none, ne_eq, Assoc.get?_eq_none_iff, not_not, hnames]
  exact List.mem_map_of_mem he

theorem reads_rowColumns {source : Table} (hn : n.Accepted now) (hlookup : n.lookup = none)
    (hreader : n.readerColumns = source.columnsAs readerAlias) :
    ∃ columns, n.leftColumns = .ok columns ∧ columns.Reads n.readerColumns readerAlias ∧
      ∀ f ∈ n.output.fields, ∀ p ∈ f.expr.selectors, p.1 ∈ Columns.constantPackages ∨
        ∃ c ∈ n.readerColumns, ∃ d ∈ columns, c.table = p.1 ∧ c.name = p.2 ∧ d.name = c.name := by
  obtain ⟨used, hused⟩ := hn.used
  have hsource : n.sourceColumns = n.readerColumns := by rw [sourceColumns, hlookup]
  have hresolve : n.readerColumns.resolve n.output.usedFields Columns.constantPackages = .ok used :=
    hsource ▸ hused
  refine ⟨Columns.append [.rowid readerAlias] used (some readerAlias), ?_, ?_, fun f hf p hp => ?_⟩
  · refine bind_eq_ok.2 ⟨used, hused, ?_⟩
    rw [hlookup]
  · refine ⟨Columns.subset_append _ _ _ List.mem_cons_self, fun hc => ?_, fun hc => ?_, ?_,
      Columns.distinct_foldl_addNew (by simp [Columns.Distinct]) _⟩
    · exact (Columns.mem_append_iff_or hc).imp List.mem_singleton.1
        fun h => Columns.mem_resolve hresolve h.1
    · exact (Table.mem_columnsAs (hreader ▸ hc)).1
    · exact hreader ▸ source.distinct_columnsAs readerAlias
  · by_cases hi : p.1 ∈ Columns.constantPackages
    · exact Or.inl hi
    · have hwanted := Table.mem_usedFields hf hp
      obtain ⟨c, hc, ht, hname⟩ := Columns.has_iff.1
        ((Columns.resolve_eq_ok hresolve).1 p hwanted hi)
      obtain ⟨d, hd, hdt, hdn⟩ := Columns.resolve_covers hresolve hwanted hi
      have htable : c.table = readerAlias := (Table.mem_columnsAs (hreader ▸ hc)).1
      have hdr : (some readerAlias).all (· == d.table) = true := by simp [hdt, ← ht, htable]
      obtain ⟨e, he, -, hen⟩ := Columns.append_covers hd hdr
      exact Or.inr ⟨c, hc, e, he, ht, hname, hen.trans (hdn.trans hname.symm)⟩

/-- Fields see on such a page what all columns of the row show. -/
theorem sees_rowColumns {columns : Columns} (hreads : columns.Reads n.readerColumns readerAlias)
    (hused : ∀ f ∈ n.output.fields, ∀ p ∈ f.expr.selectors, p.1 ∈ Columns.constantPackages ∨
      ∃ c ∈ n.readerColumns, ∃ d ∈ columns, c.table = p.1 ∧ c.name = p.2 ∧ d.name = c.name)
    (r : Row) {f : Field} (hf : f ∈ n.output.fields) :
    Bindings.AgreeOn f.expr.selectors (columns.bindBy r.pagedIn) (n.readRow r) := by
  intro p hp
  apply Bindings.select_eq_of_look
  rcases hused f hf p hp with hi | ⟨c, hc, d, hd, ht, hname, hsame⟩
  · have hne : p.1 ≠ readerAlias := fun h => absurd (h ▸ hi) (by decide)
    exact hreads.look_other r hne p.2
  · rw [← hname, ← ht, hreads.table_eq hc]
    exact hreads.look_eq r hc hd hsame

end Node

namespace Writer

/-- The items of a page that are handed over: of those with one unique key, the first. -/
def firsts (w : Writer) : List Item → List String → List Item
  | [], _ => []
  | item :: rest, sent =>
    match w.distinct.bind (Assoc.get? item.keys) with
    | none => item :: w.firsts rest sent
    | some key =>
      if sent.contains key then w.firsts rest sent else item :: w.firsts rest (key :: sent)

variable {w : Writer}

theorem firsts_of_none (h : w.distinct = none) (items : List Item) (sent : List String) :
    w.firsts items sent = items := by
  induction items with
  | nil => rfl
  | cons item rest ih => simp only [firsts, h, Option.bind_none, ih]

theorem firsts_sublist (items : List Item) (sent : List String) :
    (w.firsts items sent).Sublist items := by
  induction items generalizing sent with
  | nil => exact .slnil
  | cons item rest ih =>
    simp only [firsts]
    split
    · exact (ih sent).cons_cons item
    · split
      · exact (ih sent).cons item
      · exact (ih _).cons_cons item

/-- Every unique key that was not handed over before is handed over. -/
theorem exists_firsts {index : String} (h : w.distinct = some index) {items : List Item}
    {sent : List String} {item : Item} (hitem : item ∈ items) {key : String}
    (hkey : Assoc.get? item.keys index = some key) (hsent : key ∉ sent) :
    ∃ first ∈ w.firsts items sent, Assoc.get? first.keys index = some key := by
  induction items generalizing sent with
  | nil => cases hitem
  | cons head rest ih =>
    simp only [firsts, h, Option.bind_some]
    rcases List.mem_cons.1 hitem with rfl | hrest
    · simp only [hkey, List.contains_iff_mem, hsent, if_false]
      exact ⟨item, List.mem_cons_self, hkey⟩
    · cases hhead : Assoc.get? head.keys index with
      | none =>
        obtain ⟨first, hfirst, hname⟩ := ih hrest hsent
        exact ⟨first, List.mem_cons_of_mem _ hfirst, hname⟩
      | some k =>
        dsimp only
        split
        · exact ih hrest hsent
        · by_cases hk : key = k
          · exact ⟨head, List.mem_cons_self, hk ▸ hhead⟩
          · have hnot : key ∉ k :: sent := by simp [hk, hsent]
            obtain ⟨first, hfirst, hname⟩ := ih hrest hnot
            exact ⟨first, List.mem_cons_of_mem _ hfirst, hname⟩

end Writer

namespace Node

variable {n : Node} {now : DateTime} {w : Writer} {page : RowPage} {columns : Columns}
  {rows : List Row} {room : Nat}

theorem rowItem_ofRows (hw : w.indexes = n.output.indexes)
    (hsees : ∀ r : Row, ∀ f ∈ n.output.fields, Bindings.AgreeOn f.expr.selectors
      (columns.bindBy r.pagedIn) (n.readRow r)) {i : Nat} {r : Row}
    (hr : rows[i]? = some r) {item : Option Item} (h : n.itemFor now (n.readRow r) = .ok item) :
    n.rowItem now w (.ofRows columns room rows) i = .ok item := by
  obtain ⟨record, hrecord, hitem⟩ := bind_eq_ok.1 h
  obtain ⟨met, hmet, hitem⟩ := bind_eq_ok.1 hitem
  rw [← Table.record_congr (hsees r)] at hrecord
  refine bind_eq_ok.2 ⟨_, ofTable_eq_ok.2 (RowPage.bindRow_ofRows hr), ?_⟩
  refine bind_eq_ok.2 ⟨record, by rw [hrecord], bind_eq_ok.2 ⟨met, by rw [hmet], ?_⟩⟩
  cases met with
  | false => exact congrArg Except.ok (Except.ok.inj hitem)
  | true =>
    obtain ⟨keys, hkeys, hitem⟩ := bind_eq_ok.1 hitem
    obtain rfl := Except.ok.inj hitem
    have hwrite : w.keys record = .ok keys := by rw [Writer.keys, hw]; exact hkeys
    refine bind_eq_ok.2 ⟨keys, ?_, rfl⟩
    rw [hwrite]
    rfl

/-- If no row of a page fails, the first items of their keys are handed over. -/
theorem rowItems_eq {is : List Nat} {outcomes : List (Option Item)}
    (h : List.Forall₂ (fun i item => n.rowItem now w page i = .ok item) is outcomes)
    (sent : List String) :
    n.rowItems now w page is sent = (w.firsts (outcomes.filterMap id) sent, .ok ()) := by
  induction h generalizing sent with
  | nil => rfl
  | @cons i item is outcomes hi _ ih =>
    cases item with
    | none => simp only [rowItems, hi, ih, List.filterMap_cons, id]
    | some item =>
      cases hkey : w.distinct.bind (Assoc.get? item.keys) with
      | none => simp only [rowItems, hi, hkey, ih, List.filterMap_cons, id, Writer.firsts]
      | some key =>
        simp only [rowItems, hi, hkey, ih, List.filterMap_cons, id, Writer.firsts]
        split <;> rfl

def firstsOf (n : Node) (now : DateTime) (w : Writer) (pages : List (List Row)) : List Item :=
  pages.flatMap fun rows => w.firsts (rows.flatMap (n.made now)) []

theorem rowPage_yields {σ : Type} {I : σ → Prop} (hw : w.indexes = n.output.indexes)
    (hsees : ∀ r : Row, ∀ f ∈ n.output.fields, Bindings.AgreeOn f.expr.selectors
      (columns.bindBy r.pagedIn) (n.readRow r))
    (hrows : ∀ r ∈ rows, ∃ item, n.itemFor now (n.readRow r) = .ok item) :
    Yields I (n.rowPage now w (.ofRows columns room rows)) (.ok ())
      (w.firsts (rows.flatMap (n.made now)) []) := by
  obtain ⟨outcomes, houtcomes⟩ := mapM_ok_of_forall hrows
  have hitems : rows.flatMap (n.made now) = outcomes.filterMap id :=
    (itemsOf_eq_ok (bind_eq_ok.2 ⟨outcomes, houtcomes, rfl⟩)).2.symm
  have hall : List.Forall₂ (fun i item => n.rowItem now w (.ofRows columns room rows) i = .ok item)
      (List.range rows.length) outcomes := by
    have hlength := (mapM_eq_ok.1 houtcomes).length_eq
    refine List.forall₂_iff_get.2 ⟨by rw [List.length_range, hlength], fun i hi hi' => ?_⟩
    have hlt : i < rows.length := by simpa using hi
    have hr := (List.forall₂_iff_get.1 (mapM_eq_ok.1 houtcomes)).2 i hlt hi'
    simpa using rowItem_ofRows hw hsees (List.getElem?_eq_getElem hlt) hr
  have hcount : (RowPage.ofRows columns room rows).rowCount = rows.length := RowPage.rowCount_ofRows
  rw [rowPage, hcount, rowItems_eq hall, hitems]
  exact yields_hand_seq (yields_lift rfl)

end Node
end TableMill
