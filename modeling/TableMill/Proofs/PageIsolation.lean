import TableMill.Proofs.JoinRefinement
import TableMill.Proofs.PageErrors

/-!
# Left rows of a page are isolated

The left rows of a page share keys, right rows and the outcomes of the filter. Still, a left row
that succeeds hands over what the nested loop makes of it, whatever becomes of the others, and a
page fails after all its rows are processed, with errors that cover every left row that failed.
-/

namespace TableMill

open ReadM

variable {σ : Type}

namespace Batch

def joinOf (n : Node) (l : Lookup) (now : DateTime) (settings : BatchSettings) : Join :=
  ⟨n, l, ⟨n.output.name, n.output.indexes, none, settings.writer⟩, now⟩

/-- Every page of left rows in batches of a join ends in some way, from every state of the
storage that satisfies `I` and whatever was handed over before. -/
def EveryPage (b : Backend σ) (I : σ → Prop) (now : DateTime) (settings : BatchSettings)
    (n : Node) (l : Lookup) (P : List Row → BatchResult Unit → List Item → Prop) : Prop :=
  let j := joinOf n l now settings
  let process := j.page b (Join.rightPage l settings.rowidChunk) settings.keyChunk
  ∃ columns, n.leftColumns = .ok columns ∧
    (∀ range, prepare b now settings n .lookup range =
      .ok ⟨n, j.writer, n.scan b columns range process⟩) ∧
    ∀ rows : List Row, n.readerColumns.Hold rows → rows.length ≤ n.reader.pageSize →
      ∃ page, ((RowPage.ofColumns columns).init n.reader.pageSize).fill rows = .ok page ∧
        ∀ m, I m → ∀ before, ∃ outcome m' handed, I m' ∧ P rows outcome handed ∧
          (process page).run.run ⟨m, before⟩ = (outcome, ⟨m', before ++ handed⟩)

end Batch

/-- The nested loop fails on a left row. -/
def Node.FailsOn (n : Node) (l : Lookup) (now : DateTime) (right : StoredTable) (ix : StoredIndex)
    (r : Row) : Prop :=
  ¬∃ items, n.joinRow l now right ix r = .ok items

/-- What left rows hand over beyond what the nested loop makes of those that succeed is left
over of those that fail. -/
theorem Node.shares_perm_iff (n : Node) (l : Lookup) (now : DateTime) (right : StoredTable)
    (ix : StoredIndex) (rows : List Row) :
    (rows.flatMap (n.share l now right ix)).Perm
        (rows.flatMap fun r => (n.joinRow l now right ix r).toOption.getD []) ↔
      ∀ r ∈ rows, n.FailsOn l now right ix r → n.leftover l now right ix r = [] := by
  let made := fun r => (n.joinRow l now right ix r).toOption.getD []
  let rest := fun r =>
    if (n.joinRow l now right ix r).toOption.isSome then [] else n.leftover l now right ix r
  have hshare : n.share l now right ix = fun r => made r ++ rest r := by
    funext r
    simp only [share, made, rest]
    cases n.joinRow l now right ix r with
    | ok items => simp [Except.toOption]
    | error e => simp [Except.toOption]
  have hrest : (∀ r ∈ rows, n.FailsOn l now right ix r → n.leftover l now right ix r = []) ↔
      rows.flatMap rest = [] := by
    simp only [List.flatMap_eq_nil_iff, rest, FailsOn]
    refine forall_congr' fun r => imp_congr_right fun _ => ?_
    cases n.joinRow l now right ix r with
    | ok items => simp [Except.toOption]
    | error e => simp [Except.toOption]
  have hsplit : (rows.flatMap made ++ rows.flatMap rest).Perm
      (rows.flatMap (n.share l now right ix)) :=
    hshare ▸ List.flatMap_append_perm rows made rest
  rw [hrest]
  constructor
  · intro h
    have hlength : (rows.flatMap made ++ rows.flatMap rest).length = (rows.flatMap made).length :=
      (hsplit.trans h).length_eq
    rw [List.length_append] at hlength
    exact List.length_eq_zero_iff.1 (by omega)
  · intro h
    rw [h, List.append_nil] at hsplit
    exact hsplit.symm

namespace Join

variable {I : σ → Prop} {b : Backend σ} {s : Store} {j : Join} {left : String}
  {right : StoredTable} {ix : StoredIndex} {columns rightColumns : Columns} {size : Nat}
  {page : RowPage} {rows : List Row}

structure ShownBy (j : Join) (rows : List Row) (page : RowPage) : Prop where
  key_eq (i : Nat) (r : Row) (h : rows[i]? = some r) : j.lookup.key page i = j.lookup.rowKey r
  context_eq (i : Nat) (r : Row) (h : rows[i]? = some r) : leftContext page i = .left r.rowid

/-- Left rows hand over their shares. -/
theorem pageResult_shares (hj : j.Reads I b s left right ix)
    (hready : j.Ready columns rightColumns right) (hsize : 0 < size) (hpage : j.ShownBy rows page) :
    (j.pageResult columns rightColumns right ix size page rows).1.Perm
      (rows.flatMap (j.node.share j.lookup j.now right ix)) := by
  have hshare : rows.flatMap (j.itemsOne columns rightColumns right ix) =
      rows.flatMap (j.node.share j.lookup j.now right ix) :=
    List.flatMap_congr fun r _ => itemsOne_eq_share hready.sees hready.writes hready.starts
  exact hshare ▸ pageResult_items columns rightColumns hj hsize hpage.key_eq

end Join

section Accepted

variable {defined now : DateTime} {name : String} {reader : Reader} {source output right : Table}
  {lookup : Lookup.Source} {n : Node} {l : Lookup} {settings : BatchSettings} {s : Store}
  {rightTable : StoredTable} {ix : StoredIndex} {b : Backend σ} {I : σ → Prop}

theorem Batch.everyPage_of_pageResult
    (hn : Node.joined defined name reader source output lookup right = .ok n)
    (hlookup : n.lookup = some l) (hsettings : settings.check = .ok ()) (hs : s.Reachable)
    (hright : s.table right.name = .ok rightTable) (hindex : s.index l.indexName = .ok ix)
    (hrightKinds : (right.columnsAs lookupAlias).Hold rightTable.rows)
    (hleftNames : ∀ f ∈ source.fields, f.name ≠ rowidName)
    (hrightNames : ∀ f ∈ right.fields, f.name ≠ rowidName) (hsingle : ix.Single)
    (hb : b.Answers I s source.name right.name l.indexName)
    {P : List Row → BatchResult Unit → List Item → Prop}
    (hP : ∀ columns rows page, let j := Batch.joinOf n l now settings
      j.Reads I b s source.name rightTable ix → j.Ready columns l.pageColumns rightTable →
      j.ShownBy rows page →
        let result := j.pageResult columns l.pageColumns rightTable ix settings.keyChunk page rows
        P rows (if result.2.isEmpty then .ok () else .error (.rows result.2)) result.1) :
    Batch.EveryPage b I now settings n l P := by
  obtain ⟨l', htable, rfl, hl, haccepted⟩ := Node.joined_eq_ok hn
  obtain rfl := Option.some.inj hlookup
  obtain ⟨cs, hcolumns, hpages, hjoins, hused⟩ :=
    Node.pages_leftColumns haccepted rfl rfl hl hleftNames
  let n : Node := ⟨name, .lookup, reader, source.columnsAs readerAlias, output, some l'⟩
  let j : Join := Batch.joinOf n l' now settings
  have hreads : j.Reads I b s source.name rightTable ix :=
    { answers := hl.right_eq ▸ hb
      table_eq := hl.right_eq ▸ hright
      index_eq := hindex
      rising := hs.ordered.rising hright
      nodup := hs.ordered.nodup_idsOf hindex
      single := hsingle
      pageSize_pos := hl.indexPageSize_pos }
  have hrightColumns : l'.rightColumns = right.columnsAs lookupAlias := by
    rw [Lookup.rightColumns, hl.right_eq]
  have hready : j.Ready (.rowid readerAlias :: cs) j.lookup.pageColumns rightTable :=
    Join.ready_of_accepted haccepted rfl rfl hl (hrightColumns ▸ hrightKinds) hrightNames hpages
      hjoins hused
  refine ⟨_, hcolumns, fun range => Batch.prepare_joined b hsettings rfl rfl hcolumns range,
    fun rows hrows hlength => ⟨_, hready.fill hrows hlength, fun m hm before => ?_⟩⟩
  obtain ⟨m', hm', hrun⟩ :=
    hready.page_yields hreads hl.rowPageSize_pos hsettings reader.pageSize rows ⟨m, before⟩ hm
  refine ⟨_, m', _, hm', hP _ rows _ hreads hready
    ⟨fun i r hr => hready.key_eq hr, fun i r hr => ?_⟩, hrun⟩
  have hid : (RowPage.ofRows (.rowid readerAlias :: cs) reader.pageSize rows).rowid i = _ :=
    RowPage.rowid_ofRows hr
  rw [leftContext, hid]

/-- A page drops what its failing left rows made if and only if nothing is left over of them.
Of grouped left rows nothing is, but of others the records of all pairs before the first one
that fails are. -/
theorem Batch.pages_drop_failed_iff
    (hn : Node.joined defined name reader source output lookup right = .ok n)
    (hlookup : n.lookup = some l) (hsettings : settings.check = .ok ()) (hs : s.Reachable)
    (hright : s.table right.name = .ok rightTable) (hindex : s.index l.indexName = .ok ix)
    (hrightKinds : (right.columnsAs lookupAlias).Hold rightTable.rows)
    (hleftNames : ∀ f ∈ source.fields, f.name ≠ rowidName)
    (hrightNames : ∀ f ∈ right.fields, f.name ≠ rowidName) (hsingle : ix.Single)
    (hb : b.Answers I s source.name right.name l.indexName) :
    Batch.EveryPage b I now settings n l fun rows _ handed =>
      (handed.Perm (rows.flatMap fun r => (n.joinRow l now rightTable ix r).toOption.getD []) ↔
        ∀ r ∈ rows, n.FailsOn l now rightTable ix r → n.leftover l now rightTable ix r = []) ∧
      (l.grouped = true →
        handed.Perm (rows.flatMap fun r => (n.joinRow l now rightTable ix r).toOption.getD [])) := by
  obtain ⟨-, hkeyChunk, -⟩ := BatchSettings.check_eq_ok hsettings
  refine Batch.everyPage_of_pageResult hn hlookup hsettings hs hright hindex hrightKinds hleftNames
    hrightNames hsingle hb fun columns rows page hreads hready hpage => ?_
  have hshares := Join.pageResult_shares hreads hready hkeyChunk hpage
  have hiff := n.shares_perm_iff l now rightTable ix rows
  refine ⟨⟨fun h => hiff.1 (hshares.symm.trans h), fun h => hshares.trans (hiff.2 h)⟩,
    fun hgrouped => hshares.trans (hiff.2 fun r _ _ => ?_)⟩
  rw [Node.leftover, if_pos hgrouped]

end Accepted

namespace ShareSample

/-! Orders with the shares of their items. -/

def orders : Table := ⟨"orders", "", none, [⟨"id", .int, "", .int 0, ""⟩], []⟩

def items : Table :=
  ⟨"items", "", none, [⟨"order", .int, "", .int 0, ""⟩, ⟨"qty", .int, "", .int 0, ""⟩],
    [("idx_order", ⟨false, [.plain "order" .int]⟩)]⟩

def shares : Table :=
  ⟨"shares", "", none, [⟨"share", .int, "60 / (l.qty + 1)",
    .binary .divide (.int 60) (.binary .add (.selector "l" "qty") (.int 1)), ""⟩], []⟩

def lookup : Lookup :=
  ⟨"idx_order", [⟨"r", "id", .int⟩], false, "", none, .inner, 1, 1, items,
    ⟨false, [.plain "order" .int]⟩⟩

def node : Node :=
  ⟨"share", .lookup, ⟨"orders", 2, 1⟩, [⟨"r", "id", .int⟩], shares, some lookup⟩

def bad : Row := ⟨1, [("id", .int 7)]⟩

def good : Row := ⟨4, [("id", .int 8)]⟩

def badItems : List Row :=
  [⟨2, [("order", .int 7), ("qty", .int 5)]⟩, ⟨3, [("order", .int 7), ("qty", .int (-1))]⟩]

def goodItems : List Row := [⟨11, [("order", .int 8), ("qty", .int 2)]⟩]

def itemRows : StoredTable := ⟨badItems ++ goodItems, []⟩

def index : StoredIndex := [("0000000000000000007", [2, 3]), ("0000000000000000008", [11])]

def store : Store :=
  let s := (Store.empty.putRow "orders" bad).putRow "orders" good
  let s := itemRows.rows.foldl (fun s r => s.putRow "items" r) s
  let s := (s.putKey "idx_order" "0000000000000000007" 2).putKey "idx_order" "0000000000000000007" 3
  s.putKey "idx_order" "0000000000000000008" 11

theorem reachable_store : store.Reachable :=
  (((((((Store.Reachable.empty.putRow _ _).putRow _ _).putRow _ _).putRow _ _).putRow _ _).putKey
    _ _ _).putKey _ _ _).putKey _ _ _

theorem single_index : index.Single := by
  have hkey : ∀ key rowid, rowid ∈ index.idsOf key →
      key = if rowid = 11 then "0000000000000000008" else "0000000000000000007" := by
    intro key rowid h
    rw [StoredIndex.idsOf, index, Assoc.get?_cons, Assoc.get?_cons] at h
    by_cases hbad : "0000000000000000007" = key
    · rw [if_pos hbad] at h
      obtain rfl | rfl : rowid = 2 ∨ rowid = 3 := by simpa using h
      · exact hbad.symm
      · exact hbad.symm
    · rw [if_neg hbad] at h
      by_cases hgood : "0000000000000000008" = key
      · rw [if_pos hgood] at h
        obtain rfl : rowid = 11 := by simpa using h
        exact hgood.symm
      · rw [if_neg hgood] at h
        simp at h
  intro key key' rowid h h'
  exact (hkey key rowid h).trans (hkey key' rowid h').symm

theorem rowsById_itemRows : itemRows.rowsById = itemRows.rows :=
  ById.mergeSort (by unfold ById; decide +kernel)

theorem listed_bad : Lookup.listed itemRows index "0000000000000000007" = badItems := by
  rw [Lookup.listed, rowsById_itemRows]
  rfl

theorem failsOn_bad : node.FailsOn lookup .unset itemRows index bad := by
  rintro ⟨made, h⟩
  obtain ⟨found, hfound, h⟩ := bind_eq_ok.1 h
  change lookup.passing .unset (Lookup.listed itemRows index "0000000000000000007") = .ok found
    at hfound
  rw [listed_bad] at hfound
  have hpassing : lookup.passing .unset badItems = .ok badItems := rfl
  obtain rfl := Except.ok.inj (hpassing.symm.trans hfound)
  cases h

theorem leftover_bad :
    node.leftover lookup .unset itemRows index bad = [⟨[("share", .int 10)], []⟩] := by
  have hkey : lookup.rowKey bad = .ok "0000000000000000007" := rfl
  rw [Node.leftover, if_neg (by decide), hkey]
  dsimp only
  rw [listed_bad]
  rfl

theorem pages_drop_failed_iff_shares :
    Node.joined .unset "share" ⟨"orders", 2, 1⟩ orders shares
        ⟨"idx_order", "r.id", false, "", "inner", 1, 1⟩ items = .ok node ∧
      (Batch.EveryPage Store.backend (· = store) .unset .default node lookup fun rows _ handed =>
        (handed.Perm
            (rows.flatMap fun r => (node.joinRow lookup .unset itemRows index r).toOption.getD []) ↔
          ∀ r ∈ rows, node.FailsOn lookup .unset itemRows index r →
            node.leftover lookup .unset itemRows index r = []) ∧
        (lookup.grouped = true → handed.Perm
          (rows.flatMap fun r => (node.joinRow lookup .unset itemRows index r).toOption.getD []))) ∧
      node.FailsOn lookup .unset itemRows index bad ∧
      node.leftover lookup .unset itemRows index bad = [⟨[("share", .int 10)], []⟩] := by
  have hnode : Node.joined .unset "share" ⟨"orders", 2, 1⟩ orders shares
      ⟨"idx_order", "r.id", false, "", "inner", 1, 1⟩ items = .ok node := rfl
  have hright : store.table items.name = .ok itemRows := rfl
  have hindex : store.index lookup.indexName = .ok index := rfl
  have hsettings : BatchSettings.default.check = .ok () := rfl
  exact ⟨hnode, Batch.pages_drop_failed_iff hnode rfl hsettings reachable_store hright hindex
    (by decide) (by decide) (by decide) single_index (store.answers _ _ _), failsOn_bad,
    leftover_bad⟩

end ShareSample
end TableMill
