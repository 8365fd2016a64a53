import TableMill.Proofs.PageLoads

/-!
# Row ids by token

The mix of a row id can be undone in either direction, so every token is that of one row id. Tokens
tell the rows of a table apart, and a scan that goes on with the token after the last one of a page
has all rows ahead that the page does not have.
-/

namespace TableMill

/-! ## Undoing the mix -/

theorem xorShift_restore (w : BitVec 64) (k : Nat) (hk : 64 ≤ k + k + k) :
    (w ^^^ (w >>> k) ^^^ (w >>> (k + k))) ^^^ ((w ^^^ (w >>> k) ^^^ (w >>> (k + k))) >>> k) =
      w := by
  have h3 : w >>> (k + k + k) = 0#64 := BitVec.ushiftRight_eq_zero hk
  have hpairs : ∀ a b c : BitVec 64, (a ^^^ b ^^^ c) ^^^ (b ^^^ c) = a := by
    intro a b c
    rw [BitVec.xor_assoc a b c, BitVec.xor_assoc a, BitVec.xor_self, BitVec.xor_zero]
  simp only [BitVec.ushiftRight_xor_distrib, ← BitVec.shiftRight_add, h3, BitVec.xor_zero]
  exact hpairs _ _ _

theorem xorShift_surjective (k : UInt64) (hk : 64 ≤ 3 * (k.toNat % 64)) (w : UInt64) :
    ∃ v : UInt64, v ^^^ (v >>> k) = w := by
  have hb := xorShift_restore w.toBitVec (k.toNat % 64) (by omega)
  generalize w.toBitVec ^^^ (w.toBitVec >>> (k.toNat % 64)) ^^^
    (w.toBitVec >>> (k.toNat % 64 + k.toNat % 64)) = v at hb
  exact ⟨⟨v⟩, UInt64.toBitVec_inj.1 (by simpa using hb)⟩

theorem factor_surjective {c d : UInt64} (hc : d * c = 1) (w : UInt64) : ∃ v, v * c = w :=
  ⟨w * d, by rw [UInt64.mul_assoc, hc, UInt64.mul_one]⟩

theorem mixBits_surjective (w : UInt64) : ∃ v, mixBits v = w := by
  obtain ⟨w₁, rfl⟩ := xorShift_surjective 31 (by decide) w
  obtain ⟨w₂, rfl⟩ :=
    factor_surjective (c := 0x94d049bb133111eb) (d := 0x319642b2d24d8ec3) (by decide) w₁
  obtain ⟨w₃, rfl⟩ := xorShift_surjective 27 (by decide) w₂
  obtain ⟨w₄, rfl⟩ :=
    factor_surjective (c := 0xbf58476d1ce4e5b9) (d := 0x96de1b173f119089) (by decide) w₃
  obtain ⟨v, rfl⟩ := xorShift_surjective 30 (by decide) w₄
  exact ⟨v, rfl⟩

theorem tokenOf_surjective (token : Int64) : ∃ rowid, tokenOf rowid = token.toInt := by
  obtain ⟨v, hv⟩ := mixBits_surjective token.toUInt64
  refine ⟨v.toInt64, ?_⟩
  rw [tokenOf, UInt64.toUInt64_toInt64, hv, Int64.toInt64_toUInt64]

/-- Two rows of a table do not have one token. -/
theorem TokenTable.Consistent.eq_of_token {t : TokenTable} (h : t.Consistent) {a b : Row}
    (ha : t.Stores a) (hb : t.Stores b) (htoken : a.token = b.token) : a = b :=
  h.rising_view.eq_of_rowid (h.stores_iff.1 ha) (h.stores_iff.1 hb) (tokenOf_injective htoken)

/-! ## Rows ahead of a scan -/

namespace LeftScan

variable {s : TokenStore} {t : TokenTable} {scan : LeftScan} {page : SlotPage}

def Ahead (scan : LeftScan) (row : Row) : Prop :=
  ∃ first, scan.next = some first ∧ first ≤ row.token ∧ row.token ≤ scan.last

theorem mem_rows (ht : t.Consistent) {row : Row} :
    row ∈ scan.rows t ↔ t.Stores row ∧ scan.Ahead row := by
  cases hnext : scan.next with
  | none => simp [rows, Ahead, hnext]
  | some first => simp [rows, Ahead, hnext, ht.mem_within]

/-- The rows of a page are some that are ahead of a scan, and the others stay ahead of it: it goes
on with the token after that of the last row, and no other row was in front of this token. -/
structure Passes (s : TokenStore) (t : TokenTable) (scan : LeftScan) (page : SlotPage)
    (rows : List Row) : Prop where
  ahead {row : Row} (hrow : row ∈ rows) : t.Stores row ∧ scan.Ahead row
  last_lt {row last : Row} (hlast : rows.getLast? = some last) (hrow : t.Stores row)
    (hahead : scan.Ahead row) (hnot : row ∉ rows) : last.token + 1 ≤ row.token
  next {first : Int} (hnext : (scan.loadNext s page).2.1.next = some first) :
    ∃ last, rows.getLast? = some last ∧ first = last.token + 1
  split {row : Row} (hrow : t.Stores row) (hahead : scan.Ahead row) :
    row ∈ rows ↔ ¬ (scan.loadNext s page).2.1.Ahead row

theorem loadNext_scan {first : Int} (hnext : scan.next = some first) {rows : List Row}
    (hread : s.leftPage scan.table ⟨first, scan.last⟩ scan.pageSize = .ok rows) :
    (scan.loadNext s page).2.1 = { scan with next := nextToken scan.pageSize rows } := by
  simp only [loadNext, hnext, hread]
  rfl

theorem nextToken_eq_some {size : Nat} {rows : List Row} {first : Int}
    (h : nextToken size rows = some first) :
    ∃ last, rows.getLast? = some last ∧ first = last.token + 1 := by
  unfold nextToken at h
  split at h
  · cases h
  · obtain ⟨token, hmap, htoken⟩ := Option.bind_eq_some_iff.1 h
    obtain ⟨last, hlast, rfl⟩ := Option.map_eq_some_iff.1 hmap
    split at htoken
    · cases htoken
    · exact ⟨last, hlast, (Option.some.inj htoken).symm⟩

theorem passes_take (ht : t.Consistent) (htable : s.tables.get? scan.table = some t)
    (hsize : 0 < scan.pageSize) {first : Int} (hnext : scan.next = some first) :
    s.leftPage scan.table ⟨first, scan.last⟩ scan.pageSize =
        .ok ((scan.rows t).take scan.pageSize) ∧
      Passes s t scan page ((scan.rows t).take scan.pageSize) := by
  have hrows : scan.rows t = t.within ⟨first, scan.last⟩ := by rw [rows, hnext]
  have hread : s.leftPage scan.table ⟨first, scan.last⟩ scan.pageSize =
      .ok ((scan.rows t).take scan.pageSize) := by
    rw [hrows]
    exact TokenStore.leftPage_of_table (TokenStore.table_eq_ok_iff.2 htable) _ _
  have hscan : (scan.loadNext s page).2.1 =
      { scan with next := nextToken scan.pageSize ((scan.rows t).take scan.pageSize) } :=
    loadNext_scan hnext hread
  have hrest := rows_next ht hsize hnext
  have hrise : (scan.rows t).Pairwise fun a b => a.token < b.token := by
    rw [hrows, ht.within_view]
    exact ht.rising_view.sublist List.filter_sublist
  rw [← List.take_append_drop scan.pageSize (scan.rows t)] at hrise
  have hfront := (List.pairwise_append.1 hrise).2.2
  have hcases {row : Row} (hrow : t.Stores row) (hahead : scan.Ahead row) :
      row ∈ (scan.rows t).take scan.pageSize ∨ row ∈ (scan.rows t).drop scan.pageSize := by
    rw [← List.mem_append, List.take_append_drop]
    exact (mem_rows ht).2 ⟨hrow, hahead⟩
  refine ⟨hread, fun hrow => (mem_rows ht).1 (List.mem_of_mem_take hrow), ?_, ?_, ?_⟩
  · intro row last hlast hrow hahead hnot
    exact hfront last (List.mem_of_getLast? hlast) row ((hcases hrow hahead).resolve_left hnot)
  · intro first hfirst
    rw [hscan] at hfirst
    exact nextToken_eq_some hfirst
  · intro row hrow hahead
    have hdrop : (scan.loadNext s page).2.1.Ahead row ↔
        row ∈ (scan.rows t).drop scan.pageSize := by
      rw [hscan, ← hrest, mem_rows ht, and_iff_right hrow]
    rw [hdrop]
    constructor
    · exact fun hfirst hlast => Int.lt_irrefl _ (hfront row hfirst row hlast)
    · exact (hcases hrow hahead).resolve_right

end LeftScan

/-- Tokens and row ids are in bijection. So whatever was done to a store, no two rows of a table
have one token, and a scan that goes on with the token after the last one of a page skips no row. -/
theorem tokens_bijective :
    (∀ a b : Int64, tokenOf a = tokenOf b → a = b) ∧
    (∀ token : Int64, ∃ rowid, tokenOf rowid = token.toInt) ∧
    ∀ (changes : List StoreChange) (name : String) (t : TokenTable),
      (changes.foldl TokenStore.change .empty).tables.get? name = some t →
      (∀ a b, t.Stores a → t.Stores b → a.token = b.token → a = b) ∧
      ∀ (scan : LeftScan) (page : SlotPage) (first : Int), scan.table = name →
        scan.next = some first → 0 < scan.pageSize →
        ∃ rows, (changes.foldl TokenStore.change .empty).leftPage name ⟨first, scan.last⟩
            scan.pageSize = .ok rows ∧
          scan.Passes (changes.foldl TokenStore.change .empty) t page rows := by
  refine ⟨fun _ _ => tokenOf_injective, tokenOf_surjective, fun changes name t ht => ?_⟩
  have hconsistent := (TokenStore.faithful_changes changes).1.consistent name t ht
  refine ⟨fun _ _ => hconsistent.eq_of_token, ?_⟩
  rintro scan page first rfl hnext hsize
  exact ⟨_, LeftScan.passes_take hconsistent ht hsize hnext⟩

namespace EdgeSample

/-! Two rows with the last two tokens and one with the first token. A page of one row, from the last
token but one on, leaves the row ahead that has the last one. -/

def changes : List StoreChange :=
  [.createTable "orders", .putRow "orders" (-6086893701949170222) [("qty", .int 1)],
    .putRow "orders" (-8594712372545719729) [("qty", .int 2)],
    .putRow "orders" (-3592346752865808038) [("qty", .int 3)]]

def store : TokenStore := changes.foldl TokenStore.change .empty

def orders : TokenTable := (store.tables.get? "orders").getD .empty

def range : TokenRange := ⟨Number.wordMax - 1, Number.wordMax⟩

def page : SlotPage := (SlotPage.ofColumns [.rowid readerAlias]).run [.init 1]

theorem get?_orders : store.tables.get? "orders" = some orders := by
  decide +kernel

theorem tokens_bijective_edges :
    store.tables.get? "orders" = some orders ∧
      store.leftPage "orders" range 1 =
        .ok [⟨-8594712372545719729, [("qty", .int 2)]⟩] ∧
      ((LeftScan.start "orders" range 1).loadNext store page).2.1.next = some Number.wordMax ∧
      ∃ rows, store.leftPage "orders" range 1 = .ok rows ∧
        (LeftScan.start "orders" range 1).Passes store orders page rows :=
  ⟨get?_orders, by decide +kernel, by decide +kernel,
    (tokens_bijective.2.2 changes "orders" orders get?_orders).2 (.start "orders" range 1) page _
      rfl rfl (by decide)⟩

end EdgeSample
end TableMill
