import TableMill.Proofs.Reading

/-!
# Scanning a table by pages

Rows of a table stand in rising order of tokens, so the page after a full one starts behind
its last token. Page after page, a scan passes every row in its range once.
-/

namespace TableMill

def TokenRange.rowsOf (range : TokenRange) (rows : List Row) : List Row :=
  rows.filter fun r => range.first ≤ r.token && r.token ≤ range.last

theorem TokenRange.mem_rowsOf {range : TokenRange} {rows : List Row} {r : Row} :
    r ∈ range.rowsOf rows ↔ r ∈ rows ∧ range.first ≤ r.token ∧ r.token ≤ range.last := by
  simp [rowsOf]

/-- Behind the last row of a page the rows of the range go on. -/
theorem TokenRange.rowsOf_next {rows front rest : List Row} {x : Row} {first last : Int}
    (hrows : StoredTable.Rising rows)
    (hx : TokenRange.rowsOf ⟨first, last⟩ rows = front ++ x :: rest) :
    TokenRange.rowsOf ⟨x.token + 1, last⟩ rows = rest := by
  have hmem : x ∈ TokenRange.rowsOf ⟨first, last⟩ rows := by simp [hx]
  have hfirst : first ≤ x.token := (mem_rowsOf.1 hmem).2.1
  have hrise : (front ++ x :: rest).Pairwise fun a b => a.token < b.token :=
    hx ▸ hrows.sublist List.filter_sublist
  obtain ⟨-, hback, hfront⟩ := List.pairwise_append.1 hrise
  have hsplit : TokenRange.rowsOf ⟨x.token + 1, last⟩ rows =
      (front ++ x :: rest).filter fun r => x.token + 1 ≤ r.token := by
    rw [← hx]
    simp only [rowsOf, List.filter_filter]
    apply List.filter_congr
    intro r _
    by_cases h : x.token + 1 ≤ r.token
    · have : first ≤ r.token := by omega
      simp [h, this]
    · simp [h]
  rw [hsplit, List.filter_append, List.filter_cons_of_neg (by simp only [decide_eq_true_eq]; omega)]
  have hnone : (front.filter fun r => decide (x.token + 1 ≤ r.token)) = [] := by
    apply List.filter_eq_nil_iff.2
    intro r hr
    have := hfront r hr x List.mem_cons_self
    simp only [decide_eq_true_eq]
    omega
  have hall : (rest.filter fun r => decide (x.token + 1 ≤ r.token)) = rest := by
    apply List.filter_eq_self.2
    intro r hr
    have := (List.pairwise_cons.1 hback).1 r hr
    simp only [decide_eq_true_eq]
    omega
  rw [hnone, hall, List.nil_append]

/-- A full page ends with a row, and the rows behind that row are those that are left. -/
theorem TokenRange.rowsOf_full {rows : List Row} {first last : Int} {size : Nat}
    (hrise : StoredTable.Rising rows) (hsize : 0 < size)
    (hfull : size ≤ (TokenRange.rowsOf ⟨first, last⟩ rows).length) :
    ∃ x ∈ TokenRange.rowsOf ⟨first, last⟩ rows,
      ((TokenRange.rowsOf ⟨first, last⟩ rows).take size).getLast?.map Row.token = some x.token ∧
      TokenRange.rowsOf ⟨x.token + 1, last⟩ rows =
        (TokenRange.rowsOf ⟨first, last⟩ rows).drop size := by
  generalize hR : TokenRange.rowsOf ⟨first, last⟩ rows = R at *
  have hlt : size - 1 < R.length := by omega
  have hsucc : size - 1 + 1 = size := by omega
  have htake : R.take size = R.take (size - 1) ++ [R[size - 1]] := by
    rw [List.take_append_getElem, hsucc]
  have hsplit : R = R.take (size - 1) ++ R[size - 1] :: R.drop size := by
    conv_lhs => rw [← List.take_append_drop size R, htake]
    rw [List.append_assoc, List.singleton_append]
  refine ⟨R[size - 1], List.getElem_mem hlt, ?_, rowsOf_next hrise (hR.trans hsplit)⟩
  rw [htake, List.getLast?_concat, Option.map_some]

theorem TokenRange.rowsOf_of_lt {first last : Int} (h : last < first) (rows : List Row) :
    TokenRange.rowsOf ⟨first, last⟩ rows = [] := by
  apply List.eq_nil_iff_forall_not_mem.2
  intro r hr
  have hr' : first ≤ r.token ∧ r.token ≤ last := (mem_rowsOf.1 hr).2
  omega

theorem TokenRange.rowsOf_behind_all (last : Int) (rows : List Row) :
    TokenRange.rowsOf ⟨Number.wordMax + 1, last⟩ rows = [] := by
  apply List.eq_nil_iff_forall_not_mem.2
  intro r hr
  have hfirst : Number.wordMax + 1 ≤ r.token := (mem_rowsOf.1 hr).2.1
  have hle : r.token ≤ Number.wordMax := tokenOf_le_wordMax r.rowid
  exact absurd hfirst (Int.not_le.2 (Int.lt_add_one_of_le hle))

theorem nextToken_none_of_short {size : Nat} {rows : List Row} (h : rows.length < size) :
    nextToken size rows = none := by
  simp [nextToken, h]

theorem nextToken_of_full {size : Nat} {rows : List Row} {token : Int} (h : rows.length = size)
    (hlast : rows.getLast?.map Row.token = some token) (htoken : token ≠ Number.wordMax) :
    nextToken size rows = some (token + 1) := by
  have hlt : ¬ rows.length < size := by omega
  rw [nextToken, if_neg hlt, hlast, Option.bind_some, if_neg htoken]

theorem nextToken_of_last {size : Nat} {rows : List Row} {token : Int} (h : rows.length = size)
    (hlast : rows.getLast?.map Row.token = some token) (htoken : token = Number.wordMax) :
    nextToken size rows = none := by
  have hlt : ¬ rows.length < size := by omega
  rw [nextToken, if_neg hlt, hlast, Option.bind_some, if_pos htoken]

/-- Either a page holds the last rows of its range, or the next token has all other rows
behind it. -/
theorem TokenRange.nextToken_spec {rows : List Row} {size : Nat}
    (hrise : StoredTable.Rising rows) (hsize : 0 < size) (first last : Int) :
    (nextToken size ((TokenRange.rowsOf ⟨first, last⟩ rows).take size) = none ∧
      (TokenRange.rowsOf ⟨first, last⟩ rows).drop size = []) ∨
    ∃ token, nextToken size ((TokenRange.rowsOf ⟨first, last⟩ rows).take size) = some token ∧
      first < token ∧ token ≤ last + 1 ∧
      TokenRange.rowsOf ⟨token, last⟩ rows = (TokenRange.rowsOf ⟨first, last⟩ rows).drop size := by
  by_cases hshort : (TokenRange.rowsOf ⟨first, last⟩ rows).length < size
  · left
    refine ⟨nextToken_none_of_short ?_, List.drop_eq_nil_of_le (by omega)⟩
    rw [List.take_of_length_le (by omega)]
    exact hshort
  · have hle : size ≤ (TokenRange.rowsOf ⟨first, last⟩ rows).length := by omega
    have hfull : ((TokenRange.rowsOf ⟨first, last⟩ rows).take size).length = size :=
      List.length_take_of_le hle
    obtain ⟨x, hx, hend, hrest⟩ := TokenRange.rowsOf_full hrise hsize hle
    have hrange : first ≤ x.token ∧ x.token ≤ last := (mem_rowsOf.1 hx).2
    by_cases hmax : x.token = Number.wordMax
    · left
      refine ⟨nextToken_of_last hfull hend hmax, ?_⟩
      rw [← hrest, hmax, TokenRange.rowsOf_behind_all]
    · right
      exact ⟨x.token + 1, nextToken_of_full hfull hend hmax, by omega, by omega, hrest⟩

namespace Node

open ReadM

variable {σ : Type} {I : σ → Prop} {b : Backend σ} {s : Store} {t : StoredTable}
  {right index : String} {n : Node}

theorem scanFrom_none (n : Node) (b : Backend σ) (empty : RowPage) (last : Int)
    (process : RowPage → ReadM σ Unit) (fuel count : Nat) :
    Yields I (n.scanFrom b empty last process fuel none count) (.ok count) [] := by
  cases fuel with
  | zero => exact yields_pure count
  | succ fuel => exact yields_pure count

theorem leftPage_yields (hb : b.Answers I s n.reader.table right index)
    (ht : s.tables.get? n.reader.table = some t) {empty page : RowPage} {range : TokenRange}
    (hfill : empty.fill ((range.rowsOf t.rows).take n.reader.pageSize) = .ok page) :
    Yields I (n.leftPage b empty range)
      (.ok (page, nextToken n.reader.pageSize ((range.rowsOf t.rows).take n.reader.pageSize))) [] := by
  have hread : Yields I (ReadM.call (b.leftPage n.reader.table range n.reader.pageSize))
      (.ok ((range.rowsOf t.rows).take n.reader.pageSize)) [] := by
    refine yields_call fun m hm => ?_
    obtain ⟨m', hm', hread⟩ := hb.leftPage hm range n.reader.pageSize
    refine ⟨m', hm', ?_⟩
    rw [hread]
    simp only [Store.leftPage, Store.table, ht]
    rfl
  exact yields_seq hread (yields_seq (yields_lift (ofTable_eq_ok.2 hfill)) (yields_pure _))

theorem scanFrom_page {empty page : RowPage} {first last : Int} {next : Option Int}
    {process : RowPage → ReadM σ Unit} {fuel count : Nat} {items more : List Item}
    {outcome : Except BatchError Nat}
    (hread : Yields I (n.leftPage b empty ⟨first, last⟩) (.ok (page, next)) [])
    (hne : page.rowCount ≠ 0) (hprocess : Yields I (process page) (.ok ()) items)
    (hmore : Yields I (n.scanFrom b empty last process fuel next (count + page.rowCount))
      outcome more) :
    Yields I (n.scanFrom b empty last process (fuel + 1) (some first) count) outcome
      (items ++ more) := by
  refine yields_seq hread ?_
  simp only [hne, if_false]
  exact yields_bind hprocess hmore

/-- A scan from a token on processes the rows of the range in pages. What the pages hand over
adds up, so a relation of rows and items that respects concatenation holds of the whole. -/
theorem scanFrom_yields (hb : b.Answers I s n.reader.table right index)
    (ht : s.tables.get? n.reader.table = some t) (hrise : StoredTable.Rising t.rows)
    (hsize : 0 < n.reader.pageSize) {range : TokenRange} {empty : RowPage}
    (pageOf : List Row → RowPage)
    (hfill : ∀ rows : List Row, rows.length ≤ n.reader.pageSize → rows ⊆ range.rowsOf t.rows →
      empty.fill rows = .ok (pageOf rows) ∧ (pageOf rows).rowCount = rows.length)
    {process : RowPage → ReadM σ Unit} (Made : List Row → List Item → Prop) (hnil : Made [] [])
    (happend : ∀ rows rows' items items', Made rows items → Made rows' items' →
      Made (rows ++ rows') (items ++ items'))
    (hprocess : ∀ rows : List Row, rows.length ≤ n.reader.pageSize → rows ⊆ range.rowsOf t.rows →
      ∃ items, Yields I (process (pageOf rows)) (.ok ()) items ∧ Made rows items)
    (fuel : Nat) (first : Int) (count : Nat) (hfirst : range.first ≤ first)
    (hfuel : (range.last + 1 - first).toNat ≤ fuel) :
    ∃ items, Yields I (n.scanFrom b empty range.last process fuel (some first) count)
        (.ok (count + (TokenRange.rowsOf ⟨first, range.last⟩ t.rows).length)) items ∧
      Made (TokenRange.rowsOf ⟨first, range.last⟩ t.rows) items := by
  induction fuel generalizing first count with
  | zero =>
    rw [TokenRange.rowsOf_of_lt (by omega)]
    exact ⟨[], yields_pure _, hnil⟩
  | succ fuel ih =>
    have hspec := TokenRange.nextToken_spec hrise hsize first range.last
    generalize hR : TokenRange.rowsOf ⟨first, range.last⟩ t.rows = R at *
    have hsub : R ⊆ range.rowsOf t.rows := by
      intro r hr
      obtain ⟨hmem, hr⟩ := TokenRange.mem_rowsOf.1 (hR ▸ hr)
      exact TokenRange.mem_rowsOf.2 ⟨hmem, Int.le_trans hfirst hr.1, hr.2⟩
    have htake := List.take_sublist n.reader.pageSize R
    have hlength : (R.take n.reader.pageSize).length ≤ n.reader.pageSize := List.length_take_le _ _
    obtain ⟨hpage, hcount⟩ := hfill _ hlength (List.Subset.trans htake.subset hsub)
    obtain ⟨items, hyields, hmade⟩ := hprocess _ hlength (List.Subset.trans htake.subset hsub)
    have hread : Yields I (n.leftPage b empty ⟨first, range.last⟩) _ _ :=
      leftPage_yields hb ht (hR ▸ hpage)
    rw [hR] at hread
    by_cases hnone : R = []
    · subst hnone
      refine ⟨[], yields_seq hread ?_, hnil⟩
      simp only [List.take_nil, List.length_nil] at hcount ⊢
      rw [if_pos hcount]
      exact yields_pure count
    have hne : (pageOf (R.take n.reader.pageSize)).rowCount ≠ 0 := by
      rw [hcount, List.length_take]
      have := List.length_pos_iff.2 hnone
      omega
    rcases hspec with ⟨hnext, hdrop⟩ | ⟨token, hnext, hlt, hle, hrest⟩
    · have hall : R.take n.reader.pageSize = R := by
        conv_rhs => rw [← List.take_append_drop n.reader.pageSize R, hdrop, List.append_nil]
      rw [hnext] at hread
      have hend := scanFrom_page hread hne hyields (scanFrom_none n b empty range.last process fuel
        (count + _))
      rw [hcount, List.append_nil, hall] at hend
      exact ⟨items, hend, hall ▸ hmade⟩
    · obtain ⟨more, hmore, hmade'⟩ := ih token (count + (pageOf (R.take n.reader.pageSize)).rowCount)
        (by omega) (by omega)
      rw [hrest] at hmore hmade'
      rw [hnext] at hread
      have hsplit := List.take_append_drop n.reader.pageSize R
      refine ⟨items ++ more, ?_, hsplit ▸ happend _ _ _ _ hmade hmade'⟩
      have hlengths := congrArg List.length hsplit
      rw [List.length_append] at hlengths
      have hend := scanFrom_page hread hne hyields hmore
      rwa [hcount, Nat.add_assoc, hlengths] at hend

/-- A scan processes the rows of its range, whatever the size of a page. -/
theorem scan_yields (hb : b.Answers I s n.reader.table right index)
    (ht : s.tables.get? n.reader.table = some t) (hrise : StoredTable.Rising t.rows)
    (hsize : 0 < n.reader.pageSize) {columns : Columns} {range : TokenRange}
    (pageOf : List Row → RowPage)
    (hfill : ∀ rows : List Row, rows.length ≤ n.reader.pageSize → rows ⊆ range.rowsOf t.rows →
      ((RowPage.ofColumns columns).init n.reader.pageSize).fill rows = .ok (pageOf rows) ∧
        (pageOf rows).rowCount = rows.length)
    {process : RowPage → ReadM σ Unit} (Made : List Row → List Item → Prop) (hnil : Made [] [])
    (happend : ∀ rows rows' items items', Made rows items → Made rows' items' →
      Made (rows ++ rows') (items ++ items'))
    (hprocess : ∀ rows : List Row, rows.length ≤ n.reader.pageSize → rows ⊆ range.rowsOf t.rows →
      ∃ items, Yields I (process (pageOf rows)) (.ok ()) items ∧ Made rows items) :
    ∃ items, Yields I (n.scan b columns range process) (.ok (range.rowsOf t.rows).length) items ∧
      Made (range.rowsOf t.rows) items := by
  have h := scanFrom_yields hb ht hrise hsize pageOf hfill Made hnil happend hprocess
    ((range.last - range.first).toNat + 2) range.first 0 (Int.le_refl _) (by omega)
  rwa [Nat.zero_add] at h

end Node
end TableMill
