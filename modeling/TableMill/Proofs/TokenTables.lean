import TableMill.Proofs.RightRows
import TableMill.Store.TokenStore

/-!
# Tables by token

The rows of a table in memory lie at the places of their ids, and the tokens are those of the
stored ids. So a row that is looked for through its token is found, and the table behaves as the
list of its rows.
-/

namespace TableMill

namespace StoredTable

/-- A row that is put takes the place of the row with its id, and no other row is moved. -/
theorem mem_insertRow_iff {r row : Row} {rows : List Row} (h : Rising rows) :
    row ∈ insertRow r rows ↔ row = r ∨ row ∈ rows ∧ row.rowid ≠ r.rowid := by
  induction rows with
  | nil => simp [insertRow]
  | cons q rest ih =>
    have hrest := ih (List.pairwise_cons.1 h).2
    have hapart {x : Row} {id : Int64} (hx : x ∈ rest) (hid : tokenOf id ≤ q.token) :
        x.rowid ≠ id := by
      have hlt : q.token < tokenOf x.rowid := (List.pairwise_cons.1 h).1 x hx
      intro hxid
      rw [hxid] at hlt
      omega
    simp only [insertRow]
    split
    · next hid =>
      have hq : tokenOf r.rowid ≤ q.token := by simp [Row.token, hid]
      have hne (x : Row) (hx : x ∈ rest) : x.rowid ≠ r.rowid := hapart hx hq
      simp only [List.mem_cons]
      constructor
      · exact Or.imp_right fun hx => ⟨.inr hx, hne row hx⟩
      · rintro (hr | ⟨hrow | hrow, hrid⟩)
        · exact .inl hr
        · exact absurd (hrow ▸ hid.symm) hrid
        · exact .inr hrow
    · next hid =>
      split
      · next hlt =>
        have hne (x : Row) (hx : x ∈ q :: rest) : x.rowid ≠ r.rowid := by
          cases List.mem_cons.1 hx with
          | inl hx => exact hx ▸ Ne.symm hid
          | inr hx => exact hapart hx (Int.le_of_lt hlt)
        rw [List.mem_cons]
        exact or_congr_right ⟨fun hx => ⟨hx, hne row hx⟩, And.left⟩
      · simp only [List.mem_cons, hrest]
        constructor
        · rintro (hrow | hr | ⟨hrow, hrid⟩)
          · exact .inr ⟨.inl hrow, hrow ▸ Ne.symm hid⟩
          · exact .inl hr
          · exact .inr ⟨.inr hrow, hrid⟩
        · rintro (hr | ⟨hrow | hrow, hrid⟩)
          · exact .inr (.inl hr)
          · exact .inl hrow
          · exact .inr (.inr ⟨hrow, hrid⟩)

end StoredTable

namespace TokenTable

def toRow (e : RowPlace × Record) : Row := ⟨e.1.rowid, e.2⟩

def view (t : TokenTable) : StoredTable := ⟨t.rows.map toRow, t.collided⟩

def HasId (t : TokenTable) (rowid : Int64) : Prop :=
  ∃ e ∈ t.rows, e.1.rowid = rowid

instance (t : TokenTable) (rowid : Int64) : Decidable (t.HasId rowid) :=
  inferInstanceAs (Decidable (∃ e ∈ t.rows, e.1.rowid = rowid))

/-- The rows and the tokens of a table tell of the same ids. Every row lies at the place of its
id, and the places rise. -/
structure Consistent (t : TokenTable) : Prop where
  token?_iff (rowid : Int64) : (t.token? rowid).isSome ↔ t.HasId rowid
  token_eq {rowid : Int64} {token : Int} (h : t.token? rowid = some token) :
    token = tokenOf rowid
  place {e : RowPlace × Record} (he : e ∈ t.rows) : e.1 = .ofId e.1.rowid
  rising : t.rows.Pairwise fun a b => a.1.token < b.1.token

def Stores (t : TokenTable) (row : Row) : Prop :=
  (RowPlace.ofId row.rowid, row.values) ∈ t.rows

variable {t : TokenTable} {rows : List (RowPlace × Record)} {rowid : Int64}

theorem consistent_empty : empty.Consistent :=
  ⟨by simp [empty, token?, HasId], by simp [empty, token?], by simp [empty], List.Pairwise.nil⟩

theorem hasId_iff : t.HasId rowid ↔ ∃ row ∈ t.view.rows, row.rowid = rowid := by
  simp [HasId, view, toRow]

/-! ## Changes -/

theorem lookup_setToken (rowid id : Int64) (token : Int) (tokens : List (Int64 × Int)) :
    (setToken rowid token tokens).lookup id =
      if rowid = id then some token else tokens.lookup id := by
  by_cases h : rowid = id
  · simp [setToken, h]
  · have hid : (id == rowid) = false := beq_eq_false_iff_ne.2 (Ne.symm h)
    have hothers : (tokens.filter fun e => e.1 ≠ rowid).lookup id = tokens.lookup id := by
      induction tokens with
      | nil => rfl
      | cons e rest ih =>
        obtain ⟨k, token'⟩ := e
        by_cases hk : k = rowid
        · rw [List.filter_cons_of_neg (by simpa using hk), ih, List.lookup_cons, hk, hid]
        · rw [List.filter_cons_of_pos (by simpa using hk), List.lookup_cons, List.lookup_cons, ih]
    rw [setToken, List.lookup_cons, hid, if_neg h]
    exact hothers

theorem token?_put (t : TokenTable) (rowid id : Int64) (values : Record) :
    (t.put rowid values).token? id = if rowid = id then some (tokenOf rowid) else t.token? id :=
  lookup_setToken rowid id _ t.tokens

theorem before_ofId {a b : Int64} (h : a ≠ b) :
    (RowPlace.ofId a).before (.ofId b) = decide (tokenOf a < tokenOf b) := by
  have hne : (tokenOf a == tokenOf b) = false :=
    beq_eq_false_iff_ne.2 fun he => h (tokenOf_injective he)
  show (decide (tokenOf a < tokenOf b) || tokenOf a == tokenOf b && decide (a < b)) = _
  rw [hne, Bool.false_and, Bool.or_false]

theorem mem_insertAt {place : RowPlace} {values : Record} {e : RowPlace × Record}
    (h : e ∈ insertAt place values rows) : e = (place, values) ∨ e ∈ rows := by
  induction rows with
  | nil => simpa [insertAt] using h
  | cons q rest ih =>
    simp only [insertAt] at h
    split at h
    · simp only [List.mem_cons] at h ⊢
      tauto
    · split at h
      · simp only [List.mem_cons] at h ⊢
        tauto
      · simp only [List.mem_cons] at h ⊢
        tauto

/-- Inserting a row at its place inserts it into the rows that are seen. -/
theorem map_insertAt (hplace : ∀ e ∈ rows, e.1 = .ofId e.1.rowid) (rowid : Int64)
    (values : Record) :
    (insertAt (.ofId rowid) values rows).map toRow =
      StoredTable.insertRow ⟨rowid, values⟩ (rows.map toRow) := by
  induction rows with
  | nil => rfl
  | cons e rest ih =>
    obtain ⟨⟨token, id⟩, v⟩ := e
    obtain ⟨hp, hrest⟩ := List.forall_mem_cons.1 hplace
    obtain rfl : token = tokenOf id := congrArg RowPlace.token hp
    have htail := ih hrest
    by_cases hid : rowid = id
    · subst hid
      simp [insertAt, StoredTable.insertRow, RowPlace.ofId, toRow]
    · have hne : RowPlace.ofId rowid ≠ ⟨tokenOf id, id⟩ :=
        fun h => hid (congrArg RowPlace.rowid h)
      have hbefore : (RowPlace.ofId rowid).before ⟨tokenOf id, id⟩ =
          decide (tokenOf rowid < tokenOf id) := before_ofId hid
      have hrow : ¬(⟨rowid, values⟩ : Row).rowid = (toRow (⟨tokenOf id, id⟩, v)).rowid := hid
      rw [insertAt, if_neg hne, hbefore, List.map_cons, StoredTable.insertRow, if_neg hrow]
      by_cases hlt : tokenOf rowid < tokenOf id
      · have hlt' : (⟨rowid, values⟩ : Row).token < (toRow (⟨tokenOf id, id⟩, v)).token := hlt
        rw [if_pos hlt', if_pos (by simpa using hlt)]
        rfl
      · have hlt' : ¬(⟨rowid, values⟩ : Row).token < (toRow (⟨tokenOf id, id⟩, v)).token := hlt
        rw [if_neg hlt', if_neg (by simpa using hlt), List.map_cons, htail]

namespace Consistent

theorem view_token (h : t.Consistent) {e : RowPlace × Record} (he : e ∈ t.rows) :
    (toRow e).token = e.1.token := by
  have hplace := h.place he
  rw [hplace]
  rfl

theorem rising_view (h : t.Consistent) : StoredTable.Rising t.view.rows := by
  have hrising : t.rows.Pairwise fun a b => (toRow a).token < (toRow b).token :=
    h.rising.imp_of_mem fun ha hb hlt => by rwa [h.view_token ha, h.view_token hb]
  exact List.pairwise_map.2 hrising

theorem stores_iff (h : t.Consistent) {row : Row} : t.Stores row ↔ row ∈ t.view.rows := by
  constructor
  · exact fun hrow => List.mem_map.2 ⟨_, hrow, rfl⟩
  · intro hrow
    obtain ⟨e, he, rfl⟩ := List.mem_map.1 hrow
    have hplace := h.place he
    show (RowPlace.ofId e.1.rowid, e.2) ∈ t.rows
    rw [← hplace]
    exact he

theorem token?_isSome (h : t.Consistent) (rowid : Int64) :
    (t.token? rowid).isSome ↔ ∃ row ∈ t.view.rows, row.rowid = rowid := by
  rw [h.token?_iff, hasId_iff]

theorem view_put (h : t.Consistent) (rowid : Int64) (values : Record) :
    (t.put rowid values).view = t.view.put ⟨rowid, values⟩ := by
  have hrows := map_insertAt (fun _ => h.place) rowid values
  simp [view, TokenTable.put, StoredTable.put, hrows]

theorem mem_put (h : t.Consistent) {values : Record} {row : Row} :
    row ∈ (t.put rowid values).view.rows ↔
      row = ⟨rowid, values⟩ ∨ row ∈ t.view.rows ∧ row.rowid ≠ rowid := by
  rw [h.view_put]
  exact StoredTable.mem_insertRow_iff h.rising_view

theorem put (h : t.Consistent) (rowid : Int64) (values : Record) :
    (t.put rowid values).Consistent where
  token?_iff id := by
    rw [hasId_iff, token?_put]
    simp only [h.mem_put]
    by_cases hid : rowid = id
    · rw [if_pos hid]
      exact iff_of_true rfl ⟨_, .inl rfl, hid⟩
    · rw [if_neg hid, h.token?_isSome]
      constructor
      · rintro ⟨row, hrow, rfl⟩
        exact ⟨row, .inr ⟨hrow, Ne.symm hid⟩, rfl⟩
      · rintro ⟨row, hrow | ⟨hrow, -⟩, rfl⟩
        · exact absurd (hrow ▸ rfl) hid
        · exact ⟨row, hrow, rfl⟩
  token_eq {id token} htoken := by
    rw [token?_put] at htoken
    by_cases hid : rowid = id
    · rw [if_pos hid] at htoken
      rw [← Option.some.inj htoken, hid]
    · rw [if_neg hid] at htoken
      exact h.token_eq htoken
  place he := by
    cases mem_insertAt he with
    | inl hnew => rw [hnew]; rfl
    | inr hold => exact h.place hold
  rising := by
    have hplace {e : RowPlace × Record} (he : e ∈ (t.put rowid values).rows) :
        (toRow e).token = e.1.token := by
      cases mem_insertAt he with
      | inl hnew => rw [hnew]; rfl
      | inr hold => exact h.view_token hold
    have hrising := StoredTable.rising_insertRow h.rising_view ⟨rowid, values⟩
    rw [view, ← map_insertAt (fun _ => h.place)] at hrising
    exact (List.pairwise_map.1 hrising).imp_of_mem fun ha hb hlt => by
      rwa [hplace ha, hplace hb] at hlt

theorem withCollided (h : t.Consistent) (ids : List Int64) :
    Consistent { t with collided := ids } :=
  ⟨h.token?_iff, h.token_eq, h.place, h.rising⟩

/-! ## What is looked for is found -/

theorem at?_ofId (h : t.Consistent) {values : Record} :
    t.at? (.ofId rowid) = some values ↔ t.Stores ⟨rowid, values⟩ := by
  constructor
  · intro hat
    obtain ⟨before, after, hrows, -⟩ := List.lookup_eq_some_iff.1 hat
    simp [Stores, hrows]
  · intro hstores
    cases hat : t.at? (.ofId rowid) with
    | none =>
      have hne := List.lookup_eq_none_iff.1 hat _ hstores
      simp at hne
    | some other =>
      obtain ⟨before, after, hrows, -⟩ := List.lookup_eq_some_iff.1 hat
      have hother : t.Stores ⟨rowid, other⟩ := by simp [Stores, hrows]
      have heq := h.rising_view.eq_of_rowid (h.stores_iff.1 hother) (h.stores_iff.1 hstores) rfl
      exact congrArg some (congrArg Row.values heq)

theorem row?_eq_some_iff (h : t.Consistent) {row : Row} :
    t.row? rowid = some row ↔ t.Stores row ∧ row.rowid = rowid := by
  cases htoken : t.token? rowid with
  | none =>
    have hnone : t.row? rowid = none := by simp [row?, htoken]
    rw [hnone]
    refine iff_of_false (by simp) ?_
    rintro ⟨hrow, hid⟩
    have hsome := (h.token?_isSome rowid).2 ⟨row, h.stores_iff.1 hrow, hid⟩
    simp [htoken] at hsome
  | some token =>
    have hat : t.row? rowid = (t.at? (.ofId rowid)).map (Row.mk rowid) := by
      rw [row?, htoken, h.token_eq htoken]
      simp [RowPlace.ofId, Option.map_eq_bind]
    rw [hat, Option.map_eq_some_iff]
    simp only [h.at?_ofId]
    constructor
    · rintro ⟨values, hrow, rfl⟩
      exact ⟨hrow, rfl⟩
    · rintro ⟨hrow, rfl⟩
      exact ⟨row.values, hrow, rfl⟩

theorem row?_view (h : t.Consistent) (rowid : Int64) : t.row? rowid = t.view.row? rowid := by
  refine Option.ext fun row => ?_
  rw [h.row?_eq_some_iff, StoredTable.row?_eq_some_iff h.rising_view, h.stores_iff]

theorem isTaken_view (h : t.Consistent) (rowid : Int64) :
    t.isTaken rowid = t.view.isTaken rowid := by
  have hstored : (t.token? rowid).isSome = (t.view.row? rowid).isSome := by
    rw [Bool.eq_iff_iff, h.token?_isSome, StoredTable.row?, List.find?_isSome]
    simp
  rw [TokenTable.isTaken, StoredTable.isTaken, hstored, view]

theorem within_view (h : t.Consistent) (range : TokenRange) :
    t.within range =
      t.view.rows.filter fun r => range.first ≤ r.token && r.token ≤ range.last := by
  rw [view, List.filter_map]
  refine congrArg (List.map toRow) (List.filter_congr fun e he => ?_)
  rw [Function.comp_apply, h.view_token he]

theorem mem_within (h : t.Consistent) {range : TokenRange} {row : Row} :
    row ∈ t.within range ↔ t.Stores row ∧ range.first ≤ row.token ∧ row.token ≤ range.last := by
  rw [h.within_view, List.mem_filter, h.stores_iff]
  simp

theorem map_rowid_filterMap (h : t.Consistent) (rowids : List Int64) :
    (rowids.filterMap t.row?).map Row.rowid =
      rowids.filter (fun id => decide (t.HasId id)) := by
  induction rowids with
  | nil => rfl
  | cons id rest ih =>
    cases hrow : t.row? id with
    | none =>
      have hid : ¬ t.HasId id := by
        intro hid
        obtain ⟨row, hrow', hrid⟩ := hasId_iff.1 hid
        simp [h.row?_eq_some_iff.2 ⟨h.stores_iff.2 hrow', hrid⟩] at hrow
      rw [List.filterMap_cons_none hrow, List.filter_cons_of_neg (by simpa using hid), ih]
    | some row =>
      obtain ⟨hstored, hrid⟩ := h.row?_eq_some_iff.1 hrow
      have hid : t.HasId id := hasId_iff.2 ⟨row, h.stores_iff.1 hstored, hrid⟩
      rw [List.filterMap_cons_some hrow, List.filter_cons_of_pos (by simpa using hid),
        List.map_cons, hrid, ih]

end Consistent

/-- A range that ends before it starts has no tokens. -/
theorem within_eq_nil (t : TokenTable) {range : TokenRange} (h : range.last < range.first) :
    t.within range = [] := by
  have hnone (e : RowPlace × Record) :
      ¬ (range.first ≤ e.1.token && e.1.token ≤ range.last) = true := by
    simp only [Bool.and_eq_true, decide_eq_true_eq]
    omega
  rw [within, List.filter_eq_nil_iff.2 fun e _ => hnone e, List.map_nil]

end TokenTable
end TableMill
