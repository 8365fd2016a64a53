import TableMill.Proofs.JoinNames
import TableMill.Proofs.TableDefinitions

/-!
# Complete records

A record has one value for every field of its table and no other, and every value has the type of
its field: whether it was computed at once, taken from the group of a left row, or made for a left
row without right rows. So the index keys of a record are missing nothing, and fail only at values
that have no key.
-/

namespace TableMill

theorem Assoc.get?_of_mem {α : Type} {m : Assoc α} (h : Assoc.Keyed m) {e : String × α}
    (he : e ∈ m) : m.get? e.1 = some e.2 := by
  induction m with
  | nil => cases he
  | cons d rest ih =>
    obtain ⟨hnone, hrest⟩ := Assoc.keyed_cons.1 h
    rw [Assoc.get?_cons]
    rcases List.mem_cons.1 he with rfl | he
    · exact if_pos rfl
    · have hname : d.1 ≠ e.1 := by
        intro hname
        rw [hname, ih hrest he] at hnone
        cases hnone
      rw [if_neg hname, ih hrest he]

namespace Table

/-- A record has one value for every field and no other, and every value has the type of its
field. -/
structure Complete (t : Table) (r : Record) : Prop where
  names : r.map Prod.fst = t.fields.map Field.name
  keyed : Assoc.Keyed r
  kinds {f : Field} (hf : f ∈ t.fields) : ∃ v, Assoc.get? r f.name = some v ∧ v.kind = f.kind

variable {t : Table} {r : Record}

theorem Sound.complete (h : t.Sound) (hr : t.Fits r) : t.Complete r := by
  have hnames : r.map Prod.fst = t.fields.map Field.name :=
    map_eq_of_forall₂ (List.Forall₂.imp (fun _ _ hentry => hentry.1) hr)
  have hkeyed : Assoc.Keyed r := by
    rw [Assoc.Keyed, hnames]
    exact h.names
  refine ⟨hnames, hkeyed, fun {f} hf => ?_⟩
  obtain ⟨n, hn⟩ := List.getElem?_of_mem hf
  obtain ⟨e, he, hname, hkind⟩ := RowPage.getElem?_of_forall₂ hr hn
  exact ⟨e.2, hname ▸ Assoc.get?_of_mem hkeyed (List.mem_of_getElem? he), hkind⟩

theorem Sound.noKey_of_key (h : t.Sound) (hr : t.Complete r) {e : String × Index}
    (he : e ∈ t.indexes) {err : TableError} (herr : e.2.key r = .error err) :
    ∃ fault, err = .noKey fault := by
  unfold Index.key at herr
  cases hchunks : e.2.components.mapM fun c => c.chunk r with
  | ok chunks =>
    rw [hchunks] at herr
    cases herr
  | error err' =>
    rw [hchunks] at herr
    obtain rfl := Except.error.inj herr
    obtain ⟨c, hc, hchunk⟩ := mem_of_mapM_eq_error hchunks
    obtain ⟨f, hf, hname, hkind⟩ := h.index he hc
    obtain ⟨v, hv, hvkind⟩ := hr.kinds hf
    exact Component.noKey_of_chunk (hname ▸ hv) (hvkind.trans hkind) hchunk

end Table

/-! ## Left rows -/

/-- A group has a state for every field, and a value of its type if it has one. -/
structure Group.Fits (g : Group) (fields : List Field) : Prop where
  states : g.states.length = fields.length
  values : List.Forall₂ (fun (f : Field) v => ∀ w : Value, v = some w → w.kind = f.kind) fields
    g.values

theorem Table.fits_freshGroup {t : Table} {g : Group} (h : t.freshGroup = .ok g) :
    g.Fits t.fields := by
  obtain ⟨states, hstates, h⟩ := bind_eq_ok.1 h
  obtain rfl := Except.ok.inj h
  refine ⟨(mapM_eq_ok.1 hstates).length_eq.symm, ?_⟩
  rw [List.forall₂_map_right_iff]
  exact List.forall₂_same.2 fun _ _ => nofun

namespace Join

variable {j : Join} {p : JoinPage} {row : LeftRow}

/-- The states of a page of left rows: as it starts, and after rows failed or were matched with
right rows. -/
inductive Reaches (j : Join) : JoinPage → Prop
  | start {left : RowPage} {p : JoinPage} (h : j.start left = .ok p) : Reaches j p
  | fail {p : JoinPage} (h : Reaches j p) (places : List Nat) (e : RowError) :
    Reaches j (Join.fail places p e)
  | pair {p : JoinPage} (h : Reaches j p) {i : Nat} {row : LeftRow} (hrow : p.rows[i]? = some row)
    (right : Bindings) (rowid : Int64) :
    Reaches j (put p i (j.pair row right rowid).1 (j.pair row right rowid).2).1

theorem fits_feedFields {vars : Bindings} {fields : List Field} {states : List (Option Aggregation)}
    (hlength : states.length = fields.length)
    {fed : List (Option Aggregation) × List (Option Value)}
    (h : j.feedFields vars fields states = .ok fed) : Group.Fits ⟨fed.1, fed.2⟩ fields := by
  induction fields generalizing states fed with
  | nil =>
    obtain rfl := List.length_eq_zero_iff.1 hlength
    obtain rfl := Except.ok.inj h
    exact ⟨rfl, .nil⟩
  | cons f fs ih =>
    cases states with
    | nil => cases hlength
    | cons s ss =>
      unfold feedFields at h
      rcases hcalc : f.calculate j.now vars s with ⟨outcome, s'⟩
      rw [hcalc] at h
      obtain ⟨v, hv, h⟩ := bind_eq_ok.1 h
      obtain ⟨rest, hrest, h⟩ := bind_eq_ok.1 h
      obtain rfl := Except.ok.inj h
      obtain ⟨hstates, hvalues⟩ := ih (Nat.succ.inj hlength) hrest
      have hvalue : (f.calculate j.now vars s).1 = .ok v := by
        rw [hcalc]
        exact hv
      have hkind : v.kind = f.kind := Field.kind_of_calculate hvalue
      exact ⟨congrArg Nat.succ hstates, .cons (fun w hw => Option.some.inj hw ▸ hkind) hvalues⟩

def RowFits (j : Join) (row : LeftRow) : Prop :=
  ∀ g, row.group = some g → g.Fits j.node.output.fields

theorem rowFits_pair (h : j.RowFits row) (right : Bindings) (rowid : Int64) :
    j.RowFits (j.pair row right rowid).1 := by
  unfold pair
  split
  · exact h
  · dsimp only
    split
    · next g hg =>
      split
      · next states values hfed =>
        intro g' hg'
        obtain rfl := Option.some.inj hg'
        exact fits_feedFields (h g hg).states hfed
      · exact h
    · split
      · exact h
      · split
        · exact h
        · exact h

theorem rowFits_leftRow {left : RowPage} {i : Nat} (h : j.leftRow left i = .ok row) :
    j.RowFits row := by
  obtain ⟨vars, -, h⟩ := bind_eq_ok.1 h
  dsimp only at h
  split at h
  · split at h
    · next g hg =>
      obtain rfl := Except.ok.inj h
      exact fun g' hg' => Option.some.inj hg' ▸ Table.fits_freshGroup hg
    · cases h
  · obtain rfl := Except.ok.inj h
    exact nofun

theorem Reaches.rowFits (h : j.Reaches p) : ∀ row ∈ p.rows, j.RowFits row := by
  induction h with
  | start h =>
    obtain ⟨rows, hrows, h⟩ := bind_eq_ok.1 h
    obtain rfl := Except.ok.inj h
    intro row hrow
    obtain ⟨n, hn⟩ := List.getElem?_of_mem hrow
    obtain ⟨i, -, hi⟩ := RowPage.getElem?_of_forall₂ (mapM_eq_ok.1 hrows).flip hn
    exact rowFits_leftRow hi
  | fail _ places e ih => exact forall_fail (fun _ hrow => hrow) ih places e
  | pair _ hrow right rowid ih =>
    exact forall_put ih _ (rowFits_pair (ih _ (List.mem_of_getElem? hrow)) right rowid) _

theorem fits_groupedRecord (ht : j.node.output.Sound) {g : Group}
    (hg : g.Fits j.node.output.fields) :
    ∃ r, j.groupedRecord g = .ok r ∧ j.node.output.Fits r := by
  have hrecord : Ends (fun _ : RowError => False) j.node.output.Fits (j.groupedRecord g) := by
    refine ends_groupedRecord hg.values fun f hf e he => ?_
    obtain ⟨v, hv⟩ := ht.default hf
    rw [hv] at he
    cases he
  cases hrun : j.groupedRecord g with
  | error e =>
    rw [hrun] at hrecord
    exact hrecord.elim
  | ok r =>
    rw [hrun] at hrecord
    exact ⟨r, rfl, hrecord⟩

theorem fits_unmatchedRecord {r : Record} (h : j.unmatchedRecord row = .ok r) :
    j.node.output.Fits r := by
  refine List.Forall₂.imp (fun f e hentry => ?_) (mapM_eq_ok.1 h)
  split at hentry
  · split at hentry
    · next v hv =>
      obtain rfl := Except.ok.inj hentry
      exact ⟨rfl, default_kind f hv⟩
    · cases hentry
  · split at hentry
    · next v hv =>
      obtain rfl := Except.ok.inj hentry
      exact ⟨rfl, Field.kind_of_calculate hv⟩
    · cases hentry

end Join
end TableMill
