import TableMill.Proofs.KeyLedger

/-!
# What the moves of a record keep

A ledger stays sound when one record draws a row id, claims its key or finds it claimed,
stores its row, gives its key back, or is settled.
-/

namespace TableMill
namespace Ledger
namespace Sound

open Writer (keyIn)

variable {table index : String} {start s t : Store} {drawn : List Int64}
  {crew : List (Item × Phase)} {done : List (Item × Int64)} {gone : List Item}
  {item : Item} {rowid : Int64}

theorem initial (table index : String) (s : Store) :
    Sound table index s ⟨[], [], []⟩ [] s where
  distinct := List.nodup_nil
  drawn e he := nomatch he
  kept _ _ := rfl
  claimed e he := nomatch he
  origin _ _ h := .inl h
  rows row := by simp [entries]
  covered i hi := nomatch hi

theorem take (h : Sound table index start ⟨crew, done, gone⟩ drawn s) (item : Item) :
    Sound table index start ⟨(item, .seeking) :: crew, done, gone⟩ drawn s where
  distinct := h.distinct
  drawn := h.drawn
  kept := h.kept
  claimed := h.claimed
  origin := h.origin
  rows := h.rows
  covered i hi := by
    rcases mem_records_cons.1 hi with rfl | hi
    · exact .inr ⟨i, mem_striving_cons.2 (.inl ⟨rfl, by decide⟩), rfl⟩
    · refine (h.covered i hi).imp_right fun ⟨j, hj, hkey⟩ => ?_
      exact ⟨j, mem_striving_cons.2 (.inr hj), hkey⟩

theorem covered_of_phase {φ ψ : Phase} (hψ : ψ ≠ .beaten)
    (h : Sound table index start ⟨(item, φ) :: crew, done, gone⟩ drawn s) :
    ∀ i ∈ records ⟨(item, ψ) :: crew, done, gone⟩, start.idsUnder index (keyIn index i) ≠ [] ∨
      ∃ j ∈ striving ⟨(item, ψ) :: crew, done, gone⟩, keyIn index j = keyIn index i := by
  intro i hi
  refine (h.covered i (mem_records_cons.2 (mem_records_cons.1 hi))).imp_right fun hstriving => ?_
  obtain ⟨j, hj, hkey⟩ := hstriving
  refine ⟨j, mem_striving_cons.2 ?_, hkey⟩
  exact (mem_striving_cons.1 hj).imp_left fun hj => ⟨hj.1, hψ⟩

theorem draw (h : Sound table index start ⟨(item, .seeking) :: crew, done, gone⟩ drawn s)
    (hnew : rowid ∉ drawn) :
    Sound table index start ⟨(item, .ready rowid) :: crew, done, gone⟩ (drawn ++ [rowid]) s where
  distinct := by
    rw [entries_cons_some (f := Phase.rowid?) rfl, List.map_cons, List.nodup_cons]
    refine ⟨fun hmem => ?_, h.distinct⟩
    obtain ⟨e, he, rfl⟩ := List.mem_map.1 hmem
    exact hnew (h.drawn e he)
  drawn e he := by
    rw [entries_cons_some (f := Phase.rowid?) rfl] at he
    rcases List.mem_cons.1 he with rfl | he
    · exact List.mem_append_right _ List.mem_cons_self
    · exact List.mem_append_left _ (h.drawn e he)
  kept := h.kept
  claimed := h.claimed
  origin := h.origin
  rows := h.rows
  covered := covered_of_phase (by simp) h

/-- Row ids of other entries differ from that of the record. -/
theorem ne_of_mem {φ : Phase} (hφ : φ.rowid? = some rowid)
    (h : Sound table index start ⟨(item, φ) :: crew, done, gone⟩ drawn s) {e : Item × Int64}
    (he : e ∈ entries Phase.claim? ⟨crew, done, gone⟩) : e.2 ≠ rowid := by
  rintro rfl
  have hdistinct := h.distinct
  rw [entries_cons_some hφ, List.map_cons, List.nodup_cons] at hdistinct
  refine hdistinct.1 (List.mem_map.2 ⟨e, ?_, rfl⟩)
  exact mem_entries_mono (fun _ _ => Phase.rowid?_of_claim?) he

theorem mem_drawn {φ : Phase} (hφ : φ.rowid? = some rowid)
    (h : Sound table index start ⟨(item, φ) :: crew, done, gone⟩ drawn s) : rowid ∈ drawn := by
  refine h.drawn (item, rowid) ?_
  rw [entries_cons_some hφ]
  exact List.mem_cons_self

/-- No key is claimed for a row id that was only drawn. -/
theorem not_claimed (hstart : ∀ key, ∀ r ∈ drawn, r ∉ start.idsUnder index key)
    (h : Sound table index start ⟨(item, .ready rowid) :: crew, done, gone⟩ drawn s)
    (key : String) : rowid ∉ s.idsUnder index key := by
  intro hmem
  rcases h.origin key rowid hmem with hold | ⟨e, he, -, hrowid⟩
  · exact hstart key rowid (h.mem_drawn (φ := .ready rowid) rfl) hold
  · exact h.ne_of_mem (φ := .ready rowid) rfl he hrowid

theorem claim (h : Sound table index start ⟨(item, .ready rowid) :: crew, done, gone⟩ drawn s)
    (hfree : s.idsUnder index (keyIn index item) = [])
    (hids : ∀ name, t.idsUnder index name =
      if keyIn index item = name then [rowid] else s.idsUnder index name)
    (hrows : t.rowsIn table = s.rowsIn table) :
    Sound table index start ⟨(item, .holding rowid) :: crew, done, gone⟩ drawn t where
  distinct := h.distinct
  drawn := h.drawn
  kept key hkey := by
    have hsame := h.kept key hkey
    rw [hids]
    split
    · rename_i hname
      rw [← hname, hfree, hname] at hsame
      exact absurd hsame.symm hkey
    · exact hsame
  claimed e he := by
    rw [entries_cons_some (f := Phase.claim?) rfl] at he
    rw [hids]
    rcases List.mem_cons.1 he with rfl | he
    · exact if_pos rfl
    · have hclaimed := h.claimed e he
      rw [if_neg, hclaimed]
      intro hname
      rw [← hname, hfree] at hclaimed
      cases hclaimed
  origin key r hmem := by
    rw [hids] at hmem
    rw [entries_cons_some (f := Phase.claim?) rfl]
    split at hmem
    · rename_i hname
      exact .inr ⟨(item, rowid), List.mem_cons_self, hname, (List.mem_singleton.1 hmem).symm⟩
    · refine (h.origin key r hmem).imp_right fun ⟨e, he, hkey⟩ => ?_
      exact ⟨e, List.mem_cons_of_mem _ he, hkey⟩
  rows row := hrows ▸ h.rows row
  covered := covered_of_phase (by simp) h

/-- A key is found to be claimed already; whoever claimed it may still write. -/
theorem beat {m : Int64}
    (h : Sound table index start ⟨(item, .ready rowid) :: crew, done, gone⟩ drawn s)
    (hm : m ∈ s.idsUnder index (keyIn index item)) :
    Sound table index start ⟨(item, .beaten) :: crew, done, gone⟩ drawn s where
  distinct := by
    have hdistinct := h.distinct
    rw [entries_cons_some (f := Phase.rowid?) rfl, List.map_cons, List.nodup_cons] at hdistinct
    exact hdistinct.2
  drawn e he := by
    refine h.drawn e ?_
    rw [entries_cons_some (f := Phase.rowid?) rfl]
    exact List.mem_cons_of_mem _ he
  kept := h.kept
  claimed := h.claimed
  origin := h.origin
  rows := h.rows
  covered i hi := by
    rcases h.covered i (mem_records_cons.2 (mem_records_cons.1 hi)) with hstart | ⟨j, hj, hkey⟩
    · exact .inl hstart
    rcases mem_striving_cons.1 hj with ⟨rfl, -⟩ | hj
    · rcases h.origin _ m hm with hold | ⟨e, he, hname, -⟩
      · left
        rw [← hkey]
        exact List.ne_nil_of_mem hold
      · right
        exact ⟨e.1, mem_striving_cons.2 (.inr (mem_striving_of_claim he)), hname.trans hkey⟩
    · exact .inr ⟨j, mem_striving_cons.2 (.inr hj), hkey⟩

theorem store (h : Sound table index start ⟨(item, .holding rowid) :: crew, done, gone⟩ drawn s)
    (hids : ∀ key, t.idsUnder index key = s.idsUnder index key)
    (hrows : ∀ row, row ∈ t.rowsIn table ↔ row = ⟨rowid, item.record⟩ ∨ row ∈ s.rowsIn table) :
    Sound table index start ⟨(item, .stored rowid) :: crew, done, gone⟩ drawn t where
  distinct := h.distinct
  drawn := h.drawn
  kept key hkey := (hids key).trans (h.kept key hkey)
  claimed e he := (hids _).trans (h.claimed e he)
  origin key r hmem := h.origin key r (hids key ▸ hmem)
  rows row := by
    have hold := h.rows row
    rw [entries_cons_none (f := Phase.row?) (φ := .holding rowid) rfl] at hold
    rw [hrows, hold, entries_cons_some (f := Phase.row?) (φ := .stored rowid) rfl, or_left_comm]
    simp only [List.mem_cons, exists_eq_or_imp]
  covered := covered_of_phase (by simp) h

/-- A key is given back. Nobody else holds it, and it was not there at the start. -/
theorem release (hstart : ∀ key, ∀ r ∈ drawn, r ∉ start.idsUnder index key)
    (h : Sound table index start ⟨(item, .holding rowid) :: crew, done, gone⟩ drawn s)
    (hids : ∀ name, t.idsUnder index name =
      if keyIn index item = name then [] else s.idsUnder index name)
    (hrows : t.rowsIn table = s.rowsIn table) :
    Sound table index start ⟨(item, .seeking) :: crew, done, gone⟩ drawn t := by
  have hclaim : s.idsUnder index (keyIn index item) = [rowid] := by
    refine h.claimed (item, rowid) ?_
    rw [entries_cons_some (f := Phase.claim?) rfl]
    exact List.mem_cons_self
  constructor
  · have hdistinct := h.distinct
    rw [entries_cons_some (f := Phase.rowid?) rfl, List.map_cons, List.nodup_cons] at hdistinct
    exact hdistinct.2
  · intro e he
    refine h.drawn e ?_
    rw [entries_cons_some (f := Phase.rowid?) rfl]
    exact List.mem_cons_of_mem _ he
  · intro key hkey
    have hsame := h.kept key hkey
    rw [hids]
    split
    · rename_i hname
      rw [← hname, hclaim] at hsame
      have hmem : rowid ∈ start.idsUnder index (keyIn index item) := by
        rw [← hsame]
        exact List.mem_cons_self
      exact absurd hmem (hstart _ rowid (h.mem_drawn (φ := .holding rowid) rfl))
    · exact hsame
  · intro e he
    have hclaimed : s.idsUnder index (keyIn index e.1) = [e.2] := by
      refine h.claimed e ?_
      rw [entries_cons_some (f := Phase.claim?) rfl]
      exact List.mem_cons_of_mem _ he
    rw [hids, if_neg, hclaimed]
    intro hname
    rw [← hname, hclaim] at hclaimed
    exact h.ne_of_mem (φ := .holding rowid) rfl he (List.cons.inj hclaimed).1.symm
  · intro key r hmem
    rw [hids] at hmem
    split at hmem
    · cases hmem
    · rename_i hname
      rcases h.origin key r hmem with hold | ⟨e, he, hkey, hr⟩
      · exact .inl hold
      · rw [entries_cons_some (f := Phase.claim?) rfl] at he
        rcases List.mem_cons.1 he with rfl | he
        · exact absurd hkey hname
        · exact .inr ⟨e, he, hkey, hr⟩
  · exact fun row => hrows ▸ h.rows row
  · exact covered_of_phase (by simp) h

theorem written (h : Sound table index start ⟨(item, .stored rowid) :: crew, done, gone⟩ drawn s) :
    Sound table index start ⟨crew, (item, rowid) :: done, item :: gone⟩ drawn s := by
  have hentries (f : Phase → Option Int64) (hf : f (.stored rowid) = some rowid) :
      (entries f ⟨(item, .stored rowid) :: crew, done, gone⟩).Perm
        (entries f ⟨crew, (item, rowid) :: done, item :: gone⟩) := by
    rw [entries_cons_some hf]
    exact List.perm_middle.symm
  have hrowids := hentries Phase.rowid? rfl
  have hclaims := hentries Phase.claim? rfl
  constructor
  · exact (hrowids.map _).nodup_iff.1 h.distinct
  · exact fun e he => h.drawn e (hrowids.mem_iff.2 he)
  · exact h.kept
  · exact fun e he => h.claimed e (hclaims.mem_iff.2 he)
  · intro key r hmem
    refine (h.origin key r hmem).imp_right fun ⟨e, he, hkey⟩ => ?_
    exact ⟨e, hclaims.mem_iff.1 he, hkey⟩
  · intro row
    rw [h.rows row]
    refine or_congr_right (exists_congr fun e => and_congr_left fun _ => ?_)
    exact (hentries Phase.row? rfl).mem_iff
  · intro i hi
    have hi' : i ∈ records ⟨(item, .stored rowid) :: crew, done, gone⟩ :=
      mem_records_cons.2 (mem_records_gone.1 hi)
    refine (h.covered i hi').imp_right fun ⟨j, hj, hkey⟩ => ⟨j, ?_, hkey⟩
    simp only [striving, List.map_cons, List.mem_append, List.mem_cons]
    rcases mem_striving_cons.1 hj with ⟨rfl, -⟩ | hj
    · exact .inr (.inl rfl)
    · exact (List.mem_append.1 hj).imp_right .inr

theorem skipped (h : Sound table index start ⟨(item, .beaten) :: crew, done, gone⟩ drawn s) :
    Sound table index start ⟨crew, done, item :: gone⟩ drawn s where
  distinct := h.distinct
  drawn := h.drawn
  kept := h.kept
  claimed := h.claimed
  origin := h.origin
  rows := h.rows
  covered i hi := by
    have hi' : i ∈ records ⟨(item, .beaten) :: crew, done, gone⟩ :=
      mem_records_cons.2 (mem_records_gone.1 hi)
    refine (h.covered i hi').imp_right fun ⟨j, hj, hkey⟩ => ⟨j, ?_, hkey⟩
    rcases mem_striving_cons.1 hj with ⟨-, hne⟩ | hj
    · exact absurd rfl hne
    · exact hj

end Sound
end Ledger
end TableMill
