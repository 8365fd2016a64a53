import TableMill.Proofs.WriteEffects
import TableMill.Proofs.WritePhases

/-!
# The ledger of keys

Who holds which key is told by a ledger: the records being written with their phases, and the
records that were written with their row ids. A ledger is sound if the index and the table
hold what was there at the start and what the ledger accounts for. Every phase change of one
record keeps the ledger sound.
-/

namespace TableMill

namespace Phase

/-- The row id that a record would be stored under. -/
def rowid? : Phase → Option Int64
  | ready rowid | holding rowid | stored rowid => some rowid
  | seeking | beaten => none

/-- The row id under which the key is held. -/
def claim? : Phase → Option Int64
  | holding rowid | stored rowid => some rowid
  | seeking | ready _ | beaten => none

def row? : Phase → Option Int64
  | stored rowid => some rowid
  | seeking | ready _ | holding _ | beaten => none

theorem rowid?_of_claim? {φ : Phase} {rowid : Int64} (h : φ.claim? = some rowid) :
    φ.rowid? = some rowid := by
  cases φ <;> first | exact h | cases h

theorem ne_beaten_of_claim? {φ : Phase} {rowid : Int64} (h : φ.claim? = some rowid) :
    φ ≠ .beaten := by
  rintro rfl
  cases h

end Phase

/-- The records being written with their phases, the records written with their row ids, and
all records that are settled. -/
structure Ledger where
  crew : List (Item × Phase)
  done : List (Item × Int64)
  gone : List Item

namespace Ledger

def entries (f : Phase → Option Int64) (l : Ledger) : List (Item × Int64) :=
  (l.crew.filterMap fun c => (f c.2).map (Prod.mk c.1)) ++ l.done

/-- The records that were written or may still be. -/
def striving (l : Ledger) : List Item :=
  (l.crew.filter fun c => c.2 ≠ .beaten).map Prod.fst ++ l.done.map Prod.fst

def records (l : Ledger) : List Item :=
  l.crew.map Prod.fst ++ l.gone

variable {crew : List (Item × Phase)} {done : List (Item × Int64)} {gone : List Item}
  {item : Item} {φ : Phase} {rowid : Int64}

theorem entries_cons_some {f : Phase → Option Int64} (h : f φ = some rowid) :
    entries f ⟨(item, φ) :: crew, done, gone⟩ = (item, rowid) :: entries f ⟨crew, done, gone⟩ := by
  simp [entries, h]

theorem entries_cons_none {f : Phase → Option Int64} (h : f φ = none) :
    entries f ⟨(item, φ) :: crew, done, gone⟩ = entries f ⟨crew, done, gone⟩ := by
  simp [entries, h]

theorem mem_striving_cons {i : Item} :
    i ∈ striving ⟨(item, φ) :: crew, done, gone⟩ ↔
      i = item ∧ φ ≠ .beaten ∨ i ∈ striving ⟨crew, done, gone⟩ := by
  by_cases h : φ = .beaten <;> simp [striving, h]

theorem mem_records_cons {i : Item} :
    i ∈ records ⟨(item, φ) :: crew, done, gone⟩ ↔ i = item ∨ i ∈ records ⟨crew, done, gone⟩ := by
  simp [records]

theorem mem_records_gone {done' : List (Item × Int64)} {i : Item} :
    i ∈ records ⟨crew, done', item :: gone⟩ ↔ i = item ∨ i ∈ records ⟨crew, done, gone⟩ := by
  simp [records, or_left_comm]

theorem mem_entries_mono {f g : Phase → Option Int64} (h : ∀ φ r, f φ = some r → g φ = some r)
    {l : Ledger} {e : Item × Int64} (he : e ∈ l.entries f) : e ∈ l.entries g := by
  rcases List.mem_append.1 he with hcrew | hdone
  · obtain ⟨c, hc, hf⟩ := List.mem_filterMap.1 hcrew
    obtain ⟨r, hr, rfl⟩ := Option.map_eq_some_iff.1 hf
    exact List.mem_append_left _ (List.mem_filterMap.2 ⟨c, hc, by rw [h _ _ hr]; rfl⟩)
  · exact List.mem_append_right _ hdone

/-- Whoever holds a key may still write. -/
theorem mem_striving_of_claim {l : Ledger} {e : Item × Int64} (he : e ∈ l.entries Phase.claim?) :
    e.1 ∈ l.striving := by
  rcases List.mem_append.1 he with hcrew | hdone
  · obtain ⟨c, hc, hf⟩ := List.mem_filterMap.1 hcrew
    obtain ⟨r, hr, rfl⟩ := Option.map_eq_some_iff.1 hf
    have hne := Phase.ne_beaten_of_claim? hr
    exact List.mem_append_left _
      (List.mem_map.2 ⟨c, List.mem_filter.2 ⟨hc, decide_eq_true hne⟩, rfl⟩)
  · exact List.mem_append_right _ (List.mem_map.2 ⟨e, hdone, rfl⟩)

open Writer (keyIn)

/-- The store holds what it held at the start and what the ledger accounts for, and every key
of a record taken was there at the start or is striven for. -/
structure Sound (table index : String) (start : Store) (l : Ledger) (drawn : List Int64)
    (s : Store) : Prop where
  distinct : ((l.entries Phase.rowid?).map Prod.snd).Nodup
  drawn : ∀ e ∈ l.entries Phase.rowid?, e.2 ∈ drawn
  kept : ∀ key, start.idsUnder index key ≠ [] → s.idsUnder index key = start.idsUnder index key
  claimed : ∀ e ∈ l.entries Phase.claim?, s.idsUnder index (keyIn index e.1) = [e.2]
  origin : ∀ key rowid, rowid ∈ s.idsUnder index key →
    rowid ∈ start.idsUnder index key ∨
      ∃ e ∈ l.entries Phase.claim?, keyIn index e.1 = key ∧ e.2 = rowid
  rows : ∀ row, row ∈ s.rowsIn table ↔
    row ∈ start.rowsIn table ∨ ∃ e ∈ l.entries Phase.row?, row = ⟨e.2, e.1.record⟩
  covered : ∀ i ∈ l.records, start.idsUnder index (keyIn index i) ≠ [] ∨
    ∃ j ∈ l.striving, keyIn index j = keyIn index i

namespace Sound

variable {table index : String} {start s t : Store} {drawn : List Int64} {l : Ledger}

theorem agree (h : Sound table index start l drawn s) (hst : Store.Agree table index s t) :
    Sound table index start l drawn t where
  distinct := h.distinct
  drawn := h.drawn
  kept key hkey := (hst.ids key).trans (h.kept key hkey)
  claimed e he := (hst.ids _).trans (h.claimed e he)
  origin key rowid hmem := h.origin key rowid (hst.ids key ▸ hmem)
  rows row := hst.rows ▸ h.rows row
  covered := h.covered

theorem perm {crew' : List (Item × Phase)} {done' : List (Item × Int64)} {gone' : List Item}
    (h : Sound table index start ⟨crew, done, gone⟩ drawn s) (hcrew : crew.Perm crew')
    (hdone : done.Perm done') (hgone : gone.Perm gone') :
    Sound table index start ⟨crew', done', gone'⟩ drawn s := by
  have hentries (f : Phase → Option Int64) :
      (entries f ⟨crew, done, gone⟩).Perm (entries f ⟨crew', done', gone'⟩) :=
    (hcrew.filterMap _).append hdone
  have hstriving : (striving ⟨crew, done, gone⟩).Perm (striving ⟨crew', done', gone'⟩) :=
    ((hcrew.filter _).map _).append (hdone.map _)
  have hrecords : (records ⟨crew, done, gone⟩).Perm (records ⟨crew', done', gone'⟩) :=
    (hcrew.map _).append hgone
  constructor
  · exact ((hentries _).map _).nodup_iff.1 h.distinct
  · exact fun e he => h.drawn e ((hentries _).mem_iff.2 he)
  · exact h.kept
  · exact fun e he => h.claimed e ((hentries _).mem_iff.2 he)
  · intro key rowid hmem
    refine (h.origin key rowid hmem).imp_right fun ⟨e, he, hkey⟩ => ?_
    exact ⟨e, (hentries _).mem_iff.1 he, hkey⟩
  · intro row
    rw [h.rows row]
    refine or_congr_right (exists_congr fun e => and_congr_left fun _ => ?_)
    exact (hentries _).mem_iff
  · intro i hi
    refine (h.covered i (hrecords.mem_iff.2 hi)).imp_right fun ⟨j, hj, hkey⟩ => ?_
    exact ⟨j, hstriving.mem_iff.1 hj, hkey⟩

end Sound
end Ledger
end TableMill
