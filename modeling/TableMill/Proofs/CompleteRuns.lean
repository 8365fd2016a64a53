import TableMill.Proofs.CompleteRecords

/-!
# Records that are handed over

All states of a page of left rows that a join goes through are reachable ones. So all records that
it hands to the writer are complete.
-/

namespace TableMill

namespace ReadM

variable {σ α β : Type} {P : Item → Prop} {Q : α → Prop} {R : β → Prop}

/-- Whatever the storage answers, a reading step hands over items of one sort only, and gives a
result of one sort or none. -/
def Hands (P : Item → Prop) (Q : α → Prop) (m : ReadM σ α) : Prop :=
  ∀ r : Reading σ, (∀ a, (m.run.run r).1 = .ok a → Q a) ∧
    ∀ item ∈ (m.run.run r).2.handed, item ∈ r.handed ∨ P item

namespace Hands

theorem pure {a : α} (h : Q a) : Hands P Q (Pure.pure a : ReadM σ α) :=
  fun _ => ⟨fun _ hb => Except.ok.inj hb ▸ h, fun _ hitem => Or.inl hitem⟩

theorem throw (e : BatchError) : Hands P Q (MonadExcept.throw e : ReadM σ α) :=
  fun _ => ⟨nofun, fun _ hitem => Or.inl hitem⟩

theorem lift {x : BatchResult α} (h : ∀ a, x = .ok a → Q a) :
    Hands P Q (liftM x : ReadM σ α) := by
  intro r
  cases x with
  | error e => exact ⟨nofun, fun _ hitem => Or.inl hitem⟩
  | ok a => exact ⟨fun _ hb => h _ hb, fun _ hitem => Or.inl hitem⟩

theorem call (f : σ → StoreResult α × σ) : Hands P (fun _ => True) (ReadM.call f) := by
  intro r
  rw [run_call]
  rcases f r.storage with ⟨e | a, s⟩
  · exact ⟨fun _ _ => trivial, fun _ hitem => Or.inl hitem⟩
  · exact ⟨fun _ _ => trivial, fun _ hitem => Or.inl hitem⟩

theorem peek (f : σ → α) : Hands P (fun _ => True) (ReadM.peek f) :=
  fun _ => ⟨fun _ _ => trivial, fun _ hitem => Or.inl hitem⟩

theorem hand {items : List Item} (h : ∀ item ∈ items, P item) :
    Hands P (fun _ => True) (ReadM.hand items : ReadM σ Unit) :=
  fun _ => ⟨fun _ _ => trivial, fun item hitem => (List.mem_append.1 hitem).imp_right (h item)⟩

theorem bind {m : ReadM σ α} {f : α → ReadM σ β} (hm : Hands P Q m)
    (hf : ∀ a, Q a → Hands P R (f a)) : Hands P R (m >>= f) := by
  intro r
  obtain ⟨hok, hitems⟩ := hm r
  rw [run_bind]
  rcases hrun : m.run.run r with ⟨e | a, s⟩
  · rw [hrun] at hitems
    exact ⟨nofun, hitems⟩
  · rw [hrun] at hok hitems
    obtain ⟨hok', hitems'⟩ := hf a (hok a rfl) s
    exact ⟨hok', fun item hitem => (hitems' item hitem).elim (hitems item) Or.inr⟩

theorem foldlM {f : β → α → ReadM σ β} {xs : List α} {b : β}
    (hstep : ∀ b x, R b → Hands P R (f b x)) (hb : R b) : Hands P R (xs.foldlM f b) := by
  induction xs generalizing b with
  | nil => exact .pure hb
  | cons x xs ih =>
    rw [List.foldlM_cons]
    exact (hstep b x hb).bind fun c hc => ih hc

end Hands
end ReadM

namespace Join

variable {j : Join} {p : JoinPage} {row : LeftRow}

abbrev ItemComplete (j : Join) (item : Item) : Prop := j.node.output.Complete item.record

theorem record_of_item {context : RowContext} {record : Record} {item : Item}
    (h : j.item context record = .ok (some item)) : item.record = record := by
  unfold Join.item at h
  split at h
  · cases h
  · cases h
  · split at h
    · cases h
    · exact (Option.some.inj (Except.ok.inj h)) ▸ rfl

theorem complete_pair (ht : j.node.output.Sound) {right : Bindings} {rowid : Int64} {item : Item}
    (h : (j.pair row right rowid).2 = .ok (some item)) : j.ItemComplete item := by
  unfold pair at h
  split at h
  · cases h
  · dsimp only at h
    split at h
    · split at h
      · cases h
      · cases h
    · split at h
      · cases h
      · next record hrecord =>
        split at h
        · next hitem =>
          obtain rfl := Except.ok.inj h
          rw [ItemComplete, record_of_item hitem]
          exact ht.complete (Table.fits_record hrecord)
        · cases h

theorem items_put (p : JoinPage) (i : Nat) (row : LeftRow) (outcome : Except RowError (Option Item))
    {item : Item} (h : item ∈ (put p i row outcome).2) : outcome = .ok (some item) := by
  cases outcome with
  | ok found => rw [Option.mem_toList.1 h]
  | error e => cases h

theorem reaches_pairAll (ht : j.node.output.Sound) (hp : j.Reaches p) (right : Bindings)
    (rowid : Int64) (places : List Nat) :
    j.Reaches (j.pairAll right rowid places p).1 ∧
      ∀ item ∈ (j.pairAll right rowid places p).2, j.ItemComplete item := by
  induction places generalizing p with
  | nil => exact ⟨hp, nofun⟩
  | cons i rest ih =>
    unfold pairAll
    split
    · exact ih hp
    · next row hrow =>
      obtain ⟨hreaches, hitems⟩ := ih (hp.pair hrow right rowid)
      refine ⟨hreaches, List.forall_mem_append.2 ⟨fun item hitem => ?_, hitems⟩⟩
      exact complete_pair ht (items_put _ _ _ _ hitem)

theorem reaches_rightRow (ht : j.node.output.Sound) (hp : j.Reaches p) (places : List Nat)
    (right : Bindings) (rowid : Int64) :
    j.Reaches (j.rightRow places right rowid p).1 ∧
      ∀ item ∈ (j.rightRow places right rowid p).2, j.ItemComplete item := by
  unfold rightRow
  split
  · exact ⟨hp.fail places _, nofun⟩
  · exact ⟨hp, nofun⟩
  · exact reaches_pairAll ht hp right rowid places

theorem reaches_rightRows (ht : j.node.output.Sound) (hp : j.Reaches p)
    {keyOf : List (Int64 × String)} {places : Assoc (List Nat)} {right : RowPage} {is : List Nat}
    {q : JoinPage} {items : List Item} (h : j.rightRows keyOf places right is p = .ok (q, items)) :
    j.Reaches q ∧ ∀ item ∈ items, j.ItemComplete item := by
  induction is generalizing p items with
  | nil =>
    obtain ⟨rfl, rfl⟩ := Prod.mk.inj (Except.ok.inj h)
    exact ⟨hp, nofun⟩
  | cons i rest ih =>
    unfold rightRows at h
    obtain ⟨rowid, -, h⟩ := bind_eq_ok.1 h
    split at h
    · exact ih hp h
    · next lefts _ =>
      obtain ⟨vars, -, h⟩ := bind_eq_ok.1 h
      obtain ⟨hreaches, hfirst⟩ := reaches_rightRow ht hp lefts vars rowid
      dsimp only at h
      obtain ⟨⟨q', more⟩, hrest, h⟩ := bind_eq_ok.1 h
      obtain ⟨rfl, rfl⟩ := Prod.mk.inj (Except.ok.inj h)
      obtain ⟨hq, hmore⟩ := ih hreaches hrest
      exact ⟨hq, List.forall_mem_append.2 ⟨hfirst, hmore⟩⟩

theorem reaches_keyPlaces (hp : j.Reaches p) (left : RowPage) (is : List Nat)
    (places : Assoc (List Nat)) : j.Reaches (j.keyPlaces left is places p).2 := by
  induction is generalizing places p with
  | nil => exact hp
  | cons i rest ih =>
    unfold keyPlaces
    split
    · exact ih hp _
    · exact ih (hp.fail [i] _) _

theorem complete_lastRecord (ht : j.node.output.Sound) (hrow : j.RowFits row) {r : Record}
    (h : j.lastRecord? row = some (.ok r)) : j.node.output.Complete r := by
  unfold lastRecord? at h
  split at h
  · cases h
  · split at h
    · next g hg _ =>
      obtain ⟨r', hr', hfits⟩ := fits_groupedRecord ht (hrow g hg)
      rw [hr'] at h
      exact Except.ok.inj (Option.some.inj h) ▸ ht.complete hfits
    · exact ht.complete (fits_unmatchedRecord (Option.some.inj h))
    · cases h

theorem complete_finish (ht : j.node.output.Sound) {rows : List LeftRow}
    (hrows : ∀ row ∈ rows, j.RowFits row) (errors : List RowError) :
    ∀ item ∈ (j.finish rows errors).1, j.ItemComplete item := by
  induction rows generalizing errors with
  | nil => exact nofun
  | cons row rest ih =>
    obtain ⟨hrow, hrest⟩ := List.forall_mem_cons.1 hrows
    unfold finish
    split
    · exact ih hrest errors
    · next outcome houtcome =>
      split
      · exact ih hrest _
      · next item? hitem =>
        refine List.forall_mem_append.2 ⟨fun item hmem => ?_, ih hrest errors⟩
        obtain rfl := Option.mem_toList.1 hmem
        obtain ⟨r, rfl, hitem⟩ := bind_eq_ok.1 hitem
        rw [ItemComplete, record_of_item hitem]
        exact complete_lastRecord ht hrow houtcome

variable {σ : Type}

theorem hands_list (b : Backend σ) (keys : List String) :
    ReadM.Hands j.ItemComplete (fun _ => True) (j.list b keys) := by
  have hfrom (fuel : Nat) (state : Option PageState) (found : List (Int64 × String)) :
      ReadM.Hands j.ItemComplete (fun _ => True) (j.listFrom b keys fuel state found) := by
    induction fuel generalizing state found with
    | zero => exact .pure trivial
    | succ fuel ih =>
      unfold listFrom
      refine (ReadM.Hands.call _).bind fun r _ => ?_
      obtain ⟨entries, next⟩ := r
      cases next with
      | none => exact .pure trivial
      | some state => exact ih (some state) _
  exact (ReadM.Hands.peek _).bind fun bound _ => hfrom _ _ _

/-- Whatever the storage answers while a page of left rows is joined, all records that are handed
over are complete. -/
theorem hands_page (ht : j.node.output.Sound) (b : Backend σ) (right : RowPage) (size : Nat)
    (left : RowPage) :
    ReadM.Hands j.ItemComplete (fun _ => True) (j.page b right size left) := by
  have hchunk (keyOf places ids) (p : JoinPage) (hp : j.Reaches p) :
      ReadM.Hands j.ItemComplete j.Reaches (j.dataChunk b right keyOf places ids p) := by
    refine (ReadM.Hands.call _).bind fun rows _ => ?_
    refine (ReadM.Hands.lift fun page _ => trivial).bind fun page (_ : True) => ?_
    refine (ReadM.Hands.lift fun r hr => reaches_rightRows ht hp hr).bind fun r hr => ?_
    exact (ReadM.Hands.hand hr.2).bind fun _ _ => .pure hr.1
  have hkeys (places keys) (p : JoinPage) (hp : j.Reaches p) :
      ReadM.Hands j.ItemComplete j.Reaches (j.keyChunk b right places keys p) := by
    refine (hands_list b keys).bind fun keyOf _ => ?_
    exact .foldlM (fun p ids hp => hchunk keyOf places ids p hp) hp
  refine (ReadM.Hands.lift fun p hp => Reaches.start hp).bind fun p hp => ?_
  have hplaced := reaches_keyPlaces hp left (List.range left.rowCount) []
  rcases hplaces : j.keyPlaces left (List.range left.rowCount) [] p with ⟨places, p'⟩
  rw [hplaces] at hplaced
  dsimp only
  refine (ReadM.Hands.foldlM (fun p keys hp => hkeys places keys p hp) hplaced).bind
    fun q hq => ?_
  have hlast := complete_finish ht hq.rowFits q.errors
  rcases hfinish : j.finish q.rows q.errors with ⟨items, errors⟩
  rw [hfinish] at hlast
  refine (ReadM.Hands.hand hlast).bind fun _ _ => ?_
  by_cases hnone : errors.isEmpty = true
  · simp only [hnone]
    exact .pure trivial
  · simp only [hnone]
    exact .throw _

end Join
namespace Table

/-- The records of an accepted table are complete: those that are computed at once, in any
context, and in every lookup node over the table those of grouped left rows and of left rows
without right rows, in every state of a page. These are all records that a page hands over. The
defaults that they may hold can always be read, and their keys fail only at values that have no
key. -/
theorem records_complete {s : Source} {t : Table} (hkeyed : Assoc.Keyed s.fields)
    (h : ofSource s = .ok t) :
    (∀ f ∈ t.fields, ∃ v, f.defaultValue = .ok v ∧ v.kind = f.kind) ∧
      (∀ now vars r, t.record now vars = .ok r → t.Complete r) ∧
      (∀ j : Join, j.node.output = t →
        (∀ p, j.Reaches p → ∀ row ∈ p.rows,
          (∀ g, row.group = some g → ∃ r, j.groupedRecord g = .ok r ∧ t.Complete r) ∧
            ∀ r, j.unmatchedRecord row = .ok r → t.Complete r) ∧
        ∀ (σ : Type) (b : Backend σ) (right : RowPage) (size : Nat) (left : RowPage),
          ReadM.Hands (fun item => t.Complete item.record) (fun _ => True)
            (j.page b right size left)) ∧
      ∀ r, t.Complete r → ∀ e ∈ t.indexes, ∀ err, e.2.key r = .error err →
        ∃ fault, err = .noKey fault := by
  have ht := sound_of_ofSource h hkeyed
  refine ⟨fun f hf => ?_, fun now vars r hr => ht.complete (fits_record hr), ?_,
    fun r hr e he err herr => ht.noKey_of_key hr he herr⟩
  · obtain ⟨v, hv⟩ := ht.default hf
    exact ⟨v, hv, Join.default_kind f hv⟩
  · rintro j rfl
    refine ⟨fun p hp row hrow => ⟨fun g hg => ?_, fun r hr => ?_⟩, fun σ b right size left =>
      Join.hands_page ht b right size left⟩
    · obtain ⟨r, hr, hfits⟩ := Join.fits_groupedRecord ht (hp.rowFits row hrow g hg)
      exact ⟨r, hr, ht.complete hfits⟩
    · exact ht.complete (Join.fits_unmatchedRecord hr)

end Table

namespace CompleteSample

/-! Parcels with twice their pieces, and the pieces of all parcels of a city, seven where nothing is
said of them. -/

def parcels : Table.Source where
  name := "parcels"
  having := ""
  fields := [("city", ⟨"r.city", .text, ""⟩), ("pieces", ⟨"r.pieces * 2", .int, " 7 "⟩)]
  indexes := [("idx_parcels", "unique(city, pieces(desc))")]

def cities : Table.Source where
  name := "cities"
  having := ""
  fields := [("city", ⟨"r.city", .text, ""⟩), ("pieces", ⟨"sum(l.pieces)", .int, " 7 "⟩)]
  indexes := [("idx_cities", "unique(city)")]

def parcel (city : String) (pieces : Int64) : List (String × Value) :=
  [("city", .text city), ("pieces", .int pieces)]

def lookup : Lookup :=
  ⟨"idx_city", [⟨"r", "city", .text⟩], true, "", none, .left, 1, 1,
    ⟨"parcels", "", none, [⟨"city", .text, "", .int 0, ""⟩, ⟨"pieces", .int, "", .int 0, ""⟩], []⟩,
    ⟨false, [.plain "city" .text]⟩⟩

def join (t : Table) : Join :=
  ⟨⟨"cities", .lookup, ⟨"places", 1, 2⟩, [⟨"r", "city", .text⟩], t, some lookup⟩, lookup,
    ⟨t.name, t.indexes, none, .default⟩, .unset⟩

def places : RowPage :=
  ⟨[.rowid "r", ⟨"r", "city", .text⟩], [[.int 1, .text "Bern"], [.int 2, .text "Chur"]], 2⟩

/-- The first place is matched with two parcels. -/
def matched (t : Table) : BatchResult JoinPage := do
  let p ← (join t).start places
  let (p, _) := (join t).pairAll [("l", parcel "Bern" 3)] 8 [0] p
  let (p, _) := (join t).pairAll [("l", parcel "Bern" 2)] 9 [0] p
  .ok p

theorem reaches_matched {t : Table} {p : JoinPage} (ht : t.Sound) (h : matched t = .ok p) :
    (join t).Reaches p := by
  obtain ⟨q, hstart, h⟩ := bind_eq_ok.1 h
  obtain rfl := Except.ok.inj h
  have hfirst := (Join.reaches_pairAll ht (.start hstart) [("l", parcel "Bern" 3)] 8 [0]).1
  exact (Join.reaches_pairAll ht hfirst [("l", parcel "Bern" 2)] 9 [0]).1

def records (t : Table) : Option (Record × Record) :=
  match matched t with
  | .ok ⟨[first, second], _⟩ =>
    match first.group with
    | some g =>
      match (join t).groupedRecord g, (join t).unmatchedRecord second with
      | .ok r, .ok r' => some (r, r')
      | _, _ => none
    | none => none
  | _ => none

theorem records_eq_some {t : Table} {r r' : Record} (h : records t = some (r, r')) :
    ∃ p first second g, matched t = .ok p ∧ p.rows = [first, second] ∧ first.group = some g ∧
      (join t).groupedRecord g = .ok r ∧ (join t).unmatchedRecord second = .ok r' := by
  unfold records at h
  split at h
  · next first second errors hmatched =>
    split at h
    · next g hg =>
      split at h
      · next hgrouped hunmatched =>
        cases h
        exact ⟨_, first, second, g, hmatched, rfl, hg, hgrouped, hunmatched⟩
      · cases h
    · cases h
  · cases h

theorem record_parcels : ∃ t, Table.ofSource parcels = .ok t ∧
    t.record .unset [("r", parcel "Bern" 3)] = .ok (parcel "Bern" 6) := by
  have hrecord : (match Table.ofSource parcels with
      | .ok t => (t.record .unset [("r", parcel "Bern" 3)]).toOption
      | .error _ => none) = some (parcel "Bern" 6) := by
    decide +kernel
  split at hrecord
  · next t ht =>
    refine ⟨t, ht, ?_⟩
    cases hr : t.record .unset [("r", parcel "Bern" 3)] with
    | error e =>
      rw [hr] at hrecord
      cases hrecord
    | ok r =>
      rw [hr] at hrecord
      exact congrArg Except.ok (Option.some.inj hrecord)
  · cases hrecord

theorem records_cities : ∃ t, Table.ofSource cities = .ok t ∧
    records t = some (parcel "Bern" 5, parcel "Chur" 7) := by
  have hrecords : (match Table.ofSource cities with
      | .ok t => records t
      | .error _ => none) = some (parcel "Bern" 5, parcel "Chur" 7) := by
    decide +kernel
  split at hrecords
  · next t ht => exact ⟨t, ht, hrecords⟩
  · cases hrecords

theorem records_complete_parcels :
    Assoc.Keyed parcels.fields ∧ Assoc.Keyed cities.fields ∧
      (∃ t, Table.ofSource parcels = .ok t ∧
        t.record .unset [("r", parcel "Bern" 3)] = .ok (parcel "Bern" 6) ∧
        t.Complete (parcel "Bern" 6) ∧
        (∀ f ∈ t.fields, ∃ v, f.defaultValue = .ok v ∧ v.kind = f.kind) ∧
        ∀ e ∈ t.indexes, ∀ err, e.2.key (parcel "Bern" 6) = .error err →
          ∃ fault, err = .noKey fault) ∧
      ∃ t p first second g, Table.ofSource cities = .ok t ∧ matched t = .ok p ∧
        p.rows = [first, second] ∧ first.group = some g ∧
        (join t).groupedRecord g = .ok (parcel "Bern" 5) ∧ t.Complete (parcel "Bern" 5) ∧
        (join t).unmatchedRecord second = .ok (parcel "Chur" 7) ∧
        t.Complete (parcel "Chur" 7) := by
  have hparcels : Assoc.Keyed parcels.fields := by
    unfold Assoc.Keyed
    decide
  have hcities : Assoc.Keyed cities.fields := by
    unfold Assoc.Keyed
    decide
  refine ⟨hparcels, hcities, ?_, ?_⟩
  · obtain ⟨t, ht, hr⟩ := record_parcels
    obtain ⟨hdefaults, hcomplete, -, hkeys⟩ := Table.records_complete hparcels ht
    have hfull := hcomplete _ _ _ hr
    exact ⟨t, ht, hr, hfull, hdefaults, hkeys _ hfull⟩
  · obtain ⟨t, ht, hrecords⟩ := records_cities
    obtain ⟨p, first, second, g, hmatched, hrows, hg, hgrouped, hlone⟩ := records_eq_some hrecords
    obtain ⟨-, -, hjoin, -⟩ := Table.records_complete hcities ht
    have hreaches := reaches_matched (Table.sound_of_ofSource ht hcities) hmatched
    have hcomplete := (hjoin (join t) rfl).1 p hreaches
    obtain ⟨r, hr, hfull⟩ := (hcomplete first (by simp [hrows])).1 g hg
    obtain rfl := Except.ok.inj (hr.symm.trans hgrouped)
    exact ⟨t, p, first, second, g, ht, hmatched, hrows, hg, hgrouped, hfull, hlone,
      (hcomplete second (by simp [hrows])).2 _ hlone⟩

end CompleteSample
end TableMill
