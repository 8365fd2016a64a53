import TableMill.Proofs.RightRows

/-!
# Joining a page

A page of left rows hands over what every left row makes, alone, of the right rows under its
key. The page fails if and only if one of its rows does.
-/

namespace TableMill

theorem flatMap_range_getElem? {α β : Type} (xs : List α) (f : α → List β) :
    ((List.range xs.length).flatMap fun i => xs[i]?.toList.flatMap f) = xs.flatMap f := by
  induction xs with
  | nil => rfl
  | cons x rest ih =>
    rw [List.length_cons, List.range_succ_eq_map, List.flatMap_cons, List.flatMap_map,
      List.flatMap_cons]
    simp only [Nat.succ_eq_add_one, List.getElem?_cons_zero, List.getElem?_cons_succ,
      Option.toList_some, List.flatMap_singleton, ih]

namespace Lookup

variable {l : Lookup} {columns : Columns} {capacity : Nat} {rows : List Row} {i : Nat} {r : Row}

theorem keyRecord_ofRows (h : rows[i]? = some r) (htable : ∀ c ∈ columns, c.table = readerAlias)
    (hdistinct : columns.Distinct) {cs : Columns} (hcs : cs ⊆ columns)
    (hname : ∀ c ∈ cs, c.name ≠ rowidName) (components : List Component) :
    keyRecord (.ofRows columns capacity rows) i cs components =
      .ok ((cs.zip components).map fun p => (p.2.field, r.valueIn p.1)) := by
  induction cs generalizing components with
  | nil => simp [keyRecord]
  | cons c rest ih =>
    cases components with
    | nil => simp [keyRecord]
    | cons k ks =>
      have hc : c ∈ columns := hcs List.mem_cons_self
      have hvalue : (RowPage.ofRows columns capacity rows).value i c.table c.name =
          .ok (r.pagedIn c) :=
        RowPage.value_ofRows h hc (fun d hd => (htable d hd).trans (htable c hc).symm) hdistinct
      have hrest := ih (fun d hd => hcs (List.mem_cons_of_mem _ hd))
        (fun d hd => hname d (List.mem_cons_of_mem _ hd)) ks
      rw [Row.pagedIn_of_ne (hname c List.mem_cons_self)] at hvalue
      rw [keyRecord]
      exact bind_eq_ok.2 ⟨_, hvalue, bind_eq_ok.2 ⟨_, hrest, rfl⟩⟩

theorem key_ofRows (h : rows[i]? = some r) (htable : ∀ c ∈ columns, c.table = readerAlias)
    (hdistinct : columns.Distinct) (hleft : l.leftColumns ⊆ columns)
    (hname : ∀ c ∈ l.leftColumns, c.name ≠ rowidName) :
    l.key (.ofRows columns capacity rows) i = l.rowKey r := by
  rw [key, keyRecord_ofRows h htable hdistinct hleft hname]
  rfl

end Lookup

namespace Join

open ReadM

section KeyPlaces

variable {j : Join} {page : RowPage} {p : JoinPage}

def keyAt (j : Join) (page : RowPage) (i : Nat) : Option String :=
  (j.lookup.key page i).toOption

theorem get?_addPlace (key k : String) (i : Nat) (places : Assoc (List Nat)) :
    (addPlace key i places).get? k =
      if key = k then some ((places.get? k).getD [] ++ [i]) else places.get? k := by
  rw [addPlace, Assoc.get?_set]
  split
  · next h => rw [h]
  · rfl

theorem keyPlaces_cons (j : Join) (page : RowPage) (p : JoinPage) (i : Nat) (rest : List Nat) (places : Assoc (List Nat)) :
    (∃ key, j.keyAt page i = some key ∧
      j.keyPlaces page (i :: rest) places p = j.keyPlaces page rest (addPlace key i places) p) ∨
    (∃ e, j.keyAt page i = none ∧
      j.keyPlaces page (i :: rest) places p = j.keyPlaces page rest places (fail [i] p e)) := by
  unfold keyAt
  cases hkey : j.lookup.key page i with
  | ok key => exact Or.inl ⟨key, rfl, by simp only [keyPlaces, hkey]⟩
  | error e => exact Or.inr ⟨_, rfl, by simp only [keyPlaces, hkey]; rfl⟩

theorem get?_keyPlaces (is : List Nat) (places : Assoc (List Nat)) (k : String) :
    (j.keyPlaces page is places p).1.get? k =
      if is.filter (fun i => j.keyAt page i = some k) = [] then places.get? k
      else some ((places.get? k).getD [] ++ is.filter fun i => j.keyAt page i = some k) := by
  induction is generalizing places p with
  | nil => simp [keyPlaces]
  | cons i rest ih =>
    rcases keyPlaces_cons j page p i rest places with
      ⟨key, hkey, hstep⟩ | ⟨e, hkey, hstep⟩
    · rw [hstep, ih, get?_addPlace]
      by_cases hk : key = k
      · subst hk
        simp [hkey]
      · simp [hkey, hk]
    · rw [hstep, ih]
      simp [hkey]

theorem keyed_keyPlaces (is : List Nat) {places : Assoc (List Nat)} (h : Assoc.Keyed places) :
    Assoc.Keyed (j.keyPlaces page is places p).1 := by
  induction is generalizing places p with
  | nil => exact h
  | cons i rest ih =>
    rcases keyPlaces_cons j page p i rest places with
      ⟨key, -, hstep⟩ | ⟨e, -, hstep⟩
    · rw [hstep]
      exact ih (Assoc.keyed_set h _ _)
    · rw [hstep]
      exact ih h

/-- Left rows without a key fail. -/
theorem keyPlaces_rows (is : List Nat) (places : Assoc (List Nat)) (i : Nat) :
    (j.keyPlaces page is places p).2.rows[i]? =
      if i ∈ is ∧ j.keyAt page i = none then
        p.rows[i]?.map fun row => { row with failed := true }
      else p.rows[i]? := by
  induction is generalizing places p with
  | nil => simp [keyPlaces]
  | cons k rest ih =>
    rcases keyPlaces_cons j page p k rest places with
      ⟨key, hkey, hstep⟩ | ⟨e, hkey, hstep⟩
    · rw [hstep, ih]
      by_cases hi : i = k
      · subst hi
        simp [hkey]
      · simp [hi]
    · rw [hstep, ih, fail_rows]
      by_cases hi : i = k
      · subst hi
        cases p.rows[i]? <;> simp [hkey]
      · simp [hi]

theorem keyPlaces_length (is : List Nat) (places : Assoc (List Nat)) :
    (j.keyPlaces page is places p).2.rows.length = p.rows.length := by
  induction is generalizing places p with
  | nil => rfl
  | cons i rest ih =>
    rcases keyPlaces_cons j page p i rest places with
      ⟨key, -, hstep⟩ | ⟨e, -, hstep⟩
    · rw [hstep, ih]
    · rw [hstep, ih, fail_length]

theorem sound_keyPlaces {is : List Nat} (his : ∀ i ∈ is, i < p.rows.length)
    (places : Assoc (List Nat)) (h : Sound p) : Sound (j.keyPlaces page is places p).2 := by
  induction is generalizing places p with
  | nil => exact h
  | cons i rest ih =>
    have hrest : ∀ k ∈ rest, k < p.rows.length := fun k hk => his k (List.mem_cons_of_mem _ hk)
    rcases keyPlaces_cons j page p i rest places with
      ⟨key, -, hstep⟩ | ⟨e, -, hstep⟩
    · rw [hstep]
      exact ih hrest _ h
    · rw [hstep]
      refine ih (fun k hk => ?_) _ (sound_fail [i] e ⟨i, by simp, his i List.mem_cons_self⟩)
      rw [fail_length]
      exact hrest k hk

end KeyPlaces

section Finish

def lastOutcome (j : Join) (row : LeftRow) : Except RowError (Option Item) :=
  match j.lastRecord? row with
  | none => .ok none
  | some outcome => outcome.bind (j.item row.context)

theorem finish_eq (j : Join) (rows : List LeftRow) (errors : List RowError) :
    j.finish rows errors = (rows.flatMap fun row => outcomeItems (j.lastOutcome row),
      errors ++ rows.flatMap fun row => outcomeErrors (j.lastOutcome row)) := by
  induction rows generalizing errors with
  | nil => simp [finish]
  | cons row rest ih =>
    simp only [finish, lastOutcome, List.flatMap_cons]
    cases hlast : j.lastRecord? row with
    | none => simp [ih, lastOutcome, outcomeItems, outcomeErrors]
    | some outcome =>
      cases hitem : outcome.bind (j.item row.context) with
      | error e => simp [ih, hitem, lastOutcome, outcomeItems, outcomeErrors]
      | ok item => simp [ih, hitem, lastOutcome, outcomeItems, outcomeErrors]

end Finish

section Page

variable {σ : Type} {I : σ → Prop} {b : Backend σ} {s : Store} {left : String} {j : Join}
  {right : StoredTable} {ix : StoredIndex} {cs rcs : Columns} {capacity : Nat} {rows : List Row}

def startGroup (j : Join) : Option Group :=
  if j.lookup.grouped then j.node.output.freshGroup.toOption else none

def freshRow (j : Join) (columns : Columns) (r : Row) : LeftRow :=
  ⟨.left r.rowid, columns.bindBy r.pagedIn, false, false, j.startGroup⟩

/-- What a left row makes, alone, of the right rows under its key. -/
def joinOne (j : Join) (columns rightColumns : Columns) (right : StoredTable) (ix : StoredIndex)
    (r : Row) : LeftRow × List Item :=
  match j.lookup.rowKey r with
  | .error _ => ({ j.freshRow columns r with failed := true }, [])
  | .ok key =>
    j.meetAll (j.freshRow columns r) ((Lookup.listed right ix key).map (arrivalAt rightColumns []))

def itemsOne (j : Join) (columns rightColumns : Columns) (right : StoredTable) (ix : StoredIndex)
    (r : Row) : List Item :=
  let met := j.joinOne columns rightColumns right ix r
  met.2 ++ outcomeItems (j.lastOutcome met.1)

def CleanOne (j : Join) (columns rightColumns : Columns) (right : StoredTable) (ix : StoredIndex)
    (r : Row) : Prop :=
  let met := j.joinOne columns rightColumns right ix r
  met.1.failed = false ∧ outcomeErrors (j.lastOutcome met.1) = []

theorem meetAll_arrivalAt (columns : Columns) (lefts : List Nat) (row : LeftRow) (rs : List Row) :
    j.meetAll row (rs.map (arrivalAt columns lefts)) = j.meetAll row (rs.map (arrivalAt columns [])) := by
  induction rs generalizing row with
  | nil => rfl
  | cons r rest ih =>
    have hmeet : j.meet row (arrivalAt columns lefts r) = j.meet row (arrivalAt columns [] r) := rfl
    simp only [List.map_cons, meetAll_cons, hmeet, ih]

theorem start_ofRows (hgroup : j.lookup.grouped = true → ∃ g, j.node.output.freshGroup = .ok g) :
    j.start (.ofRows (.rowid readerAlias :: cs) capacity rows) =
      .ok ⟨rows.map (j.freshRow (.rowid readerAlias :: cs)), []⟩ := by
  have hrow : ∀ i r, rows[i]? = some r →
      j.leftRow (.ofRows (.rowid readerAlias :: cs) capacity rows) i =
        .ok (j.freshRow (.rowid readerAlias :: cs) r) := by
    intro i r h
    have hbind : ofTable ((RowPage.ofRows (.rowid readerAlias :: cs) capacity rows).bindRow i [] none) =
        .ok (Columns.bindBy (.rowid readerAlias :: cs) r.pagedIn) :=
      ofTable_eq_ok.2 (RowPage.bindRow_ofRows h)
    have hcontext : leftContext (RowPage.ofRows (.rowid readerAlias :: cs) capacity rows) i =
        .left r.rowid := by
      rw [leftContext, RowPage.rowid_ofRows h]
    refine bind_eq_ok.2 ⟨_, hbind, ?_⟩
    rw [hcontext]
    unfold freshRow startGroup
    by_cases hg : j.lookup.grouped = true
    · obtain ⟨g, hfresh⟩ := hgroup hg
      simp only [hg, if_true, hfresh]
      rfl
    · simp only [hg]
      rfl
  refine bind_eq_ok.2 ⟨_, mapM_eq_ok.2 (List.forall₂_iff_get.2 ⟨?_, fun i hi _ => ?_⟩), rfl⟩
  · simp
  · have hlt : i < rows.length := by simpa using hi
    simpa using hrow i rows[i] (List.getElem?_eq_getElem hlt)

theorem get?_places (page : RowPage) (p : JoinPage) (count : Nat) {k : String} {ks : List Nat}
    (h : (j.keyPlaces page (List.range count) [] p).1.get? k = some ks) :
    ks ≠ [] ∧ ks.Nodup ∧ ∀ i, i ∈ ks ↔ i < count ∧ j.keyAt page i = some k := by
  rw [get?_keyPlaces] at h
  split at h
  · simp at h
  · next hne =>
    simp only [Assoc.get?_nil, Option.getD_none, List.nil_append, Option.some.injEq] at h
    subst h
    exact ⟨hne, List.nodup_range.filter _, by simp⟩

variable (j) in
def keyed (columns : Columns) (page : RowPage) (rows : List Row) : Assoc (List Nat) × JoinPage :=
  j.keyPlaces page (List.range rows.length) [] ⟨rows.map (j.freshRow columns), []⟩

def arriving (right : StoredTable) (ix : StoredIndex) (rightColumns : Columns) (size : Nat)
    (places : Assoc (List Nat)) : List Arrival :=
  (chunks size (places.map Prod.fst)).flatMap (arrivalsUnder right ix rightColumns places)

variable (j) in
def matched (columns rightColumns : Columns) (right : StoredTable) (ix : StoredIndex) (size : Nat)
    (page : RowPage) (rows : List Row) : JoinPage × List Item :=
  j.arriveAll (j.keyed columns page rows).2
    (arriving right ix rightColumns size (j.keyed columns page rows).1)

variable {page : RowPage} (columns rightColumns : Columns) {size : Nat}

theorem keyed_length : (j.keyed columns page rows).2.rows.length = rows.length := by
  rw [keyed, keyPlaces_length, List.length_map]

/-- Nothing arrives at a left row without a key. -/
theorem arrivalsAt_unkeyed {i : Nat} (hnone : j.keyAt page i = none) :
    arrivalsAt i (arriving right ix rightColumns size (j.keyed columns page rows).1) = [] := by
  refine arrivalsAt_nowhere (fun k ks hks hi => ?_) _
  have hsome := (((get?_places page _ rows.length hks).2.2 i).1 hi).2
  rw [hnone] at hsome
  simp at hsome

/-- At a left row with a key the right rows under the key arrive. -/
theorem arrivalsAt_keyed (hj : j.Reads I b s left right ix) (hsize : 0 < size) {i : Nat}
    (hlt : i < rows.length) {key : String} (hsome : j.keyAt page i = some key) :
    ∃ lefts, arrivalsAt i (arriving right ix rightColumns size (j.keyed columns page rows).1) =
      (Lookup.listed right ix key).map (arrivalAt rightColumns lefts) := by
  have hplaces : (j.keyed columns page rows).1.get? key ≠ none := by
    have hi : i ∈ (List.range rows.length).filter fun i => j.keyAt page i = some key :=
      List.mem_filter.2 ⟨List.mem_range.2 hlt, by simp [hsome]⟩
    rw [keyed, get?_keyPlaces, if_neg (List.ne_nil_of_mem hi)]
    simp
  obtain ⟨lefts, hlefts⟩ := Option.ne_none_iff_exists'.1 hplaces
  have hi : i ∈ lefts := ((get?_places page _ rows.length hlefts).2.2 i).2 ⟨hlt, hsome⟩
  have hother : ∀ k ks, (j.keyed columns page rows).1.get? k = some ks → i ∈ ks → k = key := by
    intro k ks hks hmem
    have hk' := (((get?_places page _ rows.length hks).2.2 i).1 hmem).2
    exact Option.some.inj (hk'.symm.trans hsome)
  have hflat := chunks_flatten hsize ((j.keyed columns page rows).1.map Prod.fst)
  have hmem : key ∈ (chunks size ((j.keyed columns page rows).1.map Prod.fst)).flatten := by
    rw [hflat]
    by_contra hnot
    exact hplaces (Assoc.get?_eq_none_iff.2 hnot)
  have hnodup : (chunks size ((j.keyed columns page rows).1.map Prod.fst)).flatten.Nodup := by
    rw [hflat]
    exact keyed_keyPlaces _ Assoc.keyed_nil
  refine ⟨lefts, ?_⟩
  rw [arriving, arrivalsAt_chunks hj.rising hj.nodup hj.single hlefts hi hother hnodup, if_pos hmem]

/-- At every place a left row meets what it meets alone. -/
theorem meetAll_place (hj : j.Reads I b s left right ix) (hsize : 0 < size) {i : Nat} {r : Row}
    (hr : rows[i]? = some r) (hkey : j.lookup.key page i = j.lookup.rowKey r) :
    ∃ row, (j.keyed columns page rows).2.rows[i]? = some row ∧
      j.meetAll row (arrivalsAt i
        (arriving right ix rightColumns size (j.keyed columns page rows).1)) =
        j.joinOne columns rightColumns right ix r := by
  have hlt : i < rows.length := (List.getElem?_eq_some_iff.1 hr).1
  have hrows : (j.keyed columns page rows).2.rows[i]? =
      if i ∈ List.range rows.length ∧ j.keyAt page i = none then
        (rows.map (j.freshRow columns))[i]?.map fun row => { row with failed := true }
      else (rows.map (j.freshRow columns))[i]? := keyPlaces_rows _ _ _
  rw [List.getElem?_map, hr, Option.map_some] at hrows
  unfold joinOne
  cases hk : j.lookup.rowKey r with
  | error e =>
    have hnone : j.keyAt page i = none := by
      rw [keyAt, hkey, hk]
      rfl
    rw [if_pos ⟨List.mem_range.2 hlt, hnone⟩] at hrows
    refine ⟨_, hrows, ?_⟩
    rw [arrivalsAt_unkeyed columns rightColumns hnone]
    rfl
  | ok key =>
    have hsome : j.keyAt page i = some key := by
      rw [keyAt, hkey, hk]
      rfl
    have hnot : ¬ (i ∈ List.range rows.length ∧ j.keyAt page i = none) := by simp [hsome]
    rw [if_neg hnot] at hrows
    obtain ⟨lefts, hlefts⟩ := arrivalsAt_keyed columns rightColumns hj hsize hlt hsome
    refine ⟨_, hrows, ?_⟩
    rw [hlefts]
    exact meetAll_arrivalAt _ _ _ _

theorem placed_arriving (size : Nat) :
    Placed (j.keyed columns page rows).2.rows.length
        (arriving right ix rightColumns size (j.keyed columns page rows).1) ∧
      ∀ a ∈ arriving right ix rightColumns size (j.keyed columns page rows).1, a.places ≠ [] := by
  rw [keyed_length]
  refine placed_chunks (fun k ks hks => ?_) _
  obtain ⟨hne, hnodup, hmem⟩ := get?_places page _ rows.length hks
  exact ⟨hnodup, hne, fun i hi => ((hmem i).1 hi).1⟩

theorem matched_rows (hj : j.Reads I b s left right ix) (hsize : 0 < size)
    (hkey : ∀ (i : Nat) (r : Row), rows[i]? = some r → j.lookup.key page i = j.lookup.rowKey r) :
    (j.matched columns rightColumns right ix size page rows).1.rows =
      rows.map fun r => (j.joinOne columns rightColumns right ix r).1 := by
  apply List.ext_getElem?
  intro i
  rw [matched, arriveAll_rows (placed_arriving columns rightColumns size).1, List.getElem?_map]
  cases hr : rows[i]? with
  | none =>
    have hlength : (j.keyed columns page rows).2.rows.length ≤ i := by
      rw [keyed_length]
      exact List.getElem?_eq_none_iff.1 hr
    rw [List.getElem?_eq_none hlength]
    rfl
  | some r =>
    obtain ⟨row, hrow, hmeet⟩ := meetAll_place columns rightColumns hj hsize hr (hkey i r hr)
    rw [hrow, Option.map_some, hmeet, Option.map_some]

theorem matched_items (hj : j.Reads I b s left right ix) (hsize : 0 < size)
    (hkey : ∀ (i : Nat) (r : Row), rows[i]? = some r → j.lookup.key page i = j.lookup.rowKey r) :
    (j.matched columns rightColumns right ix size page rows).2.Perm
      (rows.flatMap fun r => (j.joinOne columns rightColumns right ix r).2) := by
  refine (arriveAll_items (placed_arriving columns rightColumns size).1).trans (List.Perm.of_eq ?_)
  rw [keyed_length, ← flatMap_range_getElem? rows]
  apply List.flatMap_congr
  intro i hi
  have hr := List.getElem?_eq_getElem (List.mem_range.1 hi)
  obtain ⟨row, hrow, hmeet⟩ := meetAll_place columns rightColumns hj hsize hr (hkey i _ hr)
  simp only [ownItems, hrow, hr, Option.toList_some, List.flatMap_singleton, hmeet]

theorem sound_matched (size : Nat) :
    Sound (j.matched columns rightColumns right ix size page rows).1 := by
  have hstart : Sound ⟨rows.map (j.freshRow columns), []⟩ := by
    refine iff_of_true rfl fun i row hrow => ?_
    obtain ⟨r, -, rfl⟩ := List.mem_map.1 (List.mem_of_getElem? hrow)
    rfl
  have hkeyed : Sound (j.keyed columns page rows).2 :=
    sound_keyPlaces (fun i hi => by simpa using hi) [] hstart
  exact sound_arriveAll hkeyed (placed_arriving columns rightColumns size).1 (placed_arriving columns rightColumns size).2

theorem matched_yields (hj : j.Reads I b s left right ix) (hsize : 0 < size)
    (hcapacity : 0 < capacity)
    (htyped : ∀ r ∈ right.rows, ∀ c ∈ Column.rowid lookupAlias :: rcs, (r.pagedIn c).kind = c.kind) :
    Yields I ((chunks size ((j.keyed columns page rows).1.map Prod.fst)).foldlM
        (fun p keys => j.keyChunk b (.ofRows (.rowid lookupAlias :: rcs) capacity [])
          (j.keyed columns page rows).1 keys p) (j.keyed columns page rows).2)
      (.ok (j.matched columns (.rowid lookupAlias :: rcs) right ix size page rows).1)
      (j.matched columns (.rowid lookupAlias :: rcs) right ix size page rows).2 := by
  have hkeys : ((j.keyed columns page rows).1.map Prod.fst).Nodup :=
    keyed_keyPlaces _ Assoc.keyed_nil
  refine foldlM_yields (fun p keys hmem => ?_) (j.keyed columns page rows).2
  have hsub : keys.Sublist ((j.keyed columns page rows).1.map Prod.fst) := by
    rw [← chunks_flatten hsize ((j.keyed columns page rows).1.map Prod.fst)]
    exact List.sublist_flatten_of_mem hmem
  exact keyChunk_yields hj htyped hcapacity (hkeys.sublist hsub) p

theorem matched_errors (hj : j.Reads I b s left right ix) (hsize : 0 < size)
    (hkey : ∀ (i : Nat) (r : Row), rows[i]? = some r → j.lookup.key page i = j.lookup.rowKey r) :
    (j.matched columns rightColumns right ix size page rows).1.errors = [] ↔
      ∀ r ∈ rows, (j.joinOne columns rightColumns right ix r).1.failed = false := by
  have hsound : Sound (j.matched columns rightColumns right ix size page rows).1 :=
    sound_matched _ _ size
  rw [hsound.errors_eq_nil, matched_rows columns rightColumns hj hsize hkey]
  exact List.forall_mem_map

theorem ending_yields (last : List Item × List RowError) :
    Yields I (do
      ReadM.hand last.1
      if !last.2.isEmpty then throw (BatchError.rows last.2))
      (if last.2.isEmpty then .ok () else .error (.rows last.2)) last.1 := by
  refine yields_hand_seq ?_
  cases last.2.isEmpty with
  | true => exact yields_pure ()
  | false => exact yields_throw _

variable (j) in
def pageResult (columns rightColumns : Columns) (right : StoredTable) (ix : StoredIndex)
    (size : Nat) (page : RowPage) (rows : List Row) : List Item × List RowError :=
  let matched := j.matched columns rightColumns right ix size page rows
  let last := j.finish matched.1.rows matched.1.errors
  (matched.2 ++ last.1, last.2)

/-- At the end of a page, its left rows give what each of them gives last. -/
theorem finish_matched (hj : j.Reads I b s left right ix) (hsize : 0 < size)
    (hkey : ∀ (i : Nat) (r : Row), rows[i]? = some r → j.lookup.key page i = j.lookup.rowKey r) :
    let matched := j.matched columns rightColumns right ix size page rows
    j.finish matched.1.rows matched.1.errors =
      (rows.flatMap fun r => outcomeItems (j.lastOutcome
        (j.joinOne columns rightColumns right ix r).1),
      matched.1.errors ++ rows.flatMap fun r => outcomeErrors (j.lastOutcome
        (j.joinOne columns rightColumns right ix r).1)) := by
  intro matched
  have hrows : matched.1.rows = _ := matched_rows columns rightColumns hj hsize hkey
  simp only [finish_eq, hrows, List.flatMap_map]

/-- A page hands over what its left rows make, each one alone. -/
theorem pageResult_items (hj : j.Reads I b s left right ix) (hsize : 0 < size)
    (hkey : ∀ (i : Nat) (r : Row), rows[i]? = some r → j.lookup.key page i = j.lookup.rowKey r) :
    (j.pageResult columns rightColumns right ix size page rows).1.Perm
      (rows.flatMap (j.itemsOne columns rightColumns right ix)) := by
  have hitems := matched_items columns rightColumns hj hsize hkey
  simp only [pageResult, finish_matched columns rightColumns hj hsize hkey]
  exact (hitems.append_right _).trans (List.flatMap_append_perm _ _ _)

/-- A page has errors if and only if one of its left rows has, alone. -/
theorem pageResult_errors (hj : j.Reads I b s left right ix) (hsize : 0 < size)
    (hkey : ∀ (i : Nat) (r : Row), rows[i]? = some r → j.lookup.key page i = j.lookup.rowKey r) :
    (j.pageResult columns rightColumns right ix size page rows).2 = [] ↔
      ∀ r ∈ rows, j.CleanOne columns rightColumns right ix r := by
  simp only [pageResult, finish_matched columns rightColumns hj hsize hkey,
    List.append_eq_nil_iff, List.flatMap_eq_nil_iff]
  rw [matched_errors columns rightColumns hj hsize hkey]
  exact ⟨fun h r hr => ⟨h.1 r hr, h.2 r hr⟩, fun h => ⟨fun r hr => (h r hr).1, fun r hr => (h r hr).2⟩⟩

/-- A page hands over its items, and then it throws its errors. -/
theorem page_yields (hj : j.Reads I b s left right ix) {room : Nat} (hsize : 0 < size)
    (hcapacity : 0 < capacity)
    (hgroup : j.lookup.grouped = true → ∃ g, j.node.output.freshGroup = .ok g)
    (htyped : ∀ r ∈ right.rows, ∀ c ∈ Column.rowid lookupAlias :: rcs, (r.pagedIn c).kind = c.kind) :
    let page := RowPage.ofRows (.rowid readerAlias :: cs) room rows
    let result := j.pageResult (.rowid readerAlias :: cs) (.rowid lookupAlias :: rcs) right ix size
      page rows
    Yields I (j.page b (.ofRows (.rowid lookupAlias :: rcs) capacity []) size page)
      (if result.2.isEmpty then .ok () else .error (.rows result.2)) result.1 := by
  intro page result
  have hstart : j.start page = .ok ⟨rows.map (j.freshRow (.rowid readerAlias :: cs)), []⟩ :=
    start_ofRows hgroup
  have hcount : page.rowCount = rows.length := RowPage.rowCount_ofRows
  refine yields_seq (yields_lift hstart) ?_
  rw [hcount]
  exact yields_bind (matched_yields _ hj hsize hcapacity htyped) (ending_yields _)

end Page

end Join
end TableMill
