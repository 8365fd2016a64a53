import TableMill.Proofs.PoolKeys
import TableMill.Proofs.WriteEnds

/-!
# Keys without a row

Where the unique key is entered before the row, a record that fails in between leaves its key
behind: nothing gives the key back, and later records with it are skipped. Whatever the workers
meet, these are the only keys left without a row.
-/

namespace TableMill

open Writer (keyIn Concludes)

def Item.hasKey (index : String) (item : Item) : Bool :=
  (Assoc.get? item.keys index).isSome

theorem Item.get?_of_hasKey {index : String} {item : Item} (h : item.hasKey index = true) :
    Assoc.get? item.keys index = some (keyIn index item) := by
  obtain ⟨key, hkey⟩ := Option.isSome_iff_exists.1 h
  rw [keyIn, hkey, Option.getD_some]

/-- A failed record, with the phase it ended in. -/
structure Wreck where
  item : Item
  phase : Phase
  fault : WriteFault

def Wreck.entry (x : Wreck) : Item × Phase := (x.item, x.phase)

/-- The ledger of a pool: records without a key are left out, and failed ones stay in it with
what they hold. -/
def Ledger.of (index : String) (crew : List Member) (wrecks : List Wreck)
    (done : List (Item × Int64)) (settled : List (Item × Outcome)) : Ledger where
  crew := (crew.filter fun c => c.item.hasKey index).map Member.entry ++ wrecks.map Wreck.entry
  done := done
  gone := (settled.map Prod.fst).filter (Item.hasKey index)

section

variable {w : Writer} {table index : String} {items : List Item} {start s : Store}
  {crew front rear : List Member} {wrecks : List Wreck} {done : List (Item × Int64)}
  {gone : List Item} {settled : List (Item × Outcome)} {drawn : List Int64} {p q : Pool}
  {item : Item}

namespace Ledger.Sound

/-- A worker among the others is as good as the first one. -/
theorem of_middle {c : Member} (hkey : c.item.hasKey index = true) :
    Ledger.Sound table index start (.of index (front ++ c :: rear) wrecks done settled) drawn s ↔
      Ledger.Sound table index start
        ⟨c.entry :: (Ledger.of index (front ++ rear) wrecks done settled).crew, done,
          (settled.map Prod.fst).filter (Item.hasKey index)⟩ drawn s := by
  have hcrew : (Ledger.of index (front ++ c :: rear) wrecks done settled).crew.Perm
      (c.entry :: (Ledger.of index (front ++ rear) wrecks done settled).crew) := by
    simp only [Ledger.of, List.filter_append, List.map_append, List.append_assoc]
    rw [List.filter_cons_of_pos (p := fun c : Member => c.item.hasKey index) hkey]
    exact List.perm_middle
  exact ⟨fun h => h.perm hcrew (.refl _) (.refl _), fun h => h.perm hcrew.symm (.refl _) (.refl _)⟩

theorem failed {φ : Phase} {rest : List (Item × Phase)}
    (h : Ledger.Sound table index start ⟨(item, φ) :: rest, done, gone⟩ drawn s) :
    Ledger.Sound table index start ⟨(item, φ) :: rest, done, item :: gone⟩ drawn s where
  distinct := h.distinct
  drawn := h.drawn
  kept := h.kept
  claimed := h.claimed
  origin := h.origin
  rows := h.rows
  covered i hi := by
    rcases mem_records_gone.1 hi with rfl | hi
    · exact h.covered i (mem_records_cons.2 (.inl rfl))
    · exact h.covered i hi

theorem of_settled {outcome : Outcome} (hkey : item.hasKey index = true)
    {ledgerCrew : List (Item × Phase)}
    (h : Ledger.Sound table index start
      ⟨ledgerCrew, done, item :: (settled.map Prod.fst).filter (Item.hasKey index)⟩ drawn s) :
    Ledger.Sound table index start ⟨ledgerCrew, done,
      ((settled ++ [(item, outcome)]).map Prod.fst).filter (Item.hasKey index)⟩ drawn s := by
  refine h.perm (.refl _) (.refl _) ?_
  rw [List.map_append, List.filter_append, List.map_singleton, List.filter_cons_of_pos hkey]
  exact (List.perm_append_singleton item _).symm

end Ledger.Sound

/-- A pool with its ledger: tasks keep to the phases, and the failed records are those of the
ledger. -/
structure Accounted (w : Writer) (index : String) (start : Store) (crew : List Member)
    (wrecks : List Wreck) (done : List (Item × Int64)) (p : Pool) : Prop where
  busy : p.busy = crew.map Member.visible
  obeys {c : Member} (hc : c ∈ crew) (hkey : c.item.hasKey index = true) :
    Obeys w.table index (keyIn index c.item) c.item.record Concludes c.phase c.task
  keyless {c : Member} (hc : c ∈ crew) (hkey : c.item.hasKey index = false) :
    c.task = .done (.failed (.noKey index))
  sound : Ledger.Sound w.table index start (.of index crew wrecks done p.settled) p.drawn p.store
  barred {e : Item × Outcome} (he : e ∈ p.settled) (hkey : e.1.hasKey index = false) :
    e.2 = .failed (.noKey index)
  failed {x : Wreck} (hx : x ∈ wrecks) : x.item.hasKey index = true ∧
    (x.item, .failed x.fault) ∈ p.settled ∧ x.fault.leavesKey = x.phase.isHolding
  wrecked {item : Item} {fault : WriteFault} (h : (item, .failed fault) ∈ p.settled)
    (hkey : item.hasKey index = true) : ∃ φ, ⟨item, φ, fault⟩ ∈ wrecks
  written {e : Item × Int64} (he : e ∈ done) : e.1.hasKey index = true

namespace Accounted

theorem start_pool (items : List Item) (s : Store) :
    Accounted w index s [] [] [] (Pool.start items s) where
  busy := rfl
  obeys hc := nomatch hc
  keyless hc := nomatch hc
  sound := Ledger.Sound.initial w.table index s
  barred he := nomatch he
  failed hx := nomatch hx
  wrecked h := nomatch h
  written he := nomatch he

theorem take {queue : List Item} {busy : List (Item × Task Outcome)} {store : Store}
    (hdistinct : w.distinct = some index)
    (h : Accounted w index start crew wrecks done ⟨item :: queue, busy, settled, drawn, store⟩) :
    Accounted w index start (crew ++ [⟨item, .seeking, w.task item⟩]) wrecks done
      ⟨queue, busy ++ [(item, w.task item)], settled, drawn, store⟩ where
  busy := by
    rw [List.map_append, ← h.busy]
    rfl
  obeys hc hkey := by
    rcases List.mem_append.1 hc with hc | hc
    · exact h.obeys hc hkey
    · obtain rfl := List.mem_singleton.1 hc
      exact Writer.task_concludes hdistinct (Item.get?_of_hasKey hkey)
  keyless hc hkey := by
    rcases List.mem_append.1 hc with hc | hc
    · exact h.keyless hc hkey
    · obtain rfl := List.mem_singleton.1 hc
      exact Writer.task_keyless hdistinct
        (Option.isNone_iff_eq_none.1 (by simpa [Item.hasKey] using hkey))
  sound := by
    cases hkey : item.hasKey index with
    | true =>
      refine (Ledger.Sound.of_middle hkey).2 ?_
      rw [List.append_nil]
      exact h.sound.take item
    | false => simpa [Ledger.of, hkey] using h.sound
  barred := h.barred
  failed := h.failed
  wrecked := h.wrecked
  written := h.written

theorem advance {task task' : Task Outcome} {queue : List Item}
    {before after : List (Item × Task Outcome)} {drawn' : List Int64} {store store' : Store}
    (h : Accounted w index start crew wrecks done
      ⟨queue, before ++ (item, task) :: after, settled, drawn, store⟩)
    (htask : ∀ outcome, task ≠ .done outcome)
    (hmove : ∀ φ rest gone,
      Obeys w.table index (keyIn index item) item.record Concludes φ task →
      Ledger.Sound w.table index start ⟨(item, φ) :: rest, done, gone⟩ drawn store →
      ∃ ψ, Obeys w.table index (keyIn index item) item.record Concludes ψ task' ∧
        Ledger.Sound w.table index start ⟨(item, ψ) :: rest, done, gone⟩ drawn' store') :
    ∃ crew', Accounted w index start crew' wrecks done
      ⟨queue, before ++ (item, task') :: after, settled, drawn', store'⟩ := by
  obtain ⟨front, φ, rear, rfl, rfl, rfl⟩ := Tracked.at_work h.busy
  have hat : (⟨item, φ, task⟩ : Member) ∈ front ++ ⟨item, φ, task⟩ :: rear :=
    List.mem_append_right _ List.mem_cons_self
  have hkey : item.hasKey index = true := by
    by_contra hnone
    exact htask _ (h.keyless hat (Bool.eq_false_iff.2 hnone))
  obtain ⟨ψ, hobeys, hsound⟩ := hmove φ _ _ (h.obeys hat hkey)
    ((Ledger.Sound.of_middle (c := ⟨item, φ, task⟩) hkey).1 h.sound)
  have hothers {c : Member} (hc : c ∈ front ++ ⟨item, ψ, task'⟩ :: rear) :
      c = ⟨item, ψ, task'⟩ ∨ c ∈ front ++ ⟨item, φ, task⟩ :: rear := by
    simp only [List.mem_append, List.mem_cons] at hc ⊢
    tauto
  refine ⟨front ++ ⟨item, ψ, task'⟩ :: rear, ?_, ?_, ?_, ?_, h.barred, h.failed, h.wrecked,
    h.written⟩
  · simp only [List.map_append, List.map_cons]
    rfl
  · intro c hc hckey
    rcases hothers hc with rfl | hc
    · exact hobeys
    · exact h.obeys hc hckey
  · intro c hc hckey
    rcases hothers hc with rfl | hc
    · exact absurd hkey (Bool.eq_false_iff.1 hckey)
    · exact h.keyless hc hckey
  · exact (Ledger.Sound.of_middle (c := ⟨item, ψ, task'⟩) hkey).2 hsound

/-- A record leaves its worker, and the ledger with what it says of the record afterwards. -/
theorem leave {φ : Phase} {outcome : Outcome} {queue : List Item}
    {busy : List (Item × Task Outcome)} {store : Store} {wrecks' : List Wreck}
    {done' : List (Item × Int64)}
    (h : Accounted w index start (front ++ ⟨item, φ, .done outcome⟩ :: rear) wrecks done
      ⟨queue, busy, settled, drawn, store⟩)
    (hsound : Ledger.Sound w.table index start
      (.of index (front ++ rear) wrecks' done' (settled ++ [(item, outcome)])) drawn store)
    (hwrecks : ∀ x, x ∈ wrecks' ↔ x ∈ wrecks ∨ x.item = item ∧ item.hasKey index = true ∧
      x.phase = φ ∧ outcome = .failed x.fault)
    (hdone : ∀ e ∈ done', e ∈ done ∨ e.1.hasKey index = true) :
    Accounted w index start (front ++ rear) wrecks' done'
      ⟨queue, (front ++ rear).map Member.visible, settled ++ [(item, outcome)], drawn, store⟩ := by
  have hat : (⟨item, φ, .done outcome⟩ : Member) ∈ front ++ ⟨item, φ, .done outcome⟩ :: rear :=
    List.mem_append_right _ List.mem_cons_self
  have hothers {c : Member} (hc : c ∈ front ++ rear) :
      c ∈ front ++ ⟨item, φ, .done outcome⟩ :: rear :=
    (List.sublist_cons_self _ rear).append_left front |>.subset hc
  refine ⟨rfl, fun hc => h.obeys (hothers hc), fun hc => h.keyless (hothers hc), hsound, ?_, ?_,
    ?_, ?_⟩
  · intro e he hkey
    rcases List.mem_append.1 he with he | he
    · exact h.barred he hkey
    · obtain rfl := List.mem_singleton.1 he
      have hdone := h.keyless hat hkey
      cases hdone
      rfl
  · rintro ⟨i, ψ, fault⟩ hx
    rcases (hwrecks _).1 hx with hx | ⟨rfl, hkey, rfl, rfl⟩
    · exact (h.failed hx).imp_right fun hx => ⟨List.mem_append_left _ hx.1, hx.2⟩
    · refine ⟨hkey, List.mem_append_right _ List.mem_cons_self, ?_⟩
      cases h.obeys hat hkey with
      | done hpost => exact hpost
  · intro i fault hi hkey
    rcases List.mem_append.1 hi with hi | hi
    · exact (h.wrecked hi hkey).imp fun ψ hψ => (hwrecks _).2 (.inl hψ)
    · cases List.mem_singleton.1 hi
      exact ⟨φ, (hwrecks _).2 (.inr ⟨rfl, hkey, rfl, rfl⟩)⟩
  · exact fun he => (hdone _ he).elim h.written id

theorem finish {outcome : Outcome} {queue : List Item} {before after : List (Item × Task Outcome)}
    {store : Store}
    (h : Accounted w index start crew wrecks done
      ⟨queue, before ++ (item, .done outcome) :: after, settled, drawn, store⟩) :
    ∃ crew' wrecks' done', Accounted w index start crew' wrecks' done'
      ⟨queue, before ++ after, settled ++ [(item, outcome)], drawn, store⟩ := by
  obtain ⟨front, φ, rear, rfl, rfl, rfl⟩ := Tracked.at_work h.busy
  rw [← List.map_append]
  cases hkey : item.hasKey index with
  | false =>
    refine ⟨_, wrecks, done, h.leave ?_ (by simp [hkey]) fun _ => .inl⟩
    have hsound := h.sound
    simp only [Ledger.of, List.filter_append, List.map_append, List.map_cons, List.map_nil,
      List.filter_cons, hkey, Bool.false_eq_true, if_false, List.filter_nil,
      List.append_nil] at hsound ⊢
    exact hsound
  | true =>
    have hsound := (Ledger.Sound.of_middle (c := ⟨item, φ, .done outcome⟩) hkey).1 h.sound
    have hends : Concludes φ outcome := by
      cases h.obeys (List.mem_append_right _ List.mem_cons_self) hkey with
      | done hpost => exact hpost
    cases outcome with
    | written =>
      obtain ⟨rowid, rfl⟩ := hends
      refine ⟨_, wrecks, _, h.leave (.of_settled hkey hsound.written) (by simp) fun e he => ?_⟩
      rcases List.mem_cons.1 he with rfl | he
      · exact .inr hkey
      · exact .inl he
    | skipped =>
      obtain rfl : φ = .beaten := hends
      exact ⟨_, wrecks, done, h.leave (.of_settled hkey hsound.skipped) (by simp) fun _ => .inl⟩
    | failed fault =>
      refine ⟨_, ⟨item, φ, fault⟩ :: wrecks, _, h.leave
        (.of_settled hkey (hsound.failed.perm List.perm_middle.symm (.refl _) (.refl _)))
        (fun x => ?_) fun _ => .inl⟩
      obtain ⟨i, ψ, f⟩ := x
      simp [hkey, or_comm, eq_comm]

theorem step (hdistinct : w.distinct = some index) (hstep : Pool.Step w p q)
    (hdrawn : q.drawn.Nodup) (hstart : ∀ key, ∀ r ∈ q.drawn, r ∉ start.idsUnder index key)
    (h : Accounted w index start crew wrecks done p) :
    ∃ crew' wrecks' done', Accounted w index start crew' wrecks' done' q := by
  cases hstep with
  | take => exact ⟨_, _, _, h.take hdistinct⟩
  | finish => exact h.finish
  | @draw item next rowid =>
    have hnew : rowid ∉ _ := fun hmem => (List.nodup_append.1 hdrawn).2.2 _ hmem _
      List.mem_cons_self rfl
    obtain ⟨crew', h'⟩ := h.advance nofun fun φ rest gone hobeys hsound => by
      cases hobeys with
      | draw hnext => exact ⟨_, hnext rowid, hsound.draw hnew⟩
    exact ⟨crew', wrecks, done, h'⟩
  | pause =>
    obtain ⟨crew', h'⟩ := h.advance nofun fun φ rest gone hobeys hsound => by
      cases hobeys with
      | pause hnext => exact ⟨φ, hnext, hsound⟩
    exact ⟨crew', wrecks, done, h'⟩
  | call =>
    obtain ⟨crew', h'⟩ := h.advance nofun fun φ rest gone hobeys hsound =>
      hsound.call hobeys hstart
    exact ⟨crew', wrecks, done, h'⟩

theorem run {workers : Nat} {moves : List Move} (hdistinct : w.distinct = some index)
    (hrun : (Pool.start items start).run w workers moves = some p) (hdrawn : p.drawn.Nodup)
    (hstart : ∀ key, ∀ r ∈ p.drawn, r ∉ start.idsUnder index key) :
    ∃ crew wrecks done, Accounted w index start crew wrecks done p := by
  refine Pool.run_induction
    (P := fun p => ∃ crew wrecks done, Accounted w index start crew wrecks done p) hrun ?_
    ⟨[], [], [], start_pool items start⟩
  rintro a b hstep - hdrawn' ⟨crew, wrecks, done, h⟩
  exact h.step hdistinct hstep (hdrawn.sublist hdrawn'.sublist)
    (fun key r hr => hstart key r (hdrawn'.subset hr))

/-- What a failed record holds is in the ledger for good. -/
theorem wreck_first (h : Accounted w index start [] wrecks done p) {x : Wreck} (hx : x ∈ wrecks) :
    ∃ rest gone,
      Ledger.Sound w.table index start ⟨x.entry :: rest, done, gone⟩ p.drawn p.store := by
  have hmem : x.entry ∈ wrecks.map Wreck.entry := List.mem_map_of_mem hx
  exact ⟨_, _, h.sound.perm (List.perm_cons_erase hmem) (.refl _) (.refl _)⟩

theorem hasRow_of_start (h : Accounted w index start crew wrecks done p) {rowid : Int64}
    (hrow : start.HasRow w.table rowid) : p.store.HasRow w.table rowid :=
  hrow.imp fun row hrow => ⟨(h.sound.rows row).2 (.inl hrow.1), hrow.2⟩

theorem hasRow_of_entry (h : Accounted w index start crew wrecks done p) {e : Item × Int64}
    (he : e ∈ (Ledger.of index crew wrecks done p.settled).entries Phase.row?) :
    p.store.HasRow w.table e.2 :=
  ⟨⟨e.2, e.1.record⟩, (h.sound.rows _).2 (.inr ⟨e, he, rfl⟩), rfl⟩

/-- A record that failed with its key leaves it without a row. -/
theorem orphan_of_failed (h : Accounted w index start [] wrecks done p)
    (hnew : ∀ r ∈ p.drawn, ¬ start.HasRow w.table r) {fault : WriteFault}
    (hsettled : (item, .failed fault) ∈ p.settled) (hkey : item.hasKey index = true)
    (hleaves : fault.leavesKey = true) :
    ∃ rowid ∈ p.store.idsUnder index (keyIn index item), ¬ p.store.HasRow w.table rowid := by
  obtain ⟨φ, hx⟩ := h.wrecked hsettled hkey
  obtain ⟨rowid, rfl⟩ : ∃ rowid, φ = .holding rowid := by
    have hholding := (h.failed hx).2.2
    rw [hleaves] at hholding
    cases φ with
    | holding rowid => exact ⟨rowid, rfl⟩
    | _ => cases hholding
  obtain ⟨rest, gone, hsound⟩ := h.wreck_first hx
  have hclaimed := hsound.claimed (item, rowid)
    (by rw [Wreck.entry, Ledger.entries_cons_some rfl]; exact List.mem_cons_self)
  refine ⟨rowid, hclaimed ▸ List.mem_cons_self, fun ⟨row, hrow, hrowid⟩ => ?_⟩
  rcases (hsound.rows row).1 hrow with hold | ⟨e, he, rfl⟩
  · exact hnew rowid (hsound.mem_drawn (φ := .holding rowid) rfl) ⟨row, hold, hrowid⟩
  · rw [Wreck.entry, Ledger.entries_cons_none rfl] at he
    refine hsound.ne_of_mem (φ := .holding rowid) rfl (Ledger.mem_entries_mono ?_ he) hrowid
    rintro (_ | _ | _ | _ | _) r hr <;> cases hr
    rfl

/-- A key without a row was left by a record that failed with it. -/
theorem failed_of_orphan (h : Accounted w index start [] wrecks done p)
    (hkeys : ∀ key, ∀ r ∈ start.idsUnder index key, start.HasRow w.table r) {key : String}
    {rowid : Int64} (hmem : rowid ∈ p.store.idsUnder index key)
    (hrow : ¬ p.store.HasRow w.table rowid) :
    ∃ item fault, (item, .failed fault) ∈ p.settled ∧
      Assoc.get? item.keys index = some key ∧ fault.leavesKey = true := by
  rcases h.sound.origin key rowid hmem with hold | ⟨e, he, rfl, rfl⟩
  · exact absurd (h.hasRow_of_start (hkeys key rowid hold)) hrow
  rcases List.mem_append.1 he with hcrew | hdone
  · obtain ⟨c, hc, hclaim⟩ := List.mem_filterMap.1 hcrew
    obtain ⟨x, hx, rfl⟩ := List.mem_map.1 hc
    obtain ⟨r, hr, rfl⟩ := Option.map_eq_some_iff.1 hclaim
    obtain ⟨hkey, hsettled, hleaves⟩ := h.failed hx
    refine ⟨x.item, x.fault, hsettled, Item.get?_of_hasKey hkey, ?_⟩
    rw [hleaves]
    obtain ⟨item, φ, fault⟩ := x
    cases φ with
    | holding _ => rfl
    | stored _ =>
      refine absurd (h.hasRow_of_entry (List.mem_append_left _ ?_)) hrow
      exact List.mem_filterMap.2 ⟨_, hc, hclaim⟩
    | _ => cases hr
  · exact absurd (h.hasRow_of_entry (List.mem_append_right _ hdone)) hrow

/-- The key of a skipped record was there at the start, or a record with it was written or
failed. -/
theorem skipped_covered (h : Accounted w index start [] wrecks done p)
    (hkeys : ∀ key, ∀ r ∈ start.idsUnder index key, start.HasRow w.table r)
    (hsettled : (item, .skipped) ∈ p.settled) (hkey : item.hasKey index = true) :
    (∃ rowid ∈ p.store.idsUnder index (keyIn index item), p.store.HasRow w.table rowid) ∨
      ∃ other fault, (other, .failed fault) ∈ p.settled ∧
        Assoc.get? other.keys index = some (keyIn index item) := by
  have hgone : item ∈ (p.settled.map Prod.fst).filter (Item.hasKey index) :=
    List.mem_filter.2 ⟨List.mem_map_of_mem hsettled, hkey⟩
  rcases h.sound.covered item (List.mem_append_right _ hgone) with hold | ⟨j, hj, hsame⟩
  · obtain ⟨rowid, hrowid⟩ := List.exists_mem_of_ne_nil _ hold
    exact .inl ⟨rowid, (h.sound.kept _ hold).symm ▸ hrowid, h.hasRow_of_start (hkeys _ _ hrowid)⟩
  rcases List.mem_append.1 hj with hcrew | hdone
  · obtain ⟨c, hc, rfl⟩ := List.mem_map.1 hcrew
    obtain ⟨x, hx, rfl⟩ := List.mem_map.1 (List.mem_filter.1 hc).1
    obtain ⟨hxkey, hxsettled, -⟩ := h.failed hx
    exact .inr ⟨x.item, x.fault, hxsettled, hsame ▸ Item.get?_of_hasKey hxkey⟩
  · obtain ⟨e, he, rfl⟩ := List.mem_map.1 hdone
    have hclaimed := h.sound.claimed e (List.mem_append_right _ he)
    rw [hsame] at hclaimed
    exact .inl ⟨e.2, hclaimed ▸ List.mem_cons_self, h.hasRow_of_entry (List.mem_append_right _ he)⟩

end Accounted

/-- What is left in a unique index that is written first when all records are settled. -/
structure KeysLeft (table index : String) (p : Pool) : Prop where
  /-- A key has a row id without a row exactly if a record with it failed while it held the key. -/
  orphaned (key : String) :
    (∃ rowid ∈ p.store.idsUnder index key, ¬ p.store.HasRow table rowid) ↔
      ∃ item fault, (item, .failed fault) ∈ p.settled ∧
        Assoc.get? item.keys index = some key ∧ fault.leavesKey = true
  /-- A skipped record has a key with a stored row, or another record with its key failed. -/
  skipped {item : Item} (h : (item, .skipped) ∈ p.settled) :
    ∃ key, Assoc.get? item.keys index = some key ∧
      ((∃ rowid ∈ p.store.idsUnder index key, p.store.HasRow table rowid) ∨
        ∃ other fault, (other, .failed fault) ∈ p.settled ∧ Assoc.get? other.keys index = some key)

/-- Whatever the turns of the workers, the injected collisions and faults: if the row ids drawn are
new and all different and every key of the start has its row, the keys left without a row are those
of the records that failed between entering their key and storing their row. -/
theorem Pool.keysLeft {workers : Nat} {moves : List Move} (hdistinct : w.distinct = some index)
    (hrun : (Pool.start items start).run w workers moves = some p) (hidle : p.Idle)
    (hdrawn : p.drawn.Nodup) (hnew : ∀ r ∈ p.drawn, ¬ start.HasRow w.table r)
    (hkeys : ∀ key, ∀ r ∈ start.idsUnder index key, start.HasRow w.table r) :
    KeysLeft w.table index p := by
  have hstart : ∀ key, ∀ r ∈ p.drawn, r ∉ start.idsUnder index key :=
    fun key r hr hmem => hnew r hr (hkeys key r hmem)
  obtain ⟨crew, wrecks, done, h⟩ := Accounted.run hdistinct hrun hdrawn hstart
  obtain rfl : crew = [] := List.map_eq_nil_iff.1 (h.busy.symm.trans hidle.2)
  have hasKey {item : Item} {key : String} (hkey : Assoc.get? item.keys index = some key) :
      item.hasKey index = true ∧ keyIn index item = key := by
    simp [Item.hasKey, keyIn, hkey]
  refine ⟨fun key => ⟨?_, ?_⟩, ?_⟩
  · rintro ⟨_, hmem, hrow⟩
    exact h.failed_of_orphan hkeys hmem hrow
  · rintro ⟨item, fault, hsettled, hkey, hleaves⟩
    obtain ⟨hhas, rfl⟩ := hasKey hkey
    exact h.orphan_of_failed hnew hsettled hhas hleaves
  · intro item hsettled
    have hhas : item.hasKey index = true := by
      by_contra hnone
      cases h.barred hsettled (Bool.eq_false_iff.2 hnone)
    exact ⟨_, Item.get?_of_hasKey hhas, h.skipped_covered hkeys hsettled hhas⟩

end

namespace OrphanSample

/-! The row of the first record is too large. Its key stays, and the second record, whose row could
be stored, is skipped. -/

def writer : Writer :=
  ⟨"skus", [("idx_sku", ⟨true, [.plain "sku" .text]⟩)], some "idx_sku", .default⟩

def item (qty : Int64) : Item := ⟨[("sku", .text "x"), ("qty", .int qty)], [("idx_sku", "x")]⟩

def store : Store :=
  ((Store.empty.createTable "skus").createIndex "idx_sku").failRows [.rowTooLarge]

def moves : List Move :=
  [.take, .go 0 1, .go 0 0, .go 0 0, .go 0 0, .take, .go 0 2, .go 0 0, .go 0 0]

def final : Pool :=
  ((Pool.start [item 1, item 2] store).run writer 1 moves).getD (Pool.start [] store)

theorem run_final : (Pool.start [item 1, item 2] store).run writer 1 moves = some final := by
  have hsome : ((Pool.start [item 1, item 2] store).run writer 1 moves).isSome := by decide +kernel
  obtain ⟨p, hp⟩ := Option.isSome_iff_exists.1 hsome
  rw [final, hp, Option.getD_some]

theorem final_idle : final.Idle := by
  have hbusy : final.busy.length = 0 := by decide +kernel
  exact ⟨by decide +kernel, List.eq_nil_of_length_eq_zero hbusy⟩

theorem final_settled : final.settled =
    [(item 1, .failed (.storage (.row "skus") ⟨.rowTooLarge, .injected⟩)), (item 2, .skipped)] := by
  decide +kernel

theorem keysLeft_too_large : final.Idle ∧ KeysLeft "skus" "idx_sku" final ∧
    ∃ rowid ∈ final.store.idsUnder "idx_sku" "x", ¬ final.store.HasRow "skus" rowid := by
  have hdrawn : final.drawn = [1, 2] := by decide +kernel
  have hleft : KeysLeft "skus" "idx_sku" final := by
    refine Pool.keysLeft (w := writer) rfl run_final final_idle ?_ ?_ ?_
    · rw [hdrawn]
      decide
    · rintro r - ⟨row, hrow, -⟩
      cases hrow
    · intro key r hr
      have hindex : (store.indexes.get? "idx_sku").getD [] = [] := by decide +kernel
      rw [Store.idsUnder, hindex] at hr
      cases hr
  have hfailed : (item 1, .failed (.storage (.row "skus") ⟨.rowTooLarge, .injected⟩)) ∈
      final.settled := by
    rw [final_settled]
    exact List.mem_cons_self
  exact ⟨final_idle, hleft, (hleft.orphaned "x").2 ⟨item 1, _, hfailed, by decide, rfl⟩⟩

end OrphanSample
end TableMill
