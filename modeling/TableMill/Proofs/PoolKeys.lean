import TableMill.Proofs.KeyMoves
import TableMill.Proofs.Pool

/-!
# Keys in a pool of workers

However the workers take turns, a sound ledger accounts for the keys and the rows of the
store, as long as every row id drawn is new and no record fails.
-/

namespace TableMill

open Writer (keyIn Settles)

variable {w : Writer} {index : String} {start s : Store} {drawn : List Int64}

/-- A call of the storage moves its record to a phase in which its task goes on. -/
theorem Ledger.Sound.call {table : String} {crew : List (Item × Phase)}
    {done : List (Item × Int64)} {gone : List Item} {item : Item} {φ : Phase} {c : WriteCall}
    {next : StoreResult WriteAnswer → Task Outcome} {post : Phase → Outcome → Prop}
    (hobeys : Obeys table index (keyIn index item) item.record post φ (.call c next))
    (hstart : ∀ key, ∀ r ∈ drawn, r ∉ start.idsUnder index key)
    (h : Ledger.Sound table index start ⟨(item, φ) :: crew, done, gone⟩ drawn s) :
    ∃ ψ, Obeys table index (keyIn index item) item.record post ψ (next (s.write c).1) ∧
      Ledger.Sound table index start ⟨(item, ψ) :: crew, done, gone⟩ drawn (s.write c).2 := by
  cases hobeys with
  | @claim rowid _ inserted present error =>
    simp only [Store.write]
    rcases s.insertKey_cases table index (keyIn index item) rowid with
      ⟨e, hanswer, hagree⟩ | ⟨m, hm, hanswer, hagree⟩ | ⟨hfree, hanswer, hids, hrows⟩
    · rw [hanswer]
      exact ⟨_, error e, h.agree hagree⟩
    · have hne : m ≠ rowid := fun hsame => h.not_claimed hstart _ (hsame ▸ hm)
      rw [hanswer]
      exact ⟨_, present m hne, (h.beat hm).agree hagree⟩
    · rw [hanswer]
      exact ⟨_, inserted, h.claim hfree hids hrows⟩
  | @store rowid _ inserted present error =>
    simp only [Store.write]
    rcases s.insertRow_cases table index rowid item.record with
      ⟨e, hanswer, hagree⟩ | ⟨hanswer, hagree⟩ | ⟨-, hanswer, hids, hrows⟩
    · rw [hanswer]
      exact ⟨_, error e, h.agree hagree⟩
    · rw [hanswer]
      exact ⟨_, present rowid, h.agree hagree⟩
    · rw [hanswer]
      exact ⟨_, inserted, h.store hids hrows⟩
  | @release rowid _ deleted error =>
    simp only [Store.write]
    rcases s.deleteKey_cases table index (keyIn index item) with
      ⟨e, hanswer, hagree⟩ | ⟨hanswer, hids, hrows⟩
    · rw [hanswer]
      exact ⟨_, error e, h.agree hagree⟩
    · rw [hanswer]
      exact ⟨_, deleted, h.release hstart hids hrows⟩
  | other hne hnext => exact ⟨_, hnext _, h.agree (Store.insertKey_agree hne ..)⟩

structure Member where
  item : Item
  phase : Phase
  task : Task Outcome

/-- The busy workers as far as the pool shows them, and as far as the ledger does. -/
def Member.visible (c : Member) : Item × Task Outcome := (c.item, c.task)
def Member.entry (c : Member) : Item × Phase := (c.item, c.phase)

/-- A pool with its ledger: tasks keep to the phases, the ledger is sound, and no record is
lost or failed. -/
structure Tracked (w : Writer) (index : String) (items : List Item) (start : Store)
    (crew : List Member) (done : List (Item × Int64)) (p : Pool) : Prop where
  busy : p.busy = crew.map Member.visible
  obeys : ∀ c ∈ crew, Obeys w.table index (keyIn index c.item) c.item.record
    (Settles index c.item) c.phase c.task
  sound : Ledger.Sound w.table index start
    ⟨crew.map Member.entry, done, p.settled.map Prod.fst⟩ p.drawn p.store
  whole : (p.queue ++ (crew.map Member.item ++ p.settled.map Prod.fst)).Perm items
  written : ((p.settled.filter fun e => e.2 = .written).map Prod.fst).Perm (done.map Prod.fst)
  keyed : ∀ e ∈ p.settled, (Assoc.get? e.1.keys index).isSome
  clean : ∀ e ∈ p.settled, e.2 = .written ∨ e.2 = .skipped

namespace Tracked

variable {items : List Item} {crew : List Member} {done : List (Item × Int64)} {p q : Pool}

theorem start_pool (items : List Item) (s : Store) :
    Tracked w index items s [] [] (Pool.start items s) where
  busy := rfl
  obeys c hc := nomatch hc
  sound := Ledger.Sound.initial w.table index s
  whole := by simp [Pool.start]
  written := .refl _
  keyed e he := nomatch he
  clean e he := nomatch he

theorem take {item : Item} {queue : List Item} {busy settled drawn store}
    (hdistinct : w.distinct = some index)
    (h : Tracked w index items start crew done ⟨item :: queue, busy, settled, drawn, store⟩) :
    Tracked w index items start (crew ++ [⟨item, .seeking, w.task item⟩]) done
      ⟨queue, busy ++ [(item, w.task item)], settled, drawn, store⟩ where
  busy := by
    rw [List.map_append, ← h.busy]
    rfl
  obeys c hc := by
    rcases List.mem_append.1 hc with hc | hc
    · exact h.obeys c hc
    · obtain rfl := List.mem_singleton.1 hc
      exact Writer.task_obeys hdistinct item
  sound := by
    rw [List.map_append]
    exact (h.sound.take item).perm (List.perm_append_singleton _ _).symm (.refl _) (.refl _)
  whole := by
    refine List.Perm.trans ?_ h.whole
    simp only [List.map_append, List.map_cons, List.map_nil, List.append_assoc,
      List.cons_append, List.nil_append]
    rw [← List.append_assoc, ← List.append_assoc queue]
    exact List.perm_middle
  written := h.written
  keyed := h.keyed
  clean := h.clean

theorem at_work {item : Item} {task : Task Outcome} {before after : List (Item × Task Outcome)}
    (h : before ++ (item, task) :: after = crew.map Member.visible) :
    ∃ front φ rear, crew = front ++ ⟨item, φ, task⟩ :: rear ∧
      before = front.map Member.visible ∧ after = rear.map Member.visible := by
  obtain ⟨front, back, rfl, rfl, hback⟩ := List.append_eq_map_iff.1 h
  obtain ⟨c, rear, rfl, hc, rfl⟩ := List.map_eq_cons_iff.1 hback
  obtain ⟨i, φ, t⟩ := c
  obtain ⟨rfl, rfl⟩ := Prod.mk.inj hc.symm
  exact ⟨front, φ, rear, rfl, rfl, rfl⟩

theorem advance {item : Item} {task task' : Task Outcome} {queue before after settled}
    {drawn drawn' : List Int64} {store store' : Store}
    (hmove : ∀ φ rest, Obeys w.table index (keyIn index item) item.record (Settles index item) φ task →
      Ledger.Sound w.table index start ⟨(item, φ) :: rest, done, settled.map Prod.fst⟩ drawn store →
      ∃ ψ, Obeys w.table index (keyIn index item) item.record (Settles index item) ψ task' ∧
        Ledger.Sound w.table index start ⟨(item, ψ) :: rest, done, settled.map Prod.fst⟩ drawn' store')
    (h : Tracked w index items start crew done
      ⟨queue, before ++ (item, task) :: after, settled, drawn, store⟩) :
    ∃ crew', Tracked w index items start crew' done
      ⟨queue, before ++ (item, task') :: after, settled, drawn', store'⟩ := by
  obtain ⟨front, φ, rear, rfl, rfl, rfl⟩ := at_work h.busy
  have hmiddle (ψ : Phase) : (front ++ ⟨item, ψ, task'⟩ :: rear).map Member.entry =
      front.map Member.entry ++ (item, ψ) :: rear.map Member.entry := by simp [Member.entry]
  have hsound := h.sound
  rw [List.map_append, List.map_cons] at hsound
  obtain ⟨ψ, hobeys, hnext⟩ := hmove φ (front.map Member.entry ++ rear.map Member.entry)
    (h.obeys _ (List.mem_append_right _ List.mem_cons_self))
    (hsound.perm List.perm_middle (.refl _) (.refl _))
  refine ⟨front ++ ⟨item, ψ, task'⟩ :: rear, ?_, ?_, ?_, ?_, h.written, h.keyed, h.clean⟩
  · simp only [List.map_append, List.map_cons]
    rfl
  · intro c hc
    rcases List.mem_append.1 hc with hc | hc
    · exact h.obeys c (List.mem_append_left _ hc)
    · rcases List.mem_cons.1 hc with rfl | hc
      · exact hobeys
      · exact h.obeys c (List.mem_append_right _ (List.mem_cons_of_mem _ hc))
  · rw [hmiddle]
    exact hnext.perm List.perm_middle.symm (.refl _) (.refl _)
  · have hwhole := h.whole
    simp only [List.map_append, List.map_cons] at hwhole ⊢
    exact hwhole

theorem finish {item : Item} {outcome : Outcome} {queue before after settled drawn store}
    (hclean : ∀ fault, outcome ≠ .failed fault)
    (h : Tracked w index items start crew done
      ⟨queue, before ++ (item, .done outcome) :: after, settled, drawn, store⟩) :
    ∃ crew' done', Tracked w index items start crew' done'
      ⟨queue, before ++ after, settled ++ [(item, outcome)], drawn, store⟩ := by
  obtain ⟨front, φ, rear, rfl, rfl, rfl⟩ := at_work h.busy
  have hsettles : Settles index item φ outcome := by
    cases h.obeys _ (List.mem_append_right _ List.mem_cons_self) with
    | done hpost => exact hpost
  have hsound := h.sound
  rw [List.map_append, List.map_cons] at hsound
  replace hsound := hsound.perm List.perm_middle (.refl _) (.refl _)
  have hgone : (item :: settled.map Prod.fst).Perm ((settled ++ [(item, outcome)]).map Prod.fst) := by
    rw [List.map_append]
    exact (List.perm_append_singleton item _).symm
  have hobeys : ∀ c ∈ front ++ rear, Obeys w.table index (keyIn index c.item) c.item.record
      (Settles index c.item) c.phase c.task := by
    intro c hc
    exact h.obeys c ((List.sublist_cons_self _ rear).append_left front |>.subset hc)
  have hbusy : front.map Member.visible ++ rear.map Member.visible =
      (front ++ rear).map Member.visible := List.map_append.symm
  have hwhole : (queue ++ ((front ++ rear).map Member.item ++
      (settled ++ [(item, outcome)]).map Prod.fst)).Perm items := by
    refine List.Perm.trans ?_ h.whole
    refine .append_left _ ?_
    simp only [List.map_append, List.map_cons, List.append_assoc]
    refine .append_left _ ?_
    rw [← List.append_assoc]
    exact List.perm_append_singleton _ _
  have hkeyed (hkey : (Assoc.get? item.keys index).isSome) :
      ∀ e ∈ settled ++ [(item, outcome)], (Assoc.get? e.1.keys index).isSome :=
    List.forall_mem_append.2 ⟨h.keyed, List.forall_mem_singleton.2 hkey⟩
  have hended (hend : outcome = .written ∨ outcome = .skipped) :
      ∀ e ∈ settled ++ [(item, outcome)], e.2 = .written ∨ e.2 = .skipped :=
    List.forall_mem_append.2 ⟨h.clean, List.forall_mem_singleton.2 hend⟩
  have hwritten := h.written
  cases outcome with
  | written =>
    obtain ⟨⟨rowid, rfl⟩, hkey⟩ := hsettles
    refine ⟨front ++ rear, (item, rowid) :: done, hbusy, hobeys, ?_, hwhole, ?_, hkeyed hkey,
      hended (.inl rfl)⟩
    · rw [List.map_append]
      exact hsound.written.perm (.refl _) (.refl _) hgone
    · rw [List.filter_append, List.map_append]
      exact (hwritten.append_right _).trans (List.perm_append_singleton _ _)
  | skipped =>
    obtain ⟨rfl, hkey⟩ := hsettles
    refine ⟨front ++ rear, done, hbusy, hobeys, ?_, hwhole, ?_, hkeyed hkey, hended (.inr rfl)⟩
    · rw [List.map_append]
      exact hsound.skipped.perm (.refl _) (.refl _) hgone
    · simpa [List.filter_append] using hwritten
  | failed fault => exact absurd rfl (hclean fault)

theorem step (hdistinct : w.distinct = some index) (hstep : Pool.Step w p q)
    (hclean : ∀ e ∈ q.settled, ∀ fault, e.2 ≠ .failed fault) (hdrawn : q.drawn.Nodup)
    (hstart : ∀ key, ∀ r ∈ q.drawn, r ∉ start.idsUnder index key)
    (h : Tracked w index items start crew done p) :
    ∃ crew' done', Tracked w index items start crew' done' q := by
  cases hstep with
  | take => exact ⟨_, _, h.take hdistinct⟩
  | finish =>
    exact h.finish fun fault => hclean _ (List.mem_append_right _ List.mem_cons_self) fault
  | @draw item next rowid =>
    have hnew : rowid ∉ _ := fun hmem => (List.nodup_append.1 hdrawn).2.2 _ hmem _
      List.mem_cons_self rfl
    obtain ⟨crew', h'⟩ := h.advance fun φ rest hobeys hsound => by
      cases hobeys with
      | draw hnext => exact ⟨_, hnext rowid, hsound.draw hnew⟩
    exact ⟨crew', done, h'⟩
  | pause =>
    obtain ⟨crew', h'⟩ := h.advance fun φ rest hobeys hsound => by
      cases hobeys with
      | pause hnext => exact ⟨φ, hnext, hsound⟩
    exact ⟨crew', done, h'⟩
  | call =>
    obtain ⟨crew', h'⟩ := h.advance fun φ rest hobeys hsound => hsound.call hobeys hstart
    exact ⟨crew', done, h'⟩

/-- A pool is tracked after every run in which no record failed. -/
theorem run {workers : Nat} {moves : List Move} (hdistinct : w.distinct = some index)
    (hrun : (Pool.start items start).run w workers moves = some p)
    (hclean : ∀ e ∈ p.settled, ∀ fault, e.2 ≠ .failed fault) (hdrawn : p.drawn.Nodup)
    (hstart : ∀ key, ∀ r ∈ p.drawn, r ∉ start.idsUnder index key) :
    ∃ crew done, Tracked w index items start crew done p := by
  refine Pool.run_induction
    (P := fun p => ∃ crew done, Tracked w index items start crew done p) hrun ?_
    ⟨[], [], start_pool items start⟩
  rintro a b hstep hsettled hdrawn' ⟨crew, done, h⟩
  exact h.step hdistinct hstep (fun e he => hclean e (hsettled.subset he))
    (hdrawn.sublist hdrawn'.sublist) (fun key r hr => hstart key r (hdrawn'.subset hr))

end Tracked
end TableMill
