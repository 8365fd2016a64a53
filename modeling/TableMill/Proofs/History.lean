import Mathlib.Data.List.Perm.Basic
import TableMill.Proofs.Pool

/-!
# Histories of pools

What a pool has done is told by its history: all calls with their answers in the order they were
made in, and for each record the log of its own calls. The trace takes the store from the start to
where it is, each log takes the task of its record to where it is, and the trace is made of the
logs.
-/

namespace TableMill

structure Event where
  call : WriteCall
  answer : StoreResult WriteAnswer

/-- A task gets to another one with the calls of a log. -/
inductive Task.Path {α : Type} (t : Task α) : List Event → Task α → Prop
  | start : Path t [] t
  | draw {log : List Event} {next : Int64 → Task α} (rowid : Int64) :
    Path t log (.draw next) → Path t log (next rowid)
  | pause {log : List Event} {millis : Nat} {next : Task α} :
    Path t log (.pause millis next) → Path t log next
  | call {log : List Event} {c : WriteCall} {next : StoreResult WriteAnswer → Task α}
    (answer : StoreResult WriteAnswer) :
    Path t log (.call c next) → Path t (log ++ [⟨c, answer⟩]) (next answer)

/-- A store gets to another one with the calls of a trace, and answers them as the trace says. -/
inductive Store.Replay (s : Store) : List Event → Store → Prop
  | start : Replay s [] s
  | call {trace : List Event} {t : Store} (c : WriteCall) :
    Replay s trace t → Replay s (trace ++ [⟨c, (t.write c).1⟩]) (t.write c).2

/-- A record, the log of its calls, and what is left of its task or came of it. -/
structure Story (β : Type) where
  item : Item
  log : List Event
  now : β

def Story.calls {β : Type} (stories : List (Story β)) : List Event :=
  stories.flatMap Story.log

/-- A pool with its history: the trace, the stories of the records that are being written, and
those of the settled ones. -/
structure Recorded (w : Writer) (items : List Item) (start : Store) (trace : List Event)
    (running : List (Story (Task Outcome))) (ended : List (Story Outcome)) (p : Pool) : Prop where
  busy : p.busy = running.map fun r => (r.item, r.now)
  settled : p.settled = ended.map fun r => (r.item, r.now)
  replay : start.Replay trace p.store
  logged : trace.Perm (Story.calls running ++ Story.calls ended)
  atWork : ∀ r ∈ running, (w.task r.item).Path r.log r.now
  told : ∀ r ∈ ended, (w.task r.item).Path r.log (.done r.now)
  whole : (p.queue ++ (running.map Story.item ++ ended.map Story.item)).Perm items

namespace Recorded

variable {w : Writer} {items : List Item} {start : Store} {trace : List Event}
  {running : List (Story (Task Outcome))} {ended : List (Story Outcome)} {p q : Pool}
  {item : Item} {queue : List Item} {before after : List (Item × Task Outcome)}
  {settled : List (Item × Outcome)} {drawn drawn' : List Int64} {store store' : Store}

theorem start_pool (w : Writer) (items : List Item) (s : Store) :
    Recorded w items s [] [] [] (Pool.start items s) where
  busy := rfl
  settled := rfl
  replay := .start
  logged := .refl _
  atWork r hr := nomatch hr
  told r hr := nomatch hr
  whole := by simp [Pool.start]

theorem take {busy : List (Item × Task Outcome)}
    (h : Recorded w items start trace running ended ⟨item :: queue, busy, settled, drawn, store⟩) :
    Recorded w items start trace (running ++ [⟨item, [], w.task item⟩]) ended
      ⟨queue, busy ++ [(item, w.task item)], settled, drawn, store⟩ where
  busy := by
    rw [List.map_append, ← h.busy]
    rfl
  settled := h.settled
  replay := h.replay
  logged := by simpa [Story.calls] using h.logged
  atWork r hr := by
    rcases List.mem_append.1 hr with hr | hr
    · exact h.atWork r hr
    · obtain rfl := List.mem_singleton.1 hr
      exact .start
  told := h.told
  whole := by
    refine List.Perm.trans ?_ h.whole
    simp only [List.map_append, List.map_cons, List.map_nil, List.append_assoc,
      List.cons_append, List.nil_append]
    rw [← List.append_assoc, ← List.append_assoc queue]
    exact List.perm_middle

theorem at_work {task : Task Outcome}
    (h : Recorded w items start trace running ended
      ⟨queue, before ++ (item, task) :: after, settled, drawn, store⟩) :
    ∃ front log rear, running = front ++ ⟨item, log, task⟩ :: rear ∧
      before = front.map (fun r => (r.item, r.now)) ∧
      after = rear.map fun r => (r.item, r.now) := by
  obtain ⟨front, back, rfl, rfl, hback⟩ := List.append_eq_map_iff.1 h.busy
  obtain ⟨r, rear, rfl, hr, rfl⟩ := List.map_eq_cons_iff.1 hback
  obtain ⟨i, log, t⟩ := r
  obtain ⟨rfl, rfl⟩ := Prod.mk.inj hr.symm
  exact ⟨front, log, rear, rfl, rfl, rfl⟩

theorem advance (made : List Event) {task task' : Task Outcome}
    (h : Recorded w items start trace running ended
      ⟨queue, before ++ (item, task) :: after, settled, drawn, store⟩)
    (hpath : ∀ log, (w.task item).Path log task → (w.task item).Path (log ++ made) task')
    (hreplay : start.Replay trace store → start.Replay (trace ++ made) store') :
    ∃ running', Recorded w items start (trace ++ made) running' ended
      ⟨queue, before ++ (item, task') :: after, settled, drawn', store'⟩ := by
  obtain ⟨front, log, rear, rfl, rfl, rfl⟩ := h.at_work
  refine ⟨front ++ ⟨item, log ++ made, task'⟩ :: rear, ?_, h.settled, hreplay h.replay, ?_, ?_,
    h.told, ?_⟩
  · simp only [List.map_append, List.map_cons]
  · have hlogged := h.logged
    simp only [Story.calls, List.flatMap_append, List.flatMap_cons, List.append_assoc] at hlogged ⊢
    refine (hlogged.append_right made).trans ?_
    simp only [List.append_assoc]
    refine .append_left _ (.append_left _ ?_)
    rw [← List.append_assoc]
    exact List.perm_append_comm
  · intro r hr
    rcases List.mem_append.1 hr with hr | hr
    · exact h.atWork r (List.mem_append_left _ hr)
    · rcases List.mem_cons.1 hr with rfl | hr
      · exact hpath log (h.atWork _ (List.mem_append_right _ List.mem_cons_self))
      · exact h.atWork r (List.mem_append_right _ (List.mem_cons_of_mem _ hr))
  · have hwhole := h.whole
    simp only [List.map_append, List.map_cons] at hwhole ⊢
    exact hwhole

theorem finish {outcome : Outcome}
    (h : Recorded w items start trace running ended
      ⟨queue, before ++ (item, .done outcome) :: after, settled, drawn, store⟩) :
    ∃ running' ended', Recorded w items start trace running' ended'
      ⟨queue, before ++ after, settled ++ [(item, outcome)], drawn, store⟩ := by
  obtain ⟨front, log, rear, rfl, rfl, rfl⟩ := h.at_work
  refine ⟨front ++ rear, ended ++ [⟨item, log, outcome⟩], ?_, ?_, h.replay, ?_, ?_, ?_, ?_⟩
  · simp only [List.map_append]
  · rw [List.map_append, ← h.settled]
    rfl
  · refine h.logged.trans ?_
    simp only [Story.calls, List.flatMap_append, List.flatMap_cons, List.flatMap_nil,
      List.append_assoc, List.append_nil]
    refine .append_left _ ?_
    rw [← List.append_assoc (rear.flatMap Story.log)]
    exact List.perm_append_comm
  · intro r hr
    exact h.atWork r ((List.sublist_cons_self _ rear).append_left front |>.subset hr)
  · intro r hr
    rcases List.mem_append.1 hr with hr | hr
    · exact h.told r hr
    · obtain rfl := List.mem_singleton.1 hr
      exact h.atWork _ (List.mem_append_right _ List.mem_cons_self)
  · refine List.Perm.trans (.append_left _ ?_) h.whole
    simp only [List.map_append, List.map_cons, List.map_nil, List.append_assoc]
    refine .append_left _ ?_
    rw [← List.append_assoc]
    exact List.perm_append_singleton _ _

theorem step (hstep : Pool.Step w p q) (h : Recorded w items start trace running ended p) :
    ∃ trace' running' ended', Recorded w items start trace' running' ended' q := by
  cases hstep with
  | take => exact ⟨_, _, _, h.take⟩
  | finish => exact ⟨_, h.finish⟩
  | @draw item next rowid =>
    obtain ⟨running', h'⟩ := h.advance []
      (fun log hlog => by simpa using .draw rowid hlog) (fun htrace => by simpa using htrace)
    exact ⟨_, _, _, h'⟩
  | pause =>
    obtain ⟨running', h'⟩ := h.advance []
      (fun log hlog => by simpa using .pause hlog) (fun htrace => by simpa using htrace)
    exact ⟨_, _, _, h'⟩
  | call =>
    obtain ⟨running', h'⟩ := h.advance [_] (fun log hlog => .call _ hlog)
      (fun htrace => .call _ htrace)
    exact ⟨_, _, _, h'⟩

/-- Every run has a history. -/
theorem run {workers : Nat} {moves : List Move}
    (hrun : (Pool.start items start).run w workers moves = some p) :
    ∃ trace running ended, Recorded w items start trace running ended p :=
  Pool.run_induction
    (P := fun p => ∃ trace running ended, Recorded w items start trace running ended p) hrun
    (fun _ _ hstep _ _ ⟨_, _, _, h⟩ => h.step hstep) ⟨[], [], [], start_pool w items start⟩

theorem forall_log {P : Event → Prop} (h : Recorded w items start trace running ended p)
    (htrace : ∀ e ∈ trace, P e) :
    (∀ r ∈ running, ∀ e ∈ r.log, P e) ∧ ∀ r ∈ ended, ∀ e ∈ r.log, P e := by
  constructor
  · intro r hr e he
    exact htrace e (h.logged.mem_iff.2 (List.mem_append_left _ (List.mem_flatMap.2 ⟨r, hr, he⟩)))
  · intro r hr e he
    exact htrace e (h.logged.mem_iff.2 (List.mem_append_right _ (List.mem_flatMap.2 ⟨r, hr, he⟩)))

end Recorded
end TableMill
