import Mathlib.Logic.Hydra
import Mathlib.Order.OrderIsoNat
import TableMill.Proofs.Pool

/-!
# Runs of a pool end

Every move puts one task in the place of a task it is a part of, or takes one away. So the
workers cannot go on for ever, and as long as a record is not settled, one of them can go on.
-/

namespace TableMill

inductive Task.After {α : Type} : Task α → Task α → Prop
  | draw {next : Int64 → Task α} (rowid : Int64) : After (next rowid) (.draw next)
  | pause {millis : Nat} {next : Task α} : After next (.pause millis next)
  | call {c : WriteCall} {next : StoreResult WriteAnswer → Task α}
    (answer : StoreResult WriteAnswer) : After (next answer) (.call c next)

theorem Task.after_wf {α : Type} : WellFounded (Task.After (α := α)) := by
  refine ⟨fun t => ?_⟩
  induction t with
  | done a => exact ⟨_, nofun⟩
  | draw next ih =>
    refine ⟨_, fun t h => ?_⟩
    cases h
    exact ih _
  | pause millis next ih =>
    refine ⟨_, fun t h => ?_⟩
    cases h
    exact ih
  | call c next ih =>
    refine ⟨_, fun t h => ?_⟩
    cases h
    exact ih _

namespace Pool

open Relation (CutExpand)

/-- The tasks that are left; a record that waits has the step before its task to go. -/
def tasks (w : Writer) (p : Pool) : Multiset (Task Outcome) :=
  ↑(p.queue.map (fun item => Task.pause 0 (w.task item)) ++ p.busy.map Prod.snd)

variable {w : Writer} {workers : Nat} {p q : Pool}

theorem tasks_at {item : Item} {task : Task Outcome} {queue : List Item}
    {before after : List (Item × Task Outcome)} {settled : List (Item × Outcome)}
    {drawn : List Int64} {s : Store} :
    tasks w ⟨queue, before ++ (item, task) :: after, settled, drawn, s⟩ =
      tasks w ⟨queue, before ++ after, settled, drawn, s⟩ + {task} := by
  refine Multiset.coe_eq_coe.2 ?_
  simp only [List.map_append, List.map_cons, List.append_assoc]
  refine .append_left _ (.append_left _ ?_)
  exact (List.perm_append_singleton _ _).symm

/-- A move puts a part of a task in its place, or takes it away. -/
theorem Step.cutExpand (h : Step w p q) : CutExpand Task.After (tasks w q) (tasks w p) := by
  cases h with
  | @take item queue busy settled drawn s =>
    have hqueue : tasks w ⟨item :: queue, busy, settled, drawn, s⟩ =
        tasks w ⟨queue, busy, settled, drawn, s⟩ + {.pause 0 (w.task item)} :=
      Multiset.coe_eq_coe.2 (List.perm_append_singleton _ _).symm
    rw [hqueue, tasks_at, List.append_nil]
    exact Relation.cutExpand_add_single _ .pause
  | finish =>
    rw [tasks_at]
    exact ⟨0, _, nofun, (add_zero _).symm⟩
  | draw =>
    rw [tasks_at, tasks_at]
    exact Relation.cutExpand_add_single _ (.draw _)
  | pause =>
    rw [tasks_at, tasks_at]
    exact Relation.cutExpand_add_single _ .pause
  | call =>
    rw [tasks_at, tasks_at]
    exact Relation.cutExpand_add_single _ (.call _)

theorem step_wf (w : Writer) : WellFounded fun q p => Step w p q :=
  Subrelation.wf Step.cutExpand (InvImage.wf (tasks w) Task.after_wf.cutExpand)

theorem not_endless (w : Writer) (pools : Nat → Pool) : ¬ ∀ n, Step w (pools n) (pools (n + 1)) :=
  fun h => (wellFounded_iff_isEmpty_descending_chain.1 (step_wf w)).false ⟨pools, h⟩

/-- As long as a record is not settled, a worker can go on. -/
theorem exists_move (hworkers : 0 < workers) (h : ¬ p.Idle) :
    ∃ m q, p.move w workers m = some q := by
  obtain ⟨queue, busy, settled, drawn, s⟩ := p
  cases busy with
  | nil =>
    cases queue with
    | nil => exact absurd ⟨rfl, rfl⟩ h
    | cons item queue => exact ⟨.take, _, if_pos hworkers⟩
  | cons e busy =>
    obtain ⟨item, task⟩ := e
    refine ⟨.go 0 0, ?_⟩
    cases task <;> exact ⟨_, rfl⟩

/-- Every run can be gone on with until all records are settled. -/
theorem exists_idle (w : Writer) (hworkers : 0 < workers) (p : Pool) :
    ∃ moves q, p.run w workers moves = some q ∧ q.Idle := by
  -- Every move leaves less of the tasks.
  induction p using (step_wf w).induction with
  | _ p ih =>
    by_cases h : p.Idle
    · exact ⟨[], p, rfl, h⟩
    · obtain ⟨m, q, hmove⟩ := exists_move (w := w) hworkers h
      obtain ⟨moves, r, hrun, hidle⟩ := ih q (step_of_move hmove)
      exact ⟨m :: moves, r, by rw [run, hmove]; exact hrun, hidle⟩

end Pool
end TableMill
