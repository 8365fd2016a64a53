import Mathlib.Data.Nat.Find
import TableMill.Proofs.TaskSteps

/-!
# Operations that are tried again

What is tried again ends with its first success, with its first error that does not pass, or when
its attempts are used up, and nothing is called after that.
-/

namespace TableMill

def FaultKind.Passes (kind : FaultKind) : Prop :=
  kind = .missing ∨ kind = .timedOut ∨ kind = .noResponses

theorem FaultKind.isTransient_iff {kind : FaultKind} : kind.isTransient = true ↔ kind.Passes := by
  cases kind <;> simp [isTransient, Passes]

/-- What is attempted on a storage again and again, with the number of earlier attempts. The
outcomes of the attempts can be any. -/
structure Operation (α σ : Type) where
  storage : Backend σ
  attempt : Nat → Task (StoreResult α)
  ids : Task.Supply
  start : σ

namespace Operation

variable {α β σ : Type} (o : Operation α σ)

def after : Nat → Task.Supply × σ
  | 0 => (o.ids, o.start)
  | n + 1 => ((o.attempt n).run o.storage (after n).1 (after n).2).2

/-- What the attempt with a number ends with, when all attempts before it were made. -/
def outcome (n : Nat) : StoreResult α :=
  ((o.attempt n).run o.storage (o.after n).1 (o.after n).2).1

def calls (n : Nat) : List Event :=
  Task.calls ((o.attempt n).steps o.storage (o.after n).1 (o.after n).2)

def Waits (n : Nat) : Prop :=
  ∃ e, o.outcome n = .error e ∧ e.kind.Passes

/-- The operation is attempted a number of times, and no more, and has a result then. -/
structure EndsAfter (w : WriterSettings) (purpose : Purpose) (count : Nat)
    (result : Except WriteFault α) : Prop where
  run_eq : (retry w purpose o.attempt).run.run o.storage o.ids o.start = (result, o.after count)
  calls_eq : Task.calls ((retry w purpose o.attempt).run.steps o.storage o.ids o.start) =
    (List.range count).flatMap o.calls

/-- How an operation ends, whatever the outcomes of its attempts would be. -/
structure Retried (w : WriterSettings) (purpose : Purpose) : Prop where
  success {n : Nat} {a : α} (hn : n < w.callAttempts) (hbefore : ∀ m < n, o.Waits m)
    (h : o.outcome n = .ok a) : o.EndsAfter w purpose (n + 1) (.ok a)
  fatal {n : Nat} {e : StoreError} (hn : n < w.callAttempts) (hbefore : ∀ m < n, o.Waits m)
    (h : o.outcome n = .error e) (hkind : e.kind = .rowTooLarge ∨ e.kind = .other) :
    o.EndsAfter w purpose (n + 1) (.error (.storage purpose e))
  limit (hall : ∀ m < w.callAttempts, o.Waits m) :
    ∃ e, o.outcome (w.callAttempts - 1) = .error e ∧
      o.EndsAfter w purpose w.callAttempts (.error (.gaveUp purpose w.callAttempts e))
  bounded : ∃ count result, 1 ≤ count ∧ count ≤ w.callAttempts ∧ o.EndsAfter w purpose count result

/-! ## From attempt to attempt -/

/-- A task that is run after `n` attempts goes on, with some calls, as another one does after `m`
attempts. -/
structure Leads (n : Nat) (t : Task β) (made : List Event) (m : Nat) (u : Task β) : Prop where
  run_eq : t.run o.storage (o.after n).1 (o.after n).2 =
    u.run o.storage (o.after m).1 (o.after m).2
  calls_eq : Task.calls (t.steps o.storage (o.after n).1 (o.after n).2) =
    made ++ Task.calls (u.steps o.storage (o.after m).1 (o.after m).2)

variable {o}

theorem Leads.refl (n : Nat) (t : Task β) : o.Leads n t [] n t := ⟨rfl, rfl⟩

theorem Leads.trans {n m k : Nat} {t u v : Task β} {made made' : List Event}
    (h : o.Leads n t made m u) (h' : o.Leads m u made' k v) : o.Leads n t (made ++ made') k v :=
  ⟨h.run_eq.trans h'.run_eq, by rw [h.calls_eq, h'.calls_eq, List.append_assoc]⟩

theorem leads_attempt (n : Nat) (f : StoreResult α → Task β) :
    o.Leads n ((o.attempt n).andThen f) (o.calls n) (n + 1) (f (o.outcome n)) where
  run_eq := by
    rw [Task.run_andThen]
    rfl
  calls_eq := by
    rw [Task.steps_andThen, Task.calls_append]
    rfl

end Operation

/-- What comes after an attempt. -/
def afterAttempt {α : Type} (w : WriterSettings) (purpose : Purpose)
    (attempt : Nat → Task (StoreResult α)) (left n : Nat) :
    StoreResult α → Task (Except WriteFault α)
  | .ok a => .done (.ok a)
  | .error e =>
    if e.kind.isTransient then
      match left with
      | 0 => .done (.error (.gaveUp purpose (n + 1) e))
      | left + 1 => .pause (w.pauseAfter e.kind n) (retryFrom w purpose attempt left (n + 1))
    else .done (.error (.storage purpose e))

theorem retryFrom_eq {α : Type} (w : WriterSettings) (purpose : Purpose)
    (attempt : Nat → Task (StoreResult α)) (left n : Nat) :
    retryFrom w purpose attempt left n =
      (attempt n).andThen (afterAttempt w purpose attempt left n) := by
  unfold retryFrom
  rfl

namespace Operation

variable {α σ : Type} {o : Operation α σ} {w : WriterSettings} {purpose : Purpose} {n : Nat}

theorem leads_retryFrom (w : WriterSettings) (purpose : Purpose) (left n : Nat) :
    o.Leads n (retryFrom w purpose o.attempt left n) (o.calls n) (n + 1)
      (afterAttempt w purpose o.attempt left n (o.outcome n)) := by
  rw [retryFrom_eq]
  exact leads_attempt n _

/-- Attempts that fail with errors that pass are made one after the other, each with its number. -/
theorem leads_of_waits (w : WriterSettings) (purpose : Purpose) (left : Nat)
    (h : ∀ m < n, o.Waits m) :
    o.Leads 0 (retryFrom w purpose o.attempt (left + n) 0) ((List.range n).flatMap o.calls) n
      (retryFrom w purpose o.attempt left n) := by
  -- What is made and what is left add up to the limit, so each attempt takes one from `left`.
  induction n generalizing left with
  | zero => exact .refl 0 _
  | succ n ih =>
    have hbefore := ih (left + 1) fun m hm => h m (Nat.lt_succ_of_lt hm)
    obtain ⟨e, he, hpasses⟩ := h n (Nat.lt_succ_self n)
    have hagain : o.Leads n (retryFrom w purpose o.attempt (left + 1) n) (o.calls n) (n + 1)
        (.pause (w.pauseAfter e.kind n) (retryFrom w purpose o.attempt left (n + 1))) := by
      have hattempt := leads_retryFrom (o := o) w purpose (left + 1) n
      rwa [he, afterAttempt, if_pos (FaultKind.isTransient_iff.2 hpasses)] at hattempt
    rw [Nat.add_right_comm, Nat.add_assoc] at hbefore
    rw [List.range_succ, List.flatMap_append, List.flatMap_singleton]
    exact hbefore.trans ⟨hagain.run_eq, hagain.calls_eq⟩

/-- An operation ends after an attempt that is not made again. -/
theorem endsAfter_of_done {result : Except WriteFault α} (hn : n < w.callAttempts)
    (hbefore : ∀ m < n, o.Waits m)
    (hdone : afterAttempt w purpose o.attempt (w.callAttempts - 1 - n) n (o.outcome n) =
      .done result) : o.EndsAfter w purpose (n + 1) result := by
  have hend := (leads_of_waits w purpose (w.callAttempts - 1 - n) hbefore).trans
    (leads_retryFrom w purpose (w.callAttempts - 1 - n) n)
  have hleft : w.callAttempts - 1 - n + n = w.callAttempts - 1 := by omega
  rw [hdone, hleft] at hend
  refine ⟨hend.run_eq, hend.calls_eq.trans ?_⟩
  rw [List.range_succ, List.flatMap_append, List.flatMap_singleton]
  exact List.append_nil _

theorem endsAfter_ok {a : α} (hn : n < w.callAttempts) (hbefore : ∀ m < n, o.Waits m)
    (h : o.outcome n = .ok a) : o.EndsAfter w purpose (n + 1) (.ok a) :=
  endsAfter_of_done hn hbefore (by rw [h]; rfl)

theorem endsAfter_fatal {e : StoreError} (hn : n < w.callAttempts) (hbefore : ∀ m < n, o.Waits m)
    (h : o.outcome n = .error e) (hkind : ¬ e.kind.Passes) :
    o.EndsAfter w purpose (n + 1) (.error (.storage purpose e)) := by
  refine endsAfter_of_done hn hbefore ?_
  rw [h, afterAttempt.eq_def]
  exact if_neg (mt FaultKind.isTransient_iff.1 hkind)

/-- The last attempt that is allowed is not made again, even if its error passes. -/
theorem endsAfter_limit {e : StoreError} (hn : n + 1 = w.callAttempts)
    (hbefore : ∀ m < n, o.Waits m) (h : o.outcome n = .error e) (hpasses : e.kind.Passes) :
    o.EndsAfter w purpose (n + 1) (.error (.gaveUp purpose (n + 1) e)) := by
  refine endsAfter_of_done (by omega) hbefore ?_
  have hleft : w.callAttempts - 1 - n = 0 := by omega
  rw [h, hleft, afterAttempt, if_pos (FaultKind.isTransient_iff.2 hpasses)]

theorem exists_endsAfter_limit (hcalls : 1 ≤ w.callAttempts)
    (hall : ∀ m < w.callAttempts, o.Waits m) :
    ∃ e, o.outcome (w.callAttempts - 1) = .error e ∧
      o.EndsAfter w purpose w.callAttempts (.error (.gaveUp purpose w.callAttempts e)) := by
  obtain ⟨n, hn⟩ : ∃ n, n + 1 = w.callAttempts := ⟨_, Nat.sub_add_cancel hcalls⟩
  obtain ⟨e, he, hpasses⟩ := hall n (by omega)
  rw [← hn]
  exact ⟨e, he, endsAfter_limit hn (fun m hm => hall m (by omega)) he hpasses⟩

/-- The first attempt that does not fail with an error that passes is the last one. -/
theorem exists_endsAfter_first (h : ∃ n, n < w.callAttempts ∧ ¬ o.Waits n) :
    ∃ count result, 1 ≤ count ∧ count ≤ w.callAttempts ∧ o.EndsAfter w purpose count result := by
  classical
  obtain ⟨hlt, hnot⟩ := Nat.find_spec h
  have hbefore : ∀ m < Nat.find h, o.Waits m := fun m hm =>
    by_contra fun hwait => Nat.find_min h hm ⟨Nat.lt_trans hm hlt, hwait⟩
  cases hend : o.outcome (Nat.find h) with
  | ok a => exact ⟨_, _, Nat.succ_pos _, hlt, endsAfter_ok hlt hbefore hend⟩
  | error e =>
    have hkind : ¬ e.kind.Passes := fun hpasses => hnot ⟨e, hend, hpasses⟩
    exact ⟨_, _, Nat.succ_pos _, hlt, endsAfter_fatal hlt hbefore hend hkind⟩

theorem retried (o : Operation α σ) (purpose : Purpose) (hcalls : 1 ≤ w.callAttempts) :
    o.Retried w purpose where
  success := endsAfter_ok
  fatal hn hbefore h hkind := by
    refine endsAfter_fatal hn hbefore h ?_
    rcases hkind with hkind | hkind <;> simp [hkind, FaultKind.Passes]
  limit := exists_endsAfter_limit hcalls
  bounded := by
    by_cases hall : ∀ m < w.callAttempts, o.Waits m
    · obtain ⟨e, -, hend⟩ := exists_endsAfter_limit hcalls hall
      exact ⟨_, _, hcalls, Nat.le_refl _, hend⟩
    · exact exists_endsAfter_first (by simpa using hall)

end Operation
end TableMill
