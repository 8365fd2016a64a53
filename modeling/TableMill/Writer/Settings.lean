import TableMill.Json.Decode
import TableMill.Store.Error

/-!
# Settings of writers
-/

namespace TableMill

inductive SettingsFault
  | noWorker | noQueue | noRetry | noChunk
  deriving DecidableEq, Repr

def SettingsFault.message : SettingsFault → String
  | noWorker => "writer needs at least one worker"
  | noQueue => "writer queue capacity must be positive"
  | noRetry => "writer retry limits must be positive"
  | noChunk => "lookup chunk sizes must be positive"

/-- The settings of a writer. Pauses are in milliseconds; every call is made up to
`callAttempts` times, every record is tried under up to `rowidAttempts` row ids, and up
to `reportedErrors` errors are reported one by one. -/
structure WriterSettings where
  workers : Nat
  queueCapacity : Nat
  missingPause : Nat
  overloadPause : Nat
  backoff : Nat
  callAttempts : Nat
  rowidAttempts : Nat
  reportedErrors : Nat
  deriving DecidableEq, Repr

namespace WriterSettings

def default : WriterSettings := ⟨5, 100, 2000, 200, 2, 5, 5, 5⟩

/-- Takes settings from their JSON form; what is missing has its default. -/
def ofJson? (j : Json) : Option WriterSettings := do
  match ← j.fields? ["workers", "queue_capacity", "does_not_exist_pause_ms",
      "operation_timed_out_pause_ms", "backoff_multiplier", "max_db_problem_retries",
      "max_duplicate_retries", "max_reported_errors"] with
  | [workers, queueCapacity, missingPause, overloadPause, backoff, callAttempts, rowidAttempts,
      reportedErrors] =>
    let workers ← Json.optional default.workers (Json.unsigned? 64) workers
    let queueCapacity ← Json.optional default.queueCapacity (Json.unsigned? 64) queueCapacity
    let missingPause ← Json.optional default.missingPause (Json.unsigned? 64) missingPause
    let overloadPause ← Json.optional default.overloadPause (Json.unsigned? 64) overloadPause
    let backoff ← Json.optional default.backoff (Json.unsigned? 32) backoff
    let callAttempts ← Json.optional default.callAttempts (Json.unsigned? 64) callAttempts
    let rowidAttempts ← Json.optional default.rowidAttempts (Json.unsigned? 64) rowidAttempts
    let reportedErrors ← Json.optional default.reportedErrors (Json.unsigned? 64) reportedErrors
    some ⟨workers, queueCapacity, missingPause, overloadPause, backoff, callAttempts,
      rowidAttempts, reportedErrors⟩
  | _ => none

def check (w : WriterSettings) : Except SettingsFault Unit :=
  if w.workers = 0 then .error .noWorker
  else if w.queueCapacity = 0 then .error .noQueue
  else if w.callAttempts = 0 ∨ w.rowidAttempts = 0 then .error .noRetry
  else .ok ()

/-- The number of workers, where the environment may name another positive one. -/
def effectiveWorkers (w : WriterSettings) (environment : Option String) : Nat :=
  match environment with
  | none => w.workers
  | some s => match Number.readCount s with
    | .ok n => if 0 < n then n else w.workers
    | .error _ => w.workers

/-- The longest pause. -/
def pauseMax : Nat := 18446744073709551615

/-- A power, or the longest pause if it is longer. -/
def cappedPower (base exponent : Nat) : Nat :=
  if base ≤ 1 then (if exponent = 0 then 1 else base)
  else if 64 ≤ exponent then pauseMax
  else min pauseMax (Nat.pow base exponent)

/-- The pause before the next attempt at an overloaded storage, after `attempt` earlier
attempts. -/
def overloadPauseAfter (w : WriterSettings) (attempt : Nat) : Nat :=
  min pauseMax (w.overloadPause * cappedPower w.backoff (min attempt 4294967295))

/-- The pause after an error of a kind. -/
def pauseAfter (w : WriterSettings) (kind : FaultKind) (attempt : Nat) : Nat :=
  match kind with
  | .missing => w.missingPause
  | _ => w.overloadPauseAfter attempt

end WriterSettings
end TableMill
