import TableMill.Store.Backend

/-!
# Tasks

A task says what a worker does step by step: it draws fresh row ids, calls the storage,
pauses, and ends with a result. Between two steps other workers may call the storage.
-/

namespace TableMill

inductive Task (α : Type) where
  | done (a : α)
  | draw (next : Int64 → Task α)
  | pause (millis : Nat) (next : Task α)
  | call (c : WriteCall) (next : StoreResult WriteAnswer → Task α)

namespace Task

variable {α β σ : Type}

def andThen (t : Task α) (f : α → Task β) : Task β :=
  match t with
  | done a => f a
  | draw next => draw fun n => (next n).andThen f
  | pause millis next => pause millis (next.andThen f)
  | call c next => call c fun answer => (next answer).andThen f

instance : Monad Task where
  pure := done
  bind := andThen

/-- Calls the storage and ends with its answer. -/
def perform (c : WriteCall) : Task (StoreResult WriteAnswer) :=
  call c done

def fresh : Task Int64 :=
  draw done

/-- Where row ids come from: a stream of them, and how many are drawn. -/
structure Supply where
  ids : Nat → Int64
  drawn : Nat

/-- Runs a task without other workers. -/
def run (b : Backend σ) : Task α → Supply → σ → α × Supply × σ
  | done a, ids, s => (a, ids, s)
  | draw next, ids, s => (next (ids.ids ids.drawn)).run b { ids with drawn := ids.drawn + 1 } s
  | pause _ next, ids, s => next.run b ids s
  | call c next, ids, s =>
    let (answer, s) := b.write c s
    (next answer).run b ids s

@[simp] theorem run_done (b : Backend σ) (a : α) (ids : Supply) (s : σ) :
    (done a).run b ids s = (a, ids, s) := rfl

@[simp] theorem done_andThen (a : α) (f : α → Task β) : (done a).andThen f = f a := rfl

theorem run_andThen (b : Backend σ) (t : Task α) (f : α → Task β) (ids : Supply) (s : σ) :
    (t.andThen f).run b ids s =
      (f (t.run b ids s).1).run b (t.run b ids s).2.1 (t.run b ids s).2.2 := by
  induction t generalizing ids s with
  | done a => rfl
  | draw next ih => exact ih _ _ _
  | pause millis next ih => exact ih _ _
  | call c next ih => exact ih _ _ _

end Task
end TableMill
