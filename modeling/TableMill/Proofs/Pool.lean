import TableMill.Writer.Basic

/-!
# Pools of workers

Workers take records from a queue and write each of them to its end. Between two steps of one
worker the others go on, so every order of moves is a run. The bound of the queue only delays
its filling; here all records wait from the start.
-/

namespace TableMill

/-- The records that wait, those that are written with what is left of their tasks, the
outcomes in the order of their reports, the row ids drawn, and the store. -/
structure Pool where
  queue : List Item
  busy : List (Item × Task Outcome)
  settled : List (Item × Outcome)
  drawn : List Int64
  store : Store

/-- An idle worker takes a record, or the busy worker at a place goes on; what it may draw is
given. -/
inductive Move
  | take
  | go (place : Nat) (rowid : Int64)
  deriving DecidableEq, Repr

namespace Pool

def start (items : List Item) (s : Store) : Pool :=
  ⟨items, [], [], [], s⟩

/-- The busy worker at a place takes one step. -/
def go (p : Pool) (place : Nat) (rowid : Int64) : Option Pool :=
  match p.busy[place]? with
  | none => none
  | some (item, .done outcome) =>
    some { p with
      busy := p.busy.eraseIdx place
      settled := p.settled ++ [(item, outcome)] }
  | some (item, .draw next) =>
    some { p with
      busy := p.busy.set place (item, next rowid)
      drawn := p.drawn ++ [rowid] }
  | some (item, .pause _ next) => some { p with busy := p.busy.set place (item, next) }
  | some (item, .call c next) =>
    some { p with
      busy := p.busy.set place (item, next (p.store.write c).1)
      store := (p.store.write c).2 }

def move (w : Writer) (workers : Nat) (p : Pool) : Move → Option Pool
  | .take => match p.queue with
    | [] => none
    | item :: rest =>
      if p.busy.length < workers then
        some { p with queue := rest, busy := p.busy ++ [(item, w.task item)] }
      else none
  | .go place rowid => p.go place rowid

def run (w : Writer) (workers : Nat) (p : Pool) : List Move → Option Pool
  | [] => some p
  | m :: moves => (p.move w workers m).bind fun q => q.run w workers moves

def Idle (p : Pool) : Prop :=
  p.queue = [] ∧ p.busy = []

def totals (p : Pool) (most : Nat) : Totals :=
  (p.settled.map Prod.snd).foldl (Totals.add most) .empty

/-- What a move does, with the workers before and after the one that goes on. -/
inductive Step (w : Writer) : Pool → Pool → Prop
  | take {item queue busy settled drawn store} :
    Step w ⟨item :: queue, busy, settled, drawn, store⟩
      ⟨queue, busy ++ [(item, w.task item)], settled, drawn, store⟩
  | finish {item outcome queue before after settled drawn store} :
    Step w ⟨queue, before ++ (item, .done outcome) :: after, settled, drawn, store⟩
      ⟨queue, before ++ after, settled ++ [(item, outcome)], drawn, store⟩
  | draw {item next rowid queue before after settled drawn store} :
    Step w ⟨queue, before ++ (item, .draw next) :: after, settled, drawn, store⟩
      ⟨queue, before ++ (item, next rowid) :: after, settled, drawn ++ [rowid], store⟩
  | pause {item millis next queue before after settled drawn store} :
    Step w ⟨queue, before ++ (item, .pause millis next) :: after, settled, drawn, store⟩
      ⟨queue, before ++ (item, next) :: after, settled, drawn, store⟩
  | call {item c next queue before after settled drawn store} :
    Step w ⟨queue, before ++ (item, .call c next) :: after, settled, drawn, store⟩
      ⟨queue, before ++ (item, next (store.write c).1) :: after, settled, drawn,
        (store.write c).2⟩

variable {α : Type}

theorem split_at {xs : List α} {i : Nat} {x : α} (h : xs[i]? = some x) :
    ∃ before after, xs = before ++ x :: after ∧ xs.eraseIdx i = before ++ after ∧
      ∀ y, xs.set i y = before ++ y :: after := by
  obtain ⟨hi, rfl⟩ := List.getElem?_eq_some_iff.1 h
  refine ⟨xs.take i, xs.drop (i + 1), ?_, List.eraseIdx_eq_take_drop_succ xs i, fun y => ?_⟩
  · rw [List.getElem_cons_drop hi, List.take_append_drop]
  · rw [List.set_eq_take_append_cons_drop, if_pos hi]

theorem step_of_move {w : Writer} {workers : Nat} {p q : Pool} {m : Move}
    (h : p.move w workers m = some q) : Step w p q := by
  obtain ⟨queue, busy, settled, drawn, store⟩ := p
  cases m with
  | take =>
    cases queue with
    | nil => simp [move] at h
    | cons item queue =>
      simp only [move] at h
      split at h
      · cases h
        exact .take
      · cases h
  | go place rowid =>
    simp only [move, go] at h
    cases hat : busy[place]? with
    | none => simp [hat] at h
    | some e =>
      obtain ⟨item, task⟩ := e
      obtain ⟨before, after, hbusy, herase, hset⟩ := split_at hat
      rw [hat] at h
      cases task <;> cases h
      · rw [herase, hbusy]
        exact .finish
      · rw [hset, hbusy]
        exact .draw
      · rw [hset, hbusy]
        exact .pause
      · rw [hset, hbusy]
        exact .call

theorem Step.grows {w : Writer} {p q : Pool} (h : Step w p q) :
    p.settled <+: q.settled ∧ p.drawn <+: q.drawn := by
  cases h <;> simp

theorem run_grows {w : Writer} {workers : Nat} {p q : Pool} {moves : List Move}
    (h : p.run w workers moves = some q) : p.settled <+: q.settled ∧ p.drawn <+: q.drawn := by
  induction moves generalizing p with
  | nil =>
    cases h
    exact ⟨List.prefix_rfl, List.prefix_rfl⟩
  | cons m moves ih =>
    obtain ⟨p', hmove, hrun⟩ := Option.bind_eq_some_iff.1 h
    have hstep := (step_of_move hmove).grows
    exact ⟨hstep.1.trans (ih hrun).1, hstep.2.trans (ih hrun).2⟩

/-- What every step keeps holds after a run, of pools whose reports and draws are among those
of the end. -/
theorem run_induction {w : Writer} {workers : Nat} {P : Pool → Prop} {p q : Pool}
    {moves : List Move} (hrun : p.run w workers moves = some q)
    (hstep : ∀ a b, Step w a b → b.settled <+: q.settled → b.drawn <+: q.drawn → P a → P b)
    (hp : P p) : P q := by
  induction moves generalizing p with
  | nil =>
    cases hrun
    exact hp
  | cons m moves ih =>
    obtain ⟨p', hmove, hrest⟩ := Option.bind_eq_some_iff.1 hrun
    have hgrows := run_grows hrest
    exact ih hrest (hstep _ _ (step_of_move hmove) hgrows.1 hgrows.2 hp)

end Pool
end TableMill
