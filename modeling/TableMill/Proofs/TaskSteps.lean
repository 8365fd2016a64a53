import TableMill.Proofs.History

/-!
# Steps of tasks

A task takes steps, whatever the storage answers: it draws row ids, pauses and makes calls. What the
steps cost at most is added up along the task, part by part, for any rates of the kinds of steps.
-/

namespace TableMill
namespace Task

inductive Step
  | draw (rowid : Int64)
  | pause (millis : Nat)
  | call (e : Event)

namespace Step

def isDraw : Step → Bool
  | draw _ => true
  | _ => false

def isRowInsert : Step → Bool
  | call ⟨.insertRow .., _⟩ => true
  | _ => false

def event? : Step → Option Event
  | call e => some e
  | _ => none

end Step

def calls (steps : List Step) : List Event := steps.filterMap Step.event?

@[simp] theorem calls_append (front back : List Step) :
    calls (front ++ back) = calls front ++ calls back :=
  List.filterMap_append

variable {α β σ : Type} {t : Task α}

/-- A task gets to another one by steps. The storage may give any answers. -/
inductive Walk {α : Type} : Task α → List Step → Task α → Prop
  | stay {t : Task α} : Walk t [] t
  | draw {next : Int64 → Task α} {steps : List Step} {t : Task α} (rowid : Int64)
    (h : Walk (next rowid) steps t) : Walk (.draw next) (.draw rowid :: steps) t
  | pause {millis : Nat} {next : Task α} {steps : List Step} {t : Task α}
    (h : Walk next steps t) : Walk (.pause millis next) (.pause millis :: steps) t
  | call {c : WriteCall} {next : StoreResult WriteAnswer → Task α} {steps : List Step} {t : Task α}
    (answer : StoreResult WriteAnswer) (h : Walk (next answer) steps t) :
    Walk (.call c next) (.call ⟨c, answer⟩ :: steps) t

/-- The steps of a task that goes on with another one are steps of the first, or all of them and
then steps of the second. -/
theorem Walk.of_andThen {f : α → Task β} {steps : List Step} {rest : Task β}
    (h : (t.andThen f).Walk steps rest) :
    (∃ u, t.Walk steps u) ∨
      ∃ front back a, steps = front ++ back ∧ t.Walk front (.done a) ∧ (f a).Walk back rest := by
  induction t generalizing steps with
  | done a => exact .inr ⟨[], steps, a, rfl, .stay, h⟩
  | draw next ih =>
    cases h with
    | stay => exact .inl ⟨_, .stay⟩
    | draw rowid hrest =>
      rcases ih rowid hrest with ⟨u, hu⟩ | ⟨front, back, a, rfl, hfront, hback⟩
      · exact .inl ⟨u, .draw rowid hu⟩
      · exact .inr ⟨_, back, a, rfl, .draw rowid hfront, hback⟩
  | pause millis next ih =>
    cases h with
    | stay => exact .inl ⟨_, .stay⟩
    | pause hrest =>
      rcases ih hrest with ⟨u, hu⟩ | ⟨front, back, a, rfl, hfront, hback⟩
      · exact .inl ⟨u, .pause hu⟩
      · exact .inr ⟨_, back, a, rfl, .pause hfront, hback⟩
  | call c next ih =>
    cases h with
    | stay => exact .inl ⟨_, .stay⟩
    | call answer hrest =>
      rcases ih answer hrest with ⟨u, hu⟩ | ⟨front, back, a, rfl, hfront, hback⟩
      · exact .inl ⟨u, .call answer hu⟩
      · exact .inr ⟨_, back, a, rfl, .call answer hfront, hback⟩

/-! ## Runs -/

def steps (b : Backend σ) : Task α → Supply → σ → List Step
  | done _, _, _ => []
  | draw next, ids, s =>
    .draw (ids.ids ids.drawn) ::
      (next (ids.ids ids.drawn)).steps b { ids with drawn := ids.drawn + 1 } s
  | pause millis next, ids, s => .pause millis :: next.steps b ids s
  | call c next, ids, s =>
    .call ⟨c, (b.write c s).1⟩ :: (next (b.write c s).1).steps b ids (b.write c s).2

theorem steps_andThen (b : Backend σ) (t : Task α) (f : α → Task β) (ids : Supply) (s : σ) :
    (t.andThen f).steps b ids s =
      t.steps b ids s ++
        (f (t.run b ids s).1).steps b (t.run b ids s).2.1 (t.run b ids s).2.2 := by
  induction t generalizing ids s with
  | done a => rfl
  | draw next ih => exact congrArg _ (ih _ _ _)
  | pause millis next ih => exact congrArg _ (ih _ _)
  | call c next ih => exact congrArg _ (ih _ _ _)

theorem walk_run (b : Backend σ) (t : Task α) (ids : Supply) (s : σ) :
    t.Walk (t.steps b ids s) (.done (t.run b ids s).1) := by
  induction t generalizing ids s with
  | done a => exact .stay
  | draw next ih => exact .draw _ (ih _ _ _)
  | pause millis next ih => exact .pause (ih _ _)
  | call c next ih => exact .call _ (ih _ _ _)

theorem drawn_run (b : Backend σ) (t : Task α) (ids : Supply) (s : σ) :
    (t.run b ids s).2.1.drawn = ids.drawn + (t.steps b ids s).countP Step.isDraw := by
  induction t generalizing ids s with
  | done a => rfl
  | draw next ih =>
    refine (ih _ _ _).trans ?_
    rw [steps, List.countP_cons_of_pos rfl, Nat.add_assoc, Nat.add_comm 1]
  | pause millis next ih => exact ih _ _
  | call c next ih => exact ih _ _ _

/-! ## Costs -/

structure Rates where
  draw : Nat
  pause : Nat
  row : Nat
  key : Nat
  release : Nat

namespace Rates

def callCost (r : Rates) : WriteCall → Nat
  | .insertRow .. => r.row
  | .insertKey .. => r.key
  | .deleteKey .. => r.release

def stepCost (r : Rates) : Step → Nat
  | .draw _ => r.draw
  | .pause _ => r.pause
  | .call e => r.callCost e.call

def cost (r : Rates) : List Step → Nat
  | [] => 0
  | x :: steps => r.stepCost x + r.cost steps

@[simp] theorem cost_cons (r : Rates) (x : Step) (steps : List Step) :
    r.cost (x :: steps) = r.stepCost x + r.cost steps := rfl

@[simp] theorem cost_append (r : Rates) (front back : List Step) :
    r.cost (front ++ back) = r.cost front + r.cost back := by
  induction front with
  | nil => exact (Nat.zero_add _).symm
  | cons x front ih => rw [List.cons_append, cost_cons, ih, cost_cons, Nat.add_assoc]

theorem cost_eq_countP {r : Rates} {p : Step → Bool} (h : ∀ x, r.stepCost x = (p x).toNat)
    (steps : List Step) : r.cost steps = steps.countP p := by
  induction steps with
  | nil => rfl
  | cons x steps ih =>
    rw [cost_cons, h, ih, List.countP_cons, Nat.add_comm]
    cases p x <;> rfl

end Rates

/-- However far a task gets, its steps cost no more than a number. -/
def Costs (r : Rates) (n : Nat) (t : Task α) : Prop :=
  ∀ steps u, t.Walk steps u → r.cost steps ≤ n

namespace Costs

variable {r : Rates} {m n : Nat}

theorem mono (h : t.Costs r m) (hle : m ≤ n) : t.Costs r n :=
  fun steps u hwalk => Nat.le_trans (h steps u hwalk) hle

theorem done (a : α) : (Task.done a).Costs r n := by
  intro steps u h
  cases h
  exact Nat.zero_le _

theorem draw {next : Int64 → Task α} (h : ∀ rowid, (next rowid).Costs r n) :
    (Task.draw next).Costs r (r.draw + n) := by
  intro steps u hwalk
  cases hwalk with
  | stay => exact Nat.zero_le _
  | draw rowid hrest => exact Nat.add_le_add_left (h rowid _ _ hrest) _

theorem pause {millis : Nat} {next : Task α} (h : next.Costs r n) :
    (Task.pause millis next).Costs r (r.pause + n) := by
  intro steps u hwalk
  cases hwalk with
  | stay => exact Nat.zero_le _
  | pause hrest => exact Nat.add_le_add_left (h _ _ hrest) _

theorem call {c : WriteCall} {next : StoreResult WriteAnswer → Task α}
    (h : ∀ answer, (next answer).Costs r n) :
    (Task.call c next).Costs r (r.callCost c + n) := by
  intro steps u hwalk
  cases hwalk with
  | stay => exact Nat.zero_le _
  | call answer hrest => exact Nat.add_le_add_left (h answer _ _ hrest) _

theorem perform (c : WriteCall) : (Task.perform c).Costs r (r.callCost c) :=
  call (n := 0) fun answer => done answer

theorem andThen {f : α → Task β} (h : t.Costs r m) (hf : ∀ a, (f a).Costs r n) :
    (t.andThen f).Costs r (m + n) := by
  intro steps rest hwalk
  rcases hwalk.of_andThen with ⟨u, hu⟩ | ⟨front, back, a, rfl, hfront, hback⟩
  · exact Nat.le_trans (h _ _ hu) (Nat.le_add_right m n)
  · rw [Rates.cost_append]
    exact Nat.add_le_add (h _ _ hfront) (hf a _ _ hback)

end Costs
end Task
end TableMill
