import TableMill.Proofs.Retries

/-!
# What writing a record costs at most

A call is attempted only so often, and a record is tried only under so many row ids. So the steps of
writing a record are bounded by the settings of its writer, whatever the storage answers: all steps,
and the draws of row ids and the inserts of rows among them.
-/

namespace TableMill

open TableMill.Task (Rates Step)

variable {α β : Type} {r : Rates} {m n : Nat}

/-! ## Parts of a writing -/

def Writing.Costs (r : Rates) (n : Nat) (x : Writing α) : Prop :=
  Task.Costs r n x.run

namespace Writing.Costs

theorem pure (a : α) : Writing.Costs r n (Pure.pure a) := Task.Costs.done _

theorem throw (fault : WriteFault) : Writing.Costs (α := α) r n (MonadExcept.throw fault) :=
  Task.Costs.done _

theorem mono {x : Writing α} (h : Writing.Costs r m x) (hle : m ≤ n) : Writing.Costs r n x :=
  Task.Costs.mono h hle

theorem bind {x : Writing α} {f : α → Writing β} (h : Writing.Costs r m x)
    (hf : ∀ a, Writing.Costs r n (f a)) : Writing.Costs r (m + n) (x >>= f) := by
  refine Task.Costs.andThen h fun answer => ?_
  cases answer with
  | error fault => exact Task.Costs.done _
  | ok a => exact hf a

end Writing.Costs

/-- What a call costs with all its attempts, where an attempt costs no more than a number. -/
def WriterSettings.attemptsCost (w : WriterSettings) (r : Rates) (n : Nat) : Nat :=
  w.callAttempts * (n + r.pause)

theorem retryFrom_costs (w : WriterSettings) (purpose : Purpose)
    {attempt : Nat → Task (StoreResult α)} (h : ∀ k, (attempt k).Costs r n) (left k : Nat) :
    (retryFrom w purpose attempt left k).Costs r ((left + 1) * (n + r.pause)) := by
  induction left generalizing k with
  | zero =>
    rw [retryFrom_eq]
    refine ((h k).andThen (n := 0) fun answer => ?_).mono (by omega)
    cases answer with
    | ok a => exact .done _
    | error e =>
      rw [afterAttempt]
      split <;> exact .done _
  | succ left ih =>
    rw [retryFrom_eq, Nat.succ_mul, Nat.add_comm, Nat.add_assoc]
    refine (h k).andThen fun answer => ?_
    cases answer with
    | ok a => exact .done _
    | error e =>
      rw [afterAttempt]
      split
      · exact (ih (k + 1)).pause
      · exact .done _

theorem retry_costs {w : WriterSettings} (hcalls : 1 ≤ w.callAttempts) {purpose : Purpose}
    {attempt : Nat → Task (StoreResult α)} (h : ∀ k, (attempt k).Costs r n) :
    Writing.Costs r (w.attemptsCost r n) (retry w purpose attempt) := by
  have hfrom := retryFrom_costs w purpose h (w.callAttempts - 1) 0
  rwa [Nat.sub_add_cancel hcalls] at hfrom

namespace Writer

open Writing (Costs)

variable {w : Writer}

theorem freshId_costs : Costs r r.draw freshId :=
  Task.Costs.draw (n := 0) fun _ => .done _

theorem keyOf_costs (item : Item) (name : String) : Costs r n (keyOf item name) := by
  unfold keyOf
  split
  · exact .pure _
  · exact .throw _

section

variable (hcalls : 1 ≤ w.settings.callAttempts)

include hcalls

theorem insertRow_costs (rowid : Int64) (record : Record) :
    Costs r (w.settings.attemptsCost r r.row) (w.insertRow rowid record) :=
  retry_costs hcalls fun _ => .perform _

theorem insertUnique_costs (name key : String) (rowid : Int64) :
    Costs r (w.settings.attemptsCost r r.key) (w.insertUnique name key rowid) :=
  retry_costs hcalls fun _ => .call (n := 0) fun answer => by split <;> exact .done _

theorem insertShared_costs (name key : String) (rowid : Int64) :
    Costs r (w.settings.attemptsCost r r.key) (w.insertShared name key rowid) :=
  retry_costs hcalls fun _ => .perform _

theorem release_costs (name key : String) :
    Costs r (w.settings.attemptsCost r r.release) (w.release name key) :=
  retry_costs hcalls fun _ => .perform _

theorem insertKey_costs (item : Item) (rowid : Int64) (name : String) (unique : Bool) :
    Costs r (w.settings.attemptsCost r r.key) (w.insertKey item rowid name unique) := by
  unfold insertKey
  refine ((keyOf_costs item name).bind (m := 0) fun key => ?_).mono (Nat.le_of_eq (Nat.zero_add _))
  split
  · refine (insertUnique_costs hcalls name key rowid).bind (n := 0) fun answer => ?_
    split
    · exact .throw _
    · exact .pure _
  · exact (insertShared_costs hcalls name key rowid).bind (n := 0) fun _ => .pure _

theorem insertKeys_costs (item : Item) (rowid : Int64) (indexes : Assoc Index) :
    Costs r (indexes.length * w.settings.attemptsCost r r.key)
      (w.insertKeys item rowid indexes) := by
  induction indexes with
  | nil => exact .pure _
  | cons e rest ih =>
    rw [List.length_cons, Nat.succ_mul, Nat.add_comm]
    exact (insertKey_costs hcalls item rowid e.1 e.2.unique).bind fun _ => ih

end

/-! ## A record -/

/-- What a record costs under one row id, but for the keys that come after its row. -/
def roundCost (w : Writer) (r : Rates) : Nat :=
  r.draw + w.settings.attemptsCost r r.key + w.settings.attemptsCost r r.row +
    w.settings.attemptsCost r r.release

def triesCost (w : Writer) (r : Rates) (tries : Nat) : Nat :=
  tries * w.roundCost r + w.indexes.length * w.settings.attemptsCost r r.key

theorem triesCost_succ (w : Writer) (r : Rates) (tries : Nat) :
    w.triesCost r (tries + 1) =
      r.draw + (w.settings.attemptsCost r r.key + (w.settings.attemptsCost r r.row +
        (w.settings.attemptsCost r r.release + w.triesCost r tries))) := by
  rw [triesCost, triesCost, Nat.succ_mul, roundCost]
  omega

theorem keysCost_le (w : Writer) (r : Rates) (tries : Nat) {indexes : Assoc Index}
    (h : indexes.length ≤ w.indexes.length) :
    indexes.length * w.settings.attemptsCost r r.key ≤ w.triesCost r tries :=
  Nat.le_trans (Nat.mul_le_mul_right _ h) (Nat.le_add_left _ _)

section

variable (hcalls : 1 ≤ w.settings.callAttempts)

include hcalls

theorem writeDataFirst_costs (item : Item) (tries : Nat) :
    Costs r (w.triesCost r tries) (w.writeDataFirst item tries) := by
  induction tries with
  | zero => exact .throw _
  | succ tries ih =>
    rw [triesCost_succ]
    refine freshId_costs.bind fun rowid => ?_
    refine Writing.Costs.mono ?_ (Nat.le_add_left _ _)
    refine (insertRow_costs hcalls rowid item.record).bind fun answer => ?_
    refine Writing.Costs.mono ?_ (Nat.le_add_left _ _)
    split
    · exact ih
    · have hkeys := insertKeys_costs (r := r) hcalls item rowid w.indexes
      exact (hkeys.mono (w.keysCost_le r tries (Nat.le_refl _))).bind (n := 0) fun _ => .pure _

theorem writeDistinct_costs (item : Item) (index key : String) (tries : Nat) :
    Costs r (w.triesCost r tries) (w.writeDistinct item index key tries) := by
  induction tries with
  | zero => exact .throw _
  | succ tries ih =>
    rw [triesCost_succ]
    refine freshId_costs.bind fun rowid => ?_
    refine (insertUnique_costs hcalls index key rowid).bind fun answer => ?_
    split
    · exact .pure _
    · refine (insertRow_costs hcalls rowid item.record).bind fun answer => ?_
      split
      · exact (release_costs hcalls index key).bind fun _ => ih
      · refine Writing.Costs.mono ?_ (Nat.le_add_left _ _)
        have hkeys := insertKeys_costs (r := r) hcalls item rowid
          (w.indexes.filter fun e => e.1 ≠ index)
        have hle := w.keysCost_le r tries (List.length_filter_le (fun e => e.1 ≠ index) w.indexes)
        exact (hkeys.mono hle).bind (n := 0) fun _ => .pure _

theorem task_costs (item : Item) :
    (w.task item).Costs r (w.triesCost r w.settings.rowidAttempts) := by
  have hwriting : Costs r (w.triesCost r w.settings.rowidAttempts) (w.writing item) := by
    unfold writing
    split
    · exact writeDataFirst_costs hcalls item _
    · next index _ =>
      refine ((keyOf_costs item index).bind (m := 0) fun key => ?_).mono
        (Nat.le_of_eq (Nat.zero_add _))
      exact writeDistinct_costs hcalls item index key _
  refine Task.Costs.andThen (n := 0) hwriting fun answer => ?_
  cases answer <;> exact .done _

theorem countP_le {item : Item} {steps : List Step} {rest : Task Outcome}
    (hwalk : (w.task item).Walk steps rest) (r : Rates) {p : Step → Bool}
    (hp : ∀ x, r.stepCost x = (p x).toNat) :
    steps.countP p ≤ w.triesCost r w.settings.rowidAttempts := by
  rw [← Rates.cost_eq_countP hp]
  exact task_costs hcalls item steps rest hwalk

end

/-- What the settings of a writer allow to one record. -/
structure Bounds (w : Writer) (steps : List Step) : Prop where
  draws : steps.countP Step.isDraw ≤ w.settings.rowidAttempts
  rowInserts : steps.countP Step.isRowInsert ≤ w.settings.rowidAttempts * w.settings.callAttempts
  length : steps.length ≤
    w.settings.rowidAttempts * (1 + 6 * w.settings.callAttempts) +
      w.indexes.length * (2 * w.settings.callAttempts)

theorem bounds_of_walk (hcalls : 1 ≤ w.settings.callAttempts) {item : Item} {steps : List Step}
    {rest : Task Outcome} (hwalk : (w.task item).Walk steps rest) : w.Bounds steps where
  draws := by
    have h := countP_le hcalls hwalk ⟨1, 0, 0, 0, 0⟩ (p := Step.isDraw) fun x => by
      rcases x with _ | _ | ⟨c, _⟩ <;> [rfl; rfl; cases c <;> rfl]
    simpa [triesCost, roundCost, WriterSettings.attemptsCost] using h
  rowInserts := by
    have h := countP_le hcalls hwalk ⟨0, 0, 1, 0, 0⟩ (p := Step.isRowInsert) fun x => by
      rcases x with _ | _ | ⟨c, _⟩ <;> [rfl; rfl; cases c <;> rfl]
    simpa [triesCost, roundCost, WriterSettings.attemptsCost] using h
  length := by
    have h := countP_le hcalls hwalk ⟨1, 1, 1, 1, 1⟩ (p := fun _ => true) fun x => by
      rcases x with _ | _ | ⟨c, _⟩ <;> [rfl; rfl; cases c <;> rfl]
    rw [List.countP_true] at h
    refine Nat.le_trans h (Nat.le_of_eq ?_)
    simp only [triesCost, roundCost, WriterSettings.attemptsCost]
    have hsum : 1 + w.settings.callAttempts * 2 + w.settings.callAttempts * 2 +
        w.settings.callAttempts * 2 = 1 + 6 * w.settings.callAttempts := by omega
    rw [hsum, Nat.mul_comm w.settings.callAttempts 2]

/-- An operation that is tried again ends with its first success or its first error that does not
pass, or else when its attempts are used up, and is not attempted after that. So a record comes to
an end within bounds, whatever the storage answers. -/
theorem retries_bounded (w : Writer) (hcalls : 1 ≤ w.settings.callAttempts) :
    (∀ {α σ : Type} (o : Operation α σ) (purpose : Purpose), o.Retried w.settings purpose) ∧
      ∀ item : Item,
        (∀ steps rest, (w.task item).Walk steps rest → w.Bounds steps) ∧
        ∀ {σ : Type} (b : Backend σ) (ids : Task.Supply) (s : σ),
          (w.task item).Walk ((w.task item).steps b ids s)
              (.done ((w.task item).run b ids s).1) ∧
            ((w.task item).run b ids s).2.1.drawn =
              ids.drawn + ((w.task item).steps b ids s).countP Step.isDraw :=
  ⟨fun o purpose => o.retried purpose hcalls, fun item =>
    ⟨fun _ _ hwalk => bounds_of_walk hcalls hwalk, fun b ids s =>
      ⟨(w.task item).walk_run b ids s, (w.task item).drawn_run b ids s⟩⟩⟩

end Writer

namespace OverloadSample

/-! A storage that never gets better: two of three calls time out, and the third one finds what is
to be inserted. A record is given up after as many inserts as it may make. -/

def storage : Backend Nat where
  leftPage _ _ _ made := (.error ⟨.timedOut, .injected⟩, made)
  indexPage _ _ _ _ made := (.error ⟨.timedOut, .injected⟩, made)
  dataPage _ _ _ made := (.error ⟨.timedOut, .injected⟩, made)
  write _ made :=
    (if made % 3 = 2 then .ok (.present 0) else .error ⟨.timedOut, .injected⟩, made + 1)
  listed _ _ _ := 0

def writer : Writer where
  table := "skus"
  indexes := [("idx_sku", ⟨true, [.plain "sku" .text]⟩)]
  distinct := none
  settings := { WriterSettings.default with callAttempts := 3, rowidAttempts := 2 }

def item : Item := ⟨[("sku", .text "x")], [("idx_sku", "x")]⟩

def supply : Task.Supply := ⟨fun n => Int64.ofNat n, 0⟩

def insert : Operation WriteAnswer Nat where
  storage := storage
  attempt _ := Task.perform (.insertRow "skus" 0 item.record)
  ids := supply
  start := 0

theorem retries_bounded_skus :
    1 ≤ writer.settings.callAttempts ∧
      insert.EndsAfter writer.settings (.row "skus") 3 (.ok (.present 0)) ∧
      (∀ steps rest, (writer.task item).Walk steps rest → writer.Bounds steps) ∧
      ((writer.task item).run storage supply 0).1 = .failed (.collisions "skus" 2) ∧
      ((writer.task item).steps storage supply 0).countP Step.isDraw = 2 ∧
      ((writer.task item).steps storage supply 0).countP Step.isRowInsert = 2 * 3 := by
  have hbounded := writer.retries_bounded (by decide)
  refine ⟨by decide, ?_, (hbounded.2 item).1, by decide +kernel, by decide +kernel,
    by decide +kernel⟩
  have hwaits : ∀ m < 2, insert.Waits m
    | 0, _ => ⟨⟨.timedOut, .injected⟩, rfl, .inr (.inl rfl)⟩
    | 1, _ => ⟨⟨.timedOut, .injected⟩, rfl, .inr (.inl rfl)⟩
  exact (hbounded.1 insert (.row "skus")).success (by decide) hwaits rfl

end OverloadSample
end TableMill
