import TableMill.Proofs.WritePhases

/-!
# How the writing of a record ends

The fault that ends the writing of a record tells of its phase: storing the row or giving the key
back fails while the record holds its key and has no row, and every other fault comes before the
key is claimed, after it is given back, or after the row is stored.
-/

namespace TableMill

/-- Whether a call is made by a record that holds its key and has no row. -/
def Purpose.isBetween : Purpose → Bool
  | .row _ | .release _ => true
  | .key _ => false

/-- Whether a fault ends the writing of a record that holds its key and has no row. -/
def WriteFault.leavesKey : WriteFault → Bool
  | .storage purpose _ | .gaveUp purpose _ _ => purpose.isBetween
  | .noKey _ | .collisions .. | .duplicateKey .. => false

def Phase.isHolding : Phase → Bool
  | .holding _ => true
  | .seeking | .ready _ | .stored _ | .beaten => false

variable {α β : Type} {table index key : String} {record : Record} {φ : Phase}

def Phase.Fits (post : Phase → α → Prop) (φ : Phase) : Except WriteFault α → Prop
  | .ok a => post φ a
  | .error fault => fault.leavesKey = φ.isHolding

/-- The writing obeys, and what it ends with fits the phase. -/
def Writing.Fits (table index key : String) (record : Record) (post : Phase → α → Prop) (φ : Phase)
    (x : Writing α) : Prop :=
  TableMill.Obeys table index key record (Phase.Fits post) φ x.run

namespace Writing.Fits

variable {post : Phase → α → Prop}

theorem pure {a : α} (h : post φ a) : Writing.Fits table index key record post φ (Pure.pure a) :=
  .done h

theorem throw {fault : WriteFault} (h : fault.leavesKey = φ.isHolding) :
    Writing.Fits table index key record post φ (MonadExcept.throw fault) :=
  .done h

theorem bind {P : Phase → α → Prop} {Q : Phase → β → Prop} {x : Writing α} {f : α → Writing β}
    (h : Writing.Fits table index key record P φ x)
    (hf : ∀ ψ a, P ψ a → Writing.Fits table index key record Q ψ (f a)) :
    Writing.Fits table index key record Q φ (x >>= f) := by
  refine TableMill.Obeys.andThen h fun ψ r hr => ?_
  cases r with
  | error fault => exact .done hr
  | ok a => exact hf ψ a hr

theorem retry {w : WriterSettings} {purpose : Purpose} {attempt : Nat → Task (StoreResult α)}
    (hpurpose : purpose.isBetween = φ.isHolding)
    (h : ∀ n, TableMill.Obeys table index key record
      (fun ψ r => (∀ a, r = .ok a → post ψ a) ∧ ∀ e, r = .error e → ψ = φ) φ (attempt n)) :
    Writing.Fits table index key record post φ (TableMill.retry w purpose attempt) := by
  have hfrom : ∀ left n, TableMill.Obeys table index key record (Phase.Fits post) φ
      (retryFrom w purpose attempt left n) := by
    intro left
    induction left with
    | zero =>
      intro n
      rw [retryFrom]
      refine (h n).andThen fun ψ r hr => ?_
      cases r with
      | ok a => exact .done (hr.1 a rfl)
      | error e =>
        obtain rfl := hr.2 e rfl
        dsimp only
        split <;> exact .done hpurpose
    | succ left ih =>
      intro n
      rw [retryFrom]
      refine (h n).andThen fun ψ r hr => ?_
      cases r with
      | ok a => exact .done (hr.1 a rfl)
      | error e =>
        obtain rfl := hr.2 e rfl
        dsimp only
        split
        · exact .pause (ih _)
        · exact .done hpurpose
  exact hfrom _ _

end Writing.Fits

namespace Writer

open Writing (Fits)

variable {rowid : Int64} {item : Item}

theorem freshId_fits : Fits table index key record (fun ψ r => ψ = .ready r) .seeking freshId :=
  .draw fun _ => .done rfl

theorem insertUnique_fits (w : Writer) :
    Fits table index key record
      (fun ψ answer => answer = .inserted ∧ ψ = .holding rowid ∨
        ∃ m, answer = .present m ∧ ψ = .beaten) (.ready rowid)
      (w.insertUnique index key rowid) := by
  refine .retry rfl fun n => .claim ?_ (fun m hm => ?_) fun e => ?_
  · refine .done ⟨fun a ha => ?_, fun e he => nomatch he⟩
    cases ha
    exact .inl ⟨rfl, rfl⟩
  · refine .done ⟨fun a ha => ?_, fun e he => nomatch he⟩
    rw [if_neg fun h => hm h.1] at ha
    cases ha
    exact .inr ⟨m, rfl, rfl⟩
  · exact .done ⟨fun a ha => (nomatch ha), fun _ _ => rfl⟩

theorem insertRow_fits (w : Writer) :
    Fits w.table index key record
      (fun ψ answer => answer = .inserted ∧ ψ = .stored rowid ∨
        ∃ m, answer = .present m ∧ ψ = .holding rowid) (.holding rowid)
      (w.insertRow rowid record) := by
  refine .retry rfl fun n => .store ?_ (fun m => ?_) fun e => ?_
  · refine .done ⟨fun a ha => ?_, fun e he => nomatch he⟩
    cases ha
    exact .inl ⟨rfl, rfl⟩
  · refine .done ⟨fun a ha => ?_, fun e he => nomatch he⟩
    cases ha
    exact .inr ⟨m, rfl, rfl⟩
  · exact .done ⟨fun a ha => (nomatch ha), fun _ _ => rfl⟩

theorem release_fits (w : Writer) :
    Fits table index key record (fun ψ _ => ψ = .seeking) (.holding rowid)
      (w.release index key) := by
  refine .retry rfl fun n => .release ?_ fun e => ?_
  · exact .done ⟨fun _ _ => rfl, fun e he => nomatch he⟩
  · exact .done ⟨fun a ha => (nomatch ha), fun _ _ => rfl⟩

def StaysStored (table index key : String) (record : Record) (rowid : Int64) (x : Writing α) :
    Prop :=
  Fits table index key record (fun ψ _ => ψ = .stored rowid) (.stored rowid) x

theorem insertShared_stays (w : Writer) {name k : String} {r : Int64} (hne : name ≠ index) :
    StaysStored table index key record rowid (w.insertShared name k r) := by
  refine .retry rfl fun n => .other hne fun answer => ?_
  exact .done ⟨fun _ _ => rfl, fun _ _ => rfl⟩

theorem insertUnique_stays (w : Writer) {name k : String} {r : Int64} (hne : name ≠ index) :
    StaysStored table index key record rowid (w.insertUnique name k r) := by
  refine .retry rfl fun n => .other hne fun answer => ?_
  split <;> exact .done ⟨fun _ _ => rfl, fun _ _ => rfl⟩

theorem insertKey_stays (w : Writer) {name : String} (r : Int64) (unique : Bool)
    (hne : name ≠ index) :
    StaysStored table index key record rowid (w.insertKey item r name unique) := by
  have hkey : StaysStored table index key record rowid (keyOf item name) := by
    unfold keyOf
    split
    · exact .pure rfl
    · exact .throw rfl
  refine hkey.bind fun ψ k hψ => ?_
  subst hψ
  split
  · refine (w.insertUnique_stays hne).bind fun ψ answer hψ => ?_
    subst hψ
    split
    · exact .throw rfl
    · exact .pure rfl
  · exact (w.insertShared_stays hne).bind fun ψ _ hψ => .pure hψ

theorem insertKeys_stays (w : Writer) (r : Int64) {indexes : Assoc Index}
    (hne : ∀ e ∈ indexes, e.1 ≠ index) :
    StaysStored table index key record rowid (w.insertKeys item r indexes) := by
  induction indexes with
  | nil => exact .pure rfl
  | cons e rest ih =>
    refine (w.insertKey_stays r e.2.unique (hne e List.mem_cons_self)).bind fun ψ _ hψ => ?_
    subst hψ
    exact ih fun e he => hne e (List.mem_cons_of_mem _ he)

theorem writeDistinct_fits (w : Writer) (item : Item) (index key : String) (tries : Nat) :
    Fits w.table index key item.record
      (fun ψ outcome => outcome = .written ∧ (∃ r, ψ = .stored r) ∨
        outcome = .skipped ∧ ψ = .beaten) .seeking
      (w.writeDistinct item index key tries) := by
  induction tries with
  | zero => exact .throw rfl
  | succ tries ih =>
    refine freshId_fits.bind fun ψ r hψ => ?_
    subst hψ
    refine w.insertUnique_fits.bind fun ψ answer hanswer => ?_
    rcases hanswer with ⟨rfl, rfl⟩ | ⟨m, rfl, rfl⟩
    · refine w.insertRow_fits.bind fun ψ answer hanswer => ?_
      rcases hanswer with ⟨rfl, rfl⟩ | ⟨m, rfl, rfl⟩
      · have hothers : ∀ e ∈ w.indexes.filter fun e => e.1 ≠ index, e.1 ≠ index :=
          fun e he => by simpa using (List.mem_filter.1 he).2
        refine (w.insertKeys_stays r hothers).bind fun ψ _ hψ => ?_
        exact .pure (.inl ⟨rfl, r, hψ⟩)
      · refine w.release_fits.bind fun ψ _ hψ => ?_
        subst hψ
        exact ih
    · exact .pure (.inr ⟨rfl, rfl⟩)

/-- What the outcome of a record with a key says of the phase it ends in. -/
def Concludes (φ : Phase) : Outcome → Prop
  | .written => ∃ rowid, φ = .stored rowid
  | .skipped => φ = .beaten
  | .failed fault => fault.leavesKey = φ.isHolding

theorem task_concludes {w : Writer} (hdistinct : w.distinct = some index)
    (hkey : Assoc.get? item.keys index = some key) :
    Obeys w.table index key item.record Concludes .seeking (w.task item) := by
  have hwriting : w.writing item = w.writeDistinct item index key w.settings.rowidAttempts := by
    have hof : keyOf item index = Pure.pure key := by rw [keyOf, hkey]
    rw [writing, hdistinct]
    dsimp only
    rw [hof]
    rfl
  rw [task, hwriting]
  refine Obeys.andThen (w.writeDistinct_fits item index key _) fun ψ r hr => ?_
  cases r with
  | error fault => exact .done hr
  | ok outcome =>
    rcases hr with ⟨rfl, hφ⟩ | ⟨rfl, hφ⟩
    · exact .done hφ
    · exact .done hφ

/-- A record without a key fails at once. -/
theorem task_keyless {w : Writer} (hdistinct : w.distinct = some index)
    (hkey : Assoc.get? item.keys index = none) :
    w.task item = .done (.failed (.noKey index)) := by
  have hof : keyOf item index = MonadExcept.throw (.noKey index) := by rw [keyOf, hkey]
  rw [task, writing, hdistinct]
  dsimp only
  rw [hof]
  rfl

end Writer
end TableMill
