import TableMill.Writer.Basic

/-!
# The phases of a record

Where keys are not repeated, a worker that writes a record draws a row id, claims the key for
it, stores the row, and either is done or gives the key back. The task of a record follows
these phases whatever the storage answers, except that a key is never found to be claimed for
the row id just drawn.
-/

namespace TableMill

/-- How far a worker has got: it has no row id, has one to claim the key for, holds the key,
has stored the row, or has found the key claimed for another row id. -/
inductive Phase
  | seeking
  | ready (rowid : Int64)
  | holding (rowid : Int64)
  | stored (rowid : Int64)
  | beaten
  deriving DecidableEq, Repr

/-- The task keeps to the phases of a record with a key in an index, and ends in a phase and
with a result that fit together. -/
inductive Obeys (table index key : String) (record : Record) {α : Type}
    (post : Phase → α → Prop) : Phase → Task α → Prop
  | done {φ a} (h : post φ a) : Obeys table index key record post φ (.done a)
  | draw {next} (h : ∀ rowid, Obeys table index key record post (.ready rowid) (next rowid)) :
    Obeys table index key record post .seeking (.draw next)
  | pause {φ millis next} (h : Obeys table index key record post φ next) :
    Obeys table index key record post φ (.pause millis next)
  | claim {rowid next}
    (inserted : Obeys table index key record post (.holding rowid) (next (.ok .inserted)))
    (present : ∀ m, m ≠ rowid → Obeys table index key record post .beaten (next (.ok (.present m))))
    (error : ∀ e, Obeys table index key record post (.ready rowid) (next (.error e))) :
    Obeys table index key record post (.ready rowid) (.call (.insertKey index key rowid true) next)
  | store {rowid next}
    (inserted : Obeys table index key record post (.stored rowid) (next (.ok .inserted)))
    (present : ∀ m, Obeys table index key record post (.holding rowid) (next (.ok (.present m))))
    (error : ∀ e, Obeys table index key record post (.holding rowid) (next (.error e))) :
    Obeys table index key record post (.holding rowid) (.call (.insertRow table rowid record) next)
  | release {rowid next}
    (deleted : Obeys table index key record post .seeking (next (.ok .deleted)))
    (error : ∀ e, Obeys table index key record post (.holding rowid) (next (.error e))) :
    Obeys table index key record post (.holding rowid) (.call (.deleteKey index key) next)
  | other {rowid name k r unique next} (hne : name ≠ index)
    (h : ∀ answer, Obeys table index key record post (.stored rowid) (next answer)) :
    Obeys table index key record post (.stored rowid) (.call (.insertKey name k r unique) next)

namespace Obeys

variable {table index key : String} {record : Record} {α β : Type} {φ : Phase}

theorem andThen {post : Phase → α → Prop} {post' : Phase → β → Prop} {t : Task α}
    {f : α → Task β} (h : Obeys table index key record post φ t)
    (hf : ∀ ψ a, post ψ a → Obeys table index key record post' ψ (f a)) :
    Obeys table index key record post' φ (t.andThen f) := by
  induction h with
  | done h => exact hf _ _ h
  | draw _ ih => exact .draw ih
  | pause _ ih => exact .pause ih
  | claim _ _ _ hinserted hpresent herror => exact .claim hinserted hpresent herror
  | store _ _ _ hinserted hpresent herror => exact .store hinserted hpresent herror
  | release _ _ hdeleted herror => exact .release hdeleted herror
  | other hne _ ih => exact .other hne ih

theorem mono {post post' : Phase → α → Prop} {t : Task α}
    (h : Obeys table index key record post φ t) (hpost : ∀ ψ a, post ψ a → post' ψ a) :
    Obeys table index key record post' φ t := by
  induction h with
  | done h => exact .done (hpost _ _ h)
  | draw _ ih => exact .draw ih
  | pause _ ih => exact .pause ih
  | claim _ _ _ hinserted hpresent herror => exact .claim hinserted hpresent herror
  | store _ _ _ hinserted hpresent herror => exact .store hinserted hpresent herror
  | release _ _ hdeleted herror => exact .release hdeleted herror
  | other hne _ ih => exact .other hne ih

end Obeys

/-- The writing obeys; only what it ends with on success matters. -/
def Writing.Obeys (table index key : String) (record : Record) {α : Type}
    (post : Phase → α → Prop) (φ : Phase) (x : Writing α) : Prop :=
  TableMill.Obeys table index key record (fun ψ r => ∀ a, r = .ok a → post ψ a) φ x.run

namespace Writing.Obeys

variable {table index key : String} {record : Record} {α β : Type} {φ : Phase}

theorem pure {post : Phase → α → Prop} {a : α} (h : post φ a) :
    Writing.Obeys table index key record post φ (Pure.pure a) := by
  refine .done fun b hb => ?_
  cases hb
  exact h

theorem throw {post : Phase → α → Prop} (fault : WriteFault) :
    Writing.Obeys table index key record post φ (MonadExcept.throw fault) :=
  .done fun _ h => nomatch h

theorem bind {P : Phase → α → Prop} {Q : Phase → β → Prop} {x : Writing α}
    {f : α → Writing β} (h : Writing.Obeys table index key record P φ x)
    (hf : ∀ ψ a, P ψ a → Writing.Obeys table index key record Q ψ (f a)) :
    Writing.Obeys table index key record Q φ (x >>= f) := by
  refine TableMill.Obeys.andThen h fun ψ r hr => ?_
  cases r with
  | error fault => exact .done fun _ h => nomatch h
  | ok a => exact hf ψ a (hr a rfl)

theorem retry {post : Phase → α → Prop} {w : WriterSettings} {purpose : Purpose}
    {attempt : Nat → Task (StoreResult α)}
    (h : ∀ n, TableMill.Obeys table index key record
      (fun ψ r => (∀ a, r = .ok a → post ψ a) ∧ ∀ e, r = .error e → ψ = φ) φ (attempt n)) :
    Writing.Obeys table index key record post φ (TableMill.retry w purpose attempt) := by
  have hfrom : ∀ left n, TableMill.Obeys table index key record
      (fun ψ r => ∀ a, r = .ok a → post ψ a) φ (retryFrom w purpose attempt left n) := by
    intro left
    induction left with
    | zero =>
      intro n
      rw [retryFrom]
      refine (h n).andThen fun ψ r hr => ?_
      cases r with
      | ok a =>
        refine .done fun b hb => ?_
        cases hb
        exact hr.1 a rfl
      | error e =>
        dsimp only
        split <;> exact .done fun _ h => nomatch h
    | succ left ih =>
      intro n
      rw [retryFrom]
      refine (h n).andThen fun ψ r hr => ?_
      cases r with
      | ok a =>
        refine .done fun b hb => ?_
        cases hb
        exact hr.1 a rfl
      | error e =>
        obtain rfl := hr.2 e rfl
        dsimp only
        split
        · exact .pause (ih _)
        · exact .done fun _ h => nomatch h
  exact hfrom _ _

end Writing.Obeys

namespace Writer

variable {index key : String} {record : Record} {rowid : Int64}

theorem freshId_obeys {table : String} :
    Writing.Obeys table index key record (fun ψ r => ψ = .ready r) .seeking freshId := by
  refine .draw fun r => .done fun a ha => ?_
  cases ha
  rfl

/-- A key is claimed, or was claimed for another row id. -/
theorem insertUnique_obeys (w : Writer) {table : String} :
    Writing.Obeys table index key record
      (fun ψ answer => answer = .inserted ∧ ψ = .holding rowid ∨
        ∃ m, answer = .present m ∧ ψ = .beaten) (.ready rowid)
      (w.insertUnique index key rowid) := by
  refine Writing.Obeys.retry fun n => .claim ?_ (fun m hm => ?_) fun e => ?_
  · refine .done ⟨fun a ha => ?_, fun e he => nomatch he⟩
    cases ha
    exact .inl ⟨rfl, rfl⟩
  · refine .done ⟨fun a ha => ?_, fun e he => nomatch he⟩
    rw [if_neg fun h => hm h.1] at ha
    cases ha
    exact .inr ⟨m, rfl, rfl⟩
  · refine .done ⟨fun a ha => (nomatch ha), fun _ _ => rfl⟩

/-- A row is stored, or its row id was taken. -/
theorem insertRow_obeys (w : Writer) :
    Writing.Obeys w.table index key record
      (fun ψ answer => answer = .inserted ∧ ψ = .stored rowid ∨
        ∃ m, answer = .present m ∧ ψ = .holding rowid) (.holding rowid)
      (w.insertRow rowid record) := by
  refine Writing.Obeys.retry fun n => .store ?_ (fun m => ?_) fun e => ?_
  · refine .done ⟨fun a ha => ?_, fun e he => nomatch he⟩
    cases ha
    exact .inl ⟨rfl, rfl⟩
  · refine .done ⟨fun a ha => ?_, fun e he => nomatch he⟩
    cases ha
    exact .inr ⟨m, rfl, rfl⟩
  · refine .done ⟨fun a ha => (nomatch ha), fun _ _ => rfl⟩

theorem release_obeys (w : Writer) {table : String} :
    Writing.Obeys table index key record (fun ψ _ => ψ = .seeking) (.holding rowid)
      (w.release index key) := by
  refine Writing.Obeys.retry fun n => .release ?_ fun e => ?_
  · exact .done ⟨fun _ _ => rfl, fun e he => nomatch he⟩
  · exact .done ⟨fun a ha => (nomatch ha), fun _ _ => rfl⟩

theorem insertShared_obeys (w : Writer) {table name k : String} {r : Int64}
    (hne : name ≠ index) :
    Writing.Obeys table index key record (fun ψ _ => ψ = .stored rowid) (.stored rowid)
      (w.insertShared name k r) := by
  refine Writing.Obeys.retry fun n => .other hne fun answer => ?_
  exact .done ⟨fun _ _ => rfl, fun _ _ => rfl⟩

theorem insertUnique_obeys_of_ne (w : Writer) {table name k : String} {r : Int64}
    (hne : name ≠ index) :
    Writing.Obeys table index key record (fun ψ _ => ψ = .stored rowid) (.stored rowid)
      (w.insertUnique name k r) := by
  refine Writing.Obeys.retry fun n => .other hne fun answer => ?_
  split <;> exact .done ⟨fun _ _ => rfl, fun _ _ => rfl⟩

theorem insertKey_obeys (w : Writer) {table name : String} (item : Item) (r : Int64)
    (unique : Bool) (hne : name ≠ index) :
    Writing.Obeys table index key record (fun ψ _ => ψ = .stored rowid) (.stored rowid)
      (w.insertKey item r name unique) := by
  have hkey : Writing.Obeys table index key record (fun ψ _ => ψ = .stored rowid)
      (.stored rowid) (keyOf item name) := by
    unfold keyOf
    split
    · exact .pure rfl
    · exact .throw _
  refine hkey.bind fun ψ k hψ => ?_
  subst hψ
  split
  · refine (w.insertUnique_obeys_of_ne hne).bind fun ψ answer hψ => ?_
    split
    · exact .throw _
    · exact .pure hψ
  · exact (w.insertShared_obeys hne).bind fun ψ _ hψ => .pure hψ

theorem insertKeys_obeys (w : Writer) {table : String} (item : Item) (r : Int64)
    {indexes : Assoc Index} (hne : ∀ e ∈ indexes, e.1 ≠ index) :
    Writing.Obeys table index key record (fun ψ _ => ψ = .stored rowid) (.stored rowid)
      (w.insertKeys item r indexes) := by
  induction indexes with
  | nil => exact .pure rfl
  | cons e rest ih =>
    obtain ⟨name, ix⟩ := e
    refine (w.insertKey_obeys item r ix.unique (hne _ List.mem_cons_self)).bind fun ψ _ hψ => ?_
    subst hψ
    exact ih fun e he => hne e (List.mem_cons_of_mem _ he)

/-- Every round starts with neither row id nor key. -/
theorem writeDistinct_obeys (w : Writer) (item : Item) (index key : String) (tries : Nat) :
    Writing.Obeys w.table index key item.record
      (fun ψ outcome => outcome = .written ∧ (∃ r, ψ = .stored r) ∨
        outcome = .skipped ∧ ψ = .beaten) .seeking
      (w.writeDistinct item index key tries) := by
  induction tries with
  | zero => exact .throw _
  | succ tries ih =>
    refine freshId_obeys.bind fun ψ r hψ => ?_
    subst hψ
    refine w.insertUnique_obeys.bind fun ψ answer hanswer => ?_
    rcases hanswer with ⟨rfl, rfl⟩ | ⟨m, rfl, rfl⟩
    · refine w.insertRow_obeys.bind fun ψ answer hanswer => ?_
      rcases hanswer with ⟨rfl, rfl⟩ | ⟨m, rfl, rfl⟩
      · have hothers : ∀ e ∈ w.indexes.filter fun e => e.1 ≠ index, e.1 ≠ index :=
          fun e he => by simpa using (List.mem_filter.1 he).2
        refine (w.insertKeys_obeys item r hothers).bind fun ψ _ hψ => ?_
        exact .pure (.inl ⟨rfl, r, hψ⟩)
      · refine w.release_obeys.bind fun ψ _ hψ => ?_
        subst hψ
        exact ih
    · exact .pure (.inr ⟨rfl, rfl⟩)

/-- What the end of a record says of its phase. -/
def Settles (index : String) (item : Item) (φ : Phase) : Outcome → Prop
  | .written => (∃ rowid, φ = .stored rowid) ∧ (Assoc.get? item.keys index).isSome
  | .skipped => φ = .beaten ∧ (Assoc.get? item.keys index).isSome
  | .failed _ => True

/-- The key of a record in an index; a record without one is not written. -/
def keyIn (index : String) (item : Item) : String :=
  (Assoc.get? item.keys index).getD ""

theorem task_obeys {w : Writer} {index : String} (hdistinct : w.distinct = some index)
    (item : Item) :
    Obeys w.table index (keyIn index item) item.record (Settles index item) .seeking
      (w.task item) := by
  have hwriting : Writing.Obeys w.table index (keyIn index item) item.record
      (fun ψ outcome => Settles index item ψ outcome) .seeking (w.writing item) := by
    unfold writing
    rw [hdistinct]
    dsimp only
    cases hkey : Assoc.get? item.keys index with
    | none =>
      have hof : keyOf item index = MonadExcept.throw (.noKey index) := by rw [keyOf, hkey]
      rw [hof]
      exact .bind (P := fun _ _ => False) (.throw _) fun _ _ h => h.elim
    | some key =>
      have hof : keyOf item index = Pure.pure key := by rw [keyOf, hkey]
      have hin : keyIn index item = key := by rw [keyIn, hkey, Option.getD_some]
      rw [hof, hin]
      refine .bind (P := fun ψ k => ψ = .seeking ∧ k = key) (.pure ⟨rfl, rfl⟩) fun ψ k h => ?_
      obtain ⟨rfl, rfl⟩ := h
      refine Obeys.mono (w.writeDistinct_obeys item index k _) fun ψ r hr outcome houtcome => ?_
      rcases hr outcome houtcome with ⟨rfl, hφ⟩ | ⟨rfl, hφ⟩
      · exact ⟨hφ, by simp [hkey]⟩
      · exact ⟨hφ, by simp [hkey]⟩
  refine Obeys.andThen hwriting fun ψ r hr => ?_
  cases r with
  | ok outcome => exact .done (hr outcome rfl)
  | error fault => exact .done trivial

end Writer
end TableMill
