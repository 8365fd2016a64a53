import TableMill.Proofs.History
import TableMill.Writer.Basic

/-!
# Reasoning about logs

Which calls a task makes is said by what it may call after the calls that it has made, as long as
the answers are possible ones. Rules for each way to build a writing reduce this to its parts; an
answer that a task gets before it ends holds for the log it ends with, too.
-/

namespace TableMill

/-- An answer that a store can give: keys that may be there already are always inserted. -/
def Event.Possible : Event → Prop
  | ⟨.insertRow _ rowid _, .ok answer⟩ => answer = .inserted ∨ answer = .present rowid
  | ⟨.insertKey _ _ _ unique, .ok answer⟩ =>
    answer = .inserted ∨ unique = true ∧ ∃ m, answer = .present m
  | ⟨.deleteKey _ _, .ok answer⟩ => answer = .deleted
  | ⟨_, .error _⟩ => True

theorem Store.write_possible (s : Store) (c : WriteCall) : Event.Possible ⟨c, (s.write c).1⟩ := by
  cases c with
  | insertRow table rowid record =>
    simp only [write, insertRow]
    split
    · trivial
    · split
      · trivial
      · split
        · exact .inr rfl
        · split
          · exact .inr rfl
          · exact .inl rfl
  | insertKey index key rowid unique =>
    simp only [write, insertKey]
    split
    · trivial
    · split
      · trivial
      · split
        · next existing rest h =>
          cases unique with
          | true => exact .inr ⟨rfl, existing, rfl⟩
          | false => cases h
        · exact .inl rfl
  | deleteKey index key =>
    simp only [write, deleteKey]
    split
    · trivial
    · rfl

theorem Store.Replay.possible {s t : Store} {trace : List Event} (h : s.Replay trace t) :
    ∀ e ∈ trace, e.Possible := by
  induction h with
  | start => exact nofun
  | call c _ ih =>
    refine List.forall_mem_append.2 ⟨ih, List.forall_mem_singleton.2 ?_⟩
    exact Store.write_possible _ c

/-- Each call of a log was allowed after the calls before it. -/
inductive Lawful (allowed : List Event → WriteCall → Prop) : List Event → Prop
  | nil : Lawful allowed []
  | snoc {log : List Event} {e : Event} :
    Lawful allowed log → allowed log e.call → Lawful allowed (log ++ [e])

/-- After a log a task makes only calls that are allowed, and ends with what fits its log. -/
inductive Task.Logs (allowed : List Event → WriteCall → Prop) {α : Type}
    (post : List Event → α → Prop) : List Event → Task α → Prop
  | done {log a} (h : post log a) : Logs allowed post log (.done a)
  | draw {log next} (h : ∀ rowid, Logs allowed post log (next rowid)) :
    Logs allowed post log (.draw next)
  | pause {log millis next} (h : Logs allowed post log next) :
    Logs allowed post log (.pause millis next)
  | call {log c next} (hallowed : allowed log c)
    (h : ∀ answer, Event.Possible ⟨c, answer⟩ →
      Logs allowed post (log ++ [⟨c, answer⟩]) (next answer)) :
    Logs allowed post log (.call c next)

variable {allowed : List Event → WriteCall → Prop} {α β : Type} {log : List Event}

namespace Task.Logs

theorem andThen {P : List Event → α → Prop} {Q : List Event → β → Prop} {t : Task α}
    {f : α → Task β} (h : Logs allowed P log t) (hf : ∀ log a, P log a → Logs allowed Q log (f a)) :
    Logs allowed Q log (t.andThen f) := by
  induction h with
  | done h => exact hf _ _ h
  | draw _ ih => exact .draw ih
  | pause _ ih => exact .pause ih
  | call hallowed _ ih => exact .call hallowed ih

theorem mono {post post' : List Event → α → Prop} {t : Task α} (h : Logs allowed post log t)
    (hpost : ∀ log a, post log a → post' log a) : Logs allowed post' log t := by
  induction h with
  | done h => exact .done (hpost _ _ h)
  | draw _ ih => exact .draw ih
  | pause _ ih => exact .pause ih
  | call hallowed _ ih => exact .call hallowed ih

theorem grows {post : List Event → α → Prop} {t : Task α} (h : Logs allowed post log t) :
    Logs allowed (fun log' a => log <+: log' ∧ post log' a) log t := by
  suffices hfrom : ∀ {first : List Event}, first <+: log →
      Logs allowed (fun log' a => first <+: log' ∧ post log' a) log t from
    hfrom List.prefix_rfl
  induction h with
  | done h => exact fun hfirst => .done ⟨hfirst, h⟩
  | draw _ ih => exact fun hfirst => .draw fun rowid => ih rowid hfirst
  | pause _ ih => exact fun hfirst => .pause (ih hfirst)
  | call hallowed _ ih =>
    intro first hfirst
    refine .call hallowed fun answer hanswer => ih answer hanswer ?_
    exact hfirst.trans (List.prefix_append _ _)

theorem path {post : List Event → α → Prop} {t u : Task α} (h : Logs allowed post [] t)
    (hpath : t.Path log u) (hpossible : ∀ e ∈ log, e.Possible) :
    Lawful allowed log ∧ Logs allowed post log u := by
  induction hpath with
  | start => exact ⟨.nil, h⟩
  | draw rowid _ ih =>
    obtain ⟨hlawful, hlogs⟩ := ih hpossible
    cases hlogs with
    | draw hnext => exact ⟨hlawful, hnext rowid⟩
  | pause _ ih =>
    obtain ⟨hlawful, hlogs⟩ := ih hpossible
    cases hlogs with
    | pause hnext => exact ⟨hlawful, hnext⟩
  | call answer _ ih =>
    obtain ⟨hbefore, hlast⟩ := List.forall_mem_append.1 hpossible
    obtain ⟨hlawful, hlogs⟩ := ih hbefore
    cases hlogs with
    | call hallowed hnext =>
      exact ⟨.snoc hlawful hallowed, hnext answer (hlast _ List.mem_cons_self)⟩

end Task.Logs

/-- After a log a writing makes only calls that are allowed; only what it ends with on success
matters. -/
def Writing.Logs (allowed : List Event → WriteCall → Prop) (post : List Event → α → Prop)
    (log : List Event) (x : Writing α) : Prop :=
  Task.Logs allowed (fun log r => ∀ a, r = .ok a → post log a) log x.run

namespace Writing.Logs

theorem pure {post : List Event → α → Prop} {a : α} (h : post log a) :
    Writing.Logs allowed post log (Pure.pure a) := by
  refine .done fun b hb => ?_
  cases hb
  exact h

theorem throw {post : List Event → α → Prop} (fault : WriteFault) :
    Writing.Logs allowed post log (MonadExcept.throw fault) :=
  .done nofun

theorem bind {P : List Event → α → Prop} {Q : List Event → β → Prop} {x : Writing α}
    {f : α → Writing β} (h : Writing.Logs allowed P log x)
    (hf : ∀ log' a, log <+: log' → P log' a → Writing.Logs allowed Q log' (f a)) :
    Writing.Logs allowed Q log (x >>= f) := by
  refine Task.Logs.andThen h.grows fun log' r hr => ?_
  cases r with
  | error fault => exact .done nofun
  | ok a => exact hf log' a hr.1 (hr.2 a rfl)

theorem mono {post post' : List Event → α → Prop} {x : Writing α}
    (h : Writing.Logs allowed post log x)
    (hpost : ∀ log' a, log <+: log' → post log' a → post' log' a) :
    Writing.Logs allowed post' log x :=
  h.grows.mono fun log' _ hr a ha => hpost log' a hr.1 (hr.2 a ha)

theorem retry (before : List Event → Prop) {post : List Event → α → Prop} {w : WriterSettings}
    {purpose : Purpose} {attempt : Nat → Task (StoreResult α)}
    (h : ∀ n log, before log → Task.Logs allowed
      (fun log r => (∀ a, r = .ok a → post log a) ∧ ∀ e, r = .error e → before log) log (attempt n))
    (hlog : before log) : Writing.Logs allowed post log (TableMill.retry w purpose attempt) := by
  have hfrom : ∀ left n log, before log → Task.Logs allowed
      (fun log r => ∀ a, r = .ok a → post log a) log (retryFrom w purpose attempt left n) := by
    intro left
    induction left with
    | zero =>
      intro n log hlog
      rw [retryFrom]
      refine (h n log hlog).andThen fun log' r hr => ?_
      cases r with
      | ok a =>
        refine .done fun b hb => ?_
        cases hb
        exact hr.1 a rfl
      | error e =>
        dsimp only
        split <;> exact .done nofun
    | succ left ih =>
      intro n log hlog
      rw [retryFrom]
      refine (h n log hlog).andThen fun log' r hr => ?_
      cases r with
      | ok a =>
        refine .done fun b hb => ?_
        cases hb
        exact hr.1 a rfl
      | error e =>
        dsimp only
        split
        · exact .pause (ih _ _ (hr.2 e rfl))
        · exact .done nofun
  exact hfrom _ _ _ hlog

end Writing.Logs
end TableMill
