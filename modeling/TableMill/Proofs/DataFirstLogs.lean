import TableMill.Proofs.TaskLogs
import TableMill.Proofs.TraceEffects

/-!
# Logs of records that are written row first

A record that is written row first inserts keys only after its row, under the row id of the row. So
whatever its log, it has added at most one row, and no key for another row id.
-/

namespace TableMill

namespace Writer

/-- What a record may call: its row as long as it has none, and then its keys for the row. -/
def Allows (w : Writer) (item : Item) (log : List Event) : WriteCall → Prop
  | .insertRow table _ record =>
    table = w.table ∧ record = item.record ∧ rowsAdded w.table log = []
  | .insertKey name key rowid unique =>
    (∃ ix, (name, ix) ∈ w.indexes ∧ ix.unique = unique) ∧ Assoc.get? item.keys name = some key ∧
      rowsAdded w.table log = [⟨rowid, item.record⟩]
  | .deleteKey _ _ => False

/-- What is known of a record once it is settled. -/
def Tells (w : Writer) (item : Item) (log : List Event) : Outcome → Prop
  | .written => ∃ rowid, rowsAdded w.table log = [⟨rowid, item.record⟩] ∧
    ∀ e ∈ w.indexes, ∃ key, Assoc.get? item.keys e.1 = some key ∧ Entered log e.1 key rowid
  | .skipped => False
  | .failed _ => True

variable {w : Writer} {item : Item} {log : List Event} {rowid : Int64} {name key : String}
  {ix : Index}

theorem freshId_logs : Writing.Logs (w.Allows item) (fun log' _ => log' = log) log freshId :=
  .draw fun _ => .done fun _ _ => rfl

theorem keyOf_logs : Writing.Logs (w.Allows item)
    (fun log' key => log' = log ∧ Assoc.get? item.keys name = some key) log (keyOf item name) := by
  unfold keyOf
  split
  · next key hkey => exact .pure ⟨rfl, hkey⟩
  · exact .throw _

theorem insertRow_logs (hrow : rowsAdded w.table log = []) :
    Writing.Logs (w.Allows item)
      (fun log answer => answer = .inserted ∧ rowsAdded w.table log = [⟨rowid, item.record⟩] ∨
        answer = .present rowid ∧ rowsAdded w.table log = []) log
      (w.insertRow rowid item.record) := by
  refine Writing.Logs.retry (fun log => rowsAdded w.table log = []) ?_ hrow
  intro n log hrow
  refine .call ⟨rfl, rfl, hrow⟩ fun answer hpossible => ?_
  rcases answer with e | answer
  · have hsame : rowsAdded w.table (log ++ [⟨.insertRow w.table rowid item.record, .error e⟩]) =
        [] := by
      simp [hrow, Event.row?]
    refine .done ⟨fun a ha => ?_, fun _ _ => hsame⟩
    cases ha
  · refine .done ⟨fun a ha => ?_, fun e he => ?_⟩
    · cases ha
      have hcases : answer = .inserted ∨ answer = .present rowid := hpossible
      rcases hcases with rfl | rfl
      · exact .inl ⟨rfl, by simp [hrow, Event.row?]⟩
      · exact .inr ⟨rfl, by simp [hrow, Event.row?]⟩
    · cases he

theorem rowsAdded_insertKey (w : Writer) (name key : String) (rowid : Int64) (unique : Bool)
    (log : List Event) (answer : StoreResult WriteAnswer) :
    rowsAdded w.table (log ++ [⟨.insertKey name key rowid unique, answer⟩]) =
      rowsAdded w.table log := by
  simp [Event.row?]

theorem insertUnique_logs (hix : (name, ix) ∈ w.indexes) (hunique : ix.unique = true)
    (hkey : Assoc.get? item.keys name = some key)
    (hrow : rowsAdded w.table log = [⟨rowid, item.record⟩]) :
    Writing.Logs (w.Allows item)
      (fun log answer => rowsAdded w.table log = [⟨rowid, item.record⟩] ∧
        (Entered log name key rowid ∨ ∃ m, answer = .present m)) log
      (w.insertUnique name key rowid) := by
  refine Writing.Logs.retry (fun log => rowsAdded w.table log = [⟨rowid, item.record⟩]) ?_ hrow
  intro n log hrow
  refine .call ⟨⟨ix, hix, hunique⟩, hkey, hrow⟩ fun answer hpossible => ?_
  have hsame := (rowsAdded_insertKey w name key rowid true log answer).trans hrow
  rcases answer with e | answer
  · exact .done ⟨nofun, fun _ _ => hsame⟩
  · have hcases : answer = .inserted ∨ true = true ∧ ∃ m, answer = .present m := hpossible
    rcases hcases with rfl | ⟨-, m, rfl⟩
    · refine .done ⟨fun a ha => ⟨hsame, .inl ?_⟩, nofun⟩
      exact ⟨true, .inserted, .inl rfl, List.mem_append_right _ List.mem_cons_self⟩
    · refine .done ⟨fun a ha => ⟨hsame, ?_⟩, nofun⟩
      by_cases hown : m = rowid ∧ 0 < n
      · obtain ⟨rfl, -⟩ := hown
        exact .inl ⟨true, .present m, .inr rfl, List.mem_append_right _ List.mem_cons_self⟩
      · rw [if_neg hown] at ha
        cases ha
        exact .inr ⟨m, rfl⟩

theorem insertShared_logs (hix : (name, ix) ∈ w.indexes) (hunique : ix.unique = false)
    (hkey : Assoc.get? item.keys name = some key)
    (hrow : rowsAdded w.table log = [⟨rowid, item.record⟩]) :
    Writing.Logs (w.Allows item)
      (fun log _ => rowsAdded w.table log = [⟨rowid, item.record⟩] ∧ Entered log name key rowid) log
      (w.insertShared name key rowid) := by
  refine Writing.Logs.retry (fun log => rowsAdded w.table log = [⟨rowid, item.record⟩]) ?_ hrow
  intro n log hrow
  refine .call ⟨⟨ix, hix, hunique⟩, hkey, hrow⟩ fun answer hpossible => ?_
  have hsame := (rowsAdded_insertKey w name key rowid false log answer).trans hrow
  rcases answer with e | answer
  · exact .done ⟨nofun, fun _ _ => hsame⟩
  · obtain rfl : answer = .inserted := by simpa [Event.Possible] using hpossible
    refine .done ⟨fun a ha => ⟨hsame, ?_⟩, nofun⟩
    exact ⟨false, .inserted, .inl rfl, List.mem_append_right _ List.mem_cons_self⟩

theorem insertKey_logs (hix : (name, ix) ∈ w.indexes)
    (hrow : rowsAdded w.table log = [⟨rowid, item.record⟩]) :
    Writing.Logs (w.Allows item)
      (fun log _ => rowsAdded w.table log = [⟨rowid, item.record⟩] ∧
        ∃ key, Assoc.get? item.keys name = some key ∧ Entered log name key rowid) log
      (w.insertKey item rowid name ix.unique) := by
  unfold insertKey
  refine keyOf_logs.bind fun log' key _ hlog' => ?_
  obtain ⟨rfl, hkey⟩ := hlog'
  cases hunique : ix.unique with
  | true =>
    refine (insertUnique_logs hix hunique hkey hrow).bind fun log' answer _ hlog' => ?_
    obtain ⟨hrow', hentered⟩ := hlog'
    split
    · exact .throw _
    · next hnot =>
      have hin : Entered log' name key rowid :=
        hentered.resolve_right fun ⟨m, hm⟩ => hnot m hm
      exact .pure ⟨hrow', key, hkey, hin⟩
  | false =>
    refine (insertShared_logs hix hunique hkey hrow).bind fun log' _ _ hlog' => ?_
    exact .pure ⟨hlog'.1, key, hkey, hlog'.2⟩

theorem insertKeys_logs {indexes : Assoc Index} (hindexes : ∀ e ∈ indexes, e ∈ w.indexes)
    (hrow : rowsAdded w.table log = [⟨rowid, item.record⟩]) :
    Writing.Logs (w.Allows item)
      (fun log _ => rowsAdded w.table log = [⟨rowid, item.record⟩] ∧ ∀ e ∈ indexes,
        ∃ key, Assoc.get? item.keys e.1 = some key ∧ Entered log e.1 key rowid) log
      (w.insertKeys item rowid indexes) := by
  induction indexes generalizing log with
  | nil => exact .pure ⟨hrow, nofun⟩
  | cons e rest ih =>
    have hhead : e ∈ w.indexes := hindexes e List.mem_cons_self
    have hrest : ∀ e ∈ rest, e ∈ w.indexes := fun e he => hindexes e (List.mem_cons_of_mem _ he)
    refine (insertKey_logs hhead hrow).bind fun log' _ _ hlog' => ?_
    obtain ⟨hrow', key, hkey, hentered⟩ := hlog'
    refine (ih hrest hrow').mono fun log'' _ hgrows hlog'' => ⟨hlog''.1, ?_⟩
    intro x hx
    rcases List.mem_cons.1 hx with rfl | hx
    · exact ⟨key, hkey, hentered.mono hgrows⟩
    · exact hlog''.2 x hx

theorem writeDataFirst_logs (tries : Nat) (hrow : rowsAdded w.table log = []) :
    Writing.Logs (w.Allows item) (fun log outcome => outcome = .written ∧ w.Tells item log .written)
      log (w.writeDataFirst item tries) := by
  induction tries generalizing log with
  | zero => exact .throw _
  | succ tries ih =>
    refine freshId_logs.bind fun log' rowid _ hlog' => ?_
    subst hlog'
    refine (insertRow_logs hrow).bind fun log' answer _ hlog' => ?_
    rcases hlog' with ⟨rfl, hrow'⟩ | ⟨rfl, hrow'⟩
    · refine (insertKeys_logs (fun _ he => he) hrow').bind fun log'' _ _ hlog'' => ?_
      exact .pure ⟨rfl, rowid, hlog''⟩
    · exact ih hrow'

/-- A record that is written row first keeps to what is allowed, and tells what came of it. -/
theorem task_logs (hdata : w.distinct = none) (item : Item) :
    Task.Logs (w.Allows item) (w.Tells item) [] (w.task item) := by
  have hwriting : w.writing item = w.writeDataFirst item w.settings.rowidAttempts := by
    rw [writing, hdata]
  rw [task, hwriting]
  refine Task.Logs.andThen (writeDataFirst_logs w.settings.rowidAttempts rfl) fun log r hr => ?_
  cases r with
  | error fault => exact .done trivial
  | ok outcome =>
    obtain ⟨rfl, htells⟩ := hr outcome rfl
    exact .done htells

/-- A log of a record has added nothing, or one row and keys for it. -/
theorem added_of_lawful (h : Lawful (w.Allows item) log) :
    rowsAdded w.table log = [] ∧ entriesAdded log = [] ∨
      ∃ rowid, rowsAdded w.table log = [⟨rowid, item.record⟩] ∧
        ∀ e ∈ entriesAdded log, e.2.rowid = rowid ∧ Assoc.get? item.keys e.1 = some e.2.key := by
  induction h with
  | nil => exact .inl ⟨rfl, rfl⟩
  | @snoc log e _ hallowed ih =>
    obtain ⟨c, answer⟩ := e
    cases c with
    | insertRow table rowid record =>
      obtain ⟨rfl, rfl, hnone⟩ := hallowed
      have hnothing : entriesAdded log = [] := by
        rcases ih with ⟨-, hentries⟩ | ⟨rowid, hrow, -⟩
        · exact hentries
        · rw [hnone] at hrow
          cases hrow
      have hentries :
          entriesAdded (log ++ [⟨.insertRow w.table rowid item.record, answer⟩]) = [] := by
        simp [hnothing, Event.entry?]
      by_cases hadded : answer = .ok .inserted
      · subst hadded
        exact .inr ⟨rowid, by simp [hnone, Event.row?], by simp [hentries]⟩
      · have hrow : Event.row? w.table ⟨.insertRow w.table rowid item.record, answer⟩ = none := by
          rcases answer with e | _ | _ | _ <;> simp_all [Event.row?]
        exact .inl ⟨by simp [hnone, hrow], hentries⟩
    | insertKey name key rowid unique =>
      obtain ⟨-, hkey, hrow⟩ := hallowed
      have hsame := (rowsAdded_insertKey w name key rowid unique log answer).trans hrow
      refine .inr ⟨rowid, hsame, fun x hx => ?_⟩
      rw [entriesAdded_append, List.mem_append, entriesAdded_singleton, Option.mem_toList] at hx
      rcases hx with hx | hx
      · rcases ih with ⟨-, hentries⟩ | ⟨rowid', hrow', hkeys⟩
        · rw [hentries] at hx
          cases hx
        · rw [hrow] at hrow'
          cases hrow'
          exact hkeys x hx
      · rcases answer with e | _ | _ | _ <;> cases hx
        exact ⟨rfl, hkey⟩
    | deleteKey name key => exact hallowed.elim

def Makes (w : Writer) : WriteCall → Prop
  | .insertRow table _ _ => table = w.table
  | .insertKey name _ _ unique => ∃ ix, (name, ix) ∈ w.indexes ∧ ix.unique = unique
  | .deleteKey _ _ => False

theorem makes_of_lawful (h : Lawful (w.Allows item) log) : ∀ e ∈ log, w.Makes e.call := by
  induction h with
  | nil => exact nofun
  | @snoc log e _ hallowed ih =>
    refine List.forall_mem_append.2 ⟨ih, List.forall_mem_singleton.2 ?_⟩
    obtain ⟨c, answer⟩ := e
    cases c with
    | insertRow table rowid record => exact hallowed.1
    | insertKey name key rowid unique => exact hallowed.1
    | deleteKey name key => exact hallowed

end Writer
end TableMill
