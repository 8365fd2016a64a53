import TableMill.Table.Basic
import TableMill.Writer.Settings
import TableMill.Writer.Task

/-!
# Writing records

A record is stored as a row under a fresh row id, and its keys are entered into the
indexes of its table. Calls that fail for a while are made again, and a row id that is
taken is replaced by a fresh one. Where every unique key is written once, the key is
entered before the row, and a key that is there already means that the record is stored.
-/

namespace TableMill

abbrev Keys := Assoc String

structure Item where
  record : Record
  keys : Keys
  deriving DecidableEq

/-- What a call is made for. -/
inductive Purpose
  | row (table : String)
  | key (index : String)
  | release (index : String)
  deriving DecidableEq, Repr

def Purpose.failure : Purpose → String
  | row table => "cannot write to table " ++ table
  | key index => "cannot write to index " ++ index
  | release index => "cannot delete key from " ++ index

inductive WriteFault
  | storage (purpose : Purpose) (e : StoreError)
  | gaveUp (purpose : Purpose) (attempts : Nat) (e : StoreError)
  | noKey (index : String)
  | collisions (table : String) (attempts : Nat)
  | duplicateKey (key index : String) (existing attempted : Int64)
  deriving DecidableEq, Repr

def WriteFault.message : WriteFault → String
  | storage purpose e => purpose.failure ++ ": " ++ e.message
  | gaveUp purpose attempts e =>
    purpose.failure ++ ": giving up after " ++ toString attempts ++ " attempts: " ++ e.message
  | noKey index => "no key computed for index " ++ index
  | collisions table attempts =>
    "cannot insert record into table " ++ table ++ " after " ++ toString attempts
      ++ " attempts: rowid collisions"
  | duplicateKey key index existing attempted =>
    "duplicate key error: cannot insert key " ++ key ++ " into unique index " ++ index
      ++ ", it already points to rowid " ++ toString existing.toInt
      ++ ", attempted rowid " ++ toString attempted.toInt

/-- What became of a record. A record is skipped if its unique key was there already. -/
inductive Outcome
  | written
  | skipped
  | failed (fault : WriteFault)
  deriving DecidableEq, Repr

abbrev Writing := ExceptT WriteFault Task

/-- Makes a call until it succeeds, fails for good, or has failed `left + 1` more times.
The call gets the number of earlier attempts. -/
def retryFrom {α : Type} (w : WriterSettings) (purpose : Purpose)
    (attempt : Nat → Task (StoreResult α)) (left n : Nat) : Task (Except WriteFault α) :=
  (attempt n).andThen fun
    | .ok a => .done (.ok a)
    | .error e =>
      if e.kind.isTransient then
        match left with
        | 0 => .done (.error (.gaveUp purpose (n + 1) e))
        | left + 1 => .pause (w.pauseAfter e.kind n) (retryFrom w purpose attempt left (n + 1))
      else .done (.error (.storage purpose e))

/-- Makes a call up to as many times as the settings allow. -/
def retry {α : Type} (w : WriterSettings) (purpose : Purpose)
    (attempt : Nat → Task (StoreResult α)) : Writing α :=
  ExceptT.mk (retryFrom w purpose attempt (w.callAttempts - 1) 0)

/-- A writer of one table. In a table without repeated keys, `distinct` names the index
that is written first. -/
structure Writer where
  table : String
  indexes : Assoc Index
  distinct : Option String
  settings : WriterSettings

namespace Writer

def insertRow (w : Writer) (rowid : Int64) (record : Record) : Writing WriteAnswer :=
  retry w.settings (.row w.table) fun _ => Task.perform (.insertRow w.table rowid record)

/-- Inserts a key that has to be new. If a later attempt finds the key under the same row
id, an earlier one went through. -/
def insertUnique (w : Writer) (index key : String) (rowid : Int64) : Writing WriteAnswer :=
  retry w.settings (.key index) fun attempt =>
    .call (.insertKey index key rowid true) fun
      | .ok (.present existing) =>
        .done (.ok (if existing = rowid ∧ 0 < attempt then .inserted else .present existing))
      | answer => .done answer

/-- Inserts a key that may be there already. -/
def insertShared (w : Writer) (index key : String) (rowid : Int64) : Writing WriteAnswer :=
  retry w.settings (.key index) fun _ => Task.perform (.insertKey index key rowid false)

def release (w : Writer) (index key : String) : Writing WriteAnswer :=
  retry w.settings (.release index) fun _ => Task.perform (.deleteKey index key)

def keyOf (item : Item) (index : String) : Writing String :=
  match Assoc.get? item.keys index with
  | some key => pure key
  | none => throw (.noKey index)

/-- Enters the key of a record into one index. -/
def insertKey (w : Writer) (item : Item) (rowid : Int64) (name : String) (unique : Bool) :
    Writing Unit := do
  let key ← keyOf item name
  if unique then
    match ← w.insertUnique name key rowid with
    | .present existing => throw (.duplicateKey key name existing rowid)
    | _ => pure ()
  else
    let _ ← w.insertShared name key rowid

def insertKeys (w : Writer) (item : Item) (rowid : Int64) : Assoc Index → Writing Unit
  | [] => pure ()
  | (name, ix) :: rest => do
    w.insertKey item rowid name ix.unique
    w.insertKeys item rowid rest

def freshId : Writing Int64 :=
  ExceptT.mk (Task.draw fun n => .done (.ok n))

/-- Writes the row first and then all keys, under up to `tries` row ids. -/
def writeDataFirst (w : Writer) (item : Item) : Nat → Writing Outcome
  | 0 => throw (.collisions w.table w.settings.rowidAttempts)
  | tries + 1 => do
    let rowid ← freshId
    match ← w.insertRow rowid item.record with
    | .present _ => w.writeDataFirst item tries
    | _ => do
      w.insertKeys item rowid w.indexes
      pure .written

/-- Writes the unique key first, then the row and then the other keys, under up to
`tries` row ids. If the row id is taken, the key is released again. -/
def writeDistinct (w : Writer) (item : Item) (index key : String) : Nat → Writing Outcome
  | 0 => throw (.collisions w.table w.settings.rowidAttempts)
  | tries + 1 => do
    let rowid ← freshId
    match ← w.insertUnique index key rowid with
    | .present _ => pure .skipped
    | _ => match ← w.insertRow rowid item.record with
      | .present _ => do
        let _ ← w.release index key
        w.writeDistinct item index key tries
      | _ => do
        w.insertKeys item rowid (w.indexes.filter fun e => e.1 ≠ index)
        pure .written

def writing (w : Writer) (item : Item) : Writing Outcome :=
  match w.distinct with
  | none => w.writeDataFirst item w.settings.rowidAttempts
  | some index => do
    let key ← keyOf item index
    w.writeDistinct item index key w.settings.rowidAttempts

def task (w : Writer) (item : Item) : Task Outcome :=
  (w.writing item).run.andThen fun
    | .ok outcome => .done outcome
    | .error fault => .done (.failed fault)

def keys (w : Writer) (record : Record) : TableResult Keys :=
  w.indexes.mapM fun e => do
    let key ← e.2.key record
    .ok (e.1, key)

end Writer

/-- The outcomes of records, counted; only the first faults are kept. -/
structure Totals where
  written : Nat
  skipped : Nat
  faults : List WriteFault
  hidden : Nat
  deriving DecidableEq, Repr

namespace Totals

def empty : Totals := ⟨0, 0, [], 0⟩

/-- Counts an outcome, keeping up to `most` faults. -/
def add (most : Nat) (t : Totals) : Outcome → Totals
  | .written => { t with written := t.written + 1 }
  | .skipped => { t with skipped := t.skipped + 1 }
  | .failed fault =>
    if t.faults.length < most then { t with faults := t.faults ++ [fault] }
    else { t with hidden := t.hidden + 1 }

def isClean (t : Totals) : Bool :=
  t.faults.isEmpty && t.hidden == 0

def messages (t : Totals) : List String :=
  t.faults.map WriteFault.message
    ++ if t.hidden = 0 then []
      else ["too many errors in TableInserter, " ++ toString t.hidden ++ " more not shown"]

end Totals

/-- Writes records one after the other, as a single worker does. -/
def Writer.writeAll {σ : Type} (w : Writer) (b : Backend σ) :
    List Item → Totals → Task.Supply → σ → Totals × Task.Supply × σ
  | [], t, ids, s => (t, ids, s)
  | item :: rest, t, ids, s =>
    let (outcome, ids, s) := (w.task item).run b ids s
    w.writeAll b rest (t.add w.settings.reportedErrors outcome) ids s

end TableMill
