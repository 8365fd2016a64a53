import TableMill.Store.Backend

/-!
# Journals

A store that writes down every call, and fails the calls that a script names by their
number. Reads and writes are counted apart, from one.
-/

namespace TableMill

/-- A write that fails. If it is applied, the change is made although the call fails. -/
structure WriteFailure where
  number : Nat
  kind : FaultKind
  applied : Bool
  deriving DecidableEq, Repr

structure ReadFailure where
  number : Nat
  kind : FaultKind
  deriving DecidableEq, Repr

inductive ReadCall
  | left (table : String) (range : TokenRange) (limit : Nat)
  | index (index : String) (keys : List String) (limit : Nat) (state : Option PageState)
  | data (table : String) (rowids : List Int64) (limit : Nat)
  deriving DecidableEq, Repr

/-- A store with a script of failures and a record of its calls, the latest first. The
first failure that a script has for a call counts. -/
structure Journal where
  store : Store
  writeFailures : List WriteFailure
  readFailures : List ReadFailure
  reads : List (ReadCall × StoreResult (List Int64))
  writes : List (WriteCall × StoreResult WriteAnswer)

namespace Journal

/-- A journal without calls. -/
def ofStore (s : Store) (writeFailures : List WriteFailure) (readFailures : List ReadFailure) :
    Journal :=
  ⟨s, writeFailures, readFailures, [], []⟩

/-- Makes a read, unless the script fails it, and writes down the row ids of the answer. -/
def read {α : Type} (call : ReadCall) (answer : StoreResult α) (ids : α → List Int64)
    (j : Journal) : StoreResult α × Journal :=
  let outcome := match j.readFailures.find? fun f => f.number == j.reads.length + 1 with
    | some f => .error ⟨f.kind, .scripted⟩
    | none => answer
  (outcome, { j with reads := (call, outcome.map ids) :: j.reads })

/-- Makes a change, unless the script fails it, and writes down the answer. -/
def write (call : WriteCall) (j : Journal) : StoreResult WriteAnswer × Journal :=
  let (answer, changed) := j.store.write call
  let (outcome, store) : StoreResult WriteAnswer × Store :=
    match j.writeFailures.find? fun f => f.number == j.writes.length + 1 with
    | some f => (.error ⟨f.kind, .scripted⟩, if f.applied then changed else j.store)
    | none => (answer, changed)
  (outcome, { j with store, writes := (call, outcome) :: j.writes })

def backend : Backend Journal where
  leftPage table range limit j :=
    j.read (.left table range limit) (j.store.leftPage table range limit)
      fun rows => rows.map Row.rowid
  indexPage index keys limit state j :=
    j.read (.index index keys limit state) (j.store.indexPage index keys limit state)
      fun page => page.1.map Entry.rowid
  dataPage table rowids limit j :=
    j.read (.data table rowids limit) (j.store.dataPage table rowids limit)
      fun rows => rows.map Row.rowid
  write := write
  listed index keys j := (j.store.listing index keys).length

end Journal
end TableMill
