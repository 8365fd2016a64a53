import TableMill.Store.Error
import TableMill.Store.Token
import TableMill.Value.Record

/-!
# The store

A store keeps the rows of its tables in the order of their tokens, and the row ids of its
indexes by key. Reads are paged. Inserts are conditional: that a row or a key is there
already is an answer, not an error. Errors and taken row ids can be injected, to be met
by the next inserts.
-/

namespace TableMill

structure Row where
  rowid : Int64
  values : Record
  deriving DecidableEq

def Row.token (r : Row) : Int :=
  tokenOf r.rowid

/-- A stored table: its rows in the order of their tokens, and the row ids that an
injected collision has taken for good. -/
structure StoredTable where
  rows : List Row
  collided : List Int64
  deriving DecidableEq

/-- The row ids of an index by key, both in rising order. -/
abbrev StoredIndex := Assoc (List Int64)

structure Entry where
  key : String
  rowid : Int64
  deriving DecidableEq, Repr

/-- The errors that the next inserts of rows and of keys meet, one each, and the number
of the next inserts of rows that find their row id taken. -/
structure Faults where
  rows : List FaultKind
  keys : List FaultKind
  collisions : Nat
  deriving DecidableEq, Repr

structure Store where
  tables : Assoc StoredTable
  indexes : Assoc StoredIndex
  faults : Faults
  deriving DecidableEq

/-- Where to go on with the pages of an index. -/
abbrev PageState := List UInt8

/-- A change of the store. A key of a unique index is only inserted if it is new. -/
inductive WriteCall
  | insertRow (table : String) (rowid : Int64) (record : Record)
  | insertKey (index key : String) (rowid : Int64) (unique : Bool)
  | deleteKey (index key : String)
  deriving DecidableEq

/-- The answer to a change. A row or a key that was there already is named by the row
id. -/
inductive WriteAnswer
  | inserted
  | present (rowid : Int64)
  | deleted
  deriving DecidableEq, Repr

abbrev StoreResult := Except StoreError

/-- Inserts a number into a rising list. -/
def insertId (n : Int64) : List Int64 → List Int64
  | [] => [n]
  | m :: rest =>
    if n < m then n :: m :: rest else if n = m then m :: rest else m :: insertId n rest

namespace StoredTable

def empty : StoredTable := ⟨[], []⟩

/-- Inserts a row in the order of tokens, in the place of a row with its id. -/
def insertRow (r : Row) : List Row → List Row
  | [] => [r]
  | q :: rest =>
    if r.rowid = q.rowid then r :: rest
    else if r.token < q.token then r :: q :: rest
    else q :: insertRow r rest

def put (t : StoredTable) (r : Row) : StoredTable :=
  { t with rows := insertRow r t.rows }

def row? (t : StoredTable) (rowid : Int64) : Option Row :=
  t.rows.find? fun r => r.rowid == rowid

/-- Whether a row id is stored or taken. -/
def isTaken (t : StoredTable) (rowid : Int64) : Bool :=
  (t.row? rowid).isSome || t.collided.contains rowid

end StoredTable

namespace Store

def empty : Store := ⟨[], [], ⟨[], [], 0⟩⟩

/-- Creates a table or an index, unless it is there. -/
def createTable (s : Store) (name : String) : Store :=
  if s.tables.has name then s else { s with tables := s.tables.set name .empty }

def createIndex (s : Store) (name : String) : Store :=
  if s.indexes.has name then s else { s with indexes := s.indexes.set name [] }

def table (s : Store) (name : String) : StoreResult StoredTable :=
  match s.tables.get? name with
  | some t => .ok t
  | none => .error ⟨.missing, .noTable name⟩

def index (s : Store) (name : String) : StoreResult StoredIndex :=
  match s.indexes.get? name with
  | some ix => .ok ix
  | none => .error ⟨.missing, .noIndex name⟩

/-- Stores a row, past all injected faults; the table is created if it is missing. -/
def putRow (s : Store) (name : String) (r : Row) : Store :=
  let t := (s.tables.get? name).getD .empty
  { s with tables := s.tables.set name (t.put r) }

def addEntry (ix : StoredIndex) (key : String) (rowid : Int64) : StoredIndex :=
  ix.setSorted key (insertId rowid ((ix.get? key).getD []))

/-- Stores an index entry, past all injected faults; the index is created if it is
missing. -/
def putKey (s : Store) (name key : String) (rowid : Int64) : Store :=
  let ix := (s.indexes.get? name).getD []
  { s with indexes := s.indexes.set name (addEntry ix key rowid) }

def failRows (s : Store) (kinds : List FaultKind) : Store :=
  { s with faults := { s.faults with rows := s.faults.rows ++ kinds } }

def failKeys (s : Store) (kinds : List FaultKind) : Store :=
  { s with faults := { s.faults with keys := s.faults.keys ++ kinds } }

def collide (s : Store) (count : Nat) : Store :=
  { s with faults := { s.faults with collisions := s.faults.collisions + count } }

/-- The row ids of a table that injected collisions have taken. -/
def collidedIds (s : Store) (name : String) : List Int64 :=
  ((s.tables.get? name).map StoredTable.collided).getD []

def rowsById (s : Store) (name : String) : List Row :=
  (((s.tables.get? name).map StoredTable.rows).getD []).mergeSort
    fun a b => a.rowid ≤ b.rowid

def entriesOf (ix : StoredIndex) (key : String) : List Entry :=
  ((ix.get? key).getD []).map (Entry.mk key)

def entries (s : Store) (name : String) : List Entry :=
  ((s.indexes.get? name).getD []).flatMap fun e => e.2.map (Entry.mk e.1)

/-- The entries of an index under several keys, in their order. -/
def listing (s : Store) (name : String) (keys : List String) : List Entry :=
  keys.flatMap (entriesOf ((s.indexes.get? name).getD []))

/-! ## Reads -/

/-- Up to `limit` rows with a token in the range, in the order of tokens. -/
def leftPage (s : Store) (name : String) (range : TokenRange) (limit : Nat) :
    StoreResult (List Row) := do
  let t ← s.table name
  .ok ((t.rows.filter fun r => range.first ≤ r.token && r.token ≤ range.last).take limit)

/-- A number in eight bytes, the lowest first, and back. Other states mean zero. -/
def encodeState (n : Nat) : PageState :=
  (List.range 8).map fun i => UInt8.ofNat (n / Nat.pow 256 i)

def decodeState (state : Option PageState) : Nat :=
  match state with
  | none => 0
  | some bytes =>
    if bytes.length = 8 then bytes.foldr (fun b n => 256 * n + b.toNat) 0 else 0

/-- Up to `limit` entries under the keys from a state on, and the state to go on with
while there are more. A page without room does not pass over the entries before the
state. -/
def indexPage (s : Store) (name : String) (keys : List String) (limit : Nat)
    (state : Option PageState) : StoreResult (List Entry × Option PageState) := do
  let _ ← s.index name
  let offset := decodeState state
  let rest := (s.listing name keys).drop (if limit = 0 then 0 else offset)
  let page := rest.take limit
  .ok (page, if (rest.drop limit).isEmpty then none else some (encodeState (offset + page.length)))

/-- Up to `limit` rows with the given ids, in their order; unknown ids are passed over. -/
def dataPage (s : Store) (name : String) (rowids : List Int64) (limit : Nat) :
    StoreResult (List Row) := do
  let t ← s.table name
  .ok ((rowids.filterMap t.row?).take limit)

/-! ## Changes -/

def insertRow (s : Store) (name : String) (rowid : Int64) (record : Record) :
    StoreResult WriteAnswer × Store :=
  match s.faults.rows with
  | kind :: rest => (.error ⟨kind, .injected⟩, { s with faults := { s.faults with rows := rest } })
  | [] => match s.table name with
    | .error e => (.error e, s)
    | .ok t =>
      if t.isTaken rowid then (.ok (.present rowid), s)
      else if 0 < s.faults.collisions then
        (.ok (.present rowid),
          { s with
            tables := s.tables.set name { t with collided := insertId rowid t.collided }
            faults := { s.faults with collisions := s.faults.collisions - 1 } })
      else (.ok .inserted, { s with tables := s.tables.set name (t.put ⟨rowid, record⟩) })

def insertKey (s : Store) (name key : String) (rowid : Int64) (unique : Bool) :
    StoreResult WriteAnswer × Store :=
  match s.faults.keys with
  | kind :: rest => (.error ⟨kind, .injected⟩, { s with faults := { s.faults with keys := rest } })
  | [] => match s.index name with
    | .error e => (.error e, s)
    | .ok ix =>
      match if unique then (ix.get? key).getD [] else [] with
      | existing :: _ => (.ok (.present existing), s)
      | [] => (.ok .inserted, { s with indexes := s.indexes.set name (addEntry ix key rowid) })

def deleteKey (s : Store) (name key : String) : StoreResult WriteAnswer × Store :=
  match s.index name with
  | .error e => (.error e, s)
  | .ok ix => (.ok .deleted, { s with indexes := s.indexes.set name (ix.erase key) })

def write (s : Store) : WriteCall → StoreResult WriteAnswer × Store
  | .insertRow table rowid record => s.insertRow table rowid record
  | .insertKey index key rowid unique => s.insertKey index key rowid unique
  | .deleteKey index key => s.deleteKey index key

end Store
end TableMill
