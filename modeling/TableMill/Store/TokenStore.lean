import TableMill.Store.Basic

/-!
# Stores by token

In memory a table keeps its rows by token and id, and next to them the token of every id. A row
is read by its id through its token.
-/

namespace TableMill

structure RowPlace where
  token : Int
  rowid : Int64
  deriving DecidableEq, Repr

/-- Places are in the order of tokens, and those of one token in the order of ids. -/
def RowPlace.before (a b : RowPlace) : Bool :=
  a.token < b.token || a.token == b.token && a.rowid < b.rowid

def RowPlace.ofId (rowid : Int64) : RowPlace := ⟨tokenOf rowid, rowid⟩

/-- A table as it lies in memory. -/
structure TokenTable where
  /-- The rows by their places, in rising order. -/
  rows : List (RowPlace × Record)
  /-- The tokens by row id. -/
  tokens : List (Int64 × Int)
  collided : List Int64
  deriving DecidableEq

namespace TokenTable

def empty : TokenTable := ⟨[], [], []⟩

/-- Inserts values in the order of places, instead of the values that lie at the place. -/
def insertAt (place : RowPlace) (values : Record) :
    List (RowPlace × Record) → List (RowPlace × Record)
  | [] => [(place, values)]
  | (p, v) :: rest =>
    if place = p then (place, values) :: rest
    else if place.before p then (place, values) :: (p, v) :: rest
    else (p, v) :: insertAt place values rest

/-- Sets the token of a row id. -/
def setToken (rowid : Int64) (token : Int) (tokens : List (Int64 × Int)) : List (Int64 × Int) :=
  (rowid, token) :: tokens.filter fun e => e.1 ≠ rowid

def token? (t : TokenTable) (rowid : Int64) : Option Int :=
  t.tokens.lookup rowid

def at? (t : TokenTable) (place : RowPlace) : Option Record :=
  t.rows.lookup place

def put (t : TokenTable) (rowid : Int64) (values : Record) : TokenTable :=
  { t with
    rows := insertAt (.ofId rowid) values t.rows
    tokens := setToken rowid (tokenOf rowid) t.tokens }

def row? (t : TokenTable) (rowid : Int64) : Option Row := do
  let token ← t.token? rowid
  let values ← t.at? ⟨token, rowid⟩
  some ⟨rowid, values⟩

def isTaken (t : TokenTable) (rowid : Int64) : Bool :=
  (t.token? rowid).isSome || t.collided.contains rowid

def within (t : TokenTable) (range : TokenRange) : List Row :=
  (t.rows.filter fun e => range.first ≤ e.1.token && e.1.token ≤ range.last).map
    fun e => ⟨e.1.rowid, e.2⟩

end TokenTable

/-- A store as it lies in memory. -/
structure TokenStore where
  tables : Assoc TokenTable
  indexes : Assoc StoredIndex
  faults : Faults
  deriving DecidableEq

namespace TokenStore

def empty : TokenStore := ⟨[], [], ⟨[], [], 0⟩⟩

def createTable (s : TokenStore) (name : String) : TokenStore :=
  if s.tables.has name then s else { s with tables := s.tables.set name .empty }

def table (s : TokenStore) (name : String) : StoreResult TokenTable :=
  match s.tables.get? name with
  | some t => .ok t
  | none => .error ⟨.missing, .noTable name⟩

def putRow (s : TokenStore) (name : String) (rowid : Int64) (values : Record) : TokenStore :=
  let t := (s.tables.get? name).getD .empty
  { s with tables := s.tables.set name (t.put rowid values) }

def failRows (s : TokenStore) (kinds : List FaultKind) : TokenStore :=
  { s with faults := { s.faults with rows := s.faults.rows ++ kinds } }

def collide (s : TokenStore) (count : Nat) : TokenStore :=
  { s with faults := { s.faults with collisions := s.faults.collisions + count } }

def leftPage (s : TokenStore) (name : String) (range : TokenRange) (limit : Nat) :
    StoreResult (List Row) := do
  let t ← s.table name
  if range.last < range.first then .ok [] else .ok ((t.within range).take limit)

def dataPage (s : TokenStore) (name : String) (rowids : List Int64) (limit : Nat) :
    StoreResult (List Row) := do
  let t ← s.table name
  .ok ((rowids.filterMap t.row?).take limit)

/-- Stores a row if its id is free. -/
def insertRow (s : TokenStore) (name : String) (rowid : Int64) (record : Record) :
    StoreResult WriteAnswer × TokenStore :=
  match s.faults.rows with
  | kind :: rest => (.error ⟨kind, .injected⟩, { s with faults := { s.faults with rows := rest } })
  | [] => match s.table name with
    | .error e => (.error e, s)
    | .ok t =>
      if t.isTaken rowid then (.ok (.present rowid), s)
      else if 0 < s.faults.collisions then
        (.ok (.present rowid),
          { s with
            tables := s.tables.set name { t with collided := insertId rowid t.collided }
            faults := { s.faults with collisions := s.faults.collisions - 1 } })
      else
        (.ok .inserted, { s with tables := s.tables.set name (t.put rowid record) })

end TokenStore
end TableMill
