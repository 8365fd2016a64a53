import TableMill.Batch.Join

/-!
# Reading the right rows

The keys of a page of left rows are looked up in chunks; the right rows that the index
lists under them are read in chunks too, in the order of their ids.
-/

namespace TableMill

/-- Splits a list into pieces of `n` elements; the last one may be shorter. -/
def chunks {α : Type} (n : Nat) (l : List α) : List (List α) :=
  go l.length l
where
  go : Nat → List α → List (List α)
    | 0, _ => []
    | _ + 1, [] => []
    | fuel + 1, l => l.take n :: go fuel (l.drop n)

def setKey (rowid : Int64) (key : String) : List (Int64 × String) → List (Int64 × String)
  | [] => [(rowid, key)]
  | (n, k) :: rest =>
    if rowid < n then (rowid, key) :: (n, k) :: rest
    else if rowid = n then (rowid, key) :: rest
    else (n, k) :: setKey rowid key rest

namespace Join

variable {σ : Type}

/-- Reads the index from a state on. Every page but an empty one takes an entry. -/
def listFrom (j : Join) (b : Backend σ) (keys : List String) :
    Nat → Option PageState → List (Int64 × String) → ReadM σ (List (Int64 × String))
  | 0, _, found => pure found
  | fuel + 1, state, found => do
    let (entries, next) ←
      ReadM.call (b.indexPage j.lookup.indexName keys j.lookup.indexPageSize state)
    let found := entries.foldl (fun found e => setKey e.rowid e.key found) found
    match next with
    | some state => j.listFrom b keys fuel (some state) found
    | none => pure found

/-- The ids of the right rows that the index lists under keys, each with its key. -/
def list (j : Join) (b : Backend σ) (keys : List String) : ReadM σ (List (Int64 × String)) := do
  let bound ← ReadM.peek (b.listed j.lookup.indexName keys)
  j.listFrom b keys (bound + 1) none []

def dataChunk (j : Join) (b : Backend σ) (right : RowPage) (keyOf : List (Int64 × String))
    (places : Assoc (List Nat)) (ids : List Int64) (p : JoinPage) : ReadM σ JoinPage := do
  let rows ← ReadM.call (b.dataPage j.lookup.right.name ids right.capacity)
  let page ← ofTable (right.fill (rows.mergeSort fun a b => a.rowid ≤ b.rowid))
  let (p, items) ← j.rightRows keyOf places page (List.range page.rowCount) p
  ReadM.hand items
  pure p

def keyChunk (j : Join) (b : Backend σ) (right : RowPage) (places : Assoc (List Nat))
    (keys : List String) (p : JoinPage) : ReadM σ JoinPage := do
  let keyOf ← j.list b keys
  (chunks right.capacity (keyOf.map Prod.fst)).foldlM
    (fun p ids => j.dataChunk b right keyOf places ids p) p

def page (j : Join) (b : Backend σ) (right : RowPage) (keyChunk : Nat) (left : RowPage) :
    ReadM σ Unit := do
  let p ← j.start left
  let (places, p) := j.keyPlaces left (List.range left.rowCount) [] p
  let p ← (chunks keyChunk (places.map Prod.fst)).foldlM
    (fun p keys => j.keyChunk b right places keys p) p
  let (items, errors) := j.finish p.rows p.errors
  ReadM.hand items
  if !errors.isEmpty then throw (.rows errors)

/-- An empty page of right rows, with room for one chunk of row ids. -/
def rightPage (l : Lookup) (rowidChunk : Nat) : RowPage :=
  (RowPage.ofColumns (Columns.append [.rowid lookupAlias] l.rightColumns none)).init
    (min rowidChunk l.rowPageSize)

end Join
end TableMill
