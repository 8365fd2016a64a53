import TableMill.Batch.Settings
import TableMill.Table.RowPage

/-!
# Reading the left rows

The left rows of a batch are read page by page in the order of their tokens. Records that
are ready are handed to the writer at once and stay handed if the batch fails later.
-/

namespace TableMill

/-- The state of the reading side: the storage, and the items handed to the writer. -/
structure Reading (σ : Type) where
  storage : σ
  handed : List Item

/-- A step of the reading side. -/
abbrev ReadM (σ : Type) (α : Type) := ExceptT BatchError (StateM (Reading σ)) α

namespace ReadM

variable {σ α : Type}

def call (f : σ → StoreResult α × σ) : ReadM σ α := do
  let r ← get
  let (answer, storage) := f r.storage
  set { r with storage }
  match answer with
  | .ok a => pure a
  | .error e => throw (.store e)

def hand (items : List Item) : ReadM σ Unit :=
  modify fun r => { r with handed := r.handed ++ items }

def peek (f : σ → α) : ReadM σ α := do
  let r ← get
  pure (f r.storage)

end ReadM

/-- The values of a stored row for columns; what is not stored has the zero of its
type. -/
def Row.valuesFor (r : Row) (columns : Columns) : List Value :=
  columns.map fun c =>
    if c.name = rowidName then .int r.rowid
    else (Assoc.get? r.values c.name).getD c.kind.zero

def RowPage.fill (page : RowPage) (rows : List Row) : TableResult RowPage :=
  rows.foldlM (fun page r => page.append (r.valuesFor page.columns)) page

/-- The columns of left rows: the row id, the reader columns that field expressions use,
and the columns that the lookup joins on. -/
def Node.leftColumns (n : Node) : TableResult Columns := do
  let used ← n.sourceColumns.resolve n.output.usedFields Columns.constantPackages
  let columns := Columns.append [.rowid readerAlias] used (some readerAlias)
  .ok (match n.lookup with
    | none => columns
    | some l => columns.append l.leftColumns none)

/-- How messages name a left row. -/
def leftContext (page : RowPage) (i : Nat) : RowContext :=
  match page.rowid i with
  | .ok rowid => .left rowid
  | .error _ => .leftPlace i

/-- The token after which the next page starts; there is none after a page that is not
full, and none after the last token. -/
def nextToken (pageSize : Nat) (rows : List Row) : Option Int :=
  if rows.length < pageSize then none
  else (rows.getLast?.map Row.token).bind fun t =>
    if t = Number.wordMax then none else some (t + 1)

def Node.leftPage {σ : Type} (n : Node) (b : Backend σ) (empty : RowPage) (range : TokenRange) :
    ReadM σ (RowPage × Option Int) := do
  let rows ← ReadM.call (b.leftPage n.reader.table range n.reader.pageSize)
  let page ← ofTable (empty.fill rows)
  pure (page, nextToken n.reader.pageSize rows)

/-- Processes all pages from a token on, and counts their rows. Every page takes at least
one token. -/
def Node.scanFrom {σ : Type} (n : Node) (b : Backend σ) (empty : RowPage) (last : Int)
    (process : RowPage → ReadM σ Unit) : Nat → Option Int → Nat → ReadM σ Nat
  | 0, _, count => pure count
  | _ + 1, none, count => pure count
  | fuel + 1, some first, count => do
    let (page, next) ← n.leftPage b empty ⟨first, last⟩
    if page.rowCount = 0 then pure count
    else
      process page
      n.scanFrom b empty last process fuel next (count + page.rowCount)

def Node.scan {σ : Type} (n : Node) (b : Backend σ) (columns : Columns) (range : TokenRange)
    (process : RowPage → ReadM σ Unit) : ReadM σ Nat :=
  n.scanFrom b ((RowPage.ofColumns columns).init n.reader.pageSize) range.last process
    ((range.last - range.first).toNat + 2) (some range.first) 0

end TableMill
