import TableMill.Batch.Scan
import TableMill.Store.TokenStore
import TableMill.Table.SlotPage

/-!
# Loading pages in place

In memory a scan has one page of slots, and loads every page of left rows into it in place of the
one before.
-/

namespace TableMill

/-- Values for columns, taken out of a record one after the other: a name that stands under two
aliases gives its value to the first of them. What is not there has the zero of its type. -/
def Record.takeFor (rowid : Int64) : Columns → Record → List Value
  | [], _ => []
  | c :: cs, values =>
    if c.name = rowidName then .int rowid :: takeFor rowid cs values
    else (Assoc.get? values c.name).getD c.kind.zero ::
      takeFor rowid cs (Assoc.erase values c.name)

def Row.taken (columns : Columns) (r : Row) : List Value :=
  r.values.takeFor r.rowid columns

def SlotPage.load (rows : List Row) : Change Unit :=
  rows.forM fun r => do
    let s ← get
    discard (append (r.taken s.columns))

structure LeftScan where
  table : String
  /-- The token with which the next page starts, unless no row is left. -/
  next : Option Int
  last : Int
  pageSize : Nat
  deriving DecidableEq, Repr

namespace LeftScan

def start (table : String) (range : TokenRange) (pageSize : Nat) : LeftScan :=
  ⟨table, some range.first, range.last, pageSize⟩

/-- Loads the next page in place of the rows of a page, and counts its rows. There are none when
the range is passed. -/
def loadNext (s : TokenStore) (scan : LeftScan) (page : SlotPage) :
    BatchResult Nat × LeftScan × SlotPage :=
  let empty := (SlotPage.reset.run.run page).2
  match scan.next with
  | none => (.ok 0, scan, empty)
  | some first =>
    match s.leftPage scan.table ⟨first, scan.last⟩ scan.pageSize with
    | .error e => (.error (.store e), scan, empty)
    | .ok rows =>
      let (answer, full) := (SlotPage.load rows).run.run empty
      ((ofTable answer).map fun _ => rows.length,
        { scan with next := nextToken scan.pageSize rows }, full)

end LeftScan
end TableMill
