import TableMill.Table.RowPage

/-!
# Pages of slots

In memory a page is a list of slots, made once and used again for other rows. The first slots
hold the rows, and the others what they held before: dropping the rows only rewinds a counter.
-/

namespace TableMill

/-- A page as it lies in memory. -/
structure SlotPage where
  columns : Columns
  /-- The places of the columns by path. -/
  places : Assoc Nat
  slots : List (List Value)
  count : Nat
  deriving DecidableEq

namespace SlotPage

/-- A page without slots. Of two columns with one path, the later one is found by it. -/
def ofColumns (columns : Columns) : SlotPage where
  columns := columns
  places := Assoc.ofList (columns.zipIdx.map fun p => (p.1.path, p.2))
  slots := []
  count := 0

/-- The page that is seen: the rows in the slots that are in use. -/
def view (s : SlotPage) : RowPage := ⟨s.columns, s.slots.take s.count, s.slots.length⟩

def checkRow (s : SlotPage) (values : List Value) : TableResult Unit :=
  if values.length ≠ s.columns.length then
    misconfigured (.rowWidth values.length s.columns.length)
  else RowPage.checkKinds s.columns values

def row (s : SlotPage) (i : Nat) : TableResult (List Value) :=
  if i < s.count then .ok s.slots[i]! else .error (.noRow i s.count)

def place (s : SlotPage) (table name : String) : TableResult Nat :=
  match s.places.get? (table ++ "." ++ name) with
  | some n => .ok n
  | none => .error (.unknownField (table ++ "." ++ name))

def value (s : SlotPage) (i : Nat) (table name : String) : TableResult Value := do
  let values ← s.row i
  let n ← s.place table name
  .ok values[n]!

def bindRow (s : SlotPage) (i : Nat) (vars : Bindings) (table : Option String) :
    TableResult Bindings := do
  let values ← s.row i
  .ok ((s.columns.zip values).foldl
    (fun vars p => vars.bind (table.getD p.1.table) p.1.name p.2) vars)

/-- A change of a page. What it has done to the slots stays when it fails. -/
abbrev Change (α : Type) := ExceptT TableError (StateM SlotPage) α

def init (capacity : Nat) : Change Unit :=
  modify fun s =>
    { s with slots := List.replicate capacity (s.columns.map fun c => c.kind.zero), count := 0 }

def reset : Change Unit :=
  modify fun s => { s with count := 0 }

/-- Puts a row into the next slot. -/
def append (values : List Value) : Change Nat := do
  let s ← get
  liftM (s.checkRow values)
  if s.count < s.slots.length then
    set { s with slots := s.slots.set s.count values, count := s.count + 1 }
    return s.count
  else throw (.pageFull s.slots.length)

def setRow (i : Nat) (values : List Value) : Change Unit := do
  let s ← get
  let _ ← liftM (s.row i)
  liftM (s.checkRow values)
  set { s with slots := s.slots.set i values }

def setValue (i : Nat) (table name : String) (v : Value) : Change Unit := do
  let s ← get
  let values ← liftM (s.row i)
  let n ← liftM (s.place table name)
  match s.columns[n]? with
  | none => throw (.unknownField (table ++ "." ++ name))
  | some c =>
    liftM (RowPage.checkKind c v)
    set { s with slots := s.slots.set i (values.set n v) }

end SlotPage
end TableMill
