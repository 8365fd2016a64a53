import TableMill.Table.Resolve
import TableMill.Value.Record

/-!
# Row pages

A page holds rows with the same columns, up to a capacity.
-/

namespace TableMill

structure RowPage where
  columns : Columns
  rows : List (List Value)
  capacity : Nat
  deriving DecidableEq

namespace RowPage

/-- A page without room. -/
def ofColumns (columns : Columns) : RowPage := ⟨columns, [], 0⟩

/-- An empty page with room for rows. -/
def init (rs : RowPage) (capacity : Nat) : RowPage :=
  { rs with rows := [], capacity }

def reset (rs : RowPage) : RowPage :=
  { rs with rows := [] }

def rowCount (rs : RowPage) : Nat :=
  rs.rows.length

/-- The place of the last column with a path. -/
def placeOf (path : String) : Columns → Option Nat
  | [] => none
  | c :: cs => match placeOf path cs with
    | some n => some (n + 1)
    | none => if c.path = path then some 0 else none

def place? (rs : RowPage) (table name : String) : Option Nat :=
  placeOf (table ++ "." ++ name) rs.columns

def checkKind (c : Column) (v : Value) : TableResult Unit :=
  if v.kind = c.kind then .ok () else .error (.fieldKind c.path c.kind v)

def checkKinds : Columns → List Value → TableResult Unit
  | c :: cs, v :: vs => do
    checkKind c v
    checkKinds cs vs
  | _, _ => .ok ()

def checkRow (rs : RowPage) (values : List Value) : TableResult Unit :=
  if values.length ≠ rs.columns.length then
    misconfigured (.rowWidth values.length rs.columns.length)
  else checkKinds rs.columns values

def row (rs : RowPage) (i : Nat) : TableResult (List Value) :=
  match rs.rows[i]? with
  | some values => .ok values
  | none => .error (.noRow i rs.rowCount)

/-- Appends a row, if there is room. -/
def append (rs : RowPage) (values : List Value) : TableResult RowPage := do
  rs.checkRow values
  if rs.rowCount < rs.capacity then .ok { rs with rows := rs.rows ++ [values] }
  else .error (.pageFull rs.capacity)

def setRow (rs : RowPage) (i : Nat) (values : List Value) : TableResult RowPage := do
  let _ ← rs.row i
  rs.checkRow values
  .ok { rs with rows := rs.rows.set i values }

def columnAt (rs : RowPage) (table name : String) : TableResult (Nat × Column) :=
  match rs.place? table name with
  | none => .error (.unknownField (table ++ "." ++ name))
  | some n => match rs.columns[n]? with
    | none => .error (.unknownField (table ++ "." ++ name))
    | some c => .ok (n, c)

def setValue (rs : RowPage) (i : Nat) (table name : String) (v : Value) : TableResult RowPage := do
  let values ← rs.row i
  let (n, c) ← rs.columnAt table name
  checkKind c v
  .ok { rs with rows := rs.rows.set i (values.set n v) }

def value (rs : RowPage) (i : Nat) (table name : String) : TableResult Value := do
  let values ← rs.row i
  let (n, c) ← rs.columnAt table name
  .ok (values.getD n c.kind.zero)

/-- The id of a row: the value of the first column of ids. -/
def rowid (rs : RowPage) (i : Nat) : TableResult Int64 := do
  let values ← rs.row i
  match (rs.columns.zip values).find? fun p => p.1.name == rowidName with
  | none => .error (.unknownField rowidName)
  | some (_, .int n) => .ok n
  | some (_, v) => .error (.fieldKind rowidName .int v)

/-- Binds the values of a row, under their own aliases or all under one. -/
def bindRow (rs : RowPage) (i : Nat) (vars : Bindings) (table : Option String) :
    TableResult Bindings := do
  let values ← rs.row i
  .ok ((rs.columns.zip values).foldl
    (fun vars p => vars.bind (table.getD p.1.table) p.1.name p.2) vars)

/-- A row by field names. -/
def record (rs : RowPage) (i : Nat) : TableResult Record := do
  let values ← rs.row i
  .ok (Assoc.ofList ((rs.columns.zip values).map fun p => (p.1.name, p.2)))

end RowPage
end TableMill
