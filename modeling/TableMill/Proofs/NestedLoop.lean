import TableMill.Batch.Join
import TableMill.Proofs.Bindings

/-!
# The nested-loop join

What a join amounts to, without pages: every left row with all the right rows that the index
lists under its key and that pass the filter, one row at a time.
-/

namespace TableMill

/-- What a row holds in a column: its stored value, or the zero of the type. -/
def Row.valueIn (r : Row) (c : Column) : Value :=
  (Assoc.get? r.values c.name).getD c.kind.zero

def Row.bound (r : Row) (columns : Columns) : Bindings :=
  columns.bindBy r.valueIn

def Columns.Hold (columns : Columns) (rows : List Row) : Prop :=
  ∀ r ∈ rows, ∀ c ∈ columns, (r.valueIn c).kind = c.kind

instance (columns : Columns) (rows : List Row) : Decidable (columns.Hold rows) :=
  inferInstanceAs (Decidable (∀ r ∈ rows, ∀ c ∈ columns, (r.valueIn c).kind = c.kind))

def StoredTable.rowsById (t : StoredTable) : List Row :=
  t.rows.mergeSort fun a b => a.rowid ≤ b.rowid

def StoredIndex.idsOf (ix : StoredIndex) (key : String) : List Int64 :=
  (Assoc.get? ix key).getD []

/-- Every row id stands under at most one key. -/
def StoredIndex.Single (ix : StoredIndex) : Prop :=
  ∀ key key' rowid, rowid ∈ ix.idsOf key → rowid ∈ ix.idsOf key' → key = key'

namespace Lookup

variable (l : Lookup) (now : DateTime)

def rowKeyRecord (r : Row) : Record :=
  (l.leftColumns.zip l.index.components).map fun p => (p.2.field, r.valueIn p.1)

def rowKey (r : Row) : TableResult String :=
  l.index.key (Assoc.ofList (l.rowKeyRecord r))

def listed (right : StoredTable) (ix : StoredIndex) (key : String) : List Row :=
  right.rowsById.filter fun r => (ix.idsOf key).contains r.rowid

def passing : List Row → TableResult (List Row)
  | [] => .ok []
  | r :: rest => do
    let passes ← l.passes now (r.bound l.rightColumns)
    let more ← passing rest
    .ok (if passes then r :: more else more)

def matching (right : StoredTable) (ix : StoredIndex) (left : Row) : TableResult (List Row) := do
  let key ← l.rowKey left
  l.passing now (listed right ix key)

end Lookup

/-- Evaluates a field on one row after the other, and keeps the last value. -/
def Field.feed (f : Field) (now : DateTime) :
    List Bindings → Option Aggregation → Option Value → TableResult (Option Value)
  | [], _, last => .ok last
  | vars :: rest, s, _ =>
    match f.calculate now vars s with
    | (.ok v, s) => f.feed now rest s (some v)
    | (.error e, _) => .error e

/-- The value of a field whose aggregation takes in all rows. -/
def Field.gather (f : Field) (now : DateTime) (rows : List Bindings) : TableResult Value :=
  match Aggregation.forExpr f.expr with
  | .error e => .error (.eval e)
  | .ok s => do
    let last ← f.feed now rows s none
    match last with
    | some v => .ok v
    | none => f.defaultValue

/-- A record as it is written: only if it meets the condition of its table, and with its keys
in all indexes. -/
def Table.item? (t : Table) (now : DateTime) (record : Record) : TableResult (Option Item) := do
  let met ← t.meetsHaving now record
  if met then
    let keys ← t.indexes.mapM fun e => do
      let key ← e.2.key record
      .ok (e.1, key)
    .ok (some ⟨record, keys⟩)
  else .ok none

namespace Node

variable (n : Node) (l : Lookup) (now : DateTime)

/-- The value of a field of a left row without matches: its default if it needs a right row. -/
def loneValue (vars : Bindings) (f : Field) : TableResult Value :=
  if if l.grouped then f.isAggregate else f.usesAlias lookupAlias then f.defaultValue
  else (f.calculate now vars none).1

def loneRecord (vars : Bindings) : TableResult Record :=
  n.output.fields.mapM fun f => do
    let v ← loneValue l now vars f
    .ok (f.name, v)

def gatheredRecord (rows : List Bindings) : TableResult Record :=
  n.output.fields.mapM fun f => do
    let v ← f.gather now rows
    .ok (f.name, v)

/-- The records of a left row and its matches. -/
def joinRecords (left : Bindings) (found : List Bindings) : TableResult (List Record) :=
  if found.isEmpty then
    match l.join with
    | .inner => .ok []
    | .left => do
      let record ← n.loneRecord l now left
      .ok [record]
  else
    let pairs := found.map fun right => Assoc.merge left right
    if l.grouped then do
      let record ← n.gatheredRecord now pairs
      .ok [record]
    else pairs.mapM (n.output.record now)

/-- What is written of one left row. -/
def joinRow (right : StoredTable) (ix : StoredIndex) (left : Row) : TableResult (List Item) := do
  let found ← l.matching now right ix left
  let records ← n.joinRecords l now (left.bound n.readerColumns)
    (found.map fun r => r.bound l.rightColumns)
  let items ← records.mapM (n.output.item? now)
  .ok (items.filterMap id)

/-- What is written of left rows. -/
def nestedLoop (right : StoredTable) (ix : StoredIndex) (left : List Row) :
    TableResult (List Item) := do
  let items ← left.mapM (n.joinRow l now right ix)
  .ok items.flatten

end Node
end TableMill
