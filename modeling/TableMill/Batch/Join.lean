import TableMill.Batch.Scan

/-!
# Joining a page of left rows

Every left row of a page is matched with the right rows that the lookup index lists under
its key. The output is one record for every pair or, if the lookup is grouped, one record
for every left row, whose aggregates take in all its right rows. A row that fails is left
out from then on, and its error is reported once the page is done.
-/

namespace TableMill

/-- The aggregations of a left row, one for every field with an aggregate, and the latest
values of the fields. -/
structure Group where
  states : List (Option Aggregation)
  values : List (Option Value)

structure LeftRow where
  context : RowContext
  vars : Bindings
  matched : Bool
  failed : Bool
  group : Option Group

structure JoinPage where
  rows : List LeftRow
  errors : List RowError

def Table.freshGroup (t : Table) : Except EvalError Group := do
  let states ← t.fields.mapM fun f => Aggregation.forExpr f.expr
  .ok ⟨states, t.fields.map fun _ => none⟩

/-- The parts of a batch that a join page needs. -/
structure Join where
  node : Node
  lookup : Lookup
  writer : Writer
  now : DateTime

namespace Join

def leftRow (j : Join) (page : RowPage) (i : Nat) : BatchResult LeftRow := do
  let vars ← ofTable (page.bindRow i [] none)
  let group ←
    if j.lookup.grouped then
      match j.node.output.freshGroup with
      | .ok g => .ok (some g)
      | .error e => .error (.eval e)
    else .ok none
  .ok ⟨leftContext page i, vars, false, false, group⟩

def start (j : Join) (page : RowPage) : BatchResult JoinPage := do
  let rows ← (List.range page.rowCount).mapM (j.leftRow page)
  .ok ⟨rows, []⟩

def fail (places : List Nat) (p : JoinPage) (e : RowError) : JoinPage :=
  { rows := places.foldl (fun rows i => rows.modify i fun r => { r with failed := true }) p.rows
    errors := p.errors ++ [e] }

def addPlace (key : String) (i : Nat) (places : Assoc (List Nat)) : Assoc (List Nat) :=
  places.set key ((places.get? key).getD [] ++ [i])

/-- The keys of the left rows in order of first use, each with the places of its rows.
Rows without a key fail. -/
def keyPlaces (j : Join) (page : RowPage) :
    List Nat → Assoc (List Nat) → JoinPage → Assoc (List Nat) × JoinPage
  | [], places, p => (places, p)
  | i :: rest, places, p =>
    match j.lookup.key page i with
    | .ok key => j.keyPlaces page rest (addPlace key i places) p
    | .error e => j.keyPlaces page rest places (fail [i] p ⟨some (leftContext page i), e⟩)

/-- The item of a finished record, if the record meets the condition of its table. -/
def item (j : Join) (context : RowContext) (record : Record) : Except RowError (Option Item) :=
  match j.node.output.meetsHaving j.now record with
  | .error e => .error ⟨some context, e⟩
  | .ok false => .ok none
  | .ok true => match j.writer.keys record with
    | .error e => .error ⟨some context, e⟩
    | .ok keys => .ok (some ⟨record, keys⟩)

def feedFields (j : Join) (vars : Bindings) :
    List Field → List (Option Aggregation) →
      TableResult (List (Option Aggregation) × List (Option Value))
  | f :: fs, s :: ss => do
    let (outcome, s) := f.calculate j.now vars s
    let v ← outcome
    let (states, values) ← feedFields j vars fs ss
    .ok (s :: states, some v :: values)
  | _, _ => .ok ([], [])

/-- Matches a left row with a right row. The result is the left row, and the item that
is ready or the error. -/
def pair (j : Join) (row : LeftRow) (right : Bindings) (rowid : Int64) :
    LeftRow × Except RowError (Option Item) :=
  if row.failed then (row, .ok none)
  else
    let row := { row with matched := true }
    let vars := Assoc.merge row.vars right
    let context := RowContext.pair row.context rowid
    match row.group with
    | some g => match j.feedFields vars j.node.output.fields g.states with
      | .ok (states, values) => ({ row with group := some ⟨states, values⟩ }, .ok none)
      | .error e => ({ row with failed := true }, .error ⟨some context, e⟩)
    | none => match j.node.output.record j.now vars with
      | .error e => ({ row with failed := true }, .error ⟨some context, e⟩)
      | .ok record => match j.item row.context record with
        | .ok item => (row, .ok item)
        | .error e => ({ row with failed := true }, .error e)

/-- Puts the outcome of a left row into the page. -/
def put (p : JoinPage) (i : Nat) (row : LeftRow) : Except RowError (Option Item) →
    JoinPage × List Item
  | .ok item => ({ p with rows := p.rows.set i row }, item.toList)
  | .error e => (⟨p.rows.set i row, p.errors ++ [e]⟩, [])

def pairAll (j : Join) (right : Bindings) (rowid : Int64) :
    List Nat → JoinPage → JoinPage × List Item
  | [], p => (p, [])
  | i :: rest, p =>
    match p.rows[i]? with
    | none => j.pairAll right rowid rest p
    | some row =>
      let (row, outcome) := j.pair row right rowid
      let (p, items) := put p i row outcome
      let (p, more) := j.pairAll right rowid rest p
      (p, items ++ more)

/-- Matches the left rows at some places with a right row that passes the filter. -/
def rightRow (j : Join) (places : List Nat) (right : Bindings) (rowid : Int64) (p : JoinPage) :
    JoinPage × List Item :=
  match j.lookup.passes j.now right with
  | .error e => (fail places p ⟨some (.lookup rowid), e⟩, [])
  | .ok false => (p, [])
  | .ok true => j.pairAll right rowid places p

/-- Matches the left rows with the right rows of a page. `keyOf` gives the key that lists
a right row, `places` the left rows of a key. -/
def rightRows (j : Join) (keyOf : List (Int64 × String)) (places : Assoc (List Nat))
    (right : RowPage) : List Nat → JoinPage → BatchResult (JoinPage × List Item)
  | [], p => .ok (p, [])
  | i :: rest, p => do
    let rowid ← ofTable (right.rowid i)
    match (List.lookup rowid keyOf).bind fun key => places.get? key with
    | none => j.rightRows keyOf places right rest p
    | some lefts =>
      let vars ← ofTable (right.bindRow i [] none)
      let (p, items) := j.rightRow lefts vars rowid p
      let (p, more) ← j.rightRows keyOf places right rest p
      .ok (p, items ++ more)

/-- The record of a left row whose right rows were taken in. -/
def groupedRecord (j : Join) (g : Group) : Except RowError Record :=
  (j.node.output.fields.zip g.values).mapM fun (f, v) =>
    match v with
    | some v => .ok (f.name, v)
    | none => match f.defaultValue with
      | .ok v => .ok (f.name, v)
      | .error e => .error ⟨none, e⟩

/-- Whether a field of a left row without right rows takes its default. -/
def takesDefault (j : Join) (f : Field) : Bool :=
  if j.lookup.grouped then f.isAggregate else f.usesAlias lookupAlias

def unmatchedRecord (j : Join) (row : LeftRow) : Except RowError Record :=
  j.node.output.fields.mapM fun f =>
    if j.takesDefault f then
      match f.defaultValue with
      | .ok v => .ok (f.name, v)
      | .error e => .error ⟨none, e⟩
    else match (f.calculate j.now row.vars none).1 with
      | .ok v => .ok (f.name, v)
      | .error e => .error ⟨some row.context, e⟩

/-- The record that a left row still has to give when all right rows are matched. -/
def lastRecord? (j : Join) (row : LeftRow) : Option (Except RowError Record) :=
  if row.failed then none
  else match row.group, row.matched, j.lookup.join with
    | some g, true, _ => some (j.groupedRecord g)
    | _, false, .left => some (j.unmatchedRecord row)
    | _, _, _ => none

/-- Gives the last records of left rows. -/
def finish (j : Join) : List LeftRow → List RowError → List Item × List RowError
  | [], errors => ([], errors)
  | row :: rest, errors =>
    match j.lastRecord? row with
    | none => j.finish rest errors
    | some outcome => match outcome.bind (j.item row.context) with
      | .error e => j.finish rest (errors ++ [e])
      | .ok item =>
        let (items, errors) := j.finish rest errors
        (item.toList ++ items, errors)

end Join
end TableMill
