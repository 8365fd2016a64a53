import TableMill.Table.RowPage
import TableMill.Table.Basic

/-!
# Lookups

A lookup joins every left row with the rows of another table that an index lists under
the key of the left row.
-/

namespace TableMill

inductive JoinKind
  | inner | left
  deriving DecidableEq, Repr

namespace JoinKind

def name : JoinKind → String
  | inner => "inner"
  | left => "left"

def ofName? : String → Option JoinKind
  | "inner" => some inner
  | "left" => some left
  | _ => none

end JoinKind

/-- A checked lookup. The left columns stand in the order of the index components. -/
structure Lookup where
  indexName : String
  leftColumns : Columns
  grouped : Bool
  filterSource : String
  filter : Option Expr
  join : JoinKind
  indexPageSize : Nat
  rowPageSize : Nat
  right : Table
  index : Index

namespace Lookup

/-- A lookup as it is written. -/
structure Source where
  indexName : String
  joinOn : String
  grouped : Bool
  filter : String
  join : String
  indexPageSize : Int
  rowPageSize : Int
  deriving DecidableEq, Repr

def Source.ofJson? (j : Json) : Option Source := do
  match ← j.fields? ["index_name", "join_on", "group", "filter", "join_type",
      "idx_read_batch_size", "right_lookup_read_batch_size"] with
  | [indexName, joinOn, grouped, filter, join, indexPageSize, rowPageSize] =>
    let indexName ← Json.required Json.text? indexName
    let joinOn ← Json.required Json.text? joinOn
    let grouped ← Json.optional false Json.bool? grouped
    let filter ← Json.optional "" Json.text? filter
    let join ← Json.required Json.text? join
    let indexPageSize ← Json.optional 0 Json.word? indexPageSize
    let rowPageSize ← Json.optional 0 Json.word? rowPageSize
    some ⟨indexName, joinOn, grouped, filter, join, indexPageSize, rowPageSize⟩
  | _ => none

/-- The page size where none is given, and the greatest one. -/
def sizeDefault : Nat := 3000
def sizeMax : Nat := 5000

/-- Checks a page size; what is not positive stands for the default. -/
def checkSize (name : String) (n : Int) : TableResult Nat :=
  if n ≤ 0 then .ok sizeDefault
  else if n ≤ sizeMax then .ok n.toNat
  else misconfigured (.lookupSize name n sizeMax sizeDefault)

/-- The text before the first occurrence of a character and the text after it. -/
def splitAt? (mark : Char) (cs : List Char) : Option (List Char × List Char) :=
  match cs.dropWhile (· ≠ mark) with
  | [] => none
  | _ :: rest => some (cs.takeWhile (· ≠ mark), rest)

/-- The left column that one part of a join list names. -/
def joinColumn (source leftTable : String) (left : Columns) (part : List Char) :
    TableResult Column :=
  match splitAt? '.' (Text.trimBlanks part) with
  | none => misconfigured (.joinSyntax source)
  | some (table, name) =>
    if name.contains '.' then misconfigured (.joinSyntax source)
    else
      let table := String.ofList (Text.trimBlanks table)
      let name := String.ofList (Text.trimBlanks name)
      if table ≠ leftTable then misconfigured (.joinAlias table leftTable)
      else match left.at? table name with
        | none => misconfigured (.joinField table name)
        | some c => .ok c

/-- The left columns that a join list names, separated by commas. -/
def joinColumns (source leftTable : String) (left : Columns) : TableResult Columns :=
  (Text.splitChars (· == ',') source.toList).foldlM (fun cs part => do
    let c ← joinColumn source leftTable left part
    cs.push c) []

def checkKinds : Columns → Columns → TableResult Unit
  | l :: ls, r :: rs =>
    if l.kind = r.kind then checkKinds ls rs else misconfigured (.joinKind l r)
  | _, _ => .ok ()

/-- Reads the filter, which may only use columns of the right table. -/
def readFilter (source : String) (right : Table) : TableResult (Option Expr) := do
  match ← Table.readCondition (.unparsedFilter source) source with
  | none => .ok none
  | some e =>
    match (right.columnsAs lookupAlias).resolve e.usedFields Columns.constantPackages with
    | .ok _ => .ok (some e)
    | .error err => .error (.inside (.filterColumns source) err)

/-- Checks a lookup from the left columns under an alias into a right table. -/
def ofSource (leftTable : String) (left : Columns) (right : Table) (s : Source) :
    TableResult Lookup := do
  let join ← match JoinKind.ofName? s.join with
    | some k => .ok k
    | none => misconfigured (.joinType s.join)
  let indexPageSize ← checkSize "idx_read_batch_size" s.indexPageSize
  let rowPageSize ← checkSize "right_lookup_read_batch_size" s.rowPageSize
  let filter ← readFilter s.filter right
  let index ← match Assoc.get? right.indexes s.indexName with
    | some ix => .ok ix
    | none => misconfigured (.noIndex s.indexName right.name)
  let leftColumns ← joinColumns s.joinOn leftTable left
  let keyColumns := index.columns right.name
  if keyColumns.length ≠ leftColumns.length then
    misconfigured (.joinWidth leftColumns.length s.indexName keyColumns.length)
  checkKinds leftColumns keyColumns
  .ok ⟨s.indexName, leftColumns, s.grouped, s.filter, filter, join, indexPageSize, rowPageSize,
    right, index⟩

def ofJson (leftTable : String) (left : Columns) (right : Table) (j : Option Json) :
    TableResult Lookup :=
  match j.bind Source.ofJson? with
  | some s => ofSource leftTable left right s
  | none => .error .malformed

/-- The columns of the right table under the lookup alias. -/
def rightColumns (l : Lookup) : Columns :=
  l.right.columnsAs lookupAlias

def passes (l : Lookup) (now : DateTime) (vars : Bindings) : TableResult Bool :=
  match l.filter with
  | none => .ok true
  | some e => match e.eval now vars with
    | .error err => misconfigured (.filterFailed err)
    | .ok (.bool b) => .ok b
    | .ok v => misconfigured (.filterNotBool v)

/-- The values of a left row under the names of the index components. -/
def keyRecord (left : RowPage) (i : Nat) : Columns → List Component → TableResult Record
  | l :: ls, c :: cs => do
    let v ← left.value i l.table l.name
    let rest ← keyRecord left i ls cs
    .ok ((c.field, v) :: rest)
  | _, _ => .ok []

/-- The key of a left row. Left columns belong to index components by position. -/
def key (l : Lookup) (left : RowPage) (i : Nat) : TableResult String := do
  let row ← keyRecord left i l.leftColumns l.index.components
  l.index.key (Assoc.ofList row)

end Lookup
end TableMill
