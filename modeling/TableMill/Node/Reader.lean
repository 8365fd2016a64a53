import TableMill.Store.Token
import TableMill.Table.Error
import TableMill.Json.Decode

/-!
# Readers

A reader names the table that rows are read from, the size of a page, and the number of
batches. A batch is a range of tokens.
-/

namespace TableMill

structure Reader where
  table : String
  batches : Nat
  pageSize : Nat
  deriving DecidableEq, Repr

namespace Reader

/-- A reader as it is written. -/
structure Source where
  table : String
  batches : Int
  pageSize : Int
  deriving DecidableEq, Repr

def Source.ofJson? (j : Json) : Option Source := do
  match ← j.fields? ["table", "expected_batches_total", "rowset_size"] with
  | [table, batches, pageSize] =>
    let table ← Json.required Json.text? table
    let batches ← Json.optional 0 Json.word? batches
    let pageSize ← Json.optional 0 Json.word? pageSize
    some ⟨table, batches, pageSize⟩
  | _ => none

/-- A count, where zero stands for a default. -/
def count? (default most : Nat) (n : Int) : Option Nat :=
  if n = 0 then some default
  else if 0 ≤ n ∧ n ≤ most then some n.toNat
  else none

/-- Checks a reader and reports all faults together. -/
def ofSource (s : Source) : TableResult Reader :=
  let batches := count? 1 batchesMax s.batches
  let pageSize := count? pageSizeDefault pageSizeMax s.pageSize
  do
    noErrors (
      (if s.table.isEmpty then [.config .emptyReaderTable] else [])
      ++ (if batches.isNone then [.config (.batchCount s.batches)] else [])
      ++ (if pageSize.isNone then [.config (.pageSize s.pageSize)] else []))
    .ok ⟨s.table, batches.getD 1, pageSize.getD pageSizeDefault⟩

def ofJson (j : Option Json) : TableResult Reader :=
  match j.bind Source.ofJson? with
  | some s => ofSource s
  | none => .error .malformed

end Reader

def Reader.ranges (r : Reader) : List TokenRange :=
  TokenRange.split r.batches

end TableMill
