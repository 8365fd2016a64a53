import TableMill.Batch.Lookup
import TableMill.Batch.Rows

/-!
# Batches

A batch reads the left rows in a range of tokens and writes the records that its node
makes of them. What was handed to the writer is written even if the reading side fails.
-/

namespace TableMill

structure Batch (σ : Type) where
  node : Node
  writer : Writer
  reading : ReadM σ Nat

namespace Batch

variable {σ : Type}

def expectKind (n : Node) (kind : NodeKind) : BatchResult Unit :=
  if n.kind = kind then .ok () else .error (.wrongNode n.name n.kind kind)

def rowByRow (b : Backend σ) (now : DateTime) (settings : BatchSettings) (n : Node)
    (range : TokenRange) (distinct : Bool) : BatchResult (Batch σ) := do
  ofSettings settings.check
  if distinct then
    let _ ← ofTable n.output.uniqueIndex
  let columns ← ofTable n.leftColumns
  let w ← Writer.start n.output settings.writer distinct
  .ok ⟨n, w, n.scan b columns range (n.rowPage now w)⟩

def joined (b : Backend σ) (now : DateTime) (settings : BatchSettings) (n : Node)
    (range : TokenRange) : BatchResult (Batch σ) :=
  match n.lookup with
  | none => .error (.noLookup n.name)
  | some l => do
    ofSettings settings.check
    let columns ← ofTable n.leftColumns
    let w ← Writer.start n.output settings.writer false
    let j : Join := ⟨n, l, w, now⟩
    let right := Join.rightPage l settings.rowidChunk
    .ok ⟨n, w, n.scan b columns range (j.page b right settings.keyChunk)⟩

def prepare (b : Backend σ) (now : DateTime) (settings : BatchSettings) (n : Node)
    (kind : NodeKind) (range : TokenRange) : BatchResult (Batch σ) := do
  expectKind n kind
  match kind with
  | .table => rowByRow b now settings n range false
  | .distinct => rowByRow b now settings n range true
  | .lookup => joined b now settings n range

/-- Reads, writes what was handed over, and reports. An error of the reading side comes
before the errors of the writer. The records are written as by one worker, in their order. -/
def execute (batch : Batch σ) (b : Backend σ) (ids : Task.Supply) (s : σ) :
    BatchResult BatchStats × Task.Supply × σ :=
  let (outcome, r) := (batch.reading.run.run ⟨s, []⟩ : BatchResult Nat × Reading σ)
  let (totals, ids, s) := batch.writer.writeAll b r.handed .empty ids r.storage
  let result := do
    let count ← outcome
    let totals ← totals.result
    .ok ⟨count, totals.written, batch.node.reader.table, batch.node.output.name⟩
  (result, ids, s)

def run (b : Backend σ) (now : DateTime) (settings : BatchSettings) (n : Node)
    (kind : NodeKind) (range : TokenRange) (ids : Task.Supply) (s : σ) :
    BatchResult BatchStats × Task.Supply × σ :=
  match prepare b now settings n kind range with
  | .error e => (.error e, ids, s)
  | .ok batch => batch.execute b ids s

end Batch
end TableMill
