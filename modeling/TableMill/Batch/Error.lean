import TableMill.Node.Basic
import TableMill.Writer.Basic

/-!
# Batch errors
-/

namespace TableMill

inductive RowContext
  | left (rowid : Int64)
  | leftPlace (place : Nat)
  | lookup (rowid : Int64)
  | pair (row : RowContext) (rowid : Int64)
  deriving DecidableEq, Repr

def RowContext.text : RowContext → String
  | left rowid => "left row with rowid " ++ toString rowid.toInt
  | leftPlace place => "left row " ++ toString place
  | lookup rowid => "lookup row with rowid " ++ toString rowid.toInt
  | pair row rowid => row.text ++ ", lookup rowid " ++ toString rowid.toInt

/-- An error of one row, with the row where it is known. -/
structure RowError where
  context : Option RowContext
  error : TableError

def RowError.message (e : RowError) : String :=
  match e.context with
  | none => e.error.message
  | some c => c.text ++ ": [" ++ e.error.message ++ "]"

inductive BatchError
  | table (e : TableError)
  | eval (e : EvalError)
  | store (e : StoreError)
  | settings (fault : SettingsFault)
  | wrongNode (node : String) (kind expected : NodeKind)
  | noLookup (node : String)
  | row (e : RowError)
  | rows (errors : List RowError)
  | write (totals : Totals)

def BatchError.message : BatchError → String
  | table e => e.message
  | eval e => e.message
  | store e => e.message
  | settings fault => fault.message
  | wrongNode node kind expected =>
    "node " ++ node ++ " is a " ++ kind.name ++ " node, expected " ++ expected.name
  | noLookup node => "node " ++ node ++ " has no lookup"
  | row e => e.message
  | rows errors => String.intercalate "; " (errors.map RowError.message)
  | write totals => String.intercalate "; " totals.messages

abbrev BatchResult := Except BatchError

def ofTable {α : Type} : TableResult α → BatchResult α
  | .ok a => .ok a
  | .error e => .error (.table e)

def ofSettings : Except SettingsFault Unit → BatchResult Unit
  | .ok () => .ok ()
  | .error fault => .error (.settings fault)

/-- Starts a writer of a table. If every unique key is to be written once, the table has
one unique index. -/
def Writer.start (t : Table) (settings : WriterSettings) (distinct : Bool) :
    BatchResult Writer := do
  ofSettings settings.check
  if distinct then
    let (index, _) ← ofTable t.uniqueIndex
    .ok ⟨t.name, t.indexes, some index, settings⟩
  else .ok ⟨t.name, t.indexes, none, settings⟩

/-- The totals of a writer, unless a record failed. -/
def Totals.result (t : Totals) : BatchResult Totals :=
  if t.isClean then .ok t else .error (.write t)

end TableMill
