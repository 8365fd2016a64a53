import TableMill.Node.Lookup
import TableMill.Node.Reader

/-!
# Nodes

A node reads rows of a source table, computes records of an output table and may look
up rows of a third table in between. It is checked before any row is read: every
expression is evaluated once on sample values of the columns that it may use.
-/

namespace TableMill

/-- How a node makes records out of rows. -/
inductive NodeKind
  | table | distinct | lookup
  deriving DecidableEq, Repr

def NodeKind.name : NodeKind → String
  | table => "table_table"
  | distinct => "distinct_table"
  | lookup => "table_lookup_table"

structure Node where
  name : String
  kind : NodeKind
  reader : Reader
  readerColumns : Columns
  output : Table
  lookup : Option Lookup

/-- The value that stands for any value of a type while expressions are checked. -/
def Kind.sample : Kind → Value
  | int => .int 0
  | float => .float 0
  | bool => .bool false
  | text => .text "12345.67"
  | datetime => .datetime .unset
  | decimal => .decimal ⟨234⟩

@[simp] theorem Kind.kind_sample (k : Kind) : k.sample.kind = k := by
  cases k <;> rfl

def Columns.sample (cs : Columns) : Bindings :=
  cs.foldl (fun vars c => vars.bind c.table c.name c.kind.sample) []

/-- Evaluates an expression once on sample values and checks the type of its value. -/
def Expr.checkKind (e : Expr) (now : DateTime) (columns : Columns) (kind : Kind) :
    TableResult Unit :=
  match Aggregation.forExpr e with
  | .error err => .error (.eval err)
  | .ok s => match (e.evalWith now columns.sample s).1 with
    | .error err => .error (.eval err)
    | .ok v => if v.kind = kind then .ok () else misconfigured (.wrongKind kind v)

mutual

def Expr.firstAggregate? : Expr → Option Aggregate
  | .call _ name args => match Aggregate.ofName? name with
    | some f => some f
    | none => Expr.firstAggregateAmong? args
  | .unary _ e => e.firstAggregate?
  | .binary _ l r => match l.firstAggregate? with
    | some f => some f
    | none => r.firstAggregate?
  | .int _ | .float _ | .text _ | .ident _ | .selector _ _ => none

def Expr.firstAggregateAmong? : List Expr → Option Aggregate
  | [] => none
  | e :: es => match e.firstAggregate? with
    | some f => some f
    | none => Expr.firstAggregateAmong? es

end

namespace Node

/-- Whether the right rows of a left row are gathered into one record. -/
def grouped (n : Node) : Bool :=
  n.lookup.any fun l => l.grouped

/-- The columns that field expressions may use. -/
def sourceColumns (n : Node) : Columns :=
  match n.lookup with
  | none => n.readerColumns
  | some l => n.readerColumns.append l.rightColumns none

/-- The errors of an outcome, in a setting. -/
def failuresIn {α : Type} (setting : Setting) (outcome : TableResult α) : List TableError :=
  (failures outcome).map (TableError.inside setting)

def filterErrors (n : Node) (now : DateTime) : List TableError :=
  match n.lookup with
  | none => []
  | some l => match l.filter with
    | none => []
    | some e => failuresIn (.filter l.filterSource) (e.checkKind now l.rightColumns .bool)

/-- The errors of the condition on records, which distinct tables cannot have. -/
def havingErrors (n : Node) (now : DateTime) : List TableError :=
  match n.output.having with
  | none => []
  | some e =>
    (if n.kind = .distinct then [.config (.havingInDistinct n.name)] else [])
    ++ failuresIn (.havingOf n.output.havingSource)
      (e.checkKind now (n.output.columnsAs outputAlias) .bool)

/-- The errors of a field. Aggregates need a grouped lookup. -/
def fieldErrors (n : Node) (now : DateTime) (f : Field) : List TableError :=
  match if n.grouped then none else f.expr.firstAggregate? with
  | some func => [.config (.aggregateUngrouped f.source func.name)]
  | none => failuresIn (.target f.name f.source) (f.expr.checkKind now n.sourceColumns f.kind)

def errors (n : Node) (now : DateTime) : List TableError :=
  failuresIn (.node n.name) (n.output.checkUsedFields n.sourceColumns)
  ++ n.filterErrors now
  ++ n.havingErrors now
  ++ n.output.fields.flatMap (n.fieldErrors now)
  ++ if n.kind = .distinct then failures n.output.uniqueIndex else []

def check (now : DateTime) (name : String) (kind : NodeKind) (reader : Reader)
    (source output : Table) (lookup : Option Lookup) : TableResult Node :=
  if reader.table ≠ source.name then
    misconfigured (.wrongReader name reader.table source.name)
  else
    let n : Node := ⟨name, kind, reader, source.columnsAs readerAlias, output, lookup⟩
    do
      noErrors (n.errors now)
      .ok n

/-- A node that makes one record out of every row. -/
def table (now : DateTime) (name : String) (reader : Reader) (source output : Table) :
    TableResult Node :=
  check now name .table reader source output none

/-- A node that makes one record out of all rows with the same unique key. -/
def distinct (now : DateTime) (name : String) (reader : Reader) (source output : Table) :
    TableResult Node :=
  check now name .distinct reader source output none

/-- A node that looks up rows of a right table. -/
def joined (now : DateTime) (name : String) (reader : Reader) (source output : Table)
    (lookup : Lookup.Source) (right : Table) : TableResult Node := do
  let l ← Lookup.ofSource readerAlias (source.columnsAs readerAlias) right lookup
  check now name .lookup reader source output (some l)

end Node
end TableMill
