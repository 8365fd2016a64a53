import TableMill.Eval.Basic
import TableMill.Json.Decode
import TableMill.Layout.Read
import TableMill.Table.Key

/-!
# Tables

A table definition gives every field an expression that its value is computed by, a
type and a default; it can have a condition on finished records, and indexes.
-/

namespace TableMill

structure Field where
  name : String
  kind : Kind
  source : String
  expr : Expr
  default : String

namespace Field

def usedFields (f : Field) : List (String × String) :=
  f.expr.usedFields

def isAggregate (f : Field) : Bool :=
  f.expr.rootAggregate?.isSome

def usesAlias (f : Field) (table : String) : Bool :=
  f.usedFields.any fun p => p.1 == table

def checkKind (f : Field) (v : Value) : TableResult Value :=
  if v.kind = f.kind then .ok v else .error (.fieldKind f.name f.kind v)

/-- Computes the value of a field, with its aggregation if it has one. -/
def calculate (f : Field) (now : DateTime) (vars : Bindings) (s : Option Aggregation) :
    TableResult Value × Option Aggregation :=
  let (outcome, s) := f.expr.evalWith now vars s
  match outcome with
  | .error e => (.error (.fieldEval f.name e), s)
  | .ok v => (f.checkKind v, s)

/-- How default date-times are written. -/
def defaultLayout : String := "2006-01-02T15:04:05.000-07:00"

def readBool? : String → Option Bool
  | "1" | "t" | "T" | "TRUE" | "true" | "True" => some true
  | "0" | "f" | "F" | "FALSE" | "false" | "False" => some false
  | _ => none

def readDefault (kind : Kind) (raw : String) : Except DefaultFault Value :=
  match kind with
  | .int => match Number.readWord raw with
    | .ok n => .ok (.int n)
    | .error fault => .error (.int fault)
  | .float => match Number.readFloat raw with
    | .ok x => .ok (.float x)
    | .error fault => .error (.float fault)
  | .decimal => match Decimal.ofText? raw with
    | some d => .ok (.decimal d)
    | none => .error .decimal
  | .text => .ok (.text raw)
  | .bool => match readBool? raw with
    | some b => .ok (.bool b)
    | none => .error .bool
  | .datetime => match Layout.read defaultLayout raw with
    | some t => .ok (.datetime t)
    | none => .error (.datetime defaultLayout (Layout.shownValue defaultLayout raw))

/-- The value of a field where nothing was computed: its default, or the zero of its
type. -/
def defaultValue (f : Field) : TableResult Value :=
  if f.default.isEmpty then .ok f.kind.zero
  else match readDefault f.kind f.default with
    | .ok v => .ok v
    | .error fault => misconfigured (.badDefault f.kind f.name f.default fault)

end Field

/-- A table that rows are written to or read from. Fields are sorted by name. -/
structure Table where
  name : String
  havingSource : String
  having : Option Expr
  fields : List Field
  indexes : Assoc Index

namespace Table

/-- A field as it is written. -/
structure FieldSource where
  expression : String
  kind : Kind
  default : String
  deriving DecidableEq, Repr

/-- A table as it is written. -/
structure Source where
  name : String
  having : String
  fields : Assoc FieldSource
  indexes : Assoc String
  deriving DecidableEq, Repr

def FieldSource.ofJson? (j : Json) : Option FieldSource := do
  match ← j.fields? ["expression", "type", "default_value"] with
  | [expression, kind, default] =>
    let expression ← Json.required Json.text? expression
    let kind ← Json.required (fun j => j.choice?.bind Kind.ofName?) kind
    let default ← Json.optional "" Json.text? default
    some ⟨expression, kind, default⟩
  | _ => none

def Source.ofJson? (j : Json) : Option Source := do
  match ← j.fields? ["name", "having", "fields", "indexes"] with
  | [name, having, fields, indexes] =>
    let name ← Json.required Json.text? name
    let having ← Json.optional "" Json.text? having
    let fields ← Json.optional [] (Json.entries? FieldSource.ofJson?) fields
    let indexes ← Json.optional [] (Json.entries? Json.text?) indexes
    some ⟨name, having, fields, indexes⟩
  | _ => none

/-- The beginnings that table names must not have. -/
def reservedStarts : List String := ["idx", "wf", "system"]

def checkName (name : String) : TableResult Unit :=
  match reservedStarts.find? fun s => name.startsWith s with
  | some s => misconfigured (.reservedName name s)
  | none =>
    if name.isEmpty ∨ !name.toList.all Text.isWordAscii then misconfigured (.badName name)
    else if nameLengthMax < name.utf8ByteSize then misconfigured (.longName name)
    else .ok ()

/-- Reads an optional condition: blanks alone are no condition. -/
def readCondition (fault : EvalError → ConfigFault) (source : String) :
    TableResult (Option Expr) :=
  if (Text.trim source).isEmpty then .ok none
  else match Expr.parse source with
    | .ok e => .ok (some e)
    | .error f => misconfigured (fault (.parse f))

def readField (entry : String × FieldSource) : TableResult Field :=
  match Expr.parse entry.2.expression with
  | .ok e =>
    .ok ⟨entry.1, entry.2.kind, entry.2.expression, e, Text.trim entry.2.default⟩
  | .error f => misconfigured (.unparsedField entry.2.expression (.parse f))

/-- The fields as columns under an alias. -/
def columnsAs (t : Table) (table : String) : Columns :=
  Columns.ofList (t.fields.map fun f => ⟨table, f.name, f.kind⟩)

def columns (t : Table) : Columns :=
  t.columnsAs t.name

def field? (t : Table) (name : String) : Option Field :=
  t.fields.find? fun f => f.name == name

/-- The selectors of all field expressions, in order of first use. -/
def usedFields (t : Table) : List (String × String) :=
  (t.fields.flatMap Field.usedFields).foldl Expr.addNew []

def checkUsedFields (t : Table) (known : Columns) : TableResult Columns :=
  known.resolve t.usedFields Columns.constantPackages

def hasAggregates (t : Table) : Bool :=
  t.fields.any Field.isAggregate

def checkHavingFields (t : Table) : TableResult Unit :=
  match t.having with
  | none => .ok ()
  | some e =>
    match (t.columnsAs outputAlias).resolve e.usedFields Columns.constantPackages with
    | .ok _ => .ok ()
    | .error err => .error (.inside .having err)

/-- Checks a table. Faults of names and expressions come one at a time, those of
indexes together, and then those of defaults and of the condition together. -/
def ofSource (s : Source) : TableResult Table := do
  checkName s.name
  let having ← readCondition (.unparsedHaving s.having) s.having
  let fields ← s.fields.mapM readField
  let t : Table := ⟨s.name, s.having, having, fields, []⟩
  let indexes ← Index.parseAll t.columns s.indexes
  let t := { t with indexes }
  noErrors (t.fields.flatMap (fun f => failures f.defaultValue) ++ failures t.checkHavingFields)
  .ok t

def ofJson (j : Option Json) : TableResult Table :=
  match j.bind Source.ofJson? with
  | some s => ofSource s
  | none => .error .malformed

/-- Computes a record without aggregates. The errors of all fields are reported
together. -/
def record (t : Table) (now : DateTime) (vars : Bindings) : TableResult Record :=
  let outcomes := t.fields.map fun f => (f.name, (f.calculate now vars none).1)
  do
    noErrors (outcomes.flatMap fun p => failures p.2)
    .ok (outcomes.filterMap fun p => p.2.toOption.map fun v => (p.1, v))

def meetsHaving (t : Table) (now : DateTime) (r : Record) : TableResult Bool :=
  match t.having with
  | none => .ok true
  | some e => match e.eval now [(outputAlias, r)] with
    | .error err => misconfigured (.havingFailed err)
    | .ok (.bool b) => .ok b
    | .ok v => misconfigured (.havingNotBool v)

def defaultValue (t : Table) (name : String) : TableResult Value :=
  match t.field? name with
  | none => misconfigured (.noDefault name)
  | some f => f.defaultValue

/-- The one unique index that a table without repeated rows has. -/
def uniqueIndex (t : Table) : TableResult (String × Index) :=
  match t.indexes.filter fun e => e.2.unique with
  | [e] => .ok e
  | [] => misconfigured (.noUniqueIndex t.name)
  | _ => misconfigured (.manyUniqueIndexes t.name)

end Table
end TableMill
