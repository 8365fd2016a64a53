import TableMill.Expr.Parser
import TableMill.Table.Resolve

/-!
# Indexes

An index definition is written like an expression, `unique(a, b(desc, 32))`: the call
says whether keys are unique, its arguments name the fields of the key.
-/

namespace TableMill

/-- A field of an index key. Letter case and length matter for texts only. -/
structure Component where
  field : String
  kind : Kind
  descending : Bool
  ignoreCase : Bool
  length : Nat
  deriving DecidableEq, Repr

/-- The length of a text in a key if none is given. -/
def textKeyLengthDefault : Nat := 64

/-- An ascending component. -/
def Component.plain (field : String) (kind : Kind) : Component :=
  ⟨field, kind, false, false, textKeyLengthDefault⟩

structure Index where
  unique : Bool
  components : List Component
  deriving DecidableEq, Repr

namespace Index

/-- How a definition names the sort of an index. -/
def sortName (unique : Bool) : String :=
  if unique then "unique" else "non_unique"

/-- The columns of the key, in order, under a table name. -/
def columns (ix : Index) (table : String) : Columns :=
  Columns.ofList (ix.components.map fun c => ⟨table, c.field, c.kind⟩)

/-- Applies one modifier to a component. The flag says whether letter case was named. -/
def modify (c : Component) (caseNamed : Bool) : Expr → Except ComponentFault (Component × Bool)
  | .ident "asc" => .ok ({ c with descending := false }, caseNamed)
  | .ident "desc" => .ok ({ c with descending := true }, caseNamed)
  | .ident "case_sensitive" => .ok ({ c with ignoreCase := false }, true)
  | .ident "ignore_case" => .ok ({ c with ignoreCase := true }, true)
  | .ident other => .error (.unknownModifier other c.field)
  | .int n =>
    if c.kind ≠ .text then .error (.lengthOfKind c.field c.kind)
    else if (textKeyLengthMax : Int) < n.toInt then .error .tooLong
    else .ok ({ c with length := max textKeyLengthMin n.toInt.toNat }, caseNamed)
  | _ => .error (.badModifier c.field)

def modifyAll (c : Component) (caseNamed : Bool) :
    List Expr → Except ComponentFault (Component × Bool)
  | [] => .ok (c, caseNamed)
  | m :: ms => do
    let (c, caseNamed) ← modify c caseNamed m
    modifyAll c caseNamed ms

/-- A component by its field name and modifiers. -/
def component (fields : Columns) (name : String) (modifiers : List Expr) :
    Except ComponentFault Component :=
  match fields.named? name with
  | none => .error (.unknownField name)
  | some column => do
    let (c, caseNamed) ← modifyAll (.plain name column.kind) false modifiers
    if caseNamed ∧ c.kind ≠ .text then .error (.caseOfKind name c.kind) else .ok c

/-- Reads a component: a field name, alone or called with modifiers. -/
def readComponent (fields : Columns) : Expr → Except ComponentFault Component
  | .ident name => component fields name []
  | .call _ name modifiers =>
    if name.toList.contains '.' then .error .notAComponent
    else component fields name modifiers
  | _ => .error .notAComponent

def faults (outcomes : List (Except ComponentFault Component)) : List ComponentFault :=
  outcomes.filterMap fun
    | .ok _ => none
    | .error f => some f

def ofExpr (fields : Columns) : Expr → Except IndexFault Index
  | .call _ name args => do
    let unique ← match name with
      | "unique" => .ok true
      | "non_unique" => .ok false
      | other => .error (.unknownSort other)
    if args.isEmpty then .error .noComponents
    let outcomes := args.map (readComponent fields)
    if (faults outcomes).isEmpty then
      .ok ⟨unique, outcomes.filterMap Except.toOption⟩
    else .error (.components (faults outcomes))
  | _ => .error .notACall

/-- Reads an index definition; the types of its fields are looked up by name. -/
def parse (fields : Columns) (source : String) : TableResult Index :=
  match Expr.parse source with
  | .error f => .error (.index source (.unparsed (.parse f)))
  | .ok e => match ofExpr fields e with
    | .error f => .error (.index source f)
    | .ok ix => .ok ix

/-- Index names are `idx` and at least one letter, digit or underscore. -/
def isName (name : String) : Bool :=
  decide (name.utf8ByteSize ≤ nameLengthMax) &&
    match name.toList with
    | 'i' :: 'd' :: 'x' :: c :: rest => (c :: rest).all Text.isWordAscii
    | _ => false

def parseNamed (fields : Columns) (entry : String × String) : TableResult (String × Index) :=
  if isName entry.1 then
    match parse fields entry.2 with
    | .ok ix => .ok (entry.1, ix)
    | .error e => .error (.inside (.index entry.1) e)
  else misconfigured (.badIndexName entry.1)

/-- Reads the indexes of a table, by name, and reports all errors together. -/
def parseAll (fields : Columns) (sources : Assoc String) : TableResult (Assoc Index) :=
  let outcomes := sources.map (parseNamed fields)
  do
    noErrors (outcomes.flatMap failures)
    .ok (outcomes.filterMap Except.toOption)

end Index
end TableMill
