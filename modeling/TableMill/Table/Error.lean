import TableMill.Eval.Error
import TableMill.Table.Column

/-!
# Definition errors

Why a definition cannot be used, and why a row has no record or no key. The wording of
every cause is in `message`.
-/

namespace TableMill

/-- The limits of readers, tables and lookups that messages name. -/
def batchesMax : Nat := 1000000
def pageSizeDefault : Nat := 1000
def pageSizeMax : Nat := 100000
def nameLengthMax : Nat := 42
def textKeyLengthMin : Nat := 16
def textKeyLengthMax : Nat := 1024

inductive DefaultFault
  | int (fault : Number.IntFault)
  | float (fault : Number.FloatFault)
  | decimal
  | bool
  | datetime (layout shown : String)
  deriving DecidableEq

def DefaultFault.message (raw : String) : DefaultFault → String
  | int fault => fault.message
  | float fault => fault.message
  | decimal => Decimal.unreadable raw
  | bool => "allowed values are true,false,T,F,0,1"
  | datetime layout shown => unparsedTimeMessage layout shown

/-- Why a definition is well formed but cannot be used, or a condition has no answer. -/
inductive ConfigFault
  | duplicateColumn (c : Column)
  | rowWidth (values columns : Nat)
  | emptyReaderTable
  | batchCount (n : Int)
  | pageSize (n : Int)
  | reservedName (name start : String)
  | badName (name : String)
  | longName (name : String)
  | unparsedField (source : String) (e : EvalError)
  | unparsedHaving (source : String) (e : EvalError)
  | badIndexName (name : String)
  | badDefault (kind : Kind) (field raw : String) (fault : DefaultFault)
  | noDefault (field : String)
  | havingFailed (e : EvalError)
  | havingNotBool (got : Value)
  | noUniqueIndex (table : String)
  | manyUniqueIndexes (table : String)
  | joinType (name : String)
  | lookupSize (name : String) (n : Int) (most default : Nat)
  | unparsedFilter (source : String) (e : EvalError)
  | noIndex (index table : String)
  | joinSyntax (source : String)
  | joinAlias (table expected : String)
  | joinField (table field : String)
  | joinWidth (left : Nat) (index : String) (right : Nat)
  | joinKind (left right : Column)
  | filterFailed (e : EvalError)
  | filterNotBool (got : Value)
  | wrongReader (node table given : String)
  | wrongKind (expected : Kind) (got : Value)
  | havingInDistinct (node : String)
  | aggregateUngrouped (source func : String)
  deriving DecidableEq

def ConfigFault.message : ConfigFault → String
  | duplicateColumn c => "duplicate field " ++ c.path
  | rowWidth values columns =>
    "row has " ++ toString values ++ " values, rowset has " ++ toString columns ++ " fields"
  | emptyReaderTable => "table reader cannot reference empty table name"
  | batchCount n =>
    "table reader can accept between 1 and " ++ toString batchesMax ++ " batches, "
      ++ toString n ++ " specified"
  | pageSize n =>
    "invalid rowset size " ++ toString n
      ++ ", table reader can accept between 0 (defaults to " ++ toString pageSizeDefault
      ++ ") and " ++ toString pageSizeMax
  | reservedName name start =>
    "invalid table name [" ++ name ++ "]: names starting with " ++ start ++ " are reserved"
  | badName name =>
    "invalid table name [" ++ name
      ++ "]: only letters, digits and underscores are allowed"
  | longName name =>
    "table name [" ++ name ++ "] too long: max allowed " ++ toString nameLengthMax
  | unparsedField source e =>
    "cannot parse field expression [" ++ source ++ "]: [" ++ e.message ++ "]"
  | unparsedHaving source e =>
    "cannot parse table creator 'having' condition [" ++ source ++ "]: [" ++ e.message ++ "]"
  | badIndexName name =>
    "invalid index name [" ++ name
      ++ "]: expected idx followed by letters, digits or underscores"
  | badDefault kind field raw fault =>
    "cannot read " ++ kind.name ++ " field " ++ field ++ " from default value string '" ++ raw
      ++ "': " ++ fault.message raw
  | noDefault field => "default for unknown field " ++ field
  | havingFailed e => "cannot evaluate 'having' expression: [" ++ e.message ++ "]"
  | havingNotBool got =>
    "cannot get bool when evaluating having expression, got " ++ got.describe ++ " instead"
  | noUniqueIndex table =>
    "table " ++ table
      ++ " has no unique indexes, expected exactly one unique idx definition"
  | manyUniqueIndexes table =>
    "table " ++ table
      ++ " has more than one unique index, expected exactly one unique idx definition"
  | joinType name =>
    "invalid join type, expected inner or left, " ++ name ++ " is not supported"
  | lookupSize name n most default =>
    "cannot use " ++ name ++ " " ++ toString n ++ ", expected <= " ++ toString most
      ++ ", default " ++ toString default
  | unparsedFilter source e =>
    "cannot parse lookup filter condition [" ++ source ++ "]: " ++ e.message
  | noIndex index table => "cannot find index " ++ index ++ " in lookup table " ++ table
  | joinSyntax source =>
    "expected a comma-separated list of <table_name>.<field_name>, got [" ++ source ++ "]"
  | joinAlias table expected =>
    "source table name [" ++ table ++ "] unknown, expected [" ++ expected ++ "]"
  | joinField table field =>
    "source [" ++ table ++ "] does not produce field [" ++ field ++ "]"
  | joinWidth left index right =>
    "lookup joins on " ++ toString left ++ " fields, while referenced index " ++ index
      ++ " uses " ++ toString right ++ " fields, these lengths need to be the same"
  | joinKind left right =>
    "left-side field " ++ left.name ++ " has type " ++ left.kind.name ++ ", while index field "
      ++ right.name ++ " has type " ++ right.kind.name
  | filterFailed e => "cannot evaluate expression: [" ++ e.message ++ "]"
  | filterNotBool got =>
    "cannot evaluate lookup filter condition expression, expected bool, got "
      ++ got.describe ++ " instead"
  | wrongReader node table given =>
    "node " ++ node ++ " reads table " ++ table ++ " but was given the definition of " ++ given
  | wrongKind expected got =>
    "expected type " ++ expected.name ++ ", but got " ++ got.describe
  | havingInDistinct node =>
    "distinct_table node " ++ node ++ " cannot use a having condition"
  | aggregateUngrouped source func =>
    "cannot use agg functions in [" ++ source
      ++ "], lookup group flag is not set or no lookups used: found " ++ func ++ "()"

inductive ComponentFault
  | notAComponent
  | unknownField (field : String)
  | unknownModifier (modifier field : String)
  | badModifier (field : String)
  | lengthOfKind (field : String) (kind : Kind)
  | tooLong
  | caseOfKind (field : String) (kind : Kind)
  deriving DecidableEq

def ComponentFault.message : ComponentFault → String
  | notAComponent =>
    "invalid index component, expected 'field' or 'field(modifiers)' where 'field' is one of "
      ++ "the fields of the table"
  | unknownField field => "field " ++ field ++ " unknown"
  | unknownModifier modifier field =>
    "unknown modifier " ++ modifier ++ " for field " ++ field
      ++ ", expected ignore_case,case_sensitive,asc,desc"
  | badModifier field =>
    "invalid modifier for field " ++ field
      ++ ": expected ignore_case,case_sensitive,asc,desc or an integer"
  | lengthOfKind field kind =>
    "component length modifier is valid only for string fields, but " ++ field ++ " has type "
      ++ kind.name
  | tooLong =>
    "component length modifier for string fields cannot exceed " ++ toString textKeyLengthMax
  | caseOfKind field kind =>
    "index component for field " ++ field ++ " of type " ++ kind.name
      ++ " cannot have case sensitivity modifier, remove it from index component definition"

inductive IndexFault
  | unparsed (e : EvalError)
  | notACall
  | unknownSort (name : String)
  | noComponents
  | components (faults : List ComponentFault)
  deriving DecidableEq

def IndexFault.message : IndexFault → String
  | unparsed e => e.message
  | notACall => "expected top level unique() or non_unique() definition"
  | unknownSort name =>
    "expected top level unique() or non_unique() definition, found " ++ name
  | noComponents => "index must have at least one component"
  | components faults => String.intercalate "; " (faults.map ComponentFault.message)

inductive KeyFault
  | longInt (v : Int64)
  | notFinite (x : Float)
  | largeFloat (x : Float)
  | early (t : DateTime)
  deriving DecidableEq

def KeyFault.message : KeyFault → String
  | longInt v => toString v.toInt ++ ", int keys are limited to 18 digits"
  | notFinite x => Number.floatText x
  | largeFloat x => Number.floatText x ++ ", float keys must be below 1e33"
  | early t => t.exactText ++ ", datetime before 0001-01-01"

/-- What an error was found in. -/
inductive Setting
  | index (name : String)
  | having
  | filterColumns (source : String)
  | node (name : String)
  | filter (source : String)
  | havingOf (source : String)
  | target (field source : String)
  deriving DecidableEq

def Setting.wrap (message : String) : Setting → String
  | index name => "index " ++ name ++ ": " ++ message
  | having => "'having' condition: " ++ message
  | filterColumns source =>
    "lookup filter [" ++ source ++ "] may only use lookup table fields: " ++ message
  | node name => "node " ++ name ++ ": " ++ message
  | filter source =>
    "cannot evaluate lookup filter expression [" ++ source ++ "]: [" ++ message ++ "]"
  | havingOf source =>
    "cannot evaluate table creator 'having' expression [" ++ source ++ "]: [" ++ message ++ "]"
  | target field source =>
    "cannot evaluate table creator target field " ++ field ++ " expression [" ++ source
      ++ "]: [" ++ message ++ "]"

/-- Why a definition cannot be used, or a row has no record or no key. Independent
errors are reported together. -/
inductive TableError
  | eval (e : EvalError)
  | malformed
  | config (fault : ConfigFault)
  | index (source : String) (fault : IndexFault)
  | missingKeyField (field : String) (available : List String)
  | keyKind (got : Value) (expected : Kind)
  | noKey (fault : KeyFault)
  | pageFull (capacity : Nat)
  | noRow (row count : Nat)
  | unknownField (path : String)
  | fieldEval (field : String) (e : EvalError)
  | fieldKind (field : String) (expected : Kind) (got : Value)
  | inside (setting : Setting) (e : TableError)
  | several (errors : List TableError)

namespace TableError

mutual

def message : TableError → String
  | eval e => e.message
  | malformed => "cannot deserialize definition"
  | config fault => fault.message
  | index source fault => "cannot parse index def [" ++ source ++ "]: " ++ fault.message
  | missingKeyField field available =>
    "cannot find value for field " ++ field ++ " in [" ++ String.intercalate "," available ++ "]"
  | keyKind got expected =>
    "cannot convert value " ++ got.toText ++ " to type " ++ expected.name
  | noKey fault => "cannot build key, unsupported value " ++ fault.message
  | pageFull capacity => "rowset is full, capacity " ++ toString capacity
  | noRow row count =>
    "row " ++ toString row ++ " out of range, rowset has " ++ toString count ++ " rows"
  | unknownField path => "unknown field " ++ path
  | fieldEval field e =>
    "cannot evaluate expression for field " ++ field ++ ": [" ++ e.message ++ "]"
  | fieldKind field expected got =>
    "invalid field " ++ field ++ " type: expected type " ++ expected.name ++ ", but got "
      ++ got.describe
  | inside setting e => setting.wrap e.message
  | several errors => String.intercalate "; " (messages errors)

def messages : List TableError → List String
  | [] => []
  | e :: es => e.message :: messages es

end

end TableError

abbrev TableResult := Except TableError

def misconfigured {α : Type} (fault : ConfigFault) : TableResult α :=
  .error (.config fault)

/-- Succeeds if there is no error, else reports all. -/
def noErrors (errors : List TableError) : TableResult Unit :=
  if errors.isEmpty then .ok () else .error (.several errors)

def failures {α : Type} : TableResult α → List TableError
  | .ok _ => []
  | .error e => [e]

end TableMill
