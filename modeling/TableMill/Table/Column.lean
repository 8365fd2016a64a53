import TableMill.Value.Basic

/-!
# Columns

A column is a named and typed field under a table alias. A list of columns is kept in
order, with one column for every alias and name.
-/

namespace TableMill

/-- The aliases of the rows that are read, of the rows of the looked-up table, and of
the rows that are written. -/
def readerAlias : String := "r"
def lookupAlias : String := "l"
def outputAlias : String := "w"

/-- The name of the column that holds the id of a stored row. -/
def rowidName : String := "rowid"

structure Column where
  table : String
  name : String
  kind : Kind
  deriving DecidableEq, Repr

namespace Column

def rowid (table : String) : Column := ⟨table, rowidName, .int⟩

/-- Alias and name, as expressions write them. -/
def path (c : Column) : String :=
  c.table ++ "." ++ c.name

/-- Alias, name and type. -/
def describe (c : Column) : String :=
  c.path ++ "(" ++ c.kind.name ++ ")"

def isAt (c : Column) (table name : String) : Bool :=
  c.table == table && c.name == name

end Column

abbrev Columns := List Column

namespace Columns

def at? (cs : Columns) (table name : String) : Option Column :=
  cs.find? fun c => c.isAt table name

def has (cs : Columns) (table name : String) : Bool :=
  (cs.at? table name).isSome

/-- The first column with a name, under any alias. -/
def named? (cs : Columns) (name : String) : Option Column :=
  cs.find? fun c => c.name == name

def hasAlias (cs : Columns) (table : String) : Bool :=
  cs.any fun c => c.table == table

def withAlias (cs : Columns) (table : String) : Columns :=
  cs.map fun c => { c with table := table }

def ofAlias (cs : Columns) (table : String) : Columns :=
  cs.filter fun c => c.table == table

/-- Appends a column whose alias and name are new. -/
def addNew (cs : Columns) (c : Column) : Columns :=
  if cs.has c.table c.name then cs else cs ++ [c]

/-- Appends those columns that are new, of one alias only if it is given. -/
def append (cs more : Columns) (table : Option String) : Columns :=
  (more.filter fun c => table.all (· == c.table)).foldl addNew cs

/-- Collects columns; of two with one alias and name the first counts. -/
def ofList (cs : List Column) : Columns :=
  cs.foldl addNew []

end Columns
end TableMill
