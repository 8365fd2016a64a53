import TableMill.Table.Error

/-!
# Resolving names

The selectors of an expression are looked up among known columns.
-/

namespace TableMill
namespace Columns

/-- Appends a column; a second column with its alias and name is an error. -/
def push (cs : Columns) (c : Column) : TableResult Columns :=
  if cs.has c.table c.name then misconfigured (.duplicateColumn c) else .ok (cs ++ [c])

/-- The aliases that name packages of constants. -/
def constantPackages : List String := ["time"]

/-- The columns that selectors name, in order of first use. Selectors of ignored aliases
are skipped; all unknown selectors are reported together. -/
def resolve (known : Columns) (used : List (String × String)) (ignored : List String) :
    TableResult Columns :=
  let wanted := used.filter fun p => !ignored.contains p.1
  let unknown := wanted.filter fun p => !known.has p.1 p.2
  do
    noErrors (unknown.map fun p => .unknownField (p.1 ++ "." ++ p.2))
    .ok (ofList (wanted.filterMap fun p => known.at? p.1 p.2))

end Columns
end TableMill
