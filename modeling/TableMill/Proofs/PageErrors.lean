import TableMill.Proofs.RowFailures

/-!
# The errors of a page

One error can be that of many left rows, and a row that has failed reports no more errors. Every
left row that fails is still covered: by an error of its own, of one of its pairs, or of the
filter on a right row under its key.
-/

namespace TableMill

/-- An error covers a left row if it is of the row, of a pair of it, of the filter on a right row
under its key, or of a default that cannot be read. -/
inductive Node.Covers (n : Node) (l : Lookup) (now : DateTime) (right : StoredTable)
    (ix : StoredIndex) (r : Row) : RowError → Prop
  | row (e : TableError) : Covers n l now right ix r ⟨some (.left r.rowid), e⟩
  | pair {key : String} {m : Row} (hkey : l.rowKey r = .ok key)
    (hm : m ∈ Lookup.listed right ix key) (e : TableError) :
    Covers n l now right ix r ⟨some (.pair (.left r.rowid) m.rowid), e⟩
  | filter {key : String} {m : Row} {e : TableError} (hkey : l.rowKey r = .ok key)
    (hm : m ∈ Lookup.listed right ix key) (he : l.passes now (m.bound l.rightColumns) = .error e) :
    Covers n l now right ix r ⟨some (.lookup m.rowid), e⟩
  | default {f : Field} {e : TableError} (hf : f ∈ n.output.fields)
    (he : f.defaultValue = .error e) : Covers n l now right ix r ⟨none, e⟩

namespace Join

variable {j : Join} {p : JoinPage} {covers : Nat → RowError → Prop} {contexts : List RowContext}

section Page

variable {σ : Type} {I : σ → Prop} {b : Backend σ} {s : Store} {left : String}
  {right : StoredTable} {ix : StoredIndex} {columns rightColumns : Columns} {size : Nat}
  {page : RowPage} {rows : List Row}

end Page

end Join
end TableMill
