import TableMill.Batch.Scan

/-!
# Row by row

Every left row gives one record, which is written if it meets the condition of its
table. The first row that fails ends the batch. In a table without repeated keys, a key
that was handed over within the page is not handed over again.
-/

namespace TableMill

/-- The item of a left row, if its record meets the condition. -/
def Node.rowItem (n : Node) (now : DateTime) (w : Writer) (page : RowPage) (i : Nat) :
    BatchResult (Option Item) := do
  let inRow {α : Type} : TableResult α → BatchResult α
    | .ok a => .ok a
    | .error e => .error (.row ⟨some (leftContext page i), e⟩)
  let vars ← ofTable (page.bindRow i [] none)
  let record ← inRow (n.output.record now vars)
  if ← inRow (n.output.meetsHaving now record) then
    let keys ← ofTable (w.keys record)
    .ok (some ⟨record, keys⟩)
  else .ok none

/-- The items of left rows, up to the first row that fails. `sent` are the unique keys
that were handed over. -/
def Node.rowItems (n : Node) (now : DateTime) (w : Writer) (page : RowPage) :
    List Nat → List String → List Item × BatchResult Unit
  | [], _ => ([], .ok ())
  | i :: rest, sent =>
    match n.rowItem now w page i with
    | .error e => ([], .error e)
    | .ok none => n.rowItems now w page rest sent
    | .ok (some item) =>
      match w.distinct.bind (Assoc.get? item.keys) with
      | none =>
        let (items, outcome) := n.rowItems now w page rest sent
        (item :: items, outcome)
      | some key =>
        if sent.contains key then n.rowItems now w page rest sent
        else
          let (items, outcome) := n.rowItems now w page rest (key :: sent)
          (item :: items, outcome)

def Node.rowPage {σ : Type} (n : Node) (now : DateTime) (w : Writer) (page : RowPage) :
    ReadM σ Unit := do
  let (items, outcome) := n.rowItems now w page (List.range page.rowCount) []
  ReadM.hand items
  outcome

end TableMill
