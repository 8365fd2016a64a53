import TableMill.Text.Ranges

/-!
# Maps from characters to texts

A map is written as text, `41-61 DF-73-73`: a code point and, after it, the code points
that it is mapped to. A character without an entry is mapped to itself.
-/

namespace TableMill
namespace Text

/-- A map from characters to texts: entries with rising code points. -/
structure CharMap where
  entries : Array (Nat × List Char)

namespace CharMap

/-- Bisection between the positions `lo` and `hi`. -/
def search (entries : Array (Nat × List Char)) (n lo hi : Nat) : Option (List Char) :=
  if _h : lo < hi then
    let mid := (lo + hi) / 2
    match entries[mid]? with
    | none => none
    | some (code, image) =>
      if n < code then search entries n lo mid
      else if code < n then search entries n (mid + 1) hi
      else some image
  else none
termination_by hi - lo

def image (m : CharMap) (c : Char) : List Char :=
  (search m.entries c.toNat 0 m.entries.size).getD [c]

def apply (m : CharMap) (cs : List Char) : List Char :=
  cs.flatMap m.image

def readEntry (cs : List Char) : Nat × List Char :=
  match (splitChars (· == '-') cs).map hexNumber with
  | [] => (0, [])
  | code :: image => (code, image.map Char.ofNat)

def ofText (s : String) : CharMap :=
  ⟨((tableWords s).map readEntry).toArray⟩

end CharMap
end Text
end TableMill
