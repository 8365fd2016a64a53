/-!
# Sets of characters as ranges

A character property is stored as the ranges of code points that have it. The
ranges are written as text, `41-5A 61-7A AA`, both ends in hexadecimal, and
looked up by bisection.
-/

namespace TableMill
namespace Text

def hexDigit? (c : Char) : Option Nat :=
  if '0' ≤ c ∧ c ≤ '9' then some (c.toNat - '0'.toNat)
  else if 'a' ≤ c ∧ c ≤ 'f' then some (c.toNat - 'a'.toNat + 10)
  else if 'A' ≤ c ∧ c ≤ 'F' then some (c.toNat - 'A'.toNat + 10)
  else none

/-- The number written by hexadecimal digits; other characters are passed over. -/
def hexNumber (cs : List Char) : Nat :=
  cs.foldl (fun n c => match hexDigit? c with
    | some d => 16 * n + d
    | none => n) 0

/-- The pieces of `cs` between the characters that are separators. -/
def splitChars (isSep : Char → Bool) (cs : List Char) : List (List Char) :=
  cs.foldr (fun c pieces =>
    if isSep c then [] :: pieces
    else match pieces with
      | [] => [[c]]
      | p :: rest => (c :: p) :: rest) [[]]

/-- The words of a table: its pieces between blanks and line ends. -/
def tableWords (s : String) : List (List Char) :=
  (splitChars (fun c => c == ' ' || c == '\n') s.toList).filter (· ≠ [])

/-- A set of code points: disjoint ranges in rising order, both ends included. -/
structure Ranges where
  spans : Array (Nat × Nat)
  deriving DecidableEq

namespace Ranges

def empty : Ranges := ⟨#[]⟩

def single (c : Char) : Ranges := ⟨#[(c.toNat, c.toNat)]⟩

/-- Every code point, those that are no characters among them. -/
def all : Ranges := ⟨#[(0, 0x10FFFF)]⟩

def isEmpty (r : Ranges) : Bool :=
  r.spans.isEmpty

/-- The one character of a set with no other. -/
def only? (r : Ranges) : Option Char :=
  match r.spans.toList with
  | [(a, b)] => if a = b then some (Char.ofNat a) else none
  | _ => none

def isAscii (r : Ranges) : Bool :=
  r.spans.all fun s => s.2 ≤ 0x7F

/-- Bisection between the positions `lo` and `hi`. -/
def search (spans : Array (Nat × Nat)) (n lo hi : Nat) : Bool :=
  if _h : lo < hi then
    let mid := (lo + hi) / 2
    match spans[mid]? with
    | none => false
    | some (first, last) =>
      if n < first then search spans n lo mid
      else if last < n then search spans n (mid + 1) hi
      else true
  else false
termination_by hi - lo

/-- Whether a code point lies in one of the ranges. -/
def has (r : Ranges) (n : Nat) : Bool :=
  search r.spans n 0 r.spans.size

def contains (r : Ranges) (c : Char) : Bool :=
  r.has c.toNat

/-- Reads one written range: `41-5A`, or `AA` for a single code point. -/
def readSpan (cs : List Char) : Nat × Nat :=
  match splitChars (· == '-') cs with
  | [a, b] => (hexNumber a, hexNumber b)
  | _ => (hexNumber cs, hexNumber cs)

/-- Reads ranges separated by blanks. -/
def ofText (s : String) : Ranges :=
  ⟨((tableWords s).map readSpan).toArray⟩

/-- The code points that lie in no range. -/
def complementFrom (start : Nat) : List (Nat × Nat) → List (Nat × Nat)
  | [] => if start ≤ 0x10FFFF then [(start, 0x10FFFF)] else []
  | (a, b) :: rest =>
    if start < a then (start, a - 1) :: complementFrom (b + 1) rest
    else complementFrom (max start (b + 1)) rest

def complement (r : Ranges) : Ranges :=
  ⟨(complementFrom 0 r.spans.toList).toArray⟩

/-- Joins the range `cur` with the ranges after it that overlap or touch it. -/
def joinFrom (cur : Nat × Nat) : List (Nat × Nat) → List (Nat × Nat)
  | [] => [cur]
  | next :: rest =>
    if next.1 ≤ cur.2 + 1 then joinFrom (cur.1, max cur.2 next.2) rest
    else cur :: joinFrom next rest

/-- The set given by ranges in any order. -/
def ofSpans (spans : List (Nat × Nat)) : Ranges :=
  match spans.mergeSort (fun a b => a.1 ≤ b.1) with
  | [] => ⟨#[]⟩
  | first :: rest => ⟨(joinFrom first rest).toArray⟩

def union (r s : Ranges) : Ranges :=
  ofSpans (r.spans.toList ++ s.spans.toList)

def unionAll (sets : List Ranges) : Ranges :=
  ofSpans (sets.flatMap (·.spans.toList))

def inter (r s : Ranges) : Ranges :=
  (r.complement.union s.complement).complement

/-- The first character from a code point on: D800 to DFFF are no characters. -/
def charFrom (n : Nat) : Nat :=
  if 0xD800 ≤ n ∧ n ≤ 0xDFFF then 0xE000 else n

/-- The last character up to a code point. -/
def charUpTo (n : Nat) : Nat :=
  if 0xD800 ≤ n ∧ n ≤ 0xDFFF then 0xD7FF else n

def minus (r s : Ranges) : Ranges :=
  ⟨((r.inter s.complement).spans.map fun s => (charFrom s.1, charUpTo s.2)).filter
    fun s => s.1 ≤ s.2⟩

/-- The characters outside a set. Every span ends with characters, so where two spans of
the set meet across the code points that are no characters, the ends of both come in. -/
def negate (r : Ranges) : Ranges :=
  ⟨r.complement.spans.map fun s =>
    (min (charFrom s.1) (charUpTo s.2), max (charFrom s.1) (charUpTo s.2))⟩

def symmetric (r s : Ranges) : Ranges :=
  (r.union s).minus (r.inter s)

end Ranges
end Text
end TableMill
