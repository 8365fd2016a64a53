/-!
# Spans of characters as spans of bytes

A span of code points is cut into parts whose encodings have one length and vary in their
last bytes over whole blocks, so that each part is one span for each byte.
-/

namespace TableMill
namespace Pattern

def encode (n : Nat) : List Nat :=
  if n < 0x80 then [n]
  else if n < 0x800 then [0xC0 + n / 64, 0x80 + n % 64]
  else if n < 0x10000 then [0xE0 + n / 4096, 0x80 + n / 64 % 64, 0x80 + n % 64]
  else [0xF0 + n / 262144, 0x80 + n / 4096 % 64, 0x80 + n / 64 % 64, 0x80 + n % 64]

/-- Where a span over several blocks of code points is cut so that whole blocks are apart:
the last code point of the first part. -/
def cutAtBlock? (size a b : Nat) : Option Nat :=
  if a / size = b / size then none
  else if a % size ≠ 0 then some (a / size * size + (size - 1))
  else if b % size ≠ size - 1 then some (b / size * size - 1)
  else none

/-- Where a span is cut: after the last code point of some length, or at a block. -/
def cut? (a b : Nat) : Option Nat :=
  match [0x7F, 0x7FF, 0xFFFF].find? fun n => a ≤ n && n < b with
  | some n => some n
  | none =>
    if b ≤ 0x7F then none
    else [64, 4096, 262144].findSome? fun size => cutAtBlock? size a b

/-- The spans of bytes that encode a span of characters, in rising order. -/
def byteSpans (a b : Nat) : List (List (Nat × Nat)) :=
  if b < a then []
  else if _h : a ≤ 0xD7FF ∧ 0xE000 ≤ b then byteSpans a 0xD7FF ++ byteSpans 0xE000 b
  else
    match cut? a b with
    | none => [(encode a).zip (encode b)]
    | some n =>
      if _h : a ≤ n ∧ n < b then byteSpans a n ++ byteSpans (n + 1) b
      else [(encode a).zip (encode b)]
termination_by b - a

end Pattern
end TableMill
