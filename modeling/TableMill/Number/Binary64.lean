import TableMill.Number.Word

/-!
# Floating-point numbers as exact numbers

A finite number is `mantissa · 2 ^ exponent` with a sign. The functions that print
and cut floating-point numbers work on this exact reading.
-/

namespace TableMill
namespace Number

/-- What the bits of a floating-point number stand for. -/
inductive Reading
  | nan
  | infinite (negative : Bool)
  | finite (negative : Bool) (mantissa : Nat) (exponent : Int)
  deriving DecidableEq, Repr

/-- The leading bit of a mantissa, which is not stored. -/
def hiddenBit : Nat := 0x10000000000000

/-- The exact reading of a floating-point number. -/
def reading (x : Float) : Reading :=
  let bits := x.toBits.toNat
  let negative := 0x8000000000000000 ≤ bits
  let biased : Nat := bits / hiddenBit % 2048
  let fraction := bits % hiddenBit
  if biased = 2047 then
    if fraction = 0 then .infinite negative else .nan
  else if biased = 0 then .finite negative fraction (-1074)
  else .finite negative (hiddenBit + fraction) ((biased : Int) - 1075)

def infinity : Float := Float.ofBits 0x7FF0000000000000

def notANumber : Float := Float.ofBits 0x7FF8000000000000

def greatestFinite : Float := Float.ofBits 0x7FEFFFFFFFFFFFFF

/-- Numerator and denominator of `m · 2 ^ q`. -/
def ratio (m : Nat) (q : Int) : Nat × Nat :=
  if 0 ≤ q then (m * Nat.pow 2 q.toNat, 1) else (m, Nat.pow 2 (-q).toNat)

/-- The integer part, cut toward zero and held within the 64-bit words; zero for a
number that is none. -/
def truncate (x : Float) : Int64 :=
  match reading x with
  | .nan => 0
  | .infinite negative => if negative then Int64.minValue else Int64.maxValue
  | .finite negative m q =>
    let (n, d) := ratio m q
    let whole := n / d
    if negative then
      if wordMax < whole then Int64.minValue else Int64.ofInt (-(whole : Int))
    else
      if wordMax < whole then Int64.maxValue else Int64.ofNat whole

/-- The nearest floating-point number to a word. -/
def ofWord (w : Int64) : Float :=
  Float.ofInt w.toInt

/-- The nearest floating-point number to a count. -/
def ofNat (n : Nat) : Float :=
  Float.ofNat n

def isFinite (x : Float) : Bool :=
  match reading x with
  | .finite .. => true
  | _ => false

/-- The lesser of two numbers; one that is no number loses. -/
def least (x y : Float) : Float :=
  if x.isNaN then y else if y < x then y else x

/-- The greater of two numbers; one that is no number loses. -/
def greatest (x y : Float) : Float :=
  if x.isNaN then y else if x < y then y else x

end Number
end TableMill
