import TableMill.Number.FloatText
import TableMill.Text.Quoted

/-!
# Decimals with two places

A decimal is a whole number of hundredths in a 64-bit word. Every operation works on
the exact hundredths, rounds halves away from zero where it has to round, and gives
nothing where the result leaves the word.
-/

namespace TableMill

open Number

/-- A decimal number with two places after the point. -/
structure Decimal where
  cents : Int64
  deriving DecidableEq, Repr, Inhabited

namespace Decimal

def zero : Decimal := ⟨0⟩

/-- The greatest decimal, and the least one whose negative is a decimal too. -/
def greatest : Decimal := ⟨Int64.maxValue⟩
def least : Decimal := ⟨-Int64.maxValue⟩

/-- The decimal of an exact number of hundredths. -/
def ofCents? (n : Int) : Option Decimal :=
  (narrow? n).map Decimal.mk

def ofWord? (w : Int64) : Option Decimal :=
  ofCents? (w.toInt * 100)

def add? (a b : Decimal) : Option Decimal :=
  ofCents? (a.cents.toInt + b.cents.toInt)

def sub? (a b : Decimal) : Option Decimal :=
  ofCents? (a.cents.toInt - b.cents.toInt)

def mul? (a b : Decimal) : Option Decimal :=
  ofCents? (divRound (a.cents.toInt * b.cents.toInt) 100)

def div? (a b : Decimal) : Option Decimal :=
  if b.cents = 0 then none
  else ofCents? (divRound (a.cents.toInt * 100) b.cents.toInt)

/-- The remainder of the division cut toward zero. The least word has no remainder
by minus one hundredth, because the quotient does not fit. -/
def rem? (a b : Decimal) : Option Decimal :=
  if b.cents = 0 then none
  else if a.cents = Int64.minValue ∧ b.cents = -1 then none
  else ofCents? (a.cents.toInt.tmod b.cents.toInt)

def divCount? (a : Decimal) (count : Int64) : Option Decimal :=
  if count = 0 then none else ofCents? (divRound a.cents.toInt count.toInt)

def neg? (a : Decimal) : Option Decimal :=
  ofCents? (-a.cents.toInt)

def abs? (a : Decimal) : Option Decimal :=
  (magnitude? a.cents).map Decimal.mk

def isInteger (a : Decimal) : Bool :=
  a.cents.toInt.tmod 100 == 0

/-- The whole part, cut toward zero. -/
def trunc (a : Decimal) : Int64 :=
  Int64.ofInt (a.cents.toInt.tdiv 100)

def signum (a : Decimal) : Int :=
  a.cents.toInt.sign

def isZero (a : Decimal) : Bool :=
  a.cents == 0

def toFloat (a : Decimal) : Float :=
  ofWord a.cents / 100

/-- The decimal without trailing zeros after the point. -/
def toText (a : Decimal) : String :=
  let magnitude := a.cents.toInt.natAbs
  let whole := magnitude / 100
  let rest := magnitude % 100
  signText (a.cents < 0) ++
    if rest = 0 then toString whole
    else if rest % 10 = 0 then toString whole ++ "." ++ toString (rest / 10)
    else toString whole ++ "." ++ padded 2 rest

/-- The magnitude with at least two places, filled up with zeros to `places`. -/
def fixedMagnitude (a : Decimal) (places : Nat) : String :=
  let magnitude := a.cents.toInt.natAbs
  toString (magnitude / 100) ++ "." ++ padded 2 (magnitude % 100)
    ++ String.ofList (List.replicate (places - 2) '0')

/-- Splits at the first character that satisfies `p`, which is dropped. -/
def cutAt (p : Char → Bool) (cs : List Char) : List Char × Option (List Char) :=
  match cs.dropWhile (fun c => !p c) with
  | [] => (cs, none)
  | _ :: rest => (cs.takeWhile (fun c => !p c), some rest)

def exponentMin : Int := -2147483648
def exponentMax : Int := 2147483647

/-- Whether an exponent stays within its 32 bits. -/
def fitsExponent (n : Int) : Bool :=
  exponentMin ≤ n && n ≤ exponentMax

/-- The digits moved by `shift` places and rounded to a whole number, halves up;
nothing, if the whole number has more than nineteen digits. -/
def roundDigits (digits : List Char) (shift : Int) : Option Nat :=
  if digits = [] then some 0
  else if 0 ≤ shift then
    if digits.length + shift.toNat > 19 then none
    else some (ofDigits digits * Nat.pow 10 shift.toNat)
  else
    let cut := (-shift).toNat
    if digits.length < cut then some 0
    else
      let kept := digits.take (digits.length - cut)
      let dropped := digits.drop (digits.length - cut)
      if kept.length > 19 then none
      else
        let up := match dropped with
          | c :: _ => if '5' ≤ c then 1 else 0
          | [] => 0
        some (ofDigits kept + up)

/-- The hundredths written by an unsigned decimal: digits with an optional point and
an optional exponent. -/
def readMagnitude (cs : List Char) : Option Nat := do
  let (mantissa, exponentText) := cutAt (fun c => c == 'e' || c == 'E') cs
  let exponent ← match exponentText with
    | none => some 0
    | some ds => (readInt exponentMin exponentMax ds).toOption
  let (whole, fractionText) := cutAt (· == '.') mantissa
  let fraction := fractionText.getD []
  guard (whole ≠ [] ∨ fraction ≠ [])
  guard (whole.all Text.isDigit && fraction.all Text.isDigit)
  let digits := (whole ++ fraction).dropWhile (· == '0')
  guard (fitsExponent fraction.length)
  guard (fitsExponent (exponent - fraction.length))
  guard (fitsExponent (exponent - fraction.length + 2))
  roundDigits digits (exponent - fraction.length + 2)

/-- The hundredths written by a decimal with an optional sign. -/
def readCents (cs : List Char) : Option Int :=
  match cs with
  | '-' :: rest => (readMagnitude rest).map fun n => -(n : Int)
  | '+' :: rest => (readMagnitude rest).map fun n => (n : Int)
  | _ => (readMagnitude cs).map fun n => (n : Int)

/-- Reads a decimal, rounding halves away from zero to two places. Blanks around it
are ignored. -/
def ofText? (s : String) : Option Decimal :=
  (readCents (Text.trimBlanks s.toList)).bind ofCents?

/-- The decimal nearest to the shortest decimal text of a floating-point number. -/
def ofFloat? (x : Float) : Option Decimal :=
  if isFinite x then ofText? (floatText x) else none

instance : Ord Decimal where
  compare a b := compare a.cents.toInt b.cents.toInt

/-- What is said of a text that is no decimal. -/
def unreadable (s : String) : String :=
  "cannot parse " ++ Text.quoted s ++ " as decimal2"

end Decimal
end TableMill
