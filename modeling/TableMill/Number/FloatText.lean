import TableMill.Number.Binary64
import TableMill.Number.IntText

/-!
# Floating-point numbers as text

Three texts of one number: the shortest decimal that reads back as the number, the
exact value rounded to a fixed count of places, and the programmer's form, which
always shows that the number is a floating-point one.
-/

namespace TableMill
namespace Number

def digitCount (n : Nat) : Nat :=
  (Nat.toDigits 10 n).length

/-- The `k` with `10 ^ (k - 1) ≤ n / d < 10 ^ k`, for `n / d` not a power of ten
below one. -/
def decimalOrder (n d : Nat) : Int :=
  if d ≤ n then digitCount (n / d) else 1 - (digitCount (d / n) : Int)

/-- The point of the grid of multiples of `10 ^ e` that stands for `m · 2 ^ q`: one of
the value's two neighbours on the grid, if it lies in the interval of numbers that
round to the value; if both do, the nearer one, and the one farther from zero in a tie. -/
def gridPoint? (m : Nat) (q : Int) (e : Int) : Option Nat :=
  let low := if m = hiddenBit ∧ -1074 < q then 4 * m - 1 else 4 * m - 2
  let high := 4 * m + 2
  let (s, t) := ratio 1 (q - 2)
  let s := if e < 0 then s * Nat.pow 10 (-e).toNat else s
  let t := if e < 0 then t else t * Nat.pow 10 e.toNat
  let below := 4 * m * s / t
  let above := below + 1
  let inside (a : Nat) : Bool :=
    if m % 2 = 0 then low * s ≤ a * t && a * t ≤ high * s
    else low * s < a * t && a * t < high * s
  match inside below, inside above with
  | true, true =>
    if 4 * m * s - below * t < above * t - 4 * m * s then some below else some above
  | true, false => some below
  | false, true => some above
  | false, false => none

/-- Takes the trailing zeros of `a · 10 ^ e` into the exponent. -/
def dropZeros (fuel : Nat) (a : Nat) (e : Int) : Nat × Int :=
  match fuel with
  | 0 => (a, e)
  | fuel + 1 => if a % 10 = 0 then dropZeros fuel (a / 10) (e + 1) else (a, e)

/-- The decimal `a · 10 ^ e` with the fewest digits that reads back as `m · 2 ^ q`, for
a positive `m`. -/
def shortest (m : Nat) (q : Int) : Nat × Int :=
  let (n, d) := ratio m q
  let k := decimalOrder n d
  let found := ((List.range 17).map (· + 1)).findSome? fun (digits : Nat) =>
    let e : Int := k - (digits : Int)
    (gridPoint? m q e).map fun a => (a, e)
  match found with
  | some (a, e) => dropZeros 20 a e
  | none => (m, 0)

/-- `a · 10 ^ e` written without an exponent. -/
def positional (a : Nat) (e : Int) : String :=
  if 0 ≤ e then String.ofList (Nat.toDigits 10 a ++ List.replicate e.toNat '0')
  else
    let places := (-e).toNat
    let ds := Nat.toDigits 10 a
    let ds := List.replicate (places + 1 - ds.length) '0' ++ ds
    String.ofList (ds.take (ds.length - places) ++ '.' :: ds.drop (ds.length - places))

/-- `a · 10 ^ e` written with one digit before the point and an exponent. -/
def scientific (a : Nat) (e : Int) : String :=
  match Nat.toDigits 10 a with
  | [] => "0"
  | [c] => String.ofList [c] ++ "e" ++ toString e
  | c :: rest =>
    String.ofList (c :: '.' :: rest) ++ "e" ++ toString (e + (rest.length : Int))

def signText (negative : Bool) : String :=
  if negative then "-" else ""

/-- The shortest decimal that reads back as the number, never with an exponent. -/
def floatText (x : Float) : String :=
  match reading x with
  | .nan => "NaN"
  | .infinite negative => signText negative ++ "inf"
  | .finite negative 0 _ => signText negative ++ "0"
  | .finite negative m q =>
    let (a, e) := shortest m q
    signText negative ++ positional a e

/-- The quotient rounded to the nearest natural number, halves to the even one. -/
def divHalfEven (n d : Nat) : Nat :=
  let q := n / d
  let r := n % d
  if 2 * r < d then q else if d < 2 * r then q + 1 else if q % 2 = 0 then q else q + 1

/-- The exact value rounded to `places` digits after the point. -/
def fixedText (places : Nat) (x : Float) : String :=
  match reading x with
  | .nan => "NaN"
  | .infinite negative => signText negative ++ "inf"
  | .finite negative m q =>
    let (n, d) := ratio m q
    signText negative ++ positional (divHalfEven (n * Nat.pow 10 places) d) (-(places : Int))

/-- The programmer's form: the shortest decimal with at least one digit after the
point, with an exponent from `10 ^ 16` on and below `10 ^ -4`. -/
def floatToken (x : Float) : String :=
  match reading x with
  | .nan => "NaN"
  | .infinite negative => signText negative ++ "inf"
  | .finite negative 0 _ => signText negative ++ "0.0"
  | .finite negative m q =>
    let (a, e) := shortest m q
    let order : Int := (digitCount a : Int) + e
    if order > 16 ∨ order < -3 then signText negative ++ scientific a e
    else if 0 ≤ e then signText negative ++ positional a e ++ ".0"
    else signText negative ++ positional a e

inductive FloatFault
  | empty | invalid
  deriving DecidableEq, Repr

def FloatFault.message : FloatFault → String
  | .empty => "cannot parse float from empty string"
  | .invalid => "invalid float literal"

/-- The number nearest to `m · 10 ^ e`. -/
def nearest (m : Nat) (e : Int) : Float :=
  if m = 0 then 0
  else
    let order : Int := (digitCount m : Int) + e
    if order > 310 then infinity
    else if order < -330 then 0
    else Float.ofScientific m (e < 0) e.natAbs

def readExponent : List Char → Option Int
  | '+' :: ds => if ds ≠ [] ∧ ds.all Text.isDigit then some (Int.ofNat (ofDigits ds)) else none
  | '-' :: ds => if ds ≠ [] ∧ ds.all Text.isDigit then some (-(ofDigits ds : Int)) else none
  | ds => if ds ≠ [] ∧ ds.all Text.isDigit then some (Int.ofNat (ofDigits ds)) else none

/-- Reads digits with an optional point and an optional exponent. -/
def readUnsigned (cs : List Char) : Option Float :=
  let whole := cs.takeWhile Text.isDigit
  let rest := cs.dropWhile Text.isDigit
  let (fraction, rest) := match rest with
    | '.' :: more => (more.takeWhile Text.isDigit, more.dropWhile Text.isDigit)
    | _ => ([], rest)
  if whole = [] ∧ fraction = [] then none
  else
    let m := ofDigits (whole ++ fraction)
    let shift : Int := fraction.length
    match rest with
    | [] => some (nearest m (-shift))
    | c :: more =>
      if c = 'e' ∨ c = 'E' then (readExponent more).map fun e => nearest m (e - shift)
      else none

def readNamed (cs : List Char) : Option Float :=
  match String.ofList (cs.map Char.toLower) with
  | "inf" | "infinity" => some infinity
  | "nan" => some notANumber
  | _ => none

def readFloat (s : String) : Except FloatFault Float :=
  let unsigned (cs : List Char) : Option Float := (readUnsigned cs).or (readNamed cs)
  let answer (x : Option Float) : Except FloatFault Float := match x with
    | some x => .ok x
    | none => .error .invalid
  match s.toList with
  | [] => .error .empty
  | '+' :: cs => answer (unsigned cs)
  | '-' :: cs => answer ((unsigned cs).map Float.neg)
  | cs => answer (unsigned cs)

end Number
end TableMill
