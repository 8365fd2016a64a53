import TableMill.Text.Letter
import TableMill.Number.Word

/-!
# Integers as text

Reading stops at the first character that is no digit or takes the number out of
its range, whichever comes first.
-/

namespace TableMill
namespace Number

inductive IntFault
  | empty | invalidDigit | tooLarge | tooSmall
  deriving DecidableEq, Repr

def IntFault.message : IntFault → String
  | .empty => "cannot parse integer from empty string"
  | .invalidDigit => "invalid digit found in string"
  | .tooLarge => "number too large to fit in target type"
  | .tooSmall => "number too small to fit in target type"

def digitValue (c : Char) : Nat :=
  c.toNat - '0'.toNat

/-- The number written by decimal digits. -/
def ofDigits (cs : List Char) : Nat :=
  cs.foldl (fun n c => 10 * n + digitValue c) 0

/-- Reads digits after `n`, upwards, while the number stays at most `hi`. -/
def readUp (hi : Int) (n : Int) : List Char → Except IntFault Int
  | [] => .ok n
  | c :: cs =>
    if Text.isDigit c then
      let m := 10 * n + digitValue c
      if hi < m then .error .tooLarge else readUp hi m cs
    else .error .invalidDigit

/-- Reads digits after `n`, downwards, while the number stays at least `lo`. -/
def readDown (lo : Int) (n : Int) : List Char → Except IntFault Int
  | [] => .ok n
  | c :: cs =>
    if Text.isDigit c then
      let m := 10 * n - digitValue c
      if m < lo then .error .tooSmall else readDown lo m cs
    else .error .invalidDigit

/-- Reads an integer between `lo` and `hi`. A minus sign is a sign only where the
range has negative numbers. -/
def readInt (lo hi : Int) : List Char → Except IntFault Int
  | [] => .error .empty
  | '+' :: c :: cs => readUp hi 0 (c :: cs)
  | '-' :: c :: cs =>
    if lo < 0 then readDown lo 0 (c :: cs) else .error .invalidDigit
  | cs => readUp hi 0 cs

def readWord (s : String) : Except IntFault Int64 :=
  (readInt wordMin wordMax s.toList).map Int64.ofInt

def readCount (s : String) : Except IntFault Nat :=
  (readInt 0 18446744073709551615 s.toList).map Int.toNat

/-- The decimal digits of a natural number, padded with zeros to a width. -/
def padded (width n : Nat) : String :=
  let ds := Nat.toDigits 10 n
  String.ofList (List.replicate (width - ds.length) '0' ++ ds)

end Number
end TableMill
