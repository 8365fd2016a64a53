import TableMill.Table.Index
import TableMill.Text.Bare
import TableMill.Text.Upper

/-!
# Keys

The key of a row is made of one chunk of fixed width for every component of the index.
Keys of one index compare as texts like the rows compare component by component.
-/

namespace TableMill

namespace Component

/-- The digits of an integer in a key, and the first magnitude with more. -/
def intDigits : Nat := 18
def intLimit : Nat := 1000000000000000000

/-- The places after the point and the width of other numbers in a key. -/
def numberPlaces : Nat := 32
def numberWidth : Nat := 66

/-- The first magnitude of a float that has no key. -/
def floatLimit : Float := 1e33

/-- The digits of a date-time in a key, and the microseconds from 1970-01-01 back to
0001-01-01. -/
def timeDigits : Nat := 20
def microsBefore1970 : Int := 62135596800000000

/-- A text filled up with zeros on the left. -/
def zeroFilled (width : Nat) (s : String) : String :=
  String.ofList (List.replicate (width - s.length) '0' ++ s.toList)

/-- Every digit replaced by what it lacks to nine. -/
def complementDigits (cs : List Char) : List Char :=
  cs.map fun c =>
    if Text.isDigit c then Char.ofNat ('0'.toNat + (9 - Number.digitValue c)) else c

/-- A magnitude with its sign: among negative numbers the greater magnitude comes
first. -/
def signed (negative : Bool) (digits : String) : String :=
  if negative then String.ofList ('-' :: complementDigits digits.toList)
  else String.ofList ('0' :: digits.toList)

def encodeInt (v : Int64) : TableResult String :=
  let n := v.toInt.natAbs
  if intLimit ≤ n then .error (.noKey (.longInt v))
  else .ok (signed (v < 0) (Number.padded intDigits n))

def encodeFloat (x : Float) : TableResult String :=
  if !Number.isFinite x then .error (.noKey (.notFinite x))
  else if floatLimit ≤ x.abs then .error (.noKey (.largeFloat x))
  else .ok (signed (x < 0) (zeroFilled numberWidth (Number.fixedText numberPlaces x.abs)))

def encodeDecimal (d : Decimal) : String :=
  signed (d.cents < 0) (zeroFilled numberWidth (d.fixedMagnitude numberPlaces))

/-- A text without its marks, in capitals if letter case is ignored, cut or filled up
with blanks to the width. -/
def encodeText (ignoreCase : Bool) (width : Nat) (s : String) : String :=
  let letters := Text.bare s.toList
  let folded := if ignoreCase then Text.upper letters else letters
  let kept := folded.take width
  String.ofList (kept ++ List.replicate (width - kept.length) ' ')

def encodeTime (t : DateTime) : TableResult String :=
  let micros := t.micros + microsBefore1970
  if micros < 0 then .error (.noKey (.early t))
  else .ok (Number.padded timeDigits micros.toNat)

/-- The chunk of a value, in ascending order. -/
def encode (c : Component) (v : Value) : TableResult String :=
  if v.kind ≠ c.kind then .error (.keyKind v c.kind)
  else match v with
    | .int v => encodeInt v
    | .float x => encodeFloat x
    | .decimal d => .ok (encodeDecimal d)
    | .text s => .ok (encodeText c.ignoreCase c.length s)
    | .bool b => .ok (if b then "T" else "F")
    | .datetime t => encodeTime t

def width (c : Component) : Nat :=
  match c.kind with
  | .int => intDigits + 1
  | .float | .decimal => numberWidth + 1
  | .text => c.length
  | .bool => 1
  | .datetime => timeDigits

def hexByte (b : UInt8) : List Char :=
  (if b < 16 then ['0'] else []) ++ Nat.toDigits 16 b.toNat

/-- A chunk in descending order: what every byte lacks to 255, in hexadecimal. -/
def descend (chunk : String) : String :=
  String.ofList (chunk.toUTF8.toList.flatMap fun b => hexByte (255 - b))

def chunk (c : Component) (row : Record) : TableResult String :=
  match Assoc.get? row c.field with
  | none => .error (.missingKeyField c.field ((row.map Prod.fst).mergeSort fun a b => a ≤ b))
  | some v => do
    let s ← c.encode v
    .ok (if c.descending then descend s else s)

end Component

def Index.key (ix : Index) (row : Record) : TableResult String := do
  let chunks ← ix.components.mapM fun c => c.chunk row
  .ok (String.join chunks)

end TableMill
