import TableMill.Function.Argument

/-!
# Filling templates

A template has directives: a percent sign, flags, a width, a precision and a verb that
says how the next value is written. What does not fit is reported in the text itself. Texts
may have any length here: that a program cannot allocate more bytes than half of its addresses,
and stops at a width beyond that, is left aside.
-/

namespace TableMill
namespace Function

/-- Flags, width and precision of a directive. -/
structure Directive where
  leftAlign : Bool := false
  zeroPad : Bool := false
  plus : Bool := false
  width : Option Nat := none
  precision : Option Nat := none
  deriving DecidableEq, Repr

namespace Directive

def readFlags (d : Directive) : List Char → Directive × List Char
  | '-' :: rest => readFlags { d with leftAlign := true } rest
  | '0' :: rest => readFlags { d with zeroPad := true } rest
  | '+' :: rest => readFlags { d with plus := true } rest
  | cs => (d, cs)

/-- The greatest width and precision. -/
def countMax : Nat := 18446744073709551615

/-- Reads digits. Without digits, or beyond the greatest count, there is no number. -/
def readCount (cs : List Char) : Option Nat × List Char :=
  let digits := cs.takeWhile Text.isDigit
  let n := Number.ofDigits digits
  (if digits = [] ∨ countMax < n then none else some n, cs.drop digits.length)

def read (cs : List Char) : Directive × List Char :=
  let (d, cs) := readFlags {} cs
  let (width, cs) := readCount cs
  match cs with
  | '.' :: rest =>
    let (precision, rest) := readCount rest
    ({ d with width, precision := some (precision.getD 0) }, rest)
  | _ => ({ d with width }, cs)

/-- Puts a plus before a number that has no minus, where the flag asks for it. -/
def withSign (d : Directive) (rendered : String) (v : Value) : String :=
  if d.plus && v.isNumeric && !rendered.startsWith "-" then "+" ++ rendered else rendered

end Directive

/-- A value that its verb does not take. -/
def badVerb (verb : Char) (v : Value) : String :=
  "%!" ++ String.singleton verb ++ "(" ++ v.kind.name ++ "=" ++ v.toText ++ ")"

def hexCapitals (n : Nat) : String :=
  String.ofList ((Nat.toDigits 16 n).map Char.toUpper)

def hexBytes (s : String) : String :=
  String.join (s.toUTF8.toList.map fun b =>
    String.ofList ((if b < 16 then ['0'] else []) ++ Nat.toDigits 16 b.toNat))

def renderVerb (verb : Char) (d : Directive) (v : Value) : String :=
  if verb = 'v' ∨ verb = 's' then
    match v, d.precision with
    | .float x, some p => Number.fixedText p x
    | .text s, some p => String.ofList (s.toList.take p)
    | .text s, none => s
    | v, _ => d.withSign v.toText v
  else
    match verb, v with
    | 'd', .int n => d.withSign (toString n.toInt) v
    | 'f', .float x | 'F', .float x => d.withSign (Number.fixedText (d.precision.getD 6) x) v
    | 'f', .decimal a | 'F', .decimal a =>
      d.withSign (Number.fixedText (d.precision.getD 6) a.toFloat) v
    | 't', .bool b => if b then "true" else "false"
    | 'q', .text s => Text.quoted s
    | 'x', .int n =>
      if n < 0 then "-" ++ Text.hexText n.toInt.natAbs else Text.hexText n.toInt.natAbs
    | 'X', .int n => hexCapitals n.toUInt64.toNat
    | 'x', .text s => hexBytes s
    | _, v => badVerb verb v

/-- Fills a text up to the width: blanks after it, zeros after the sign of a number, or
blanks before it. Memory is taken to suffice for any width. -/
def Directive.pad (d : Directive) (rendered : String) (numeric : Bool) : String :=
  let cs := rendered.toList
  let missing := d.width.getD 0 - cs.length
  if d.leftAlign then String.ofList (cs ++ List.replicate missing ' ')
  else if d.zeroPad && numeric then
    match cs with
    | '-' :: rest => String.ofList ('-' :: List.replicate missing '0' ++ rest)
    | '+' :: rest => String.ofList ('+' :: List.replicate missing '0' ++ rest)
    | _ => String.ofList (List.replicate missing '0' ++ cs)
  else String.ofList (List.replicate missing ' ' ++ cs)

/-- Values without a directive. -/
def extraValues (values : List Value) : String :=
  String.join (values.map fun v => "%!(EXTRA " ++ v.kind.name ++ "=" ++ v.toText ++ ")")

/-- Fills the rest of a template with the rest of the values. -/
def fillFrom : Nat → List Char → List Value → String
  | 0, _, values => extraValues values
  | _ + 1, [], values => extraValues values
  | fuel + 1, '%' :: rest, values =>
    let (d, rest) := Directive.read rest
    match rest with
    | [] => "%!(NOVERB)" ++ extraValues values
    | verb :: rest =>
      if verb = '%' then "%" ++ fillFrom fuel rest values
      else match values with
        | [] => "%!" ++ String.singleton verb ++ "(MISSING)" ++ fillFrom fuel rest []
        | v :: values => d.pad (renderVerb verb d v) v.isNumeric ++ fillFrom fuel rest values
  | fuel + 1, c :: rest, values => String.singleton c ++ fillFrom fuel rest values

def fill (template : String) (values : List Value) : String :=
  fillFrom (template.toList.length + 1) template.toList values

/-- A text made of a template and at least one value. -/
def sprintf : List Value → Result Value
  | format :: v :: values => do
    let template ← stringArg "fmt.Sprintf" format
    .ok (.text (fill template (v :: values)))
  | args => fail "fmt.Sprintf" (.tooFewArgs args.length)

end Function
end TableMill
