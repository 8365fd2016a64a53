import TableMill.Number.IntText

/-!
# JSON

Definitions and settings are given as JSON texts. Reading keeps the spelling of every
number and the entries of an object in order, repeated names included.
-/

namespace TableMill

/-- A JSON value. A text whose escapes name no character is kept as `none`; it is an
error only where the text is needed. -/
inductive Json
  | null
  | bool (b : Bool)
  | number (spelling : String)
  | text (s : Option String)
  | array (items : List Json)
  | object (members : List (Option String × Json))
  deriving Inhabited

namespace Json

def isSpace (c : Char) : Bool :=
  c == ' ' || c == '\n' || c == '\t' || c == '\r'

def skipSpace (cs : List Char) : List Char :=
  cs.dropWhile isSpace

/-- The character that a one-letter escape stands for. -/
def escaped? : Char → Option Char
  | '"' => some '"'
  | '\\' => some '\\'
  | '/' => some '/'
  | 'b' => some '\x08'
  | 'f' => some '\x0c'
  | 'n' => some '\n'
  | 'r' => some '\r'
  | 't' => some '\t'
  | _ => none

def hexValue? (c : Char) : Option Nat :=
  if Text.isDigit c then some (Number.digitValue c)
  else if 'a' ≤ c ∧ c ≤ 'f' then some (c.toNat - 'a'.toNat + 10)
  else if 'A' ≤ c ∧ c ≤ 'F' then some (c.toNat - 'A'.toNat + 10)
  else none

def unit? (a b c d : Char) : Option Nat := do
  let a ← hexValue? a
  let b ← hexValue? b
  let c ← hexValue? c
  let d ← hexValue? d
  some (((a * 16 + b) * 16 + c) * 16 + d)

/-- Whether a code unit is the first half of a pair, or the second. -/
def isHigh (n : Nat) : Bool := 0xD800 ≤ n && n < 0xDC00
def isLow (n : Nat) : Bool := 0xDC00 ≤ n && n < 0xE000

/-- The character of a pair of code units. -/
def pairChar (high low : Nat) : Char :=
  Char.ofNat (0x10000 + (high - 0xD800) * 0x400 + (low - 0xDC00))

/-- Reads a text up to its closing quotation mark. `acc` holds the characters so far in
reverse; `high` is the first half of a pair that waits for its second half. -/
def readText (acc : Option (List Char)) (high : Option Nat) :
    List Char → Option (Option String × List Char)
  | [] => none
  | '"' :: rest =>
    some (if high.isSome then none else acc.map fun cs => String.ofList cs.reverse, rest)
  | '\\' :: 'u' :: a :: b :: c :: d :: rest =>
    match unit? a b c d with
    | none => none
    | some n => match high with
      | some h =>
        readText (if isLow n then acc.map (pairChar h n :: ·) else none) none rest
      | none =>
        if isHigh n then readText acc (some n) rest
        else readText (if isLow n then none else acc.map (Char.ofNat n :: ·)) none rest
  | '\\' :: c :: rest =>
    match escaped? c with
    | none => none
    | some e => readText (if high.isSome then none else acc.map (e :: ·)) none rest
  | c :: rest =>
    if c < ' ' then none
    else readText (if high.isSome then none else acc.map (c :: ·)) none rest

def digits (cs : List Char) : List Char × List Char :=
  (cs.takeWhile Text.isDigit, cs.dropWhile Text.isDigit)

def readFraction : List Char → Option (List Char × List Char)
  | '.' :: rest => match digits rest with
    | ([], _) => none
    | (ds, rest) => some ('.' :: ds, rest)
  | cs => some ([], cs)

def readExponent : List Char → Option (List Char × List Char)
  | e :: rest =>
    if e = 'e' ∨ e = 'E' then
      let (sign, rest) := match rest with
        | '+' :: rest => (['+'], rest)
        | '-' :: rest => (['-'], rest)
        | _ => ([], rest)
      match digits rest with
      | ([], _) => none
      | (ds, rest) => some (e :: sign ++ ds, rest)
    else some ([], e :: rest)
  | [] => some ([], [])

/-- Reads a number without its sign. There is no zero before another digit. -/
def readMagnitude (cs : List Char) : Option (List Char × List Char) := do
  let (whole, rest) := digits cs
  guard (whole ≠ [])
  guard (whole.length = 1 ∨ whole.head? ≠ some '0')
  let (fraction, rest) ← readFraction rest
  let (exponent, rest) ← readExponent rest
  some (whole ++ fraction ++ exponent, rest)

def readNumber : List Char → Option (String × List Char)
  | '-' :: rest => (readMagnitude rest).map fun (ds, rest) => (String.ofList ('-' :: ds), rest)
  | cs => (readMagnitude cs).map fun (ds, rest) => (String.ofList ds, rest)

mutual

/-- Reads a value. Every step but a closing bracket takes a character. -/
def readValue : Nat → List Char → Option (Json × List Char)
  | 0, _ => none
  | fuel + 1, cs =>
    match skipSpace cs with
    | 'n' :: 'u' :: 'l' :: 'l' :: rest => some (null, rest)
    | 't' :: 'r' :: 'u' :: 'e' :: rest => some (bool true, rest)
    | 'f' :: 'a' :: 'l' :: 's' :: 'e' :: rest => some (bool false, rest)
    | '"' :: rest => (readText (some []) none rest).map fun (s, rest) => (text s, rest)
    | '[' :: rest => match skipSpace rest with
      | ']' :: rest => some (array [], rest)
      | rest => (readItems fuel rest).map fun (items, rest) => (array items, rest)
    | '\x7b' :: rest => match skipSpace rest with
      | '\x7d' :: rest => some (object [], rest)
      | rest => (readMembers fuel rest).map fun (ms, rest) => (object ms, rest)
    | cs => (readNumber cs).map fun (n, rest) => (number n, rest)

/-- Reads the items of an array up to its end. -/
def readItems : Nat → List Char → Option (List Json × List Char)
  | 0, _ => none
  | fuel + 1, cs => do
    let (v, rest) ← readValue fuel cs
    match skipSpace rest with
    | ',' :: rest => do
      let (vs, rest) ← readItems fuel rest
      some (v :: vs, rest)
    | ']' :: rest => some ([v], rest)
    | _ => none

/-- Reads the members of an object up to its end. -/
def readMembers : Nat → List Char → Option (List (Option String × Json) × List Char)
  | 0, _ => none
  | fuel + 1, cs =>
    match skipSpace cs with
    | '"' :: rest => do
      let (name, rest) ← readText (some []) none rest
      match skipSpace rest with
      | ':' :: rest => do
        let (v, rest) ← readValue fuel rest
        match skipSpace rest with
        | ',' :: rest => do
          let (ms, rest) ← readMembers fuel rest
          some ((name, v) :: ms, rest)
        | '\x7d' :: rest => some ([(name, v)], rest)
        | _ => none
      | _ => none
    | _ => none

end

def parse? (s : String) : Option Json :=
  let cs := s.toList
  match readValue (2 * cs.length + 2) cs with
  | some (v, rest) => if skipSpace rest = [] then some v else none
  | none => none

end Json
end TableMill
