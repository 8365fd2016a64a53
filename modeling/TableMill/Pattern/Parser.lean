import TableMill.Pattern.Tree
import TableMill.Pattern.ClassName

/-!
# Parsing patterns

The syntax of patterns: literals, classes in brackets with ranges and set operations,
escapes, groups, flags, alternatives and repetitions. What is not part of the syntax is
refused.
-/

namespace TableMill
namespace Pattern

structure Flags where
  ignoreCase : Bool := false
  multiLine : Bool := false
  dotAll : Bool := false
  crlf : Bool := false
  unicode : Bool := true
  spaced : Bool := false
  swapGreed : Bool := false

/-- What is left of a pattern, the modes in force, the number of groups so far, and their
names. -/
structure Source where
  rest : List Char
  flags : Flags := {}
  groups : Nat := 0
  names : List String := []

abbrev Parse := StateT Source Option

namespace Parse

/-- Drops blanks and comments; `comment` says that a comment has begun. -/
def dropSpace (comment : Bool) : List Char → List Char
  | [] => []
  | c :: rest =>
    if comment then dropSpace (c != '\n') rest
    else if c == '#' then dropSpace true rest
    else if Text.isBlank c then dropSpace false rest
    else c :: rest

/-- The characters left, without blanks and comments in the spaced mode. -/
def tidy (f : Flags) (cs : List Char) : List Char :=
  if f.spaced then dropSpace false cs else cs

def flags : Parse Flags := do
  return (← get).flags

def setFlags (f : Flags) : Parse Unit :=
  modify fun s => { s with flags := f }

def setRest (cs : List Char) : Parse Unit :=
  modify fun s => { s with rest := cs }

def look : Parse (List Char) := do
  return (← get).rest

/-- Moves to the given characters and past the space before the next one. -/
def moveTo (cs : List Char) : Parse Unit :=
  modify fun s => { s with rest := tidy s.flags cs }

def skipSpace : Parse Unit := do
  moveTo (← look)

/-- The characters outside a set. Without the letters of all scripts it would hold bytes
that are no characters, so there is none. -/
def outside (f : Flags) (r : Text.Ranges) : Option Text.Ranges :=
  if f.unicode then some r.negate else none

/-- The set of the letters that differ from members in case only, in the mode that ignores
case. -/
def fold (f : Flags) (r : Text.Ranges) : Text.Ranges :=
  if f.ignoreCase then (if f.unicode then closeUnderCase r else closeUnderCaseAscii r) else r

/-- A set that may stand outside brackets: without the letters of all scripts only
characters of ASCII may match. -/
def checked (f : Flags) (r : Text.Ranges) : Option Text.Ranges :=
  if f.unicode || r.isAscii then some r else none

/-- The sets of digits, blanks and word characters. -/
def shortClass (f : Flags) : Char → Text.Ranges
  | 'd' => if f.unicode then digitRanges else .ofText "30-39"
  | 's' => if f.unicode then Text.blankRanges else .ofText "9-D 20"
  | _ => if f.unicode then wordRanges else .ofText "30-39 41-5A 5F 61-7A"

/-- The classes of ASCII characters with a name. -/
def asciiClass? : String → Option Text.Ranges
  | "alnum" => some (.ofText "30-39 41-5A 61-7A")
  | "alpha" => some (.ofText "41-5A 61-7A")
  | "ascii" => some (.ofText "0-7F")
  | "blank" => some (.ofText "9 20")
  | "cntrl" => some (.ofText "0-1F 7F")
  | "digit" => some (.ofText "30-39")
  | "graph" => some (.ofText "21-7E")
  | "lower" => some (.ofText "61-7A")
  | "print" => some (.ofText "20-7E")
  | "punct" => some (.ofText "21-2F 3A-40 5B-60 7B-7E")
  | "space" => some (.ofText "9-D 20")
  | "upper" => some (.ofText "41-5A")
  | "word" => some (.ofText "30-39 41-5A 5F 61-7A")
  | "xdigit" => some (.ofText "30-39 41-46 61-66")
  | _ => none

/-- What an escape or a plain character stands for. -/
inductive Primitive
  | char (c : Char)
  | set (r : Text.Ranges)
  | look (l : Look)

/-- Characters that an escape takes away the meaning of: all of ASCII but letters, digits
and angle brackets. -/
def isEscapable (c : Char) : Bool :=
  Text.isAscii c && !Text.isAsciiLetter c && !Text.isDigit c && c != '<' && c != '>'

def charOfHex (digits : List Char) : Option Char :=
  let n := Text.hexNumber digits
  if n.isValidChar then some (Char.ofNat n) else none

def hexDigits : Nat → List Char → Parse (List Char)
  | 0, acc => pure acc.reverse
  | count + 1, acc => do
    skipSpace
    match ← look with
    | c :: rest =>
      if (Text.hexDigit? c).isSome then
        setRest rest
        hexDigits count (c :: acc)
      else failure
    | [] => failure

/-- Reads hexadecimal digits up to a closing brace. -/
def hexBraced : Nat → List Char → Parse (List Char)
  | 0, _ => failure
  | fuel + 1, acc => do
    skipSpace
    match ← look with
    | '\x7d' :: rest =>
      setRest rest
      if acc = [] then failure else pure acc.reverse
    | c :: rest =>
      if (Text.hexDigit? c).isSome then
        setRest rest
        hexBraced fuel (c :: acc)
      else failure
    | [] => failure

/-- Reads the code of a character with a fixed count of digits or in braces. A byte
outside ASCII is none where letters are not of all scripts. -/
def hexEscape (count : Nat) : Parse Primitive := do
  skipSpace
  match ← look with
  | '\x7b' :: rest =>
    setRest rest
    let digits ← hexBraced (rest.length + 1) []
    match charOfHex digits with
    | some c => pure (.char c)
    | none => failure
  | _ =>
    let digits ← hexDigits count []
    match charOfHex digits with
    | some c =>
      if count = 2 && !(← flags).unicode && 0x7F < c.toNat then failure else pure (.char c)
    | none => failure

/-- The characters up to a closing brace, without the space between them in the spaced
mode, and what follows the brace. -/
def bracedName (f : Flags) : Nat → List Char → Option (List Char × List Char)
  | 0, _ => none
  | fuel + 1, cs =>
    match tidy f cs with
    | [] => none
    | '\x7d' :: rest => some ([], rest)
    | c :: rest => (bracedName f fuel rest).map fun found => (c :: found.1, found.2)

/-- Reads the name of a class: one letter, or a name in braces. -/
def unicodeEscape (negated : Bool) : Parse Primitive := do
  skipSpace
  let f ← flags
  let name ← match ← look with
    | '\x7b' :: rest =>
      match bracedName f (rest.length + 1) rest with
      | none => failure
      | some (name, more) =>
        setRest more
        pure name
    | '\\' :: _ => failure
    | c :: rest =>
      setRest rest
      pure [c]
    | [] => failure
  match namedClass? name with
  | some (r, isOutside) =>
    if f.unicode then
      let r := fold f r
      pure (.set (if negated != isOutside then r.negate else r))
    else failure
  | none => failure

/-- The special word boundaries in braces after a boundary escape. A brace that cannot
begin one is left alone. -/
def boundaryEscape : Parse Primitive := do
  let f ← flags
  let ascii := !f.unicode
  match ← look with
  | '\x7b' :: rest =>
    let isNameChar (c : Char) : Bool := Text.isAsciiLetter c || c == '-'
    match tidy f rest with
    | [] => failure
    | c :: more =>
      if isNameChar c then
        let name := (c :: more).takeWhile fun c =>
          isNameChar c || (f.spaced && Text.isBlank c)
        match (c :: more).drop name.length with
        | '\x7d' :: rest =>
          setRest rest
          match String.ofList (name.filter isNameChar) with
          | "start" => pure (.look (.wordStart ascii))
          | "end" => pure (.look (.wordEnd ascii))
          | "start-half" => pure (.look (.wordStartHalf ascii))
          | "end-half" => pure (.look (.wordEndHalf ascii))
          | _ => failure
        | _ => failure
      else pure (.look (.wordBoundary ascii))
  | _ => pure (.look (.wordBoundary ascii))

def escape : Parse Primitive := do
  match ← look with
  | [] => failure
  | c :: rest =>
    setRest rest
    let f ← flags
    let ascii := !f.unicode
    match c with
    | 'x' => hexEscape 2
    | 'u' => hexEscape 4
    | 'U' => hexEscape 8
    | 'p' => unicodeEscape false
    | 'P' => unicodeEscape true
    | 'd' | 's' | 'w' => pure (.set (shortClass f c))
    | 'D' | 'S' | 'W' =>
      match outside f (shortClass f c.toLower) with
      | some r => pure (.set r)
      | none => failure
    | 'a' => pure (.char '\x07')
    | 'f' => pure (.char '\x0c')
    | 't' => pure (.char '\t')
    | 'n' => pure (.char '\n')
    | 'r' => pure (.char '\r')
    | 'v' => pure (.char '\x0b')
    | 'A' => pure (.look .textStart)
    | 'z' => pure (.look .textEnd)
    | 'b' => boundaryEscape
    | 'B' => pure (.look (.noBoundary ascii))
    | '<' => pure (.look (.wordStart ascii))
    | '>' => pure (.look (.wordEnd ascii))
    | _ => if isEscapable c then pure (.char c) else failure

/-- Reads one item of a class: an escape or a plain character. -/
def classItem : Parse Primitive := do
  match ← look with
  | [] => failure
  | '\\' :: rest =>
    setRest rest
    escape
  | c :: rest =>
    setRest rest
    pure (.char c)

/-- The character of an item, where it may stand in a class. -/
def classChar (p : Primitive) : Parse Char := do
  match p with
  | .char c => if (← flags).unicode || Text.isAscii c then pure c else failure
  | _ => failure

def classRange : Parse Text.Ranges := do
  let p ← classItem
  skipSpace
  let alone : Parse Text.Ranges := do
    match p with
    | .set r => pure r
    | p => pure (.single (← classChar p))
  match ← look with
  | [] => failure
  | '-' :: rest =>
    match tidy (← flags) rest with
    | [] => failure
    | ']' :: _ => alone
    | '-' :: _ => alone
    | rest =>
      setRest rest
      let q ← classItem
      let a ← classChar p
      let b ← classChar q
      if a ≤ b then pure ⟨#[(a.toNat, b.toNat)]⟩ else failure
  | _ => alone

/-- A class of ASCII characters by name at its opening bracket, whether the characters
outside of it are meant, and what follows it. -/
def asciiClassAt (cs : List Char) : Option (Text.Ranges × Bool × List Char) :=
  match cs with
  | '[' :: ':' :: rest =>
    let (negated, rest) := match rest with
      | '^' :: more => (true, more)
      | _ => (false, rest)
    let name := rest.takeWhile (· != ':')
    match rest.drop name.length with
    | ':' :: ']' :: more =>
      (asciiClass? (String.ofList name)).map fun r => (r, negated, more)
    | _ => none
  | _ => none

inductive SetOp
  | inter | minus | symmetric

def SetOp.apply (op : SetOp) (f : Flags) (a b : Text.Ranges) : Text.Ranges :=
  let a := fold f a
  let b := fold f b
  match op with
  | inter => a.inter b
  | minus => a.minus b
  | symmetric => a.symmetric b

/-- A set and how deep its brackets and operations are nested. -/
structure Nested where
  chars : Text.Ranges
  depth : Nat

/-- The items of a class that are read so far: their set, their number, and the depth of
the deepest. -/
structure Items where
  chars : Text.Ranges := .empty
  count : Nat := 0
  deepest : Nat := 0

def Items.add (items : Items) (r : Text.Ranges) (depth : Nat) : Items :=
  ⟨items.chars.union r, items.count + 1, max items.deepest depth⟩

/-- Several items count as one level, a single one as none. -/
def Items.toNested (items : Items) : Nested :=
  ⟨items.chars, if items.count < 2 then items.deepest else items.deepest + 1⟩

/-- Combines the sets on both sides of the operation that waits, if one does. -/
def settle (f : Flags) (pending : Option (Nested × SetOp)) (items : Items) : Nested :=
  let right := items.toNested
  match pending with
  | none => right
  | some (left, op) => ⟨op.apply f left.chars right.chars, max left.depth right.depth + 1⟩

/-- Reads hyphens at the start of a class, which stand for themselves. -/
def leadingHyphens : Nat → Items → Parse Items
  | 0, items => pure items
  | fuel + 1, items => do
    match ← look with
    | '-' :: rest =>
      moveTo rest
      leadingHyphens fuel (items.add (.single '-') 0)
    | _ => pure items

/-- A set in the modes in force, or the characters outside of it. -/
def finished (negated : Bool) (r : Text.Ranges) : Parse Text.Ranges := do
  let f ← flags
  let r := fold f r
  if negated then
    match outside f r with
    | some r => pure r
    | none => failure
  else pure r

mutual

/-- Reads a class after its opening bracket. -/
def classBody : Nat → Parse Nested
  | 0 => failure
  | fuel + 1 => do
    skipSpace
    let negated ← match ← look with
      | '^' :: rest =>
        moveTo rest
        pure true
      | _ => pure false
    let start ← leadingHyphens fuel {}
    let start ← match ← look with
      | ']' :: rest =>
        if start.count = 0 then
          moveTo rest
          pure (start.add (.single ']') 0)
        else pure start
      | _ => pure start
    let inner ← classItems fuel none start
    pure ⟨← finished negated inner.chars, inner.depth + 1⟩

/-- Reads the items of a class up to its closing bracket. -/
def classItems : Nat → Option (Nested × SetOp) → Items → Parse Nested
  | 0, _, _ => failure
  | fuel + 1, pending, items => do
    skipSpace
    let f ← flags
    let operation (op : SetOp) (rest : List Char) : Parse Nested := do
      setRest rest
      classItems fuel (some (settle f pending items, op)) {}
    match ← look with
    | [] => failure
    | ']' :: rest =>
      setRest rest
      pure (settle f pending items)
    | '[' :: rest =>
      match asciiClassAt ('[' :: rest) with
      | some (named, negated, rest) =>
        setRest rest
        classItems fuel pending (items.add (← finished negated named) 0)
      | none =>
        setRest rest
        let inner ← classBody fuel
        classItems fuel pending (items.add inner.chars inner.depth)
    | '&' :: '&' :: rest => operation .inter rest
    | '-' :: '-' :: rest => operation .minus rest
    | '~' :: '~' :: rest => operation .symmetric rest
    | _ =>
      let item ← classRange
      classItems fuel pending (items.add item 0)

end

def switchFlag (f : Flags) (on : Bool) : Char → Option Flags
  | 'i' => some { f with ignoreCase := on }
  | 'm' => some { f with multiLine := on }
  | 's' => some { f with dotAll := on }
  | 'R' => some { f with crlf := on }
  | 'u' => some { f with unicode := on }
  | 'x' => some { f with spaced := on }
  | 'U' => some { f with swapGreed := on }
  | _ => none

/-- Reads flags up to a colon or a closing bracket: each at most once, and at most one
hyphen, not at the end. The answer has the new modes and whether there was a flag. -/
def readFlags (f : Flags) (seen : List Char) (on : Bool) :
    List Char → Option (Flags × Bool × List Char)
  | [] => none
  | c :: rest =>
    if c = ':' ∨ c = ')' then
      if seen.getLast? = some '-' then none else some (f, !seen.isEmpty, c :: rest)
    else if c ∈ seen then none
    else if c = '-' then readFlags f (seen ++ ['-']) false rest
    else
      match switchFlag f on c with
      | some f => readFlags f (seen ++ [c]) on rest
      | none => none

def groupName : Parse Unit := do
  let s ← get
  let name := s.rest.takeWhile (· != '>')
  let isStart (c : Char) : Bool := c == '_' || Text.isAlphabetic c
  let isPart (c : Char) : Bool :=
    c == '_' || c == '.' || c == '[' || c == ']' || Text.isAlphanumeric c
  match name, s.rest.drop name.length with
  | c :: more, '>' :: rest =>
    let text := String.ofList name
    if isStart c && more.all isPart && !s.names.contains text then
      set { s with rest, names := text :: s.names }
    else failure
  | _, _ => failure

def nextGroup : Parse Nat := do
  let s ← get
  set { s with groups := s.groups + 1 }
  pure (s.groups + 1)

/-- The tree of one primitive. -/
def primitiveTree (f : Flags) : Primitive → Option Tree
  | .char c => some (.set (fold f (.single c)) 0)
  | .set r => (checked f r).map (.set · 0)
  | .look l => some (.look l)

def sequence : List Tree → Tree
  | [] => .empty
  | [t] => t
  | ts => .seq ts

/-- An item of a sequence: a tree, or a change of modes, which cannot be repeated. -/
abbrev Item := Option Tree

def repeatLast (count : Repeats) (items : List Item) : Option (List Item) :=
  match items with
  | some t :: before => some (some (.times count t) :: before)
  | _ => none

def readCount : Parse (Option Nat) := do
  let cs := (← look).dropWhile Text.isBlank
  let digits := cs.takeWhile Text.isDigit
  let n := Number.ofDigits digits
  moveTo ((cs.drop digits.length).dropWhile Text.isBlank)
  if digits = [] then pure none
  else if n > 4294967295 then failure
  else pure (some n)

/-- Reads the counts of a repetition after its opening brace. -/
def readCounts : Parse (Nat × Option Nat) := do
  skipSpace
  let least ← readCount
  let close : Parse Unit := do
    match ← look with
    | '\x7d' :: rest => moveTo rest
    | _ => failure
  match ← look, least with
  | _, none => failure
  | ',' :: rest, some least =>
    moveTo rest
    match ← look with
    | '\x7d' :: _ =>
      close
      pure (least, none)
    | _ =>
      match ← readCount with
      | some most =>
        close
        if least ≤ most then pure (least, some most) else failure
      | none => failure
  | _, some least =>
    close
    pure (least, some least)

/-- Reads the mark of a repetition that prefers to be short, or that does not where short
ones are the rule. -/
def lazyMark : Parse Bool := do
  let swapped := (← flags).swapGreed
  match ← look with
  | '?' :: rest =>
    setRest rest
    pure !swapped
  | _ => pure swapped

mutual

/-- Reads alternatives up to a closing bracket or the end. -/
def alternatives : Nat → List Tree → Parse Tree
  | 0, _ => failure
  | fuel + 1, before => do
    let items ← sequenceItems fuel []
    let t := sequence (items.reverse.map fun i => i.getD .empty)
    match ← look with
    | '|' :: rest =>
      setRest rest
      alternatives fuel (t :: before)
    | _ =>
      match before with
      | [] => pure t
      | _ => pure (.alt (t :: before).reverse)

/-- Reads the items of a sequence; the latest one comes first. -/
def sequenceItems : Nat → List Item → Parse (List Item)
  | 0, _ => failure
  | fuel + 1, items => do
    skipSpace
    let f ← flags
    let repeated (least : Nat) (most : Option Nat) (rest : List Char) : Parse (List Item) := do
      moveTo rest
      let isLazy ← lazyMark
      match repeatLast ⟨least, most, isLazy⟩ items with
      | some items => sequenceItems fuel items
      | none => failure
    match ← look with
    | [] => pure items
    | ')' :: _ | '|' :: _ => pure items
    | '?' :: rest => repeated 0 (some 1) rest
    | '*' :: rest => repeated 0 none rest
    | '+' :: rest => repeated 1 none rest
    | '\x7b' :: rest =>
      setRest rest
      let (least, most) ← readCounts
      repeated least most (← look)
    | '(' :: rest =>
      moveTo rest
      let item ← group fuel
      sequenceItems fuel (item :: items)
    | '[' :: rest =>
      setRest rest
      let r ← classBody fuel
      match checked f r.chars with
      | some chars => sequenceItems fuel (some (.set chars r.depth) :: items)
      | none => failure
    | '.' :: rest =>
      setRest rest
      if f.unicode then
        let out : Text.Ranges := if f.dotAll then .empty
          else if f.crlf then .ofText "A D"
          else .ofText "A"
        sequenceItems fuel (some (.set out.negate 0) :: items)
      else failure
    | '^' :: rest =>
      setRest rest
      let l : Look := if f.multiLine then .lineStart f.crlf else .textStart
      sequenceItems fuel (some (.look l) :: items)
    | '$' :: rest =>
      setRest rest
      let l : Look := if f.multiLine then .lineEnd f.crlf else .textEnd
      sequenceItems fuel (some (.look l) :: items)
    | '\\' :: rest =>
      setRest rest
      let p ← escape
      match primitiveTree f p with
      | some t => sequenceItems fuel (some t :: items)
      | none => failure
    | c :: rest =>
      setRest rest
      sequenceItems fuel (some (.set (fold f (.single c)) 0) :: items)

/-- Reads a group, or a change of modes, after the opening bracket. -/
def group : Nat → Parse Item
  | 0 => failure
  | fuel + 1 => do
    let outer ← flags
    let body (number : Option Nat) : Parse Item := do
      let t ← alternatives fuel []
      match ← look with
      | ')' :: rest =>
        setRest rest
        setFlags outer
        pure (some (.group number t))
      | _ => failure
    match ← look with
    | '?' :: '=' :: _ | '?' :: '!' :: _ => failure
    | '?' :: '<' :: '=' :: _ | '?' :: '<' :: '!' :: _ => failure
    | '?' :: 'P' :: '<' :: rest | '?' :: '<' :: rest =>
      setRest rest
      groupName
      body (some (← nextGroup))
    | '?' :: rest =>
      match readFlags outer [] true rest with
      | some (f, _, ':' :: rest) =>
        setRest rest
        setFlags f
        body none
      | some (f, true, ')' :: rest) =>
        setRest rest
        setFlags f
        pure none
      | _ => failure
    | _ => body (some (← nextGroup))

end

end Parse

def depthMax : Nat := 250

def parse (pattern : String) : Option Tree := do
  let cs := pattern.toList
  let (t, s) ← (Parse.alternatives (4 * cs.length + 8) []).run { rest := cs }
  if s.rest = [] ∧ t.depth ≤ depthMax then some t else none

end Pattern
end TableMill
