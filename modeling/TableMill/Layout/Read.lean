import TableMill.Layout.Basic
import TableMill.Text.Search
import TableMill.Value.DateTime

/-!
# Reading a date-time in a layout

The parts of a text are collected first, each part at most one value, and put
together afterwards. Parts that say the same thing twice must agree.
-/

namespace TableMill
namespace Layout

/-- What has been read of a date-time. The hour is kept as its half of the day and its
number within the half. -/
structure Parts where
  year : Option Int := none
  yearOfCentury : Option Int := none
  month : Option Int := none
  day : Option Int := none
  dayOfYear : Option Int := none
  weekday : Option Int := none
  half : Option Int := none
  hourOfHalf : Option Int := none
  minute : Option Int := none
  second : Option Int := none
  nanos : Option Int := none
  offset : Option Int := none
  deriving DecidableEq, Repr

/-- A part that is set once, or again to the same value. -/
def agree (old : Option Int) (new : Int) : Option (Option Int) :=
  match old with
  | none => some (some new)
  | some v => if v = new then some (some v) else none

def within (lo hi n : Int) : Option Int :=
  if lo ≤ n ∧ n ≤ hi then some n else none

namespace Parts

def setYear (p : Parts) (n : Int) : Option Parts := do
  let n ← within (-2147483648) 2147483647 n
  let year ← agree p.year n
  pure { p with year }

def setYearOfCentury (p : Parts) (n : Int) : Option Parts := do
  let yearOfCentury ← agree p.yearOfCentury n
  pure { p with yearOfCentury }

def setMonth (p : Parts) (n : Int) : Option Parts := do
  let n ← within 1 12 n
  let month ← agree p.month n
  pure { p with month }

def setDay (p : Parts) (n : Int) : Option Parts := do
  let n ← within 1 31 n
  let day ← agree p.day n
  pure { p with day }

def setDayOfYear (p : Parts) (n : Int) : Option Parts := do
  let n ← within 1 366 n
  let dayOfYear ← agree p.dayOfYear n
  pure { p with dayOfYear }

def setWeekday (p : Parts) (n : Int) : Option Parts := do
  let weekday ← agree p.weekday n
  pure { p with weekday }

def setHalf (p : Parts) (n : Int) : Option Parts := do
  let half ← agree p.half n
  pure { p with half }

def setHourOfHalf (p : Parts) (n : Int) : Option Parts := do
  let hourOfHalf ← agree p.hourOfHalf n
  pure { p with hourOfHalf }

def setHour (p : Parts) (n : Int) : Option Parts := do
  let n ← within 0 23 n
  let p ← p.setHalf (n / 12)
  p.setHourOfHalf (n % 12)

def setHour12 (p : Parts) (n : Int) : Option Parts := do
  let n ← within 1 12 n
  p.setHourOfHalf (n % 12)

def setMinute (p : Parts) (n : Int) : Option Parts := do
  let n ← within 0 59 n
  let minute ← agree p.minute n
  pure { p with minute }

def setSecond (p : Parts) (n : Int) : Option Parts := do
  let n ← within 0 60 n
  let second ← agree p.second n
  pure { p with second }

def setNanos (p : Parts) (n : Int) : Option Parts := do
  let nanos ← agree p.nanos n
  pure { p with nanos }

def setOffset (p : Parts) (n : Int) : Option Parts := do
  let offset ← agree p.offset n
  pure { p with offset }

end Parts

/-- A part read from the front of a text, and the rest of the text. -/
abbrev Reader := List Char → Option (Int × List Char)

/-- Between `least` and `most` digits, as many as there are. -/
def readDigits (least most : Nat) : Reader := fun cs =>
  let digits := (cs.take most).takeWhile Text.isDigit
  let n := Number.ofDigits digits
  if digits.length < least ∨ Number.wordMax < n then none
  else some (n, cs.drop digits.length)

/-- All digits of a number that has a sign. -/
def readSigned : Reader := fun cs =>
  let digits := cs.takeWhile Text.isDigit
  readDigits 1 digits.length cs

def dropBlanks (cs : List Char) : List Char :=
  cs.dropWhile Text.isBlank

/-- A number of at most `width` digits, after blanks. -/
def readNumber (width : Nat) : Reader := fun cs =>
  readDigits 1 width (dropBlanks cs)

/-- A year: any count of digits after a sign, else at most four. -/
def readYear : Reader := fun cs =>
  match dropBlanks cs with
  | '-' :: rest => (readSigned rest).map fun (n, rest) => (-n, rest)
  | '+' :: rest => readSigned rest
  | cs => readDigits 1 4 cs

/-- Lower-case letters for the capitals of ASCII. -/
def lower (cs : List Char) : List Char :=
  cs.map Char.toLower

/-- Whether a text starts with a name, in any mix of capitals. -/
def startsWithName (name : String) (cs : List Char) : Bool :=
  (lower name.toList).isPrefixOf (lower (cs.take name.length))

/-- A name of a list by its first three letters or, where long names are allowed, in
full; the answer is its position. -/
def readName (names : List String) (long : Bool) : Reader := fun cs =>
  match names.findIdx? fun name => startsWithName (shortName name) cs with
  | none => none
  | some i =>
    let name := names.getD i ""
    if long && startsWithName name cs then some (i, cs.drop name.length)
    else some (i, cs.drop 3)

def readHalf : Reader := fun cs =>
  if startsWithName "am" cs then some (0, cs.drop 2)
  else if startsWithName "pm" cs then some (1, cs.drop 2)
  else none

/-- Hours and minutes of an offset, with anything from nothing to many colons and
blanks between them. -/
def readHoursMinutes : Reader := fun cs => do
  let (hours, cs) ← readDigits 2 2 cs
  let cs := cs.dropWhile fun c => c == ':' || Text.isBlank c
  let (minutes, cs) ← readDigits 2 2 cs
  if minutes < 60 then some (hours * 3600 + minutes * 60, cs) else none

/-- An offset in seconds: a sign, hours and minutes. The minus may be a hyphen or the
mathematical sign. -/
def readOffset : Reader := fun cs =>
  match dropBlanks cs with
  | '+' :: rest => readHoursMinutes rest
  | '-' :: rest => (readHoursMinutes rest).map fun (n, rest) => (-n, rest)
  | '−' :: rest => (readHoursMinutes rest).map fun (n, rest) => (-n, rest)
  | _ => none

/-- Reads one part. A fraction may be missing with its point; the name of a zone says
nothing. -/
def Item.read (item : Item) (p : Parts) (cs : List Char) : Option (Parts × List Char) :=
  let take (reader : Reader) (set : Parts → Int → Option Parts) : Option (Parts × List Char) :=
    do
      let (n, rest) ← reader cs
      let p ← set p n
      pure (p, rest)
  match item with
  | year => take readYear Parts.setYear
  | yearOfCentury => take (readNumber 2) Parts.setYearOfCentury
  | month _ => take (readNumber 2) Parts.setMonth
  | day _ => take (readNumber 2) Parts.setDay
  | dayOfYear => take (readNumber 3) Parts.setDayOfYear
  | monthName long => take (readName monthNames long) fun p n => p.setMonth (n + 1)
  | weekdayName long => take (readName weekdayNames long) Parts.setWeekday
  | hour => take (readNumber 2) Parts.setHour
  | hour12 _ => take (readNumber 2) Parts.setHour12
  | minute _ => take (readNumber 2) Parts.setMinute
  | second _ => take (readNumber 2) Parts.setSecond
  | fraction digits =>
    match cs with
    | '.' :: rest => do
      let (n, rest) ← readDigits digits digits rest
      let p ← p.setNanos (n * Nat.pow 10 (9 - digits))
      pure (p, rest)
    | _ => some (p, cs)
  | halfDay _ => take readHalf Parts.setHalf
  | zoneName => some (p, cs.dropWhile fun c => !Text.isBlank c)
  | offset _ => take readOffset Parts.setOffset

/-- Reads the pieces of a layout one after the other. A blank of the layout stands for
any run of blanks, also for none. -/
def readPieces : List Piece → Parts → List Char → Option (Parts × List Char)
  | [], p, cs => some (p, cs)
  | .item i :: more, p, cs =>
    match i.read p cs with
    | none => none
    | some (p, cs) => readPieces more p cs
  | .char c :: more, p, cs =>
    if Text.isBlank c then readPieces more p (dropBlanks cs)
    else match cs with
      | [] => none
      | d :: rest => if c = d then readPieces more p rest else none

/-- The parts of a text that the layout describes to its end. -/
def readParts (layout value : String) : Option Parts :=
  match readPieces (pieces layout) {} value.toList with
  | some (p, []) => some p
  | _ => none

namespace Parts

/-- The year. A year of the century alone lies between 1970 and 2069. -/
def fullYear (p : Parts) : Option Int :=
  match p.year, p.yearOfCentury with
  | some y, none => some y
  | some y, some r => if 0 ≤ y ∧ y % 100 = r then some y else none
  | none, some r => some (if r < 70 then 2000 + r else 1900 + r)
  | none, none => none

/-- Whether the weekday that was read, if any, is that of the date. -/
def weekdayAgrees (p : Parts) (d : Date) : Bool :=
  match p.weekday with
  | none => true
  | some w => w == Date.weekday d.dayNumber

def agrees (part : Option Int) (n : Int) : Bool :=
  match part with
  | none => true
  | some v => v == n

/-- The date, from year, month and day or from year and day of the year. -/
def date (p : Parts) : Option Date := do
  let year ← p.fullYear
  match p.month, p.day, p.dayOfYear with
  | some m, some d, _ =>
    let date ← Date.of? year m.toNat d.toNat
    if p.weekdayAgrees date && agrees p.dayOfYear date.ordinal then some date else none
  | _, _, some n =>
    let date ← Date.ofOrdinal? year n.toNat
    if p.weekdayAgrees date && agrees p.month date.month && agrees p.day date.day then some date
    else none
  | _, _, none => none

/-- The second of the day and the nanoseconds. Second 60 is a leap second in second 59;
a fraction needs a second. -/
def time (p : Parts) : Option (Nat × Nat) := do
  let half ← p.half
  let hour ← p.hourOfHalf
  let minute ← p.minute
  let (second, leap) : Int × Nat :=
    if p.second = some 60 then (59, DateTime.nanosPerSecond) else (p.second.getD 0, 0)
  let nanos ← match p.nanos, p.second with
    | none, _ => some 0
    | some n, some _ => some n
    | some _, none => none
  some (((half * 12 + hour) * 3600 + minute * 60 + second).toNat, leap + nanos.toNat)

def dateTimeAt (p : Parts) (offset : Int) : Option DateTime := do
  let date ← p.date
  let (second, nanos) ← p.time
  if -DateTime.offsetLimit < offset ∧ offset < DateTime.offsetLimit then
    DateTime.ofLocal? date.dayNumber second nanos offset
  else none

end Parts

/-- Whether the coded form of a layout has the code of an offset in it. -/
def hasOffset (layout : String) : Bool :=
  let coded := code layout
  Text.contains coded "%z" || Text.contains coded "%:z"

/-- A final `Z` as an offset, where the layout admits it. -/
def spellOutZulu (layout : String) (value : String) : String :=
  match value.toList.reverse with
  | 'Z' :: rest =>
    if Text.contains layout "Z07:00" then String.ofList (rest.reverse ++ "+00:00".toList)
    else value
  | _ => value

/-- Reads a date-time. With an offset in the layout the text must have one; without, the
time is UTC, and a text without a time of day means midnight. -/
def read (layout value : String) : Option DateTime :=
  if hasOffset layout then do
    let p ← readParts layout (spellOutZulu layout value)
    let offset ← p.offset
    p.dateTimeAt offset
  else do
    let p ← readParts layout value
    match p.dateTimeAt 0 with
    | some t => some t
    | none => do
      let date ← p.date
      DateTime.ofLocal? date.dayNumber 0 0 0

/-- The text that failed to be read, as messages show it. -/
def shownValue (layout value : String) : String :=
  if hasOffset layout then spellOutZulu layout value else value

end Layout
end TableMill
