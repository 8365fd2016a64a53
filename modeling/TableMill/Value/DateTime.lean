import TableMill.Value.Calendar
import TableMill.Number.IntText

/-!
# Date-times with a zone offset

An instant is counted in seconds from 1970-01-01T00:00:00Z, with nanoseconds. A
billion nanoseconds or more mark a leap second, which belongs to the second before
it. The offset only says how the instant is written.
-/

namespace TableMill

/-- An instant and the offset from UTC, in seconds east, with which it is written. -/
structure DateTime where
  seconds : Int
  nanos : Nat
  offset : Int
  deriving DecidableEq, Repr, Inhabited

namespace DateTime

def nanosPerSecond : Nat := 1000000000

/-- The first second of the first year and the last second of the last year. -/
def secondsMin : Int := -8334601228800
def secondsMax : Int := 8210266876799

/-- Offsets are shorter than a day. -/
def offsetLimit : Int := 86400

/-- Whether a date-time lies in the calendar and has its parts in range. A leap second
follows the last second of a minute, in UTC or on the local clock. -/
structure Valid (t : DateTime) : Prop where
  seconds_ge : secondsMin ≤ t.seconds
  seconds_le : t.seconds ≤ secondsMax
  nanos_lt : t.nanos < 2 * nanosPerSecond
  leap : nanosPerSecond ≤ t.nanos → t.seconds % 60 = 59 ∨ (t.seconds + t.offset) % 60 = 59
  offset_gt : -offsetLimit < t.offset
  offset_lt : t.offset < offsetLimit

/-- 1901-01-01T00:00:00Z, the value of an empty date-time column. -/
def unset : DateTime := ⟨-2177452800, 0, 0⟩

def localSeconds (t : DateTime) : Int :=
  t.seconds + t.offset

def localDay (t : DateTime) : Int :=
  t.localSeconds / 86400

def secondOfDay (t : DateTime) : Nat :=
  (t.localSeconds % 86400).toNat

/-- Builds a date-time from a local day, second of the day, nanoseconds and offset, if
the instant lies in the calendar. -/
def ofLocal? (day : Int) (second nanos : Nat) (offset : Int) : Option DateTime :=
  let seconds := day * 86400 + second - offset
  if secondsMin ≤ seconds ∧ seconds ≤ secondsMax then some ⟨seconds, nanos, offset⟩ else none

/-- The order of instants: by second, then by nanosecond. -/
def cmp (a b : DateTime) : Ordering :=
  (compare a.seconds b.seconds).then (compare a.nanos b.nanos)

/-- Milliseconds and microseconds since 1970-01-01T00:00:00Z. -/
def millis (t : DateTime) : Int :=
  t.seconds * 1000 + (t.nanos / 1000000 : Nat)

def micros (t : DateTime) : Int :=
  t.seconds * 1000000 + (t.nanos / 1000 : Nat)

/-- The time from `b` to `a` in milliseconds, cut toward zero. A leap second between
two times of day counts as a second of its own. -/
def diffMillis (a b : DateTime) : Int :=
  let ta := a.seconds % 86400
  let tb := b.seconds % 86400
  let leap : Int :=
    if tb < ta then (if nanosPerSecond ≤ b.nanos then 1 else 0)
    else if ta < tb then (if nanosPerSecond ≤ a.nanos then -1 else 0)
    else 0
  ((a.seconds - b.seconds + leap) * 1000000000 + ((a.nanos : Int) - b.nanos)).tdiv 1000000

/-- Years have four digits, and a sign outside the years 0 to 9999. -/
def yearText (year : Int) : String :=
  if 0 ≤ year ∧ year ≤ 9999 then Number.padded 4 year.toNat
  else (if year < 0 then "-" else "+") ++ Number.padded 4 year.natAbs

/-- The fraction of a second with as many triples of digits as it needs. -/
def fractionText (nanos : Nat) : String :=
  let n := nanos % nanosPerSecond
  if n = 0 then ""
  else if n % 1000000 = 0 then "." ++ Number.padded 3 (n / 1000000)
  else if n % 1000 = 0 then "." ++ Number.padded 6 (n / 1000)
  else "." ++ Number.padded 9 n

/-- An offset in hours and minutes, rounded to the nearest minute. -/
def offsetText (colon : String) (offset : Int) : String :=
  let minutes := (offset.natAbs + 30) / 60
  (if offset < 0 then "-" else "+") ++ Number.padded 2 (minutes / 60) ++ colon
    ++ Number.padded 2 (minutes % 60)

/-- An offset in hours and minutes, and seconds where it has some. -/
def zoneText (offset : Int) : String :=
  let n := offset.natAbs
  let seconds := if n % 60 = 0 then "" else ":" ++ Number.padded 2 (n % 60)
  (if offset < 0 then "-" else "+") ++ Number.padded 2 (n / 3600) ++ ":"
    ++ Number.padded 2 (n / 60 % 60) ++ seconds

/-- The local date and time of day. -/
def localText (t : DateTime) : String :=
  let date := Date.ofDayNumber t.localDay
  let s := t.secondOfDay
  yearText date.year ++ "-" ++ Number.padded 2 date.month ++ "-" ++ Number.padded 2 date.day
    ++ " " ++ Number.padded 2 (s / 3600) ++ ":" ++ Number.padded 2 (s / 60 % 60)
    ++ ":" ++ Number.padded 2 (s % 60 + t.nanos / nanosPerSecond) ++ fractionText t.nanos

/-- A date-time as a value: the local time and the offset in minutes. -/
def toText (t : DateTime) : String :=
  t.localText ++ " " ++ offsetText ":" t.offset

/-- A date-time with its exact offset. -/
def exactText (t : DateTime) : String :=
  t.localText ++ " " ++ zoneText t.offset

end DateTime
end TableMill
