/-!
# The calendar

Days are counted from 1970-01-01 in the Gregorian calendar, extended to all years.
-/

namespace TableMill

/-- A day of the calendar. The year before year 1 is year 0. -/
structure Date where
  year : Int
  month : Nat
  day : Nat
  deriving DecidableEq, Repr

namespace Date

def isLeap (year : Int) : Bool :=
  year % 4 == 0 && (year % 100 != 0 || year % 400 == 0)

def daysInYear (year : Int) : Nat :=
  if isLeap year then 366 else 365

def daysInMonth (year : Int) (month : Nat) : Nat :=
  match month with
  | 2 => if isLeap year then 29 else 28
  | 4 | 6 | 9 | 11 => 30
  | _ => 31

/-- The years that dates may have. -/
def yearMin : Int := -262143
def yearMax : Int := 262142

/-- A date of the calendar, if there is one with this year, month and day. -/
def of? (year : Int) (month day : Nat) : Option Date :=
  if yearMin ≤ year ∧ year ≤ yearMax ∧ 1 ≤ month ∧ month ≤ 12 ∧
      1 ≤ day ∧ day ≤ daysInMonth year month then
    some ⟨year, month, day⟩
  else none

/-- Days from 1970-01-01 to the first day of a year. -/
def daysBeforeYear (year : Int) : Int :=
  let y := year - 1
  365 * y + y / 4 - y / 100 + y / 400 - 719162

/-- Days of a year before the first day of a month. -/
def daysBeforeMonth (year : Int) (month : Nat) : Nat :=
  (List.range (month - 1)).foldl (fun n m => n + daysInMonth year (m + 1)) 0

/-- The number of a day in its year, from 1. -/
def ordinal (d : Date) : Nat :=
  daysBeforeMonth d.year d.month + d.day

/-- The number of a day, zero for 1970-01-01. -/
def dayNumber (d : Date) : Int :=
  daysBeforeYear d.year + d.ordinal - 1

/-- The month and day with the given number in a year: months are passed over while
days remain. -/
def ofOrdinalFrom (year : Int) : Nat → Nat → Nat → Date
  | 0, month, left => ⟨year, month, left⟩
  | more + 1, month, left =>
    let n := daysInMonth year month
    if left ≤ n then ⟨year, month, left⟩ else ofOrdinalFrom year more (month + 1) (left - n)

def ofOrdinal (year : Int) (n : Nat) : Date :=
  ofOrdinalFrom year 11 1 n

/-- The day of a year with a number from 1, if the year has so many days. -/
def ofOrdinal? (year : Int) (n : Nat) : Option Date :=
  if yearMin ≤ year ∧ year ≤ yearMax ∧ 1 ≤ n ∧ n ≤ daysInYear year then some (ofOrdinal year n)
  else none

/-- The year of a day number: the mean length of a year gives a first guess that is
off by at most one. -/
def yearOf (n : Int) : Int :=
  let guess := (n * 400) / 146097 + 1970
  if n < daysBeforeYear guess then guess - 1
  else if daysBeforeYear (guess + 1) ≤ n then guess + 1
  else guess

def ofDayNumber (n : Int) : Date :=
  let year := yearOf n
  ofOrdinal year ((n - daysBeforeYear year).toNat + 1)

/-- The day of the week of a day number, Sunday being zero. -/
def weekday (n : Int) : Nat :=
  ((n + 4) % 7).toNat

end Date
end TableMill
