import TableMill.Layout.Basic
import TableMill.Value.DateTime

/-!
# Writing a date-time in a layout
-/

namespace TableMill
namespace Layout

def twoDigits (padding : Padding) (n : Nat) : String :=
  match padding with
  | .zero => Number.padded 2 n
  | .space => if n < 10 then " " ++ toString n else toString n
  | .none => toString n

def clockHour (hour : Nat) : Nat :=
  if hour % 12 = 0 then 12 else hour % 12

def Item.render (t : DateTime) : Item → String :=
  let date := Date.ofDayNumber t.localDay
  let s := t.secondOfDay
  let nanos := t.nanos % DateTime.nanosPerSecond
  fun
  | year => DateTime.yearText date.year
  | yearOfCentury => Number.padded 2 (date.year % 100).toNat
  | month p => twoDigits p date.month
  | day p => twoDigits p date.day
  | dayOfYear => Number.padded 3 date.ordinal
  | monthName long =>
    let name := monthNames.getD (date.month - 1) ""
    if long then name else shortName name
  | weekdayName long =>
    let name := weekdayNames.getD (Date.weekday t.localDay) ""
    if long then name else shortName name
  | hour => twoDigits .zero (s / 3600)
  | hour12 p => twoDigits p (clockHour (s / 3600))
  | minute p => twoDigits p (s / 60 % 60)
  | second p => twoDigits p (s % 60 + t.nanos / DateTime.nanosPerSecond)
  | fraction digits => "." ++ Number.padded digits (nanos / Nat.pow 10 (9 - digits))
  | halfDay upper =>
    match upper, decide (s / 3600 < 12) with
    | true, true => "AM"
    | true, false => "PM"
    | false, true => "am"
    | false, false => "pm"
  | zoneName => DateTime.zoneText t.offset
  | offset colon => DateTime.offsetText (if colon then ":" else "") t.offset

def render (layout : String) (t : DateTime) : String :=
  String.join ((pieces layout).map fun
    | .item i => i.render t
    | .char c => String.singleton c)

end Layout
end TableMill
