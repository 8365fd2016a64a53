import TableMill.Function.Argument
import TableMill.Layout.Read
import TableMill.Layout.Render

/-!
# Functions on date-times
-/

namespace TableMill
namespace Function

def timeParse : List Value → Result Value
  | [layout, value] => do
    let layout ← stringArg "time.Parse" layout
    let value ← stringArg "time.Parse" value
    match Layout.read layout value with
    | some t => .ok (.datetime t)
    | none => fail "time.Parse" (.unparsedTime layout (Layout.shownValue layout value))
  | args => wrongArity "time.Parse" 2 args

def timeFormat : List Value → Result Value
  | [t, layout] => do
    let t ← timeArg "time.Format" t
    let layout ← stringArg "time.Format" layout
    .ok (.text (Layout.render layout t))
  | args => wrongArity "time.Format" 2 args

/-- The date-time with the given parts on the clock of an offset. Second 59 takes up to
two billion nanoseconds. -/
def dateOf? (year month day hour minute second nanos offset : Int) : Option DateTime := do
  guard (-DateTime.offsetLimit < offset ∧ offset < DateTime.offsetLimit)
  guard (0 ≤ month ∧ 0 ≤ day)
  let date ← Date.of? year month.toNat day.toNat
  guard (0 ≤ hour ∧ hour < 24 ∧ 0 ≤ minute ∧ minute < 60 ∧ 0 ≤ second ∧ second < 60)
  guard (0 ≤ nanos ∧ nanos < 2 * DateTime.nanosPerSecond)
  guard (nanos < DateTime.nanosPerSecond ∨ second = 59)
  DateTime.ofLocal? date.dayNumber (hour * 3600 + minute * 60 + second).toNat nanos.toNat offset

def timeDate : List Value → Result Value
  | [year, month, day, hour, minute, second, nanos, offset] => do
    let year ← intArg "time.Date" year
    let month ← intArg "time.Date" month
    let day ← intArg "time.Date" day
    let hour ← intArg "time.Date" hour
    let minute ← intArg "time.Date" minute
    let second ← intArg "time.Date" second
    let nanos ← intArg "time.Date" nanos
    let offset ← intArg "time.Date" offset
    match dateOf? year.toInt month.toInt day.toInt hour.toInt minute.toInt second.toInt
        nanos.toInt offset.toInt with
    | some t => .ok (.datetime t)
    | none =>
      fail "time.Date" (.invalidDate year month day hour minute second nanos offset)
  | args => wrongArity "time.Date" 8 args

/-- An offset in seconds, below a day in magnitude. The least word has no magnitude, and the
program stops there. -/
def fixedZone : List Value → Result Value
  | [name, offset] => do
    let _ ← stringArg "time.FixedZone" name
    let offset ← intArg "time.FixedZone" offset
    match Number.magnitude? offset with
    | none => .error (.overflow (.magnitude offset))
    | some size =>
      if 86400 ≤ size then fail "time.FixedZone" (.zoneRange offset)
      else .ok (.int offset)
  | args => wrongArity "time.FixedZone" 2 args

def timeNow (now : DateTime) : List Value → Result Value
  | [] => .ok (.datetime now)
  | args => wrongArity "time.Now" 0 args

def unix : List Value → Result Value
  | [t] => do
    let t ← timeArg "time.Unix" t
    .ok (.int (Int64.ofInt t.seconds))
  | args => wrongArity "time.Unix" 1 args

def unixMilli : List Value → Result Value
  | [t] => do
    let t ← timeArg "time.UnixMilli" t
    .ok (.int (Int64.ofInt t.millis))
  | args => wrongArity "time.UnixMilli" 1 args

def onTimes (func : String) (f : DateTime → DateTime → Value) : List Value → Result Value
  | [a, b] => do
    let a ← timeArg func a
    let b ← timeArg func b
    .ok (f a b)
  | args => wrongArity func 2 args

/-- The milliseconds from the second time to the first. -/
def diffMilli : List Value → Result Value :=
  onTimes "time.DiffMilli" fun a b => .int (Int64.ofInt (a.diffMillis b))

def timeBefore : List Value → Result Value :=
  onTimes "time.Before" fun a b => .bool (a.cmp b == .lt)

def timeAfter : List Value → Result Value :=
  onTimes "time.After" fun a b => .bool (a.cmp b == .gt)

end Function
end TableMill
