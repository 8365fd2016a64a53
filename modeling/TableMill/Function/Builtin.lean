import TableMill.Function.Conversion
import TableMill.Function.Template
import TableMill.Function.Basic
import TableMill.Function.Calendar

/-!
# The functions that expressions can call
-/

namespace TableMill

inductive Builtin
  | toText | toInt | toFloat | toDecimal
  | byteLength | squareRoot | roundNumber
  | chooseInt | chooseFloat | chooseDecimal | chooseText | chooseTime
  | replaceAll | contains | matchString | sprintf
  | timeParse | timeFormat | timeDate | fixedZone | timeNow
  | unix | unixMilli | diffMilli | timeBefore | timeAfter
  deriving DecidableEq, Repr

namespace Builtin

def name : Builtin → String
  | toText => "string"
  | toInt => "int"
  | toFloat => "float"
  | toDecimal => "decimal2"
  | byteLength => "len"
  | squareRoot => "math.Sqrt"
  | roundNumber => "math.Round"
  | chooseInt => "int.iif"
  | chooseFloat => "float.iif"
  | chooseDecimal => "decimal2.iif"
  | chooseText => "string.iif"
  | chooseTime => "time.iif"
  | replaceAll => "strings.ReplaceAll"
  | contains => "strings.Contains"
  | matchString => "re.MatchString"
  | sprintf => "fmt.Sprintf"
  | timeParse => "time.Parse"
  | timeFormat => "time.Format"
  | timeDate => "time.Date"
  | fixedZone => "time.FixedZone"
  | timeNow => "time.Now"
  | unix => "time.Unix"
  | unixMilli => "time.UnixMilli"
  | diffMilli => "time.DiffMilli"
  | timeBefore => "time.Before"
  | timeAfter => "time.After"

def ofName? : String → Option Builtin
  | "string" => some toText
  | "int" => some toInt
  | "float" => some toFloat
  | "decimal2" => some toDecimal
  | "len" => some byteLength
  | "math.Sqrt" => some squareRoot
  | "math.Round" => some roundNumber
  | "int.iif" => some chooseInt
  | "float.iif" => some chooseFloat
  | "decimal2.iif" => some chooseDecimal
  | "string.iif" => some chooseText
  | "time.iif" => some chooseTime
  | "strings.ReplaceAll" => some replaceAll
  | "strings.Contains" => some contains
  | "re.MatchString" => some matchString
  | "fmt.Sprintf" => some sprintf
  | "time.Parse" => some timeParse
  | "time.Format" => some timeFormat
  | "time.Date" => some timeDate
  | "time.FixedZone" => some fixedZone
  | "time.Now" => some timeNow
  | "time.Unix" => some unix
  | "time.UnixMilli" => some unixMilli
  | "time.DiffMilli" => some diffMilli
  | "time.Before" => some timeBefore
  | "time.After" => some timeAfter
  | _ => none

theorem ofName?_name (f : Builtin) : ofName? f.name = some f := by
  cases f <;> rfl

/-- Applies a function to its arguments. Only the current time depends on `now`. -/
def apply (now : DateTime) : Builtin → List Value → Function.Result Value
  | toText => Function.convertToText
  | toInt => Function.convertToInt
  | toFloat => Function.convertToFloat
  | toDecimal => Function.convertToDecimal
  | byteLength => Function.byteLength
  | squareRoot => Function.squareRoot
  | roundNumber => Function.roundNumber
  | chooseInt => Function.choose "int.iif" .int
  | chooseFloat => Function.choose "float.iif" .float
  | chooseDecimal => Function.choose "decimal2.iif" .decimal
  | chooseText => Function.choose "string.iif" .text
  | chooseTime => Function.choose "time.iif" .datetime
  | replaceAll => Function.replaceAll
  | contains => Function.contains
  | matchString => Function.matchString
  | sprintf => Function.sprintf
  | timeParse => Function.timeParse
  | timeFormat => Function.timeFormat
  | timeDate => Function.timeDate
  | fixedZone => Function.fixedZone
  | timeNow => Function.timeNow now
  | unix => Function.unix
  | unixMilli => Function.unixMilli
  | diffMilli => Function.diffMilli
  | timeBefore => Function.timeBefore
  | timeAfter => Function.timeAfter

end Builtin

def callFunction (now : DateTime) (name : String) (args : List Value) :
    Except EvalError Value :=
  match Builtin.ofName? name with
  | some f => f.apply now args
  | none => .error (.unknownFunction name)

end TableMill
