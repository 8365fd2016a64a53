import TableMill.Function.Argument
import TableMill.Pattern.Match
import TableMill.Text.Search

/-!
# Functions on texts and numbers
-/

namespace TableMill
namespace Function

/-- The length of a text in bytes. -/
def byteLength : List Value → Result Value
  | [s] => do
    let s ← stringArg "len" s
    .ok (.int (Int64.ofNat s.utf8ByteSize))
  | args => wrongArity "len" 1 args

/-- Replaces every occurrence of the second text by the third. -/
def replaceAll : List Value → Result Value
  | [s, old, new] => do
    let s ← stringArg "strings.ReplaceAll" s
    let old ← stringArg "strings.ReplaceAll" old
    let new ← stringArg "strings.ReplaceAll" new
    .ok (.text (Text.replaceAll s old new))
  | args => wrongArity "strings.ReplaceAll" 3 args

/-- Whether the second text occurs in the first. -/
def contains : List Value → Result Value
  | [s, sub] => do
    let s ← stringArg "strings.Contains" s
    let sub ← stringArg "strings.Contains" sub
    .ok (.bool (Text.contains s sub))
  | args => wrongArity "strings.Contains" 2 args

/-- Whether a pattern matches somewhere in a text. -/
def matchString : List Value → Result Value
  | [pattern, s] => do
    let pattern ← stringArg "re.MatchString" pattern
    let s ← stringArg "re.MatchString" s
    match Pattern.matches? pattern s with
    | .ok b => .ok (.bool b)
    | .error fault => fail "re.MatchString" (.badPattern pattern fault.message)
  | args => wrongArity "re.MatchString" 2 args

def onNumber (func : String) (f : Float → Float) : List Value → Result Value
  | [v] => do
    let x ← numberArg func v
    .ok (.float (f x))
  | args => wrongArity func 1 args

def squareRoot : List Value → Result Value :=
  onNumber "math.Sqrt" Float.sqrt

/-- Rounds to a whole number, halves away from zero. -/
def roundNumber : List Value → Result Value :=
  onNumber "math.Round" Float.round

/-- One of two values of a type, by a condition. -/
def choose (func : String) (kind : Kind) : List Value → Result Value
  | [.bool condition, a, b] =>
    if a.kind ≠ kind then fail func (.wrongBranch kind a)
    else if b.kind ≠ kind then fail func (.wrongBranch kind b)
    else .ok (if condition then a else b)
  | [v, _, _] => fail func (.notBoolFirst v)
  | args => wrongArity func 3 args

end Function
end TableMill
