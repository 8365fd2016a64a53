import TableMill.Proofs.OperandKinds

/-!
# Kinds of results

A function that gets as many arguments as it asks for returns a value of one kind or
fails by its values; with another count it refuses the call before it looks at them.
-/

namespace TableMill
namespace Function

variable {P : Value → Prop} (func : String)

theorem foreseen_fail (fault : CallFault) : Foreseen P (fail func fault) := trivial

theorem foreseen_stringArg (v : Value) : Foreseen (fun _ => True) (stringArg func v) := by
  cases v <;> trivial

theorem foreseen_intArg (v : Value) : Foreseen (fun _ => True) (intArg func v) := by
  cases v <;> trivial

theorem foreseen_timeArg (v : Value) : Foreseen (fun _ => True) (timeArg func v) := by
  cases v <;> trivial

theorem foreseen_numberArg (v : Value) : Foreseen (fun _ => True) (numberArg func v) := by
  cases v <;> trivial

theorem ofKind_onNumber (f : Float → Float) (v : Value) :
    OfKind .float (onNumber func f [v]) :=
  (foreseen_numberArg func v).bind fun _ _ => rfl

theorem ofKind_onTimes {f : DateTime → DateTime → Value} {k : Kind}
    (hf : ∀ s t, (f s t).kind = k) (a b : Value) : OfKind k (onTimes func f [a, b]) :=
  (foreseen_timeArg func a).bind fun s _ => (foreseen_timeArg func b).bind fun t _ => hf s t

theorem ofKind_choose (k : Kind) (c a b : Value) : OfKind k (choose func k [c, a, b]) := by
  cases c with
  | bool condition =>
    simp only [choose]
    by_cases ha : a.kind = k
    · by_cases hb : b.kind = k
      · rw [if_neg fun h => h ha, if_neg fun h => h hb]
        cases condition
        · exact hb
        · exact ha
      · rw [if_neg fun h => h ha, if_pos hb]
        exact foreseen_fail func _
    · rw [if_pos ha]
      exact foreseen_fail func _
  | _ => exact foreseen_fail func _

theorem ofKind_convertToInt (v : Value) : OfKind .int (convertToInt [v]) := by
  cases v with
  | text s =>
    simp only [convertToInt]
    split
    · rfl
    · exact foreseen_fail "int" _
  | datetime t => exact foreseen_fail "int" _
  | _ => rfl

theorem ofKind_convertToFloat (v : Value) : OfKind .float (convertToFloat [v]) := by
  cases v with
  | text s =>
    simp only [convertToFloat]
    split
    · rfl
    · exact foreseen_fail "float" _
  | datetime t => exact foreseen_fail "float" _
  | _ => rfl

/-- A float out of range is the one number that is of no decimal and no overflow. -/
theorem foreseen_toDecimal (v : Value) (h : v.isNumeric = true) :
    Foreseen (fun _ => True) v.toDecimal := by
  cases v <;> simp only [Value.isNumeric, Bool.false_eq_true] at h
  case int n =>
    simp only [Value.toDecimal]
    split <;> trivial
  case float x =>
    simp only [Value.toDecimal]
    split
    · trivial
    · rename_i hx
      exact hx
  case decimal d => trivial

theorem ofKind_convertToDecimal (v : Value) : OfKind .decimal (convertToDecimal [v]) := by
  cases v with
  | text s =>
    simp only [convertToDecimal]
    split
    · rfl
    · exact foreseen_fail "decimal2" _
  | bool b => rfl
  | datetime t => exact foreseen_fail "decimal2" _
  | int n => exact (foreseen_toDecimal (.int n) rfl).map fun _ _ => rfl
  | float x => exact (foreseen_toDecimal (.float x) rfl).map fun _ _ => rfl
  | decimal d => exact (foreseen_toDecimal (.decimal d) rfl).map fun _ _ => rfl

theorem ofKind_replaceAll (s old new : Value) : OfKind .text (replaceAll [s, old, new]) :=
  (foreseen_stringArg _ s).bind fun _ _ => (foreseen_stringArg _ old).bind fun _ _ =>
    (foreseen_stringArg _ new).bind fun _ _ => rfl

theorem ofKind_contains (s sub : Value) : OfKind .bool (contains [s, sub]) :=
  (foreseen_stringArg _ s).bind fun _ _ => (foreseen_stringArg _ sub).bind fun _ _ => rfl

theorem ofKind_matchString (pattern s : Value) : OfKind .bool (matchString [pattern, s]) := by
  refine (foreseen_stringArg _ pattern).bind fun p _ => ?_
  refine (foreseen_stringArg _ s).bind fun t _ => ?_
  cases Pattern.matches? p t with
  | ok b => rfl
  | error fault => exact foreseen_fail "re.MatchString" _

theorem ofKind_sprintf (args : List Value) : OfKind .text (sprintf args) := by
  match args with
  | [] | [_] => exact foreseen_fail "fmt.Sprintf" _
  | format :: v :: values => exact (foreseen_stringArg _ format).bind fun _ _ => rfl

theorem ofKind_timeParse (layout value : Value) :
    OfKind .datetime (timeParse [layout, value]) := by
  refine (foreseen_stringArg _ layout).bind fun l _ => ?_
  refine (foreseen_stringArg _ value).bind fun s _ => ?_
  cases Layout.read l s with
  | some t => rfl
  | none => exact foreseen_fail "time.Parse" _

theorem ofKind_timeFormat (t layout : Value) : OfKind .text (timeFormat [t, layout]) :=
  (foreseen_timeArg _ t).bind fun _ _ => (foreseen_stringArg _ layout).bind fun _ _ => rfl

theorem ofKind_timeDate (year month day hour minute second nanos offset : Value) :
    OfKind .datetime (timeDate [year, month, day, hour, minute, second, nanos, offset]) := by
  refine (foreseen_intArg _ year).bind fun y _ => (foreseen_intArg _ month).bind fun m _ =>
    (foreseen_intArg _ day).bind fun d _ => (foreseen_intArg _ hour).bind fun h _ =>
    (foreseen_intArg _ minute).bind fun i _ => (foreseen_intArg _ second).bind fun s _ =>
    (foreseen_intArg _ nanos).bind fun n _ => (foreseen_intArg _ offset).bind fun o _ => ?_
  cases dateOf? y.toInt m.toInt d.toInt h.toInt i.toInt s.toInt n.toInt o.toInt with
  | some t => rfl
  | none => exact foreseen_fail "time.Date" _

theorem ofKind_fixedZone (name offset : Value) : OfKind .int (fixedZone [name, offset]) := by
  refine (foreseen_stringArg _ name).bind fun _ _ => ?_
  refine (foreseen_intArg _ offset).bind fun o _ => ?_
  cases Number.magnitude? o with
  | none => trivial
  | some size =>
    by_cases h : 86400 ≤ size
    · simp only [if_pos h]
      exact foreseen_fail "time.FixedZone" _
    · simp only [if_neg h]
      rfl

end Function

namespace Builtin

def resultKind : Builtin → Kind
  | toInt | byteLength | chooseInt | fixedZone | unix | unixMilli | diffMilli => .int
  | toFloat | squareRoot | roundNumber | chooseFloat => .float
  | toDecimal | chooseDecimal => .decimal
  | toText | chooseText | replaceAll | sprintf | timeFormat => .text
  | contains | matchString | timeBefore | timeAfter => .bool
  | chooseTime | timeParse | timeDate | timeNow => .datetime

def arity? : Builtin → Option Nat
  | timeNow => some 0
  | toText | toInt | toFloat | toDecimal | byteLength | squareRoot | roundNumber | unix
  | unixMilli => some 1
  | contains | matchString | timeParse | timeFormat | fixedZone | diffMilli | timeBefore
  | timeAfter => some 2
  | chooseInt | chooseFloat | chooseDecimal | chooseText | chooseTime | replaceAll => some 3
  | timeDate => some 8
  | sprintf => none

section Arguments

variable {g : List Value → Function.Result Value} {k : Kind} {args : List Value}

theorem ofKind_of_one (hargs : args.length = 1) (h : ∀ v, OfKind k (g [v])) :
    OfKind k (g args) := by
  match args, hargs with
  | [v], _ => exact h v

theorem ofKind_of_two (hargs : args.length = 2) (h : ∀ v w, OfKind k (g [v, w])) :
    OfKind k (g args) := by
  match args, hargs with
  | [v, w], _ => exact h v w

theorem ofKind_of_three (hargs : args.length = 3) (h : ∀ u v w, OfKind k (g [u, v, w])) :
    OfKind k (g args) := by
  match args, hargs with
  | [u, v, w], _ => exact h u v w

end Arguments

open TableMill.Function

variable (f : Builtin) (now : DateTime) {args : List Value}

/-- With the right count of arguments a function fails by its values only. -/
theorem ofKind_apply (h : ∀ n, f.arity? = some n → args.length = n) :
    OfKind f.resultKind (f.apply now args) := by
  cases f with
  | toText => exact ofKind_of_one (h 1 rfl) fun _ => rfl
  | toInt => exact ofKind_of_one (h 1 rfl) ofKind_convertToInt
  | toFloat => exact ofKind_of_one (h 1 rfl) ofKind_convertToFloat
  | toDecimal => exact ofKind_of_one (h 1 rfl) ofKind_convertToDecimal
  | byteLength =>
    exact ofKind_of_one (h 1 rfl) fun s => (foreseen_stringArg _ s).bind fun _ _ => rfl
  | squareRoot => exact ofKind_of_one (h 1 rfl) (ofKind_onNumber _ _)
  | roundNumber => exact ofKind_of_one (h 1 rfl) (ofKind_onNumber _ _)
  | chooseInt => exact ofKind_of_three (h 3 rfl) (ofKind_choose _ _)
  | chooseFloat => exact ofKind_of_three (h 3 rfl) (ofKind_choose _ _)
  | chooseDecimal => exact ofKind_of_three (h 3 rfl) (ofKind_choose _ _)
  | chooseText => exact ofKind_of_three (h 3 rfl) (ofKind_choose _ _)
  | chooseTime => exact ofKind_of_three (h 3 rfl) (ofKind_choose _ _)
  | replaceAll => exact ofKind_of_three (h 3 rfl) ofKind_replaceAll
  | contains => exact ofKind_of_two (h 2 rfl) ofKind_contains
  | matchString => exact ofKind_of_two (h 2 rfl) ofKind_matchString
  | sprintf => exact ofKind_sprintf args
  | timeParse => exact ofKind_of_two (h 2 rfl) ofKind_timeParse
  | timeFormat => exact ofKind_of_two (h 2 rfl) ofKind_timeFormat
  | timeDate =>
    match args, h 8 rfl with
    | [y, m, d, h, i, s, n, o], _ => exact ofKind_timeDate y m d h i s n o
  | fixedZone => exact ofKind_of_two (h 2 rfl) ofKind_fixedZone
  | timeNow =>
    obtain rfl := List.length_eq_zero_iff.1 (h 0 rfl)
    rfl
  | unix => exact ofKind_of_one (h 1 rfl) fun t => (foreseen_timeArg _ t).bind fun _ _ => rfl
  | unixMilli =>
    exact ofKind_of_one (h 1 rfl) fun t => (foreseen_timeArg _ t).bind fun _ _ => rfl
  | diffMilli => exact ofKind_of_two (h 2 rfl) (ofKind_onTimes _ fun _ _ => rfl)
  | timeBefore => exact ofKind_of_two (h 2 rfl) (ofKind_onTimes _ fun _ _ => rfl)
  | timeAfter => exact ofKind_of_two (h 2 rfl) (ofKind_onTimes _ fun _ _ => rfl)

theorem apply_wrongArity {n : Nat} (h : f.arity? = some n) (hn : args.length ≠ n) :
    f.apply now args = .error (.arity f.name n args.length) := by
  cases f <;> cases h <;>
    simp only [apply, Function.convertToText, Function.convertToInt, Function.convertToFloat,
      Function.convertToDecimal, Function.byteLength, Function.squareRoot, Function.roundNumber,
      Function.onNumber, Function.choose, Function.replaceAll, Function.contains,
      Function.matchString, Function.timeParse, Function.timeFormat, Function.timeDate,
      Function.fixedZone, Function.timeNow, Function.unix, Function.unixMilli,
      Function.diffMilli, Function.timeBefore, Function.timeAfter, Function.onTimes] <;>
    split <;> first | exact (hn rfl).elim | rfl

theorem of_apply_ok {v : Value} (h : f.apply now args = .ok v) :
    (∀ n, f.arity? = some n → args.length = n) ∧ v.kind = f.resultKind := by
  have hargs : ∀ n, f.arity? = some n → args.length = n := by
    intro n hn
    by_cases hlen : args.length = n
    · exact hlen
    · rw [f.apply_wrongArity now hn hlen] at h
      cases h
  have hv := f.ofKind_apply now hargs
  rw [h] at hv
  exact ⟨hargs, hv⟩

end Builtin
end TableMill
