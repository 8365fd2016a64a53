import TableMill.Proofs.AggregateSteps
import TableMill.Proofs.MachineOperators
import TableMill.Proofs.ResultKinds

/-!
# Functions and aggregates on the machine

Of the functions, one stops the machine, at one argument: the magnitude of the least offset of a
zone is no word, and the program stops there. Of the changes of an aggregation, only the count of its
values may stop the machine, and does not below the greatest word.
-/

namespace TableMill
namespace Machine

open Number Width Calculation

/-! ## Functions -/

/-- The text of a value. Only that of a decimal takes arithmetic of this program. -/
def text : Value → Machine String
  | .decimal d => toText d
  | v => .ok v.toText

def convertToText : List Value → Calculation Value
  | [v] => do
    let s ← machine (text v)
    pure (.text s)
  | args => exactly (Function.convertToText args)

def convertToInt : List Value → Calculation Value
  | [.decimal d] => do
    let w ← machine (trunc d)
    pure (.int w)
  | args => exactly (Function.convertToInt args)

def convertToDecimal : List Value → Calculation Value
  | [.bool b] => do
    let d ← machine (ofBool b)
    pure (.decimal d)
  | [.text s] => do
    let d ← machine (ofText? s)
    match d with
    | some d => pure (.decimal d)
    | none => exactly (Function.fail "decimal2" (.notDecimal s))
  | [.datetime t] => exactly (Function.fail "decimal2" (.unsupportedArg (.datetime t)))
  | [v] => do
    let d ← toDecimal v
    pure (.decimal d)
  | args => exactly (Function.convertToDecimal args)

/-- Fills a template. A verb, or what is left over, may ask for the text of any value. -/
def sprintf (args : List Value) : Calculation Value := do
  let _ ← machine (args.mapM text)
  exactly (Function.sprintf args)

def fixedZone : List Value → Calculation Value
  | [name, offset] => do
    let _ ← exactly (Function.stringArg "time.FixedZone" name)
    let offset ← exactly (Function.intArg "time.FixedZone" offset)
    let size ← machine (i64.magnitude offset.toInt)
    if 86400 ≤ size then exactly (Function.fail "time.FixedZone" (.zoneRange offset))
    else pure (.int offset)
  | args => exactly (Function.fixedZone args)

/-- Applies a function to its arguments. Those that are not listed do no arithmetic of their own on
machine integers. -/
def builtin (now : DateTime) (f : Builtin) (args : List Value) : Calculation Value :=
  match f with
  | .toText => convertToText args
  | .toInt => convertToInt args
  | .toDecimal => convertToDecimal args
  | .sprintf => sprintf args
  | .fixedZone => fixedZone args
  | f => exactly (f.apply now args)

def zoneTrap : Trap := ⟨.i64, .magnitude, [wordMin]⟩

/-- Whether a function is applied to a zone that is offset by the least word. -/
def LeastZone (f : Builtin) (args : List Value) : Prop :=
  f = .fixedZone ∧ ∃ name, args = [.text name, .int Int64.minValue]

@[simp] theorem text_value (v : Value) : text v = .ok v.toText := by
  cases v with
  | decimal d => exact toText_value d
  | _ => rfl

theorem mapM_text (args : List Value) : args.mapM text = .ok (args.map Value.toText) := by
  induction args with
  | nil => rfl
  | cons v args ih =>
    rw [List.mapM_cons, text_value, ih]
    rfl

theorem convertToText_value (args : List Value) :
    convertToText args = exactly (Function.convertToText args) := by
  unfold convertToText
  split
  · rw [text_value]
    rfl
  · rfl

theorem convertToInt_value (args : List Value) :
    convertToInt args = exactly (Function.convertToInt args) := by
  unfold convertToInt
  split
  · rw [trunc_value]
    rfl
  · rfl

theorem convertToDecimal_value (args : List Value) :
    convertToDecimal args = exactly (Function.convertToDecimal args) := by
  unfold convertToDecimal
  split
  · rw [ofBool_value]
    rfl
  · next s =>
    rw [ofText?_value, Function.convertToDecimal]
    cases Decimal.ofText? s <;> rfl
  · rfl
  · next v hbool htext htime =>
    rw [toDecimal_value]
    cases v with
    | bool b => exact absurd rfl (hbool b)
    | text s => exact absurd rfl (htext s)
    | datetime t => exact absurd rfl (htime t)
    | _ => exact exactly_bind _ _
  · rfl

theorem sprintf_value (args : List Value) : sprintf args = exactly (Function.sprintf args) := by
  rw [sprintf, mapM_text]
  rfl

theorem fixedZone_of_magnitude (name : String) {offset size : Int64}
    (h : magnitude? offset = some size) :
    Function.fixedZone [.text name, .int offset] =
      if 86400 ≤ size then Function.fail "time.FixedZone" (.zoneRange offset)
      else .ok (.int offset) := by
  simp only [Function.fixedZone, Function.stringArg, Function.intArg, bind, Except.bind, h]

theorem fixedZone_value {args : List Value} (h : ¬LeastZone .fixedZone args) :
    fixedZone args = exactly (Function.fixedZone args) := by
  unfold fixedZone
  split
  · next name offset =>
    cases name with
    | text s =>
      cases offset with
      | int n =>
        cases hsize : magnitude? n with
        | none => exact absurd ⟨rfl, s, by rw [magnitude?_eq_none.1 hsize]⟩ h
        | some size =>
          have habs : size.toInt = n.toInt.natAbs := toInt_of_narrow? hsize
          have hfits : i64.Fits n.toInt.natAbs := habs ▸ inWords_toInt size
          have hlong : (86400 : Int) ≤ n.toInt.natAbs ↔ 86400 ≤ size := by
            rw [← habs, Int64.le_iff_toInt_le]
            rfl
          rw [fixedZone_of_magnitude s hsize]
          simp only [Function.stringArg, Function.intArg, exactly_ok_bind, magnitude,
            perform_of_fits hfits, machine_ok, hlong]
          split <;> rfl
      | _ => rfl
    | _ => rfl
  · rfl

/-- A function is applied as exact integers have it, unless it is to make a zone of the least
offset. -/
theorem builtin_value (now : DateTime) {f : Builtin} {args : List Value} (h : ¬LeastZone f args) :
    builtin now f args = exactly (f.apply now args) := by
  cases f with
  | toText => exact convertToText_value args
  | toInt => exact convertToInt_value args
  | toDecimal => exact convertToDecimal_value args
  | sprintf => exact sprintf_value args
  | fixedZone => exact fixedZone_value h
  | _ => rfl

theorem builtin_leastZone (now : DateTime) {f : Builtin} {args : List Value}
    (h : LeastZone f args) : (builtin now f args).run = .error zoneTrap ∧
      f.apply now args = .error (.overflow (.magnitude Int64.minValue)) := by
  obtain ⟨rfl, name, rfl⟩ := h
  exact ⟨rfl, rfl⟩

/-- The offsets of zones are shorter than a day. -/
theorem fixedZone_offsets (name : String) (offset : Int64) :
    Function.fixedZone [.text name, .int offset] =
      if -DateTime.offsetLimit < offset.toInt ∧ offset.toInt < DateTime.offsetLimit then
        .ok (.int offset)
      else if offset = Int64.minValue then .error (.overflow (.magnitude offset))
      else Function.fail "time.FixedZone" (.zoneRange offset) := by
  cases hsize : magnitude? offset with
  | none =>
    obtain rfl := magnitude?_eq_none.1 hsize
    rfl
  | some size =>
    have hne : offset ≠ Int64.minValue := fun hmin => by
      rw [magnitude?_eq_none.2 hmin] at hsize
      cases hsize
    have habs : size.toInt = offset.toInt.natAbs := toInt_of_narrow? hsize
    have hshort : ¬86400 ≤ size ↔
        -DateTime.offsetLimit < offset.toInt ∧ offset.toInt < DateTime.offsetLimit := by
      rw [Int64.le_iff_toInt_le, habs, DateTime.offsetLimit,
        show (86400 : Int64).toInt = 86400 from rfl]
      omega
    rw [fixedZone_of_magnitude name hsize]
    simp only [← hshort, if_neg hne, ite_not]

/-- At the start of 1970 there is a date with every offset that is shorter than a day. -/
theorem dateOf?_epoch {offset : Int}
    (h : -DateTime.offsetLimit < offset ∧ offset < DateTime.offsetLimit) :
    Function.dateOf? 1970 1 1 0 0 0 0 offset = some ⟨-offset, 0, offset⟩ := by
  have hrange : DateTime.secondsMin ≤ -offset ∧ -offset ≤ DateTime.secondsMax := by
    simp only [DateTime.offsetLimit, DateTime.secondsMin, DateTime.secondsMax] at *
    omega
  have hlocal : DateTime.ofLocal? 0 0 0 offset = some ⟨-offset, 0, offset⟩ := by
    simp [DateTime.ofLocal?, hrange]
  rw [Function.dateOf?, guard, if_pos h]
  exact hlocal

theorem offset_of_dateOf? {year month day hour minute second nanos offset : Int}
    (h : (Function.dateOf? year month day hour minute second nanos offset).isSome) :
    -DateTime.offsetLimit < offset ∧ offset < DateTime.offsetLimit := by
  by_contra hlong
  rw [Function.dateOf?, guard, if_neg hlong] at h
  cases h

/-- Zones are made of the offsets that dates have. -/
theorem fixedZone_accepts_iff (name : String) (offset : Int64) :
    Function.fixedZone [.text name, .int offset] = .ok (.int offset) ↔
      ∃ year month day hour minute second nanos : Int,
        (Function.dateOf? year month day hour minute second nanos offset.toInt).isSome := by
  have hshort : Function.fixedZone [.text name, .int offset] = .ok (.int offset) ↔
      -DateTime.offsetLimit < offset.toInt ∧ offset.toInt < DateTime.offsetLimit := by
    rw [fixedZone_offsets]
    split
    · next h => exact iff_of_true rfl h
    · next h =>
      refine iff_of_false (fun hok => ?_) h
      split at hok <;> cases hok
  rw [hshort]
  constructor
  · intro h
    exact ⟨1970, 1, 1, 0, 0, 0, 0, Option.isSome_of_eq_some (dateOf?_epoch h)⟩
  · rintro ⟨year, month, day, hour, minute, second, nanos, h⟩
    exact offset_of_dateOf? h

end Machine

/-! ## Functions do not stop elsewhere -/

namespace Function

variable (func : String) (v : Value)

theorem stopped_stringArg : stopped (stringArg func v) = false := by
  cases v <;> rfl

theorem stopped_intArg : stopped (intArg func v) = false := by
  cases v <;> rfl

theorem stopped_timeArg : stopped (timeArg func v) = false := by
  cases v <;> rfl

theorem stopped_numberArg : stopped (numberArg func v) = false := by
  cases v <;> rfl

theorem stopped_choose (k : Kind) (c a b : Value) :
    stopped (choose func k [c, a, b]) = false := by
  cases c with
  | bool condition =>
    simp only [choose]
    split
    · rfl
    · split <;> rfl
  | _ => rfl

theorem stopped_convertToInt : stopped (convertToInt [v]) = false := by
  cases v with
  | text s =>
    simp only [convertToInt]
    split <;> rfl
  | _ => rfl

theorem stopped_convertToFloat : stopped (convertToFloat [v]) = false := by
  cases v with
  | text s =>
    simp only [convertToFloat]
    split <;> rfl
  | _ => rfl

theorem stopped_convertToDecimal : stopped (convertToDecimal [v]) = false := by
  cases v with
  | text s =>
    simp only [convertToDecimal]
    split <;> rfl
  | int n => exact stopped_map (Value.stopped_toDecimal (.int n))
  | float x => exact stopped_map (Value.stopped_toDecimal (.float x))
  | _ => rfl

theorem stopped_sprintf (args : List Value) : stopped (sprintf args) = false := by
  match args with
  | [] | [_] => rfl
  | format :: _ :: _ => exact stopped_bind (stopped_stringArg _ format) fun _ => rfl

theorem stopped_onTimes (f : DateTime → DateTime → Value) (a b : Value) :
    stopped (onTimes func f [a, b]) = false :=
  stopped_bind (stopped_timeArg func a) fun _ => stopped_bind (stopped_timeArg func b) fun _ => rfl

theorem stopped_matchString (pattern s : Value) :
    stopped (matchString [pattern, s]) = false := by
  refine stopped_bind (stopped_stringArg _ pattern) fun p => ?_
  refine stopped_bind (stopped_stringArg _ s) fun t => ?_
  cases Pattern.matches? p t <;> rfl

theorem stopped_timeParse (layout value : Value) :
    stopped (timeParse [layout, value]) = false := by
  refine stopped_bind (stopped_stringArg _ layout) fun l => ?_
  refine stopped_bind (stopped_stringArg _ value) fun s => ?_
  cases Layout.read l s <;> rfl

theorem stopped_timeDate (year month day hour minute second nanos offset : Value) :
    stopped (timeDate [year, month, day, hour, minute, second, nanos, offset]) = false := by
  refine stopped_bind (stopped_intArg _ year) fun y => stopped_bind (stopped_intArg _ month) fun m =>
    stopped_bind (stopped_intArg _ day) fun d => stopped_bind (stopped_intArg _ hour) fun h =>
    stopped_bind (stopped_intArg _ minute) fun i => stopped_bind (stopped_intArg _ second) fun s =>
    stopped_bind (stopped_intArg _ nanos) fun n => stopped_bind (stopped_intArg _ offset) fun o => ?_
  cases dateOf? y.toInt m.toInt d.toInt h.toInt i.toInt s.toInt n.toInt o.toInt <;> rfl

theorem stopped_fixedZone {name offset : Value}
    (h : ¬Machine.LeastZone .fixedZone [name, offset]) :
    stopped (fixedZone [name, offset]) = false := by
  cases name with
  | text s =>
    cases offset with
    | int n =>
      have hne : n ≠ Int64.minValue := fun hmin => h ⟨rfl, s, by rw [hmin]⟩
      rw [Machine.fixedZone_offsets, if_neg hne]
      split <;> rfl
    | _ => rfl
  | _ => rfl

end Function

namespace Builtin

open TableMill.Function

theorem stopped_apply (f : Builtin) (now : DateTime) {args : List Value}
    (h : ¬Machine.LeastZone f args) : stopped (f.apply now args) = false := by
  by_cases hcount : ∃ n, f.arity? = some n ∧ args.length ≠ n
  · obtain ⟨n, hn, hlength⟩ := hcount
    rw [f.apply_wrongArity now hn hlength]
    rfl
  have hargs : ∀ n, f.arity? = some n → args.length = n := fun n hn =>
    by_contra fun hne => hcount ⟨n, hn, hne⟩
  cases f with
  | toText =>
    obtain ⟨v, rfl⟩ := List.length_eq_one_iff.1 (hargs 1 rfl)
    rfl
  | toInt =>
    obtain ⟨v, rfl⟩ := List.length_eq_one_iff.1 (hargs 1 rfl)
    exact stopped_convertToInt v
  | toFloat =>
    obtain ⟨v, rfl⟩ := List.length_eq_one_iff.1 (hargs 1 rfl)
    exact stopped_convertToFloat v
  | toDecimal =>
    obtain ⟨v, rfl⟩ := List.length_eq_one_iff.1 (hargs 1 rfl)
    exact stopped_convertToDecimal v
  | byteLength =>
    obtain ⟨v, rfl⟩ := List.length_eq_one_iff.1 (hargs 1 rfl)
    exact stopped_bind (stopped_stringArg _ v) fun _ => rfl
  | squareRoot | roundNumber =>
    obtain ⟨v, rfl⟩ := List.length_eq_one_iff.1 (hargs 1 rfl)
    exact stopped_bind (stopped_numberArg _ v) fun _ => rfl
  | unix | unixMilli =>
    obtain ⟨v, rfl⟩ := List.length_eq_one_iff.1 (hargs 1 rfl)
    exact stopped_bind (stopped_timeArg _ v) fun _ => rfl
  | chooseInt | chooseFloat | chooseDecimal | chooseText | chooseTime =>
    obtain ⟨c, a, b, rfl⟩ := List.length_eq_three.1 (hargs 3 rfl)
    exact stopped_choose _ _ c a b
  | replaceAll =>
    obtain ⟨s, old, new, rfl⟩ := List.length_eq_three.1 (hargs 3 rfl)
    exact stopped_bind (stopped_stringArg _ s) fun _ =>
      stopped_bind (stopped_stringArg _ old) fun _ =>
      stopped_bind (stopped_stringArg _ new) fun _ => rfl
  | contains =>
    obtain ⟨s, sub, rfl⟩ := List.length_eq_two.1 (hargs 2 rfl)
    exact stopped_bind (stopped_stringArg _ s) fun _ =>
      stopped_bind (stopped_stringArg _ sub) fun _ => rfl
  | matchString =>
    obtain ⟨pattern, s, rfl⟩ := List.length_eq_two.1 (hargs 2 rfl)
    exact stopped_matchString pattern s
  | sprintf => exact stopped_sprintf args
  | timeParse =>
    obtain ⟨layout, value, rfl⟩ := List.length_eq_two.1 (hargs 2 rfl)
    exact stopped_timeParse layout value
  | timeFormat =>
    obtain ⟨t, layout, rfl⟩ := List.length_eq_two.1 (hargs 2 rfl)
    exact stopped_bind (stopped_timeArg _ t) fun _ =>
      stopped_bind (stopped_stringArg _ layout) fun _ => rfl
  | timeDate =>
    match args, hargs 8 rfl with
    | [y, m, d, h, i, s, n, o], _ => exact stopped_timeDate y m d h i s n o
  | fixedZone =>
    obtain ⟨name, offset, rfl⟩ := List.length_eq_two.1 (hargs 2 rfl)
    exact stopped_fixedZone h
  | timeNow =>
    obtain rfl := List.length_eq_zero_iff.1 (hargs 0 rfl)
    rfl
  | diffMilli | timeBefore | timeAfter =>
    obtain ⟨a, b, rfl⟩ := List.length_eq_two.1 (hargs 2 rfl)
    exact stopped_onTimes _ _ a b

end Builtin

namespace Machine

open Number Width Calculation

/-! ## Aggregates -/

def count (s : Aggregation) : Calculation Aggregation := do
  let n ← machine (i64.sum s.count 1)
  pure { s with count := n.toNat }

def addTo? : Total → Value → Option Total
  | .int a, .int v => (checked (i64.sum a.toInt v.toInt)).map Total.int
  | .decimal a, .decimal v => (add? a v).map Total.decimal
  | t, v => t.add? v

def accumulate (s : Aggregation) (f : Aggregate) (v : Value) (separator : String) :
    Calculation Aggregation :=
  match s.total, f.base with
  | some t, .sum | some t, .avg => match addTo? t v with
    | some u => count { s with total := some u }
    | none => exactly (.error (.overflow (.accumulator f.name)))
  | _, _ => exactly (s.accumulate f v separator)

def mean? (n : Nat) : Total → Machine (Option Value)
  | .int a =>
    if n = 0 then pure (some (.int 0))
    else do
      let mean ← i64.quotient a.toInt n
      pure (some (.int (Int64.ofInt mean)))
  | .decimal a =>
    if n = 0 then pure (some (.decimal .zero))
    else do
      let mean ← divCount? a (Int64.ofNat n)
      pure (mean.map Value.decimal)
  | t => pure (t.mean? n)

def current (s : Aggregation) (f : Aggregate) : Calculation Value :=
  match f.base, s.total with
  | .avg, some t => do
    let mean ← machine (mean? s.count t)
    match mean with
    | some v => pure v
    | none => exactly (.error (.overflow (.accumulator "avg")))
  | _, _ => exactly (s.current f)

variable {s : Aggregation}

theorem count_value (hs : (s.count : Int) < wordMax) :
    count s = exactly (.ok { s with count := s.count + 1 }) := by
  have hfits : i64.Fits (s.count + 1) := by
    simp only [Fits, low, high, wordMax] at *
    omega
  rw [count, sum, perform_of_fits hfits]
  rfl

@[simp] theorem addTo?_value (t : Total) (v : Value) : addTo? t v = t.add? v := by
  cases t with
  | int a =>
    cases v with
    | int n => exact congrArg (Option.map Total.int) (checked_perform ..)
    | _ => rfl
  | decimal a =>
    cases v with
    | decimal d => exact congrArg (Option.map Total.decimal) (add?_value a d)
    | _ => rfl
  | _ => rfl

theorem accumulate_value (hs : (s.count : Int) < wordMax) (f : Aggregate) (v : Value)
    (separator : String) : accumulate s f v separator = exactly (s.accumulate f v separator) := by
  obtain ⟨bound, total, n⟩ := s
  cases total with
  | none => rfl
  | some t =>
    obtain ⟨base, conditional⟩ := f
    cases base with
    | sum | avg =>
      unfold accumulate Aggregation.accumulate
      simp only [addTo?_value]
      cases t.add? v with
      | none => rfl
      | some u => exact count_value hs
    | _ => rfl

theorem mean?_value (n : Nat) (t : Total) : mean? n t = .ok (t.mean? n) := by
  cases t with
  | int a =>
    by_cases hn : n = 0
    · simp only [mean?, Total.mean?, if_pos hn]
      rfl
    · have hne : (n : ℤ) ≠ 0 := Int.ofNat_ne_zero.2 hn
      have hcut : cutToZero ((a.toInt : ℚ) / (n : ℤ)) = a.toInt.tdiv n := cutToZero_div hne
      have hfits : i64.Fits (a.toInt.tdiv n) :=
        hcut ▸ inWords_of_between (inWords_toInt a) (cutToZero_div_bounds (by omega))
      simp only [mean?, Total.mean?, if_neg hn, quotient_of_fits hne hfits]
      rfl
  | decimal a =>
    by_cases hn : n = 0
    · simp only [mean?, Total.mean?, if_pos hn]
      rfl
    · simp only [mean?, Total.mean?, if_neg hn, divCount?_value]
      rfl
  | _ => rfl

theorem current_value (s : Aggregation) (f : Aggregate) : current s f = exactly (s.current f) := by
  obtain ⟨bound, total, n⟩ := s
  obtain ⟨base, conditional⟩ := f
  cases base with
  | avg =>
    cases total with
    | none => rfl
    | some t =>
      unfold current Aggregation.current
      simp only [mean?_value]
      cases t.mean? n <;> rfl
  | _ => cases total <;> rfl

end Machine

/-! ## Aggregates do not stop -/

theorem Aggregate.stopped_separator (f : Aggregate) (args : List Expr) :
    stopped (f.separator args) = false := by
  unfold separator
  split <;> rfl

namespace Aggregation

variable (s : Aggregation) (f : Aggregate) (v : Value)

theorem stopped_bindTo (site : CallSite) : stopped (s.bind site f) = false := by
  unfold bind
  split
  · rfl
  · split <;> rfl

theorem stopped_lock : stopped (s.lock f v) = false := by
  unfold lock
  split
  · rfl
  · split
    · rfl
    · split <;> rfl

theorem stopped_accumulate (separator : String) : stopped (s.accumulate f v separator) = false := by
  obtain ⟨bound, total, count⟩ := s
  obtain ⟨base, conditional⟩ := f
  cases total with
  | none => rfl
  | some t =>
    cases base with
    | sum | avg =>
      simp only [accumulate]
      split <;> rfl
    | _ => rfl

theorem stopped_current : stopped (s.current f) = false := by
  obtain ⟨bound, total, count⟩ := s
  obtain ⟨base, conditional⟩ := f
  cases total with
  | none => cases base <;> rfl
  | some t =>
    cases base with
    | avg =>
      simp only [current]
      split <;> rfl
    | _ => rfl

end Aggregation

/-! ## Names do not stop -/

theorem stopped_identifierValue (name : String) : stopped (identifierValue name) = false := by
  unfold identifierValue
  split <;> rfl

theorem stopped_select (vars : Bindings) (table field : String) :
    stopped (select vars table field) = false := by
  unfold select
  cases constant? table field with
  | some v => rfl
  | none =>
    cases Assoc.get? vars table with
    | none => rfl
    | some r => cases hv : Assoc.get? r field <;> simp only [hv] <;> rfl

end TableMill
