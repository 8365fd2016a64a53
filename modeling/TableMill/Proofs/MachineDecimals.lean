import TableMill.Proofs.DecimalNumerals
import TableMill.Proofs.MachineIntegers

/-!
# Decimals on the machine

The operations on decimals, done step by step on integers of fixed widths. Whatever the operands,
none of the steps stops the machine, and what it comes to is what exact integers give.

The lengths of texts are no machine integers here: the memory that holds a text bounds them.
-/

namespace TableMill
namespace Machine

open Number Width
open Text (isDigit)

/-! ## Arithmetic -/

def ofWord? (w : Int64) : Option Decimal := (checked (i64.product w.toInt 100)).map Decimal.mk

def add? (a b : Decimal) : Option Decimal :=
  (checked (i64.sum a.cents.toInt b.cents.toInt)).map Decimal.mk

def sub? (a b : Decimal) : Option Decimal :=
  (checked (i64.difference a.cents.toInt b.cents.toInt)).map Decimal.mk

def neg? (a : Decimal) : Option Decimal := (checked (i64.negative a.cents.toInt)).map Decimal.mk

def rem? (a b : Decimal) : Option Decimal :=
  (checked (i64.remainder a.cents.toInt b.cents.toInt)).map Decimal.mk

def mul? (a b : Decimal) : Machine (Option Decimal) := do
  let product ← i128.product a.cents.toInt b.cents.toInt
  let hundredths ← divRound product 100
  pure (Decimal.ofCents? hundredths)

def div? (a b : Decimal) : Machine (Option Decimal) :=
  if b.cents = 0 then pure none
  else do
    let numerator ← i128.product a.cents.toInt 100
    let hundredths ← divRound numerator b.cents.toInt
    pure (Decimal.ofCents? hundredths)

def divCount? (a : Decimal) (count : Int64) : Machine (Option Decimal) :=
  if count = 0 then pure none
  else do
    let hundredths ← divRound a.cents.toInt count.toInt
    pure (Decimal.ofCents? hundredths)

def trunc (a : Decimal) : Machine Int64 := do
  let whole ← i64.quotient a.cents.toInt 100
  pure (Int64.ofInt whole)

def ofBool (b : Bool) : Machine Decimal := do
  let hundredths ← i64.product (if b then 1 else 0) 100
  pure ⟨Int64.ofInt hundredths⟩

@[simp] theorem ofWord?_value (w : Int64) : ofWord? w = Decimal.ofWord? w :=
  congrArg _ (checked_perform ..)

@[simp] theorem add?_value (a b : Decimal) : add? a b = a.add? b := congrArg _ (checked_perform ..)

@[simp] theorem sub?_value (a b : Decimal) : sub? a b = a.sub? b := congrArg _ (checked_perform ..)

@[simp] theorem neg?_value (a : Decimal) : neg? a = a.neg? := congrArg _ (checked_perform ..)

theorem fits_quotient_iff (a : Int64) {b : Int64} (hb : b ≠ 0) :
    i64.Fits (a.toInt.tdiv b.toInt) ↔ ¬(a = Int64.minValue ∧ b = -1) := by
  constructor
  · rintro h ⟨rfl, rfl⟩
    revert h
    decide
  · intro h
    have hbound := natAbs_toInt_le a
    have hne := toInt_ne_zero hb
    by_cases hone : b.toInt.natAbs = 1
    · rcases Int.natAbs_eq b.toInt with hpos | hneg
      · rw [hpos, hone, Int.ofNat_one, Int.tdiv_one]
        exact inWords_toInt a
      · have hminus : b.toInt = -1 := by omega
        have hleast : a.toInt ≠ -2 ^ 63 := fun hmin =>
          h ⟨Int64.toInt_inj.1 hmin, Int64.toInt_inj.1 hminus⟩
        have hup := a.toInt_lt
        rw [hminus, Int.tdiv_neg, Int.tdiv_one]
        exact fits_i64 (by omega)
    · have hquotient : (a.toInt.tdiv b.toInt).natAbs = a.toInt.natAbs / b.toInt.natAbs :=
        Int.natAbs_tdiv _ _
      have hhalf : a.toInt.natAbs / b.toInt.natAbs ≤ a.toInt.natAbs / 2 :=
        Nat.div_le_div_left (by omega) (by decide)
      exact fits_i64 (by omega)

/-- A checked remainder is missing where the quotient is no word. -/
theorem checked_remainder (a : Int64) {b : Int64} (hb : b ≠ 0) :
    checked (i64.remainder a.toInt b.toInt) =
      if a = Int64.minValue ∧ b = -1 then none else narrow? (a.toInt.tmod b.toInt) := by
  unfold remainder
  by_cases h : a = Int64.minValue ∧ b = -1
  · rw [if_neg fun hfits => (fits_quotient_iff a hb).1 hfits.2 h, if_pos h]
    rfl
  · have hlt : (a.toInt.tmod b.toInt).natAbs < b.toInt.natAbs := by
      rw [Int.natAbs_tmod]
      exact Nat.mod_lt _ (Int.natAbs_pos.2 (toInt_ne_zero hb))
    have hbound := natAbs_toInt_le b
    have hword : InWords (a.toInt.tmod b.toInt) := fits_i64 (by omega)
    rw [if_pos ⟨toInt_ne_zero hb, (fits_quotient_iff a hb).2 h⟩, if_neg h, narrow?_of_inWords hword]
    rfl

@[simp] theorem rem?_value (a b : Decimal) : rem? a b = a.rem? b := by
  unfold rem? Decimal.rem?
  by_cases hb : b.cents = 0
  · rw [if_pos hb, hb]
    rfl
  · rw [if_neg hb, checked_remainder _ hb]
    split <;> rfl

@[simp] theorem mul?_value (a b : Decimal) : mul? a b = .ok (a.mul? b) := by
  have hbound : (a.cents.toInt * b.cents.toInt).natAbs ≤ 2 ^ 63 * 2 ^ 63 := by
    rw [Int.natAbs_mul]
    exact Nat.mul_le_mul (natAbs_toInt_le _) (natAbs_toInt_le _)
  unfold mul? Decimal.mul?
  rw [product, perform_of_fits (fits_i128 (by omega)), ok_bind,
    divRound_value (by decide) (by omega) (by decide)]
  rfl

@[simp] theorem div?_value (a b : Decimal) : div? a b = .ok (a.div? b) := by
  unfold div? Decimal.div?
  have ha := natAbs_toInt_le a.cents
  have hb := natAbs_toInt_le b.cents
  split
  · rfl
  · next hne =>
    rw [product, perform_of_fits (fits_i128 (by omega)), ok_bind,
      divRound_value (toInt_ne_zero hne) (by omega) (by omega)]
    rfl

@[simp] theorem divCount?_value (a : Decimal) (count : Int64) :
    divCount? a count = .ok (a.divCount? count) := by
  unfold divCount? Decimal.divCount?
  have ha := natAbs_toInt_le a.cents
  have hcount := natAbs_toInt_le count
  split
  · rfl
  · next hne =>
    rw [divRound_value (toInt_ne_zero hne) (by omega) (by omega)]
    rfl

@[simp] theorem trunc_value (a : Decimal) : trunc a = .ok a.trunc := by
  have hquotient : (a.cents.toInt.tdiv 100).natAbs ≤ 2 ^ 63 / 100 := by
    rw [Int.natAbs_tdiv]
    exact Nat.div_le_div_right (natAbs_toInt_le _)
  rw [trunc, quotient_of_fits (by decide) (fits_i64 (by omega))]
  rfl

@[simp] theorem ofBool_value (b : Bool) : ofBool b = .ok ⟨if b then 100 else 0⟩ := by
  cases b <;> rfl

/-! ## Texts -/

def toText (a : Decimal) : Machine String := do
  let size ← u64.magnitude a.cents.toInt
  let whole ← u64.quotient size 100
  let rest ← u64.remainder size 100
  let sign := signText (a.cents < 0)
  if rest = 0 then pure (sign ++ toString whole.toNat)
  else
    let last ← u64.remainder rest 10
    if last = 0 then
      let tenths ← u64.quotient rest 10
      pure (sign ++ (toString whole.toNat ++ "." ++ toString tenths.toNat))
    else pure (sign ++ (toString whole.toNat ++ "." ++ padded 2 rest.toNat))

theorem fits_u64 {n : Nat} (h : n < 2 ^ 64) : u64.Fits n := by
  simp only [Fits, low, high]
  omega

theorem quotient_u64 {n d : Nat} (hn : n < 2 ^ 64) (hd : d ≠ 0) :
    u64.quotient n d = .ok ((n / d : Nat) : Int) :=
  quotient_of_fits (Int.ofNat_ne_zero.2 hd) (fits_u64 ((Nat.div_le_self n d).trans_lt hn))

theorem remainder_u64 {n d : Nat} (hn : n < 2 ^ 64) (hd : d ≠ 0) :
    u64.remainder n d = .ok ((n % d : Nat) : Int) :=
  remainder_of_fits (Int.ofNat_ne_zero.2 hd) (fits_u64 ((Nat.div_le_self n d).trans_lt hn))

@[simp] theorem toText_value (a : Decimal) : toText a = .ok a.toText := by
  have ha := natAbs_toInt_le a.cents
  unfold toText Decimal.toText
  rw [magnitude, perform_of_fits (fits_u64 (by omega)), ok_bind]
  generalize a.cents.toInt.natAbs = n at ha ⊢
  have hwhole : u64.quotient n 100 = .ok ((n / 100 : Nat) : Int) :=
    quotient_u64 (d := 100) (by omega) (by decide)
  have hrest : u64.remainder n 100 = .ok ((n % 100 : Nat) : Int) :=
    remainder_u64 (d := 100) (by omega) (by decide)
  have htenths : u64.quotient (n % 100 : Nat) 10 = .ok ((n % 100 / 10 : Nat) : Int) :=
    quotient_u64 (d := 10) (by omega) (by decide)
  have hlast : u64.remainder (n % 100 : Nat) 10 = .ok ((n % 100 % 10 : Nat) : Int) :=
    remainder_u64 (d := 10) (by omega) (by decide)
  simp only [hwhole, hrest, htenths, hlast, ok_bind, Int.toNat_natCast, Int.natCast_eq_zero]
  split
  · rfl
  · split <;> rfl

/-- The digits of an unsigned decimal without zeros in front, and by how many places they are moved
to count hundredths. The places are counted in 32 bits, and not at all where this is not
possible. -/
def scan? (cs : List Char) : Option (List Char × Int) := do
  let (mantissa, exponentText) := Decimal.cutAt (fun c => c == 'e' || c == 'E') cs
  let exponent ← Decimal.exponent? exponentText
  let (whole, fractionText) := Decimal.cutAt (· == '.') mantissa
  let fraction := fractionText.getD []
  guard (whole ≠ [] ∨ fraction ≠ [])
  guard (whole.all isDigit && fraction.all isDigit)
  let places ← (i32.convert fraction.length).toOption
  let moved ← (i32.difference exponent places).toOption
  let shift ← (i32.sum moved 2).toOption
  pure ((whole ++ fraction).dropWhile (· == '0'), shift)

/-- What digits behind a whole number count for, by the first of them. -/
def halfUp : List Char → Nat
  | c :: _ => if '5' ≤ c then 1 else 0
  | [] => 0

def roundDigits (digits : List Char) (shift : Int) : Machine (Option Int) :=
  if digits = [] then pure (some 0)
  else if 0 ≤ shift then
    if digits.length + shift.toNat > 19 then pure none
    else do
      let scale ← i128.power 10 shift.toNat
      let n ← i128.product (ofDigits digits) scale
      pure (some n)
  else do
    let cut ← i32.negative shift
    if digits.length < cut.toNat then pure (some 0)
    else
      let kept := digits.take (digits.length - cut.toNat)
      let dropped := digits.drop (digits.length - cut.toNat)
      if kept.length > 19 then pure none
      else
        let n ← i128.sum (ofDigits kept) (halfUp dropped)
        pure (some n)

def readMagnitude (cs : List Char) : Machine (Option Int) :=
  match scan? cs with
  | none => pure none
  | some (digits, shift) => roundDigits digits shift

def readCents (cs : List Char) : Machine (Option Int) :=
  match cs with
  | '-' :: rest => do
    match ← readMagnitude rest with
    | none => pure none
    | some n => do
      let z ← i128.negative n
      pure (some z)
  | '+' :: rest => readMagnitude rest
  | _ => readMagnitude cs

def ofText? (s : String) : Machine (Option Decimal) := do
  let hundredths ← readCents (Text.trimBlanks s.toList)
  pure (hundredths.bind Decimal.ofCents?)

def ofFloat? (x : Float) : Machine (Option Decimal) :=
  if isFinite x then ofText? (floatText x) else pure none

section Reading

theorem toOption_perform (op : MachineOp) (operands : List Int) (n : Int) :
    (i32.perform op operands n).toOption =
      (guard (Decimal.fitsExponent n) : Option Unit).map fun _ => n := by
  have hfits : i32.Fits n ↔ Decimal.fitsExponent n = true := Decimal.fitsExponent_iff.symm
  unfold perform
  by_cases h : i32.Fits n
  · simp [h, hfits.1 h, guard, Except.toOption]
  · simp [h, mt hfits.2 h, guard, Except.toOption]

/-- Reading finds the digits first and rounds them then. -/
theorem readMagnitude_eq_scan (cs : List Char) : Decimal.readMagnitude cs =
    (scan? cs).bind fun found => Decimal.roundDigits found.1 found.2 := by
  unfold Decimal.readMagnitude scan?
  rcases Decimal.cutAt (fun c => c == 'e' || c == 'E') cs with ⟨mantissa, exponent⟩
  dsimp only
  rcases Decimal.cutAt (· == '.') mantissa with ⟨whole, fraction⟩
  cases exponent <;>
    simp only [Decimal.exponent?, convert, difference, sum, toOption_perform, Option.bind_eq_bind,
      Option.bind_assoc, Option.bind_map, Function.comp_def, Option.pure_def, Option.bind_some]

/-- The digits that are found, and the places. Two are added last, so that there is room to negate
the places. -/
theorem scan?_spec {cs digits : List Char} {shift : Int} (h : scan? cs = some (digits, shift)) :
    (∀ d ∈ digits, isDigit d = true) ∧ i32.low + 2 ≤ shift ∧ shift ≤ i32.high := by
  revert h
  unfold scan?
  rcases Decimal.cutAt (fun c => c == 'e' || c == 'E') cs with ⟨mantissa, exponent⟩
  dsimp only
  rcases Decimal.cutAt (· == '.') mantissa with ⟨whole, fraction⟩
  intro h
  simp only [convert, difference, sum, toOption_perform, Option.bind_eq_bind, Option.bind_map,
    Function.comp_def, Option.pure_def, Option.bind_eq_some_iff, Decimal.guard_eq_some_iff,
    exists_const, Option.some.injEq, Prod.mk.injEq] at h
  obtain ⟨e, -, -, hdigits, -, hmoved, hshift, rfl, rfl⟩ := h
  have hmoved := Decimal.fitsExponent_iff.1 hmoved
  have hshift := Decimal.fitsExponent_iff.1 hshift
  refine ⟨fun d hd => ?_, ?_, hshift.2⟩
  · have hall : ∀ d ∈ whole ++ fraction.getD [], isDigit d = true := by
      simpa [or_imp, forall_and] using hdigits
    exact hall d ((List.dropWhile_sublist _).subset hd)
  · simp only [low, Decimal.exponentMin] at hmoved ⊢
    omega

theorem halfUp_le (dropped : List Char) : halfUp dropped ≤ 1 := by
  unfold halfUp
  split
  · split <;> decide
  · decide

theorem moved_lt {digits : List Char} (hdigits : ∀ d ∈ digits, isDigit d = true) {k : Nat}
    (hlength : digits.length + k ≤ 19) : ofDigits digits * 10 ^ k < 10 ^ 19 := calc
  ofDigits digits * 10 ^ k < 10 ^ digits.length * 10 ^ k :=
    Nat.mul_lt_mul_of_pos_right (ofDigits_lt hdigits) (Nat.pow_pos (by decide))
  _ = 10 ^ (digits.length + k) := (pow_add _ _ _).symm
  _ ≤ 10 ^ 19 := Nat.pow_le_pow_right (by decide) hlength

theorem kept_lt {digits : List Char} (hdigits : ∀ d ∈ digits, isDigit d = true) {k : Nat}
    (hlength : (digits.take k).length ≤ 19) : ofDigits (digits.take k) < 10 ^ 19 := by
  have hkept : ∀ d ∈ digits.take k, isDigit d = true := fun d hd =>
    hdigits d (List.mem_of_mem_take hd)
  exact (ofDigits_lt hkept).trans_le (Nat.pow_le_pow_right (by decide) hlength)

theorem fits_i128_natCast {n : Nat} (h : n ≤ 10 ^ 19) : i128.Fits n :=
  fits_i128 (by rw [Int.natAbs_natCast]; omega)

variable {digits : List Char} {shift : Int} (hdigits : ∀ d ∈ digits, isDigit d = true)
include hdigits

/-- A number of nineteen digits, and one more, are integers of 128 bits. -/
theorem roundDigits_value (hlow : i32.low + 2 ≤ shift) :
    roundDigits digits shift = .ok ((Decimal.roundDigits digits shift).map Int.ofNat) := by
  unfold roundDigits Decimal.roundDigits
  split
  · rfl
  split
  · split
    · rfl
    · next hlength =>
      have hscale : 10 ^ shift.toNat ≤ 10 ^ 19 := Nat.pow_le_pow_right (by decide) (by omega)
      have hpow : (10 : Int) ^ shift.toNat = (10 ^ shift.toNat : Nat) := by push_cast; rfl
      rw [power, hpow, perform_of_fits (fits_i128_natCast hscale), ok_bind, product,
        ← Int.natCast_mul,
        perform_of_fits (fits_i128_natCast (moved_lt hdigits (not_lt.1 hlength)).le)]
      rfl
  · next hneg =>
    have hfits : i32.Fits (-shift) := by
      simp only [Fits, low, high] at hlow ⊢
      omega
    rw [negative, perform_of_fits hfits, ok_bind]
    dsimp only
    split
    · rfl
    split
    · rfl
    · next hlength =>
      have hkept := kept_lt hdigits (not_lt.1 hlength)
      have hup := halfUp_le (digits.drop (digits.length - (-shift).toNat))
      rw [sum, ← Int.natCast_add, perform_of_fits (fits_i128_natCast (by omega))]
      rfl

theorem roundDigits_le {n : Nat} (h : Decimal.roundDigits digits shift = some n) :
    n ≤ 10 ^ 19 := by
  unfold Decimal.roundDigits at h
  split at h
  · cases h
    decide
  split at h
  · split at h
    · cases h
    · next hlength =>
      cases h
      exact (moved_lt hdigits (not_lt.1 hlength)).le
  · dsimp only at h
    split at h
    · cases h
      decide
    split at h
    · cases h
    · next hlength =>
      have hkept := kept_lt hdigits (not_lt.1 hlength)
      have hup := halfUp_le (digits.drop (digits.length - (-shift).toNat))
      obtain rfl := Option.some.inj h
      exact (Nat.add_le_add_left hup _).trans hkept

omit hdigits

@[simp] theorem readMagnitude_value (cs : List Char) :
    readMagnitude cs = .ok ((Decimal.readMagnitude cs).map Int.ofNat) := by
  rw [readMagnitude, readMagnitude_eq_scan]
  cases hscan : scan? cs with
  | none => rfl
  | some found =>
    obtain ⟨hdigits, hlow, -⟩ := scan?_spec hscan
    exact roundDigits_value hdigits hlow

theorem readMagnitude_le {cs : List Char} {n : Nat} (h : Decimal.readMagnitude cs = some n) :
    n ≤ 10 ^ 19 := by
  rw [readMagnitude_eq_scan] at h
  obtain ⟨found, hscan, h⟩ := Option.bind_eq_some_iff.1 h
  exact roundDigits_le (scan?_spec hscan).1 h

theorem map_signed {f : Int → Int} (m : Option Nat) :
    ((do let n ← m; pure (n : Int)) : Option Int).map f = m.map fun n : Nat => f n := by
  cases m <;> rfl

@[simp] theorem readCents_value (cs : List Char) : readCents cs = .ok (Decimal.readCents cs) := by
  unfold readCents
  split
  · next rest =>
    have hminus : Decimal.readCents ('-' :: rest) =
        (Decimal.readMagnitude rest).map fun n : Nat => -(n : Int) := map_signed _
    rw [readMagnitude_value, ok_bind, hminus]
    cases h : Decimal.readMagnitude rest with
    | none => rfl
    | some n =>
      have hle := readMagnitude_le h
      have hfits : i128.Fits (-(n : Int)) := fits_i128 (by omega)
      change (i128.negative n >>= fun z => pure (some z)) = _
      rw [negative, perform_of_fits hfits]
      rfl
  · next rest =>
    rw [readMagnitude_value]
    exact congrArg _ (map_signed (f := fun n => n) _).symm
  · next hminus hplus =>
    rw [readMagnitude_value]
    unfold Decimal.readCents
    split
    · exact absurd rfl (hminus _)
    · exact absurd rfl (hplus _)
    · exact congrArg _ (map_signed (f := fun n => n) _).symm

@[simp] theorem ofText?_value (s : String) : ofText? s = .ok (Decimal.ofText? s) := by
  rw [ofText?, readCents_value]
  rfl

@[simp] theorem ofFloat?_value (x : Float) : ofFloat? x = .ok (Decimal.ofFloat? x) := by
  unfold ofFloat? Decimal.ofFloat?
  split
  · exact ofText?_value _
  · rfl

end Reading

end Machine
end TableMill
