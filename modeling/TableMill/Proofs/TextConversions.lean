import TableMill.Proofs.AggregateSteps
import TableMill.Proofs.ChunkWidth
import TableMill.Proofs.DecimalNumerals

/-!
# Numbers are read back from their text

The text of an integer or a decimal is a numeral of it, so that converting the text gives the number
back, and different numbers of a kind have different texts.
-/

namespace TableMill

open Number
open Text (isDigit isBlank trimBlanks)

/-! ## Texts of digits -/

theorem ofDigits_toDigits (n : Nat) : ofDigits (Nat.toDigits 10 n) = n :=
  Nat.ofDigitChars_toDigits (by decide) (by decide)

theorem ofDigits_replicate_zero (k : Nat) (ds : List Char) :
    ofDigits (List.replicate k '0' ++ ds) = ofDigits ds := by
  induction k with
  | zero => rfl
  | succ k ih =>
    rw [List.replicate_succ, List.cons_append, ofDigits_cons, ih]
    simp [digitValue]

theorem ofDigits_padded (width n : Nat) : ofDigits (padded width n).toList = n := by
  rw [padded, String.toList_ofList, ofDigits_replicate_zero, ofDigits_toDigits]

theorem isDigit_of_mem_padded {width n : Nat} {d : Char} (hd : d ∈ (padded width n).toList) :
    isDigit d = true := by
  rw [padded, String.toList_ofList] at hd
  rcases List.mem_append.1 hd with hd | hd
  · rw [List.eq_of_mem_replicate hd]
    decide
  · exact Token.isDigit_of_mem_toDigits hd

theorem trimBlanks_of_forall {cs : List Char} (h : ∀ c ∈ cs, isBlank c = false) :
    trimBlanks cs = cs := by
  have hfront (ds : List Char) (hds : ∀ c ∈ ds, isBlank c = false) : ds.dropWhile isBlank = ds := by
    cases ds with
    | nil => rfl
    | cons c ds => simp [hds c List.mem_cons_self]
  rw [trimBlanks, hfront cs h, hfront _ fun c hc => h c (List.mem_reverse.1 hc),
    List.reverse_reverse]

/-! ## Integers -/

theorem toList_toString (z : Int) :
    (toString z).toList = (if z < 0 then Sign.minus.text else []) ++ Nat.toDigits 10 z.natAbs := by
  cases z with
  | ofNat n => exact Nat.toList_repr
  | negSucc n =>
    change ("-" ++ (n + 1).repr).toList = _
    rw [String.toList_append, Nat.toList_repr, if_pos (Int.negSucc_lt_zero n)]
    rfl

theorem isNumeral_toString (z : Int) : IsNumeral (toString z).toList z := by
  have hdigits (n : Nat) : ∀ d ∈ Nat.toDigits 10 n, isDigit d = true :=
    fun _ => Token.isDigit_of_mem_toDigits
  rw [toList_toString]
  split
  · refine ⟨.minus, _, rfl, Nat.toDigits_ne_nil, hdigits _, ?_⟩
    rw [ofDigits_toDigits, Sign.signed]
    omega
  · refine ⟨.unmarked, _, rfl, Nat.toDigits_ne_nil, hdigits _, ?_⟩
    rw [ofDigits_toDigits, Sign.signed]
    · omega
    · simp

/-- A word is read from its numerals. -/
theorem readWord_of_isNumeral {s : String} {v : Int64} (hs : IsNumeral s.toList v.toInt) :
    readWord s = .ok v := by
  have hread : readInt wordMin wordMax s.toList = .ok v.toInt :=
    (readInt_eq_ok_iff (by decide) (by decide)).2 ⟨hs, inWords_toInt v⟩
  rw [readWord, hread]
  simp [Except.map]

theorem readWord_toString (v : Int64) : readWord (toString v.toInt) = .ok v :=
  readWord_of_isNumeral (isNumeral_toString v.toInt)

/-! ## Decimals -/

theorem isBlank_of_isDigit {c : Char} (hc : isDigit c = true) : isBlank c = false :=
  Token.isBlank_of_isNamePart (Token.isNamePart_of_isDigit hc)

namespace Decimal

def places (rest : Nat) : List Char :=
  if rest = 0 then []
  else if rest % 10 = 0 then Nat.toDigits 10 (rest / 10)
  else (padded 2 rest).toList

theorem places_spec {rest : Nat} (hrest : rest < 100) :
    (places rest).length ≤ 2 ∧ (∀ d ∈ places rest, isDigit d = true) ∧
      10 ^ (2 - (places rest).length) * ofDigits (places rest) = rest := by
  unfold places
  split
  · next hzero => simp [hzero]
  split
  · next htens =>
    have hlength : (Nat.toDigits 10 (rest / 10)).length = 1 := by
      rw [Nat.toDigits_of_lt_base (by omega)]
      rfl
    rw [hlength, ofDigits_toDigits]
    exact ⟨by decide, fun d => Token.isDigit_of_mem_toDigits, by omega⟩
  · rw [ofDigits_padded, String.length_toList, Component.length_padded (by decide) hrest]
    exact ⟨le_rfl, fun d => isDigit_of_mem_padded, by simp⟩

def numeral (d : Decimal) : Numeral where
  whole := Nat.toDigits 10 (d.cents.toInt.natAbs / 100)
  fraction := places (d.cents.toInt.natAbs % 100)
  exponent := 0
  sign := if d.cents < 0 then .minus else .unmarked

variable (d : Decimal)

theorem places_numeral :
    (d.numeral.fraction).length ≤ 2 ∧ (∀ c ∈ d.numeral.fraction, isDigit c = true) ∧
      10 ^ (2 - (d.numeral.fraction).length) * ofDigits d.numeral.fraction =
        d.cents.toInt.natAbs % 100 :=
  places_spec (Nat.mod_lt _ (by decide))

theorem digits_numeral : ∀ c ∈ d.numeral.digits, isDigit c = true := fun _ hc =>
  (List.mem_append.1 hc).elim Token.isDigit_of_mem_toDigits (d.places_numeral.2.1 _)

/-- The text of a decimal: its sign, its whole part, and the places after the point if it has
any. -/
theorem toList_toText :
    d.toText.toList = d.numeral.sign.text ++ (d.numeral.whole ++
      if d.numeral.fraction = [] then [] else '.' :: d.numeral.fraction) := by
  have hsign : (signText (d.cents < 0)).toList = d.numeral.sign.text := by
    unfold signText numeral
    by_cases h : d.cents < 0
    · simp [h, Number.Sign.text]
    · simp [h, Number.Sign.text]
  unfold toText
  rw [String.toList_append, hsign]
  congr 1
  simp only [numeral, places]
  split
  · simp [Nat.toList_repr]
  split
  · simp [Nat.toList_repr, Nat.toDigits_ne_nil]
  · have hne : (padded 2 (d.cents.toInt.natAbs % 100)).toList ≠ [] := by
      rw [padded, String.toList_ofList]
      simp [Nat.toDigits_ne_nil]
    rw [if_neg hne]
    simp [Nat.toList_repr]

theorem isMantissa_numeral : d.numeral.IsMantissa
    (d.numeral.whole ++ if d.numeral.fraction = [] then [] else '.' :: d.numeral.fraction) := by
  by_cases h : d.numeral.fraction = []
  · exact .inr ⟨h, by rw [if_pos h, List.append_nil]⟩
  · exact .inl (by rw [if_neg h])

theorem spells_toText : d.numeral.Spells d.toText.toList :=
  ⟨_, d.toList_toText, ⟨_, [], (List.append_nil _).symm, d.isMantissa_numeral, .inl ⟨rfl, rfl⟩⟩,
    List.append_ne_nil_of_left_ne_nil Nat.toDigits_ne_nil _, d.digits_numeral⟩

theorem isBlank_of_mem_toText : ∀ c ∈ d.toText.toList, isBlank c = false := by
  intro c hc
  rw [toList_toText] at hc
  rcases List.mem_append.1 hc with hc | hc
  · cases hsign : d.numeral.sign with
    | unmarked => simp [hsign, Number.Sign.text] at hc
    | plus | minus =>
      obtain rfl := List.eq_of_mem_singleton (hsign ▸ hc)
      decide
  · exact d.isMantissa_numeral.forall d.digits_numeral (fun _ => isBlank_of_isDigit) (by decide)
      c hc

theorem shifts_numeral : d.numeral.Shifts := by
  obtain ⟨hlength, -, -⟩ := d.places_numeral
  have hexponent : d.numeral.exponent = 0 := rfl
  refine ⟨fitsExponent_iff.2 ?_, fitsExponent_iff.2 ?_, fitsExponent_iff.2 ?_⟩ <;>
    simp only [Magnitude.shift, hexponent, exponentMin, exponentMax] <;> omega

theorem magnitude_numeral :
    100 * d.numeral.toMagnitude.value = (d.cents.toInt.natAbs : ℚ) := by
  obtain ⟨hlength, -, hrest⟩ := d.places_numeral
  obtain ⟨k, hk⟩ := Nat.exists_eq_add_of_le hlength
  rw [Nat.sub_eq_of_eq_add' hk] at hrest
  have hpow : 100 = 10 ^ (d.numeral.fraction).length * 10 ^ k := by
    rw [← pow_add, ← hk]
    rfl
  have hwhole : ofDigits d.numeral.whole = d.cents.toInt.natAbs / 100 := ofDigits_toDigits _
  have hall : 10 ^ k * ofDigits d.numeral.digits = d.cents.toInt.natAbs := calc
    _ = 10 ^ (d.numeral.fraction).length * 10 ^ k * ofDigits d.numeral.whole +
        10 ^ k * ofDigits d.numeral.fraction := by
      rw [Magnitude.digits, ofDigits_append]
      ring
    _ = 100 * (d.cents.toInt.natAbs / 100) + d.cents.toInt.natAbs % 100 := by
      rw [← hpow, hwhole, hrest]
    _ = d.cents.toInt.natAbs := Nat.div_add_mod _ _
  have hpow' : (100 : ℚ) = 10 ^ (d.numeral.fraction).length * 10 ^ k := by exact_mod_cast hpow
  have hexponent : d.numeral.exponent = 0 := rfl
  rw [Magnitude.value, hexponent, zero_sub, zpow_neg, zpow_natCast, ← hall, hpow']
  push_cast
  field_simp

/-- The exact hundredths of the numeral are those of the decimal. -/
theorem value_numeral : 100 * d.numeral.value = (d.cents.toInt : ℚ) := by
  have hmagnitude := d.magnitude_numeral
  have hnegative : d.cents < 0 ↔ d.cents.toInt < 0 := Int64.lt_iff_toInt_lt
  unfold Numeral.value
  by_cases h : d.cents < 0
  · have hsign : d.numeral.sign = .minus := if_pos h
    have habs : d.cents.toInt = -(d.cents.toInt.natAbs : ℤ) := by
      have := hnegative.1 h
      omega
    rw [if_pos hsign, mul_neg, hmagnitude, habs]
    simp
  · have hsign : d.numeral.sign = .unmarked := if_neg h
    have habs : d.cents.toInt = (d.cents.toInt.natAbs : ℤ) := by
      have := mt hnegative.2 h
      omega
    rw [hsign, if_neg (by decide), hmagnitude, habs]
    simp

/-- The text of a decimal is read as the decimal. -/
theorem ofText?_toText : ofText? d.toText = some d := by
  have htrim := trimBlanks_of_forall d.isBlank_of_mem_toText
  rw [ofText?_of_spells (n := d.numeral) (htrim.symm ▸ d.spells_toText) d.shifts_numeral,
    value_numeral, halfAway_intCast]
  exact ofCents?_eq_some_iff.2 rfl

end Decimal

/-! ## Conversions -/

/-- The function that is named like the kind of integers or of decimals reads the text of a value of
the kind. -/
theorem exists_conversion {k : Kind} (hk : k = .int ∨ k = .decimal) :
    ∃ f : Builtin, Aggregate.ofName? k.name = none ∧ Builtin.ofName? k.name = some f ∧
      ∀ (now : DateTime) (v : Value), v.kind = k → f.apply now [.text v.toText] = .ok v := by
  rcases hk with rfl | rfl
  · refine ⟨.toInt, rfl, rfl, fun now v hv => ?_⟩
    cases v with
    | int n => simp only [Builtin.apply, Function.convertToInt, Value.toText, readWord_toString]
    | _ => cases hv
  · refine ⟨.toDecimal, rfl, rfl, fun now v hv => ?_⟩
    cases v with
    | decimal d =>
      simp only [Builtin.apply, Function.convertToDecimal, Value.toText, Decimal.ofText?_toText]
    | _ => cases hv

namespace Expr

variable {now : DateTime} {vars : Bindings} {s t : Option Aggregation} {e : Expr} {v : Value}

theorem evalWith_builtin {name : String} {f : Builtin} (haggregate : Aggregate.ofName? name = none)
    (hbuiltin : Builtin.ofName? name = some f) (he : e.evalWith now vars s = (.ok v, t))
    (site : CallSite) :
    (Expr.call site name [e]).evalWith now vars s = (f.apply now [v], t) := by
  unfold evalWith at *
  simp only [evalM, haggregate, hbuiltin, evalAll, Eval.run_bind, Eval.run_lift, he]
  rfl

/-- The conversion that is named like the kind of an integer or a decimal gives it back from its
text, wherever the value comes from. So no other value of the kind has this text. -/
theorem conversion_of_text {v : Value} (hv : v.kind = .int ∨ v.kind = .decimal) :
    (∀ (now : DateTime) (vars : Bindings) (s t : Option Aggregation) (e : Expr) (p q : CallSite),
      e.evalWith now vars s = (.ok v, t) →
        (Expr.call p v.kind.name [.call q Kind.text.name [e]]).evalWith now vars s = (.ok v, t)) ∧
    ∀ w : Value, w.kind = v.kind → w.toText = v.toText → w = v := by
  obtain ⟨f, haggregate, hbuiltin, hread⟩ := exists_conversion hv
  constructor
  · intro now vars s t e p q he
    have htext : (Expr.call q Kind.text.name [e]).evalWith now vars s = (.ok (.text v.toText), t) :=
      evalWith_builtin (f := .toText) rfl rfl he q
    rw [evalWith_builtin haggregate hbuiltin htext p, hread now v rfl]
  · intro w hkind htext
    have hw := hread .unset w hkind
    rw [htext, hread .unset v rfl] at hw
    exact (Except.ok.inj hw).symm

end Expr

namespace LedgerSample

/-! The least number of hundredths of a word is given back from its text. -/

def balance : Expr := .selector "r" "balance"

def deepest : Value := .decimal ⟨Int64.minValue⟩

def row : Bindings := [("r", [("balance", deepest)])]

def site : CallSite := default

theorem conversion_of_text_balance :
    (deepest.kind = .int ∨ deepest.kind = .decimal) ∧
      balance.evalWith .unset row none = (.ok deepest, none) ∧
      (Expr.call site "decimal2" [.call site "string" [balance]]).evalWith .unset row none =
        (.ok deepest, none) ∧
      ∀ w : Value, w.kind = .decimal → w.toText = "-92233720368547758.08" → w = deepest := by
  have hkind : deepest.kind = .int ∨ deepest.kind = .decimal := .inr rfl
  have hbalance : balance.evalWith .unset row none = (.ok deepest, none) := rfl
  obtain ⟨hconvert, hinjective⟩ := Expr.conversion_of_text hkind
  have htext : deepest.toText = "-92233720368547758.08" := by decide +kernel
  exact ⟨hkind, hbalance, hconvert .unset row none none balance site site hbalance,
    fun w hw h => hinjective w hw (h.trans htext.symm)⟩

end LedgerSample
end TableMill
