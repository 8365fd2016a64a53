import Mathlib.Data.List.TakeWhile
import TableMill.Proofs.Numerals
import TableMill.Proofs.RunningTotals

/-!
# Decimals are read exactly

A text is read as a decimal if and only if it is a decimal numeral, with blanks around it, whose
hundredths, rounded with halves away from zero, are a word; the decimal then has these hundredths.
Any number of digits and any exponent of 32 bits are taken.
-/

namespace TableMill
namespace Decimal

open Number
open Text (isDigit)

/-- Digits with a point among them, and an exponent of ten. -/
@[ext]
structure Magnitude where
  whole : List Char
  fraction : List Char
  exponent : Int

namespace Magnitude

variable (m : Magnitude)

def digits : List Char := m.whole ++ m.fraction

def value : ℚ := ofDigits m.digits * 10 ^ (m.exponent - m.fraction.length)

/-- By how many places the digits are moved to count hundredths. -/
def shift : Int := m.exponent - m.fraction.length + 2

/-- Whether the places by which the digits are moved are counted without leaving 32 bits. -/
structure Shifts : Prop where
  places : fitsExponent m.fraction.length = true
  exponent : fitsExponent (m.exponent - m.fraction.length) = true
  hundredths : fitsExponent m.shift = true

/-- The digits with the point between them. If none come after it, it may be left out. -/
def IsMantissa (cs : List Char) : Prop :=
  cs = m.whole ++ '.' :: m.fraction ∨ m.fraction = [] ∧ cs = m.whole

/-- A letter and the numeral of an exponent of 32 bits. An exponent of zero may be left out. -/
def IsExponent (cs : List Char) : Prop :=
  cs = [] ∧ m.exponent = 0 ∨
    ∃ mark ds, cs = mark :: ds ∧ (mark = 'e' ∨ mark = 'E') ∧ IsNumeral ds m.exponent ∧
      exponentMin ≤ m.exponent ∧ m.exponent ≤ exponentMax

/-- Whether a text is a decimal numeral without a sign. -/
structure Spells (cs : List Char) : Prop where
  parts : ∃ mantissa exponent, cs = mantissa ++ exponent ∧ m.IsMantissa mantissa ∧
    m.IsExponent exponent
  digits_ne_nil : m.digits ≠ []
  digits_digit : ∀ d ∈ m.digits, isDigit d = true

end Magnitude

structure Numeral extends Magnitude where
  sign : Sign

namespace Numeral

variable (n : Numeral)

def Spells (cs : List Char) : Prop :=
  ∃ body, cs = n.sign.text ++ body ∧ n.toMagnitude.Spells body

def value : ℚ := if n.sign = .minus then -n.toMagnitude.value else n.toMagnitude.value

end Numeral

theorem fitsExponent_iff {n : Int} :
    fitsExponent n = true ↔ exponentMin ≤ n ∧ n ≤ exponentMax := by
  simp [fitsExponent]

/-! ## Cutting a text -/

section Cut

variable {p : Char → Bool} {front rest cs : List Char} {c : Char}

theorem cutAt_append (hfront : ∀ d ∈ front, p d = false) (hc : p c = true) :
    cutAt p (front ++ c :: rest) = (front, some rest) := by
  have hnot : ∀ d ∈ front, (!p d) = true := fun d hd => by rw [hfront d hd]; rfl
  have hends : ∀ d ∈ (c :: rest).head?, (!p d) = false := fun d hd => by
    obtain rfl : c = d := by simpa using hd
    rw [hc]
    rfl
  unfold cutAt
  rw [Token.dropWhile_append hnot hends, Token.takeWhile_append hnot hends]

theorem cutAt_none (h : ∀ d ∈ cs, p d = false) : cutAt p cs = (cs, none) := by
  have hdrop : cs.dropWhile (fun d => !p d) = [] :=
    List.dropWhile_eq_nil_iff.2 fun d hd => by rw [h d hd]; rfl
  rw [cutAt, hdrop]

theorem of_cutAt {back : Option (List Char)} (h : cutAt p cs = (front, back)) :
    back = none ∧ cs = front ∨
      ∃ c rest, back = some rest ∧ p c = true ∧ cs = front ++ c :: rest := by
  unfold cutAt at h
  split at h
  · obtain ⟨rfl, rfl⟩ := Prod.mk.inj h
    exact .inl ⟨rfl, rfl⟩
  · next c rest hdrop =>
    obtain ⟨rfl, rfl⟩ := Prod.mk.inj h
    have hc : (!p c) = false := by
      have := List.head?_dropWhile_not (fun d => !p d) cs
      rw [hdrop] at this
      simpa using this
    refine .inr ⟨c, rest, rfl, by simpa using hc, ?_⟩
    rw [← hdrop, List.takeWhile_append_dropWhile]

end Cut

/-! ## Reading a magnitude -/

theorem ne_of_isDigit {c d : Char} (hc : isDigit c = true) (hd : isDigit d = false) : c ≠ d := by
  rintro rfl
  rw [hc] at hd
  cases hd

def exponent? : Option (List Char) → Option Int
  | none => some 0
  | some ds => (readInt exponentMin exponentMax ds).toOption

theorem exponent?_some {ds : List Char} {e : Int} :
    exponent? (some ds) = some e ↔ IsNumeral ds e ∧ exponentMin ≤ e ∧ e ≤ exponentMax := by
  have hread : readInt exponentMin exponentMax ds = .ok e ↔
      IsNumeral ds e ∧ exponentMin ≤ e ∧ e ≤ exponentMax :=
    readInt_eq_ok_iff (by decide) (by decide)
  rw [← hread, exponent?]
  cases readInt exponentMin exponentMax ds <;> simp [Except.toOption]

theorem guard_eq_some_iff {p : Prop} [Decidable p] {u : Unit} :
    (guard p : Option Unit) = some u ↔ p := by
  by_cases hp : p <;> simp [guard, hp]

theorem readMagnitude_of_cuts {cs mantissa whole : List Char} {ex fraction : Option (List Char)}
    {k : Nat} (hmark : cutAt (fun c => c == 'e' || c == 'E') cs = (mantissa, ex))
    (hpoint : cutAt (· == '.') mantissa = (whole, fraction)) :
    readMagnitude cs = some k ↔ ∃ m : Magnitude, m.whole = whole ∧ m.fraction = fraction.getD [] ∧
      exponent? ex = some m.exponent ∧ m.digits ≠ [] ∧ (∀ d ∈ m.digits, isDigit d = true) ∧
      m.Shifts ∧ roundDigits (m.digits.dropWhile (· == '0')) m.shift = some k := by
  have hread : readMagnitude cs = some k ↔ ∃ e, exponent? ex = some e ∧
      (whole ≠ [] ∨ fraction.getD [] ≠ []) ∧
      (whole.all isDigit && (fraction.getD []).all isDigit) = true ∧
      fitsExponent (fraction.getD []).length = true ∧
      fitsExponent (e - (fraction.getD []).length) = true ∧
      fitsExponent (e - (fraction.getD []).length + 2) = true ∧
      roundDigits ((whole ++ fraction.getD []).dropWhile (· == '0'))
        (e - (fraction.getD []).length + 2) = some k := by
    unfold readMagnitude
    simp only [hmark, hpoint]
    cases ex <;>
      simp only [Option.bind_eq_bind, Option.bind_eq_some_iff, guard_eq_some_iff, exists_const,
        exponent?]
  rw [hread]
  constructor
  · rintro ⟨e, hex, hne, hds, hplaces, hexponent, hhundredths, hround⟩
    refine ⟨⟨whole, fraction.getD [], e⟩, rfl, rfl, hex, ?_, ?_, ⟨hplaces, hexponent, hhundredths⟩,
      hround⟩
    · simpa only [Magnitude.digits, ne_eq, List.append_eq_nil_iff, not_and_or] using hne
    · simpa [Magnitude.digits, or_imp, forall_and] using hds
  · rintro ⟨⟨_, _, e⟩, rfl, rfl, hex, hne, hds, ⟨hplaces, hexponent, hhundredths⟩, hround⟩
    refine ⟨e, hex, ?_, ?_, hplaces, hexponent, hhundredths, hround⟩
    · simpa only [Magnitude.digits, ne_eq, List.append_eq_nil_iff, not_and_or] using hne
    · simpa [Magnitude.digits, or_imp, forall_and] using hds

namespace Magnitude

variable {m : Magnitude} {cs : List Char}

/-- A mantissa has no character of which `p` holds if no digit and no point is one. -/
theorem IsMantissa.forall (h : m.IsMantissa cs) (hdigits : ∀ d ∈ m.digits, isDigit d = true)
    {p : Char → Bool} (hp : ∀ d, isDigit d = true → p d = false) (hpoint : p '.' = false) :
    ∀ d ∈ cs, p d = false := by
  intro d hd
  rcases h with rfl | ⟨hfraction, rfl⟩
  · rcases List.mem_append.1 hd with hd | hd
    · exact hp d (hdigits d (List.mem_append_left _ hd))
    · rcases List.mem_cons.1 hd with rfl | hd
      · exact hpoint
      · exact hp d (hdigits d (List.mem_append_right _ hd))
  · exact hp d (hdigits d (List.mem_append_left _ hd))

theorem IsMantissa.cutAt (h : m.IsMantissa cs) (hdigits : ∀ d ∈ m.digits, isDigit d = true) :
    ∃ fraction, Decimal.cutAt (· == '.') cs = (m.whole, fraction) ∧
      fraction.getD [] = m.fraction := by
  have hwhole : ∀ d ∈ m.whole, (d == '.') = false := fun d hd =>
    beq_false_of_ne (ne_of_isDigit (hdigits d (List.mem_append_left _ hd)) (by decide))
  rcases h with rfl | ⟨hfraction, rfl⟩
  · exact ⟨some m.fraction, cutAt_append hwhole (by decide), rfl⟩
  · exact ⟨none, cutAt_none hwhole, hfraction.symm⟩

end Magnitude

theorem spells_of_readMagnitude {cs : List Char} {k : Nat} (h : readMagnitude cs = some k) :
    ∃ m : Magnitude, m.Spells cs ∧ m.Shifts := by
  rcases hmark : cutAt (fun c => c == 'e' || c == 'E') cs with ⟨mantissa, ex⟩
  rcases hpoint : cutAt (· == '.') mantissa with ⟨whole, fraction⟩
  obtain ⟨m, rfl, hfraction, hex, hne, hdigits, hshifts, -⟩ :=
    (readMagnitude_of_cuts hmark hpoint).1 h
  have hmantissa : m.IsMantissa mantissa := by
    rcases of_cutAt hpoint with ⟨rfl, rfl⟩ | ⟨c, rest, rfl, hc, rfl⟩
    · exact .inr ⟨hfraction, rfl⟩
    · obtain rfl : c = '.' := beq_iff_eq.1 hc
      exact .inl (hfraction ▸ rfl)
  refine ⟨m, ⟨?_, hne, hdigits⟩, hshifts⟩
  rcases of_cutAt hmark with ⟨rfl, rfl⟩ | ⟨c, ds, rfl, hc, rfl⟩
  · exact ⟨cs, [], by simp, hmantissa, .inl ⟨rfl, (Option.some.inj hex).symm⟩⟩
  · exact ⟨mantissa, c :: ds, rfl, hmantissa,
      .inr ⟨c, ds, rfl, by simpa using hc, exponent?_some.1 hex⟩⟩

theorem Magnitude.Spells.cuts {m : Magnitude} {cs : List Char} (h : m.Spells cs) :
    ∃ mantissa ex fraction, cutAt (fun c => c == 'e' || c == 'E') cs = (mantissa, ex) ∧
      cutAt (· == '.') mantissa = (m.whole, fraction) ∧ fraction.getD [] = m.fraction ∧
      exponent? ex = some m.exponent := by
  obtain ⟨⟨mantissa, exponent, rfl, hmantissa, hexponent⟩, -, hdigits⟩ := h
  have hplain : ∀ d ∈ mantissa, (d == 'e' || d == 'E') = false :=
    hmantissa.forall hdigits (fun d hd => by
      simp [ne_of_isDigit hd (show isDigit 'e' = false by decide),
        ne_of_isDigit hd (show isDigit 'E' = false by decide)]) (by decide)
  obtain ⟨fraction, hpoint, hfraction⟩ := hmantissa.cutAt hdigits
  rcases hexponent with ⟨rfl, hzero⟩ | ⟨mark, ds, rfl, hmark, hread⟩
  · rw [List.append_nil]
    exact ⟨mantissa, none, fraction, cutAt_none hplain, hpoint, hfraction, by rw [hzero]; rfl⟩
  · exact ⟨mantissa, some ds, fraction, cutAt_append hplain (by simpa using hmark), hpoint,
      hfraction, exponent?_some.2 hread⟩

/-- The hundredths of a decimal numeral are its digits, moved and rounded. -/
theorem readMagnitude_of_spells {m : Magnitude} {cs : List Char} (h : m.Spells cs)
    (hshifts : m.Shifts) :
    readMagnitude cs = roundDigits (m.digits.dropWhile (· == '0')) m.shift := by
  obtain ⟨mantissa, ex, fraction, hmark, hpoint, hfraction, hex⟩ := h.cuts
  ext k
  refine (readMagnitude_of_cuts hmark hpoint).trans ⟨?_, fun hround => ?_⟩
  · rintro ⟨m', hwhole, hfraction', hex', -, -, -, hround⟩
    rw [hex, Option.some.injEq] at hex'
    obtain rfl : m = m' :=
      Magnitude.ext hwhole.symm (hfraction.symm.trans hfraction'.symm) hex'
    exact hround
  · exact ⟨m, rfl, hfraction.symm, hex, h.digits_ne_nil, h.digits_digit, hshifts, hround⟩

/-! ## Rounding digits -/

section Round

variable {ds : List Char} (hds : ∀ d ∈ ds, isDigit d = true)
include hds

/-- The first digit tells whether digits make up a half. -/
theorem half_le_ofDigits (hne : ds ≠ []) :
    10 ^ ds.length ≤ 2 * ofDigits ds ↔ ∃ c ∈ ds.head?, '5' ≤ c := by
  obtain ⟨c, ds, rfl⟩ := List.exists_cons_of_ne_nil hne
  have hrest := ofDigits_lt fun d hd => hds d (List.mem_cons_of_mem c hd)
  have hc : 48 ≤ c.toNat ∧ c.toNat ≤ 57 := by
    simpa [isDigit, Token.char_le_iff] using hds c List.mem_cons_self
  have hfive : '5' ≤ c ↔ 5 ≤ digitValue c := by
    have hcodes : '5'.toNat = 53 ∧ '0'.toNat = 48 := ⟨rfl, rfl⟩
    rw [Token.char_le_iff, digitValue]
    omega
  simp only [List.head?_cons, Option.mem_some_iff, exists_eq_left', hfive, ofDigits_cons,
    List.length_cons, pow_succ]
  constructor
  · intro h
    by_contra hlow
    have hmul := Nat.mul_le_mul_left (10 ^ ds.length) (show digitValue c ≤ 4 by omega)
    omega
  · intro h
    have hmul := Nat.mul_le_mul_left (10 ^ ds.length) h
    omega

/-- Digits without zeros in front keep their places when only the first ones are taken. -/
theorem le_ofDigits_take (hhead : ∀ c ∈ ds.head?, c ≠ '0') {k : ℕ} (hk : 1 ≤ k)
    (hlength : k ≤ ds.length) : 10 ^ (k - 1) ≤ ofDigits (ds.take k) := by
  obtain ⟨k, rfl⟩ := Nat.exists_eq_add_of_le' hk
  obtain ⟨c, rest, rfl⟩ := List.exists_cons_of_length_pos (hk.trans hlength)
  have htake : (rest.take k).length = k := List.length_take_of_le (by simpa using hlength)
  calc 10 ^ k = 10 ^ (rest.take k).length := by rw [htake]
    _ ≤ ofDigits (c :: rest.take k) := le_ofDigits (hds c List.mem_cons_self) (hhead c rfl)

/-- More than nineteen places that start with a digit above zero, and end with zeros. -/
theorem le_moved (hhead : ∀ c ∈ ds.head?, c ≠ '0') (hne : ds ≠ []) {k : ℕ}
    (hlength : 19 < ds.length + k) : 10 ^ 19 ≤ ofDigits ds * 10 ^ k := by
  have hpos : 1 ≤ ds.length := List.length_pos_iff.2 hne
  have hlarge : 10 ^ (ds.length - 1) ≤ ofDigits ds := by
    have h := le_ofDigits_take hds hhead hpos le_rfl
    rwa [List.take_length] at h
  calc 10 ^ 19 ≤ 10 ^ (ds.length - 1 + k) := Nat.pow_le_pow_right (by decide) (by omega)
    _ = 10 ^ (ds.length - 1) * 10 ^ k := pow_add _ _ _
    _ ≤ ofDigits ds * 10 ^ k := Nat.mul_le_mul_right _ hlarge

theorem le_kept (hhead : ∀ c ∈ ds.head?, c ≠ '0') {k : ℕ} (hlength : 19 < (ds.take k).length) :
    10 ^ 19 ≤ ofDigits (ds.take k) := by
  have hk : 19 < min k ds.length := List.length_take ▸ hlength
  calc 10 ^ 19 ≤ 10 ^ (min k ds.length - 1) := Nat.pow_le_pow_right (by decide) (by omega)
    _ ≤ ofDigits (ds.take (min k ds.length)) :=
      le_ofDigits_take hds hhead (by omega) (Nat.min_le_right _ _)
    _ = ofDigits (ds.take k) := by rw [← List.take_eq_take_min]

/-- Fewer digits than places after the point do not make up a half. -/
theorem halfAway_few {cut : ℕ} (hlength : ds.length < cut) :
    halfAway (ofDigits ds / (10 ^ cut : ℕ)) = 0 := by
  have hlt := ofDigits_lt hds
  have hpow : 10 ^ (ds.length + 1) ≤ 10 ^ cut := Nat.pow_le_pow_right (by decide) hlength
  rw [pow_succ] at hpow
  have h := halfAway_part (k := 0) (show ofDigits ds < 10 ^ cut by omega)
  rwa [mul_zero, zero_add, if_neg (by omega)] at h

/-- The digits before a cut stay, and those after it count as one if they make up a half. -/
theorem halfAway_cut {cut : ℕ} (hcut : 1 ≤ cut) (hlength : cut ≤ ds.length) :
    halfAway (ofDigits ds / (10 ^ cut : ℕ)) = (ofDigits (ds.take (ds.length - cut)) +
      match ds.drop (ds.length - cut) with
      | c :: _ => if '5' ≤ c then 1 else 0
      | [] => 0 : ℕ) := by
  have hparts : 10 ^ cut * ofDigits (ds.take (ds.length - cut)) +
      ofDigits (ds.drop (ds.length - cut)) = ofDigits ds := by
    have h := ofDigits_append (ds.take (ds.length - cut)) (ds.drop (ds.length - cut))
    rwa [List.take_append_drop, List.length_drop, Nat.sub_sub_self hlength, eq_comm] at h
  have hdropped : ∀ d ∈ ds.drop (ds.length - cut), isDigit d = true :=
    fun d hd => hds d (List.mem_of_mem_drop hd)
  have hdroplength : (ds.drop (ds.length - cut)).length = cut := by
    rw [List.length_drop, Nat.sub_sub_self hlength]
  have hlt := ofDigits_lt hdropped
  have hne : ds.drop (ds.length - cut) ≠ [] := List.ne_nil_of_length_pos (by omega)
  have hhalf := half_le_ofDigits hdropped hne
  rw [hdroplength] at hlt hhalf
  rw [← hparts, halfAway_part hlt]
  obtain ⟨c, rest, hdrop⟩ := List.exists_cons_of_ne_nil hne
  simp only [hdrop, List.head?_cons, Option.mem_some_iff, exists_eq_left'] at hhalf ⊢
  simp only [hhalf]
  split <;> simp

end Round

theorem moved_left {n : ℕ} {shift : Int} (hshift : 0 ≤ shift) :
    (n : ℚ) * 10 ^ shift = ((n * 10 ^ shift.toNat : ℕ) : ℤ) := by
  obtain ⟨k, rfl⟩ := Int.eq_ofNat_of_zero_le hshift
  simp

theorem moved_right {n : ℕ} {shift : Int} (hshift : shift < 0) :
    (n : ℚ) * 10 ^ shift = (n : ℚ) / ((10 ^ (-shift).toNat : ℕ) : ℚ) := by
  obtain ⟨k, rfl⟩ : ∃ k : ℕ, shift = -k := ⟨(-shift).toNat, by omega⟩
  simp [div_eq_mul_inv]

/-- Digits without zeros in front, moved and rounded to a whole number: it is the nearest one, and
there is none only if it would have twenty digits. -/
theorem roundDigits_spec {ds : List Char} (hds : ∀ d ∈ ds, isDigit d = true)
    (hhead : ∀ c ∈ ds.head?, c ≠ '0') (shift : Int) :
    (∀ k, roundDigits ds shift = some k → halfAway (ofDigits ds * 10 ^ shift) = k) ∧
      (roundDigits ds shift = none → 10 ^ 19 ≤ halfAway (ofDigits ds * 10 ^ shift)) := by
  unfold roundDigits
  split
  · next hnil =>
    subst hnil
    rw [ofDigits_nil, Nat.cast_zero, zero_mul]
    exact ⟨fun k hk => by rw [← Option.some.inj hk]; exact halfAway_intCast 0, by simp⟩
  next hne =>
  split
  · next hshift =>
    rw [moved_left hshift, halfAway_intCast]
    split
    · next hlength =>
      exact ⟨by simp, fun _ => mod_cast le_moved hds hhead hne hlength⟩
    · exact ⟨fun k hk => by rw [← Option.some.inj hk]; rfl, by simp⟩
  · next hshift =>
    rw [moved_right (not_le.1 hshift)]
    dsimp only
    have hcut : 1 ≤ (-shift).toNat := by omega
    generalize (-shift).toNat = cut at hcut ⊢
    split
    · next hlength =>
      rw [halfAway_few hds hlength]
      exact ⟨fun k hk => by rw [← Option.some.inj hk]; rfl, by simp⟩
    · next hlength =>
      rw [halfAway_cut hds hcut (not_lt.1 hlength)]
      split
      · next hkept =>
        have hlarge := le_kept hds hhead hkept
        exact ⟨by simp, fun _ => mod_cast hlarge.trans (Nat.le_add_right _ _)⟩
      · exact ⟨fun k hk => by cases hk; rfl, by simp⟩

/-! ## Signs and blanks -/

namespace Magnitude

variable {m : Magnitude}

/-- The digits without zeros in front count the hundredths when they are moved. -/
theorem hundredths (m : Magnitude) :
    100 * m.value = ofDigits (m.digits.dropWhile (· == '0')) * 10 ^ m.shift := by
  rw [ofDigits_dropWhile, value, shift, zpow_add₀ (by norm_num)]
  norm_num
  ring

theorem digits_stripped (hdigits : ∀ d ∈ m.digits, isDigit d = true) :
    ∀ d ∈ m.digits.dropWhile (· == '0'), isDigit d = true :=
  fun d hd => hdigits d ((List.dropWhile_sublist _).subset hd)

theorem head_stripped (m : Magnitude) :
    ∀ c ∈ (m.digits.dropWhile (· == '0')).head?, c ≠ '0' := by
  intro c hc
  have h := List.head?_dropWhile_not (· == '0') m.digits
  rw [Option.mem_def.1 hc] at h
  exact ne_of_beq_false h

theorem Spells.head {cs : List Char} (h : m.Spells cs) {c : Char} (hc : isDigit c = false)
    (hpoint : c ≠ '.') : cs.head? ≠ some c := by
  obtain ⟨⟨mantissa, exponent, rfl, hmantissa, -⟩, hne, hdigits⟩ := h
  have hnonempty : mantissa ≠ [] := by
    rcases hmantissa with rfl | ⟨hfraction, rfl⟩
    · simp
    · simpa [digits, hfraction] using hne
  rw [List.head?_append_of_ne_nil _ hnonempty]
  intro h
  have hnot : ∀ d ∈ mantissa, (d == c) = false :=
    hmantissa.forall hdigits (fun d hd => beq_false_of_ne (ne_of_isDigit hd hc))
      (beq_false_of_ne (Ne.symm hpoint))
  exact ne_of_beq_false (hnot c (List.mem_of_mem_head? h)) rfl

end Magnitude

theorem readCents_signed (sign : Sign) {m : Magnitude} {body : List Char} (h : m.Spells body) :
    readCents (sign.text ++ body) = (readMagnitude body).map fun k => sign.signed k := by
  cases sign with
  | unmarked =>
    have hminus := h.head (show isDigit '-' = false by decide) (by decide)
    have hplus := h.head (show isDigit '+' = false by decide) (by decide)
    rw [Sign.text, List.nil_append]
    unfold readCents
    split
    · exact absurd rfl hminus
    · exact absurd rfl hplus
    · rfl
  | plus | minus => rfl

theorem spells_of_readCents {cs : List Char} {z : Int} (h : readCents cs = some z) :
    ∃ n : Numeral, n.Spells cs ∧ n.Shifts := by
  have hread : ∃ (sign : Sign) (body : List Char), cs = sign.text ++ body ∧
      ∃ k, readMagnitude body = some k := by
    unfold readCents at h
    have ofMap {body : List Char} {f : Int → Int}
        (h : ((do let k ← readMagnitude body; pure (k : Int)) : Option Int).map f = some z) :
        ∃ k, readMagnitude body = some k := by
      obtain ⟨a, ha, -⟩ := Option.map_eq_some_iff.1 h
      obtain ⟨k, hk, -⟩ := Option.bind_eq_some_iff.1 ha
      exact ⟨k, hk⟩
    split at h
    · exact ⟨.minus, _, rfl, ofMap h⟩
    · exact ⟨.plus, _, rfl, ofMap h⟩
    · exact ⟨.unmarked, _, rfl, ofMap h⟩
  obtain ⟨sign, body, rfl, k, hk⟩ := hread
  obtain ⟨m, hm, hshifts⟩ := spells_of_readMagnitude hk
  exact ⟨⟨m, sign⟩, ⟨body, rfl, hm⟩, hshifts⟩

theorem ofCents?_eq_some_iff {z : Int} {d : Decimal} : ofCents? z = some d ↔ d.cents.toInt = z := by
  rw [ofCents?, Option.map_eq_some_iff]
  constructor
  · rintro ⟨w, hw, rfl⟩
    exact toInt_of_narrow? hw
  · rintro rfl
    exact ⟨d.cents, narrow?_toInt d.cents, rfl⟩

/-- The digits of a numeral round to its hundredths, or these are too many for a word. -/
theorem rounded_numeral {n : Numeral} (hdigits : ∀ d ∈ n.digits, isDigit d = true) :
    (∀ k, roundDigits (n.digits.dropWhile (· == '0')) n.shift = some k →
      halfAway (100 * n.value) = n.sign.signed k) ∧
    (roundDigits (n.digits.dropWhile (· == '0')) n.shift = none →
      ¬InWords (halfAway (100 * n.value))) := by
  obtain ⟨hsome, hnone⟩ := roundDigits_spec (Magnitude.digits_stripped hdigits)
    (Magnitude.head_stripped n.toMagnitude) n.shift
  rw [← Magnitude.hundredths] at hsome hnone
  have hsigned :
      halfAway (100 * n.value) = n.sign.signed (halfAway (100 * n.toMagnitude.value)) := by
    unfold Numeral.value
    cases n.sign with
    | minus => rw [if_pos rfl, mul_neg, halfAway_neg]; rfl
    | plus | unmarked => rfl
  rw [hsigned]
  refine ⟨fun k hk => by rw [hsome k hk], fun h => ?_⟩
  have hlarge := hnone h
  have hwords : ¬InWords (halfAway (100 * n.toMagnitude.value)) ∧
      ¬InWords (-halfAway (100 * n.toMagnitude.value)) := by
    simp only [InWords, wordMin, wordMax]
    omega
  cases n.sign with
  | minus => exact hwords.2
  | plus | unmarked => exact hwords.1

/-- A decimal numeral is read as its hundredths. -/
theorem ofText?_of_spells {s : String} {n : Numeral} (hn : n.Spells (Text.trimBlanks s.toList))
    (hshifts : n.Shifts) : ofText? s = ofCents? (halfAway (100 * n.value)) := by
  obtain ⟨body, hbody, hspells⟩ := hn
  obtain ⟨hsome, hnone⟩ := rounded_numeral hspells.digits_digit
  rw [ofText?, hbody, readCents_signed n.sign hspells, readMagnitude_of_spells hspells hshifts]
  cases hround : roundDigits (n.digits.dropWhile (· == '0')) n.shift with
  | some k =>
    rw [hsome k hround]
    rfl
  | none =>
    rw [ofCents?, narrow?_of_not_inWords (hnone hround)]
    rfl

theorem ofText?_eq_some_iff {s : String} {d : Decimal} : ofText? s = some d ↔ ∃ n : Numeral,
    n.Spells (Text.trimBlanks s.toList) ∧ n.Shifts ∧ d.cents.toInt = halfAway (100 * n.value) := by
  constructor
  · intro h
    obtain ⟨z, hz, -⟩ := Option.bind_eq_some_iff.1 h
    obtain ⟨n, hn, hshifts⟩ := spells_of_readCents hz
    rw [ofText?_of_spells hn hshifts] at h
    exact ⟨n, hn, hshifts, ofCents?_eq_some_iff.1 h⟩
  · rintro ⟨n, hn, hshifts, hcents⟩
    rw [ofText?_of_spells hn hshifts]
    exact ofCents?_eq_some_iff.2 hcents

/-- A text is read as a decimal if it is a decimal numeral, with blanks around it, whose exponent
can be counted and whose hundredths, rounded with halves away from zero, are a word. They are the
hundredths of the decimal. -/
theorem ofText?_exact (s : String) :
    (∀ d, ofText? s = some d ↔ ∃ n : Numeral, n.Spells (Text.trimBlanks s.toList) ∧ n.Shifts ∧
      d.cents.toInt = halfAway (100 * n.value)) ∧
    ((∃ d, ofText? s = some d) ↔ ∃ n : Numeral, n.Spells (Text.trimBlanks s.toList) ∧ n.Shifts ∧
      InWords (halfAway (100 * n.value))) := by
  refine ⟨fun d => ofText?_eq_some_iff, ?_⟩
  constructor
  · rintro ⟨d, hd⟩
    obtain ⟨n, hn, hshifts, hcents⟩ := ofText?_eq_some_iff.1 hd
    exact ⟨n, hn, hshifts, hcents ▸ inWords_toInt d.cents⟩
  · rintro ⟨n, hn, hshifts, hwords⟩
    exact ⟨⟨Int64.ofInt _⟩, ofText?_eq_some_iff.2 ⟨n, hn, hshifts, toInt_ofInt hwords⟩⟩

example : ofText? "\t-0010.05e-1 " = some ⟨-101⟩ := by decide +kernel

end Decimal
end TableMill
