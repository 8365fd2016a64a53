import Mathlib.Data.String.Basic
import TableMill.Proofs.ChunkWidth
import TableMill.Proofs.ExactArithmetic
import TableMill.Proofs.FirstDifference

/-!
# The order of numbers in keys

The digits of a magnitude, filled up with zeros to a fixed width, come in the order of the
magnitudes, and their complements in the opposite one. With the sign in front, that is the
order of the numbers, for integers of at most eighteen digits and for all decimals.
-/

namespace TableMill

namespace Number

def lastDigits : Nat → Nat → List (Fin 10)
  | 0, _ => []
  | k + 1, n => lastDigits k (n / 10) ++ [Fin.ofNat 10 n]

theorem lastDigits_below {k m n : Nat} (h : m < n) (hn : n < 10 ^ k) :
    Below (lastDigits k m) (lastDigits k n) := by
  induction k generalizing m n with
  | zero => omega
  | succ k ih =>
    have hle : m / 10 ≤ n / 10 := by omega
    rcases Nat.lt_or_eq_of_le hle with hless | hsame
    · exact (ih hless (by omega)).append _ _
    · have hlast : Fin.ofNat 10 m < Fin.ofNat 10 n := by
        simp only [Fin.lt_def, Fin.ofNat]
        omega
      rw [lastDigits, lastDigits, hsame]
      exact (below_cons (.inl hlast)).prepend _

theorem lastDigits_zero (k : Nat) : lastDigits k 0 = List.replicate k 0 := by
  induction k with
  | zero => rfl
  | succ k ih => rw [lastDigits, Nat.zero_div, ih, List.replicate_succ']; rfl

/-- A number of at most `width` digits, filled up with zeros, is its last `width` digits. -/
theorem padded_toList {width n : Nat} (hwidth : 0 < width) (hn : n < 10 ^ width) :
    (padded width n).toList = (lastDigits width n).map fun d => d.val.digitChar := by
  induction width generalizing n with
  | zero => omega
  | succ k ih =>
    simp only [padded, String.toList_ofList, lastDigits, List.map_append] at ih ⊢
    by_cases hone : n < 10
    · rw [Nat.toDigits_of_lt_base hone, Nat.div_eq_of_lt hone, lastDigits_zero, List.map_replicate]
      simp [Fin.ofNat, Nat.mod_eq_of_lt hone]
    · have hk : 0 < k := Nat.pos_of_ne_zero fun h => hone (by simpa [h] using hn)
      rw [Nat.toDigits_of_base_le (by decide) (by omega), ← ih hk (by omega)]
      simp [Fin.ofNat]

end Number

namespace Component

open Number

/-- Whether a text of digits comes before another, and its complement after the other's. -/
structure DigitsBelow (a b : List Char) : Prop where
  below : Below a b
  complement : Below (complementDigits b) (complementDigits a)

theorem complementDigits_append (a b : List Char) :
    complementDigits (a ++ b) = complementDigits a ++ complementDigits b :=
  List.map_append

theorem DigitsBelow.append {a b : List Char} (h : DigitsBelow a b) (s t : List Char) :
    DigitsBelow (a ++ s) (b ++ t) where
  below := h.below.append s t
  complement := by
    simp only [complementDigits_append]
    exact h.complement.append _ _

theorem DigitsBelow.prepend {a b : List Char} (h : DigitsBelow a b) (s : List Char) :
    DigitsBelow (s ++ a) (s ++ b) where
  below := h.below.prepend s
  complement := by
    simp only [complementDigits_append]
    exact h.complement.prepend _

theorem padded_below {width m n : Nat} (hwidth : 0 < width) (h : m < n) (hn : n < 10 ^ width) :
    DigitsBelow (padded width m).toList (padded width n).toList := by
  have hbelow := lastDigits_below h hn
  rw [padded_toList hwidth (Nat.lt_trans h hn), padded_toList hwidth hn]
  refine ⟨hbelow.map _ (by decide), ?_⟩
  simp only [complementDigits, List.map_map]
  exact hbelow.map_anti _ (by decide)

theorem strictMonoOn_padded {width : Nat} (hwidth : 0 < width) :
    StrictMonoOn (padded width) {n | n < 10 ^ width} :=
  fun _ _ _ hn h => (padded_below hwidth h hn).below.lt

def wholeDigits : Nat := numberWidth - (numberPlaces + 1)

def hundredthDigits (n : Nat) : String :=
  padded wholeDigits (n / 100) ++ "." ++ padded 2 (n % 100) ++
    String.ofList (List.replicate (numberPlaces - 2) '0')

theorem hundredthDigits_below {m n : Nat} (h : m < n) (hn : n < 100 * 10 ^ wholeDigits) :
    DigitsBelow (hundredthDigits m).toList (hundredthDigits n).toList := by
  have hle : m / 100 ≤ n / 100 := by omega
  simp only [hundredthDigits, String.toList_append, List.append_assoc]
  rcases Nat.lt_or_eq_of_le hle with hless | hsame
  · exact (padded_below (by decide) hless (by omega)).append _ _
  · rw [hsame]
    refine ((DigitsBelow.append ?_ _ _).prepend _).prepend _
    exact padded_below (by decide) (by omega) (by omega)

theorem zeroFilled_fixedMagnitude (d : Decimal) :
    zeroFilled numberWidth (d.fixedMagnitude numberPlaces) =
      hundredthDigits d.cents.toInt.natAbs := by
  have hcents : (padded 2 (d.cents.toInt.natAbs % 100)).length = 2 :=
    length_padded (by decide) (by omega)
  have hpoint : ".".length = 1 := rfl
  have hlength (l : Nat) :
      numberWidth - (l + 1 + 2 + (numberPlaces - 2)) = wholeDigits - l := by
    simp only [wholeDigits, numberWidth, numberPlaces]
    omega
  apply String.toList_inj.1
  simp only [zeroFilled, Decimal.fixedMagnitude, hundredthDigits, String.length_append, hcents,
    hpoint, String.length_ofList, List.length_replicate, hlength, Nat.toString_eq_ofList_toDigits,
    String.toList_ofList, String.toList_append]
  simp only [padded, String.toList_ofList, List.append_assoc]

theorem encodeDecimal_eq (d : Decimal) :
    encodeDecimal d = signed (d.cents.toInt < 0) (hundredthDigits d.cents.toInt.natAbs) := by
  rw [encodeDecimal, zeroFilled_fixedMagnitude]
  simp only [Int64.lt_iff_toInt_lt, Int64.toInt_zero]

/-- The digits of a magnitude in the chunks of a kind of numbers, and the first magnitude for which
they do not suffice. -/
def magnitudeDigits (k : Kind) : Nat → String :=
  if k = .int then padded intDigits else hundredthDigits

def magnitudeLimit (k : Kind) : Nat :=
  if k = .int then intLimit else 100 * 10 ^ wholeDigits

theorem magnitudeDigits_below {k : Kind} {m n : Nat} (h : m < n) (hn : n < magnitudeLimit k) :
    DigitsBelow (magnitudeDigits k m).toList (magnitudeDigits k n).toList := by
  unfold magnitudeLimit at hn
  unfold magnitudeDigits
  split at hn
  · rename_i hk
    rw [if_pos hk]
    exact padded_below (by decide) h hn
  · rename_i hk
    rw [if_neg hk]
    exact hundredthDigits_below h hn

/-- How the chunks of a kind write the number with a count of units. -/
def unitsText (k : Kind) (m : Int) : String :=
  signed (m < 0) (magnitudeDigits k m.natAbs)

theorem unitsText_below {k : Kind} {m n : Int} (hm : m.natAbs < magnitudeLimit k)
    (hn : n.natAbs < magnitudeLimit k) (h : m < n) :
    Below (unitsText k m).toList (unitsText k n).toList := by
  unfold unitsText
  -- below zero the complements decide, above zero the digits, and between the two the sign
  by_cases hneg : n < 0
  · have hmneg : m < 0 := by omega
    simp only [signed, hneg, hmneg, decide_true, if_true, String.toList_ofList]
    exact below_cons (.inr ⟨rfl, (magnitudeDigits_below (by omega) hm).complement⟩)
  · by_cases hmneg : m < 0
    · have hsign : '-' < '0' := by decide
      simp only [signed, hneg, hmneg, decide_true, decide_false, if_true, Bool.false_eq_true,
        if_false, String.toList_ofList]
      exact below_cons (.inl hsign)
    · simp only [signed, hneg, hmneg, decide_false, Bool.false_eq_true, if_false,
        String.toList_ofList]
      exact below_cons (.inr ⟨rfl, (magnitudeDigits_below (by omega) hn).below⟩)

theorem encode_of_rational {c : Component} {v : Value} {x : ℚ} (hkind : v.kind = c.kind)
    (hx : v.rational? = some x) :
    ∃ m : Int, x = m / c.kind.scale ∧
      (m.natAbs < magnitudeLimit c.kind ↔ c.kind = .decimal ∨ |x| < 10 ^ 18) ∧
      ∀ s, c.encode v = .ok s ↔ m.natAbs < magnitudeLimit c.kind ∧ unitsText c.kind m = s := by
  simp only [encode, hkind, ne_eq, not_true_eq_false, if_false]
  rw [← hkind]
  cases v with
  | int w =>
    obtain rfl := Option.some.inj hx
    refine ⟨w.toInt, by simp [Value.kind, Kind.scale], ?_, fun s => encodeInt_eq_ok⟩
    simp only [Value.kind, magnitudeLimit, intLimit, reduceCtorEq, if_true, false_or]
    rw [← Int.cast_abs, Int.abs_eq_natAbs, Int.cast_natCast]
    norm_cast
  | decimal d =>
    obtain rfl := Option.some.inj hx
    have hsmall : d.cents.toInt.natAbs < magnitudeLimit .decimal := by
      have hmin := d.cents.le_toInt
      have hmax := d.cents.toInt_lt
      have hlimit : magnitudeLimit .decimal = 10 ^ 35 := by decide
      omega
    refine ⟨d.cents.toInt, by simp [Value.kind, Kind.scale], ?_, fun s => ?_⟩
    · exact ⟨fun _ => .inl rfl, fun _ => hsmall⟩
    · rw [Except.ok.injEq, encodeDecimal_eq]
      exact ⟨fun h => ⟨hsmall, h⟩, fun h => h.2⟩
  | float _ | text _ | bool _ | datetime _ => cases hx

/-- An integer has a chunk if it has at most eighteen digits, a decimal always. Of two numbers of
one kind, the lesser has the lesser chunk. -/
theorem number_chunks {c : Component} {v w : Value} {x y : ℚ} (hv : v.kind = c.kind)
    (hw : w.kind = c.kind) (hx : v.rational? = some x) (hy : w.rational? = some y) :
    ((∃ s, c.encode v = .ok s) ↔ c.kind = .decimal ∨ |x| < 10 ^ 18) ∧
    ∀ s t, c.encode v = .ok s → c.encode w = .ok t →
      (s < t ↔ x < y) ∧ (s = t ↔ x = y) ∧ (t < s ↔ y < x) := by
  obtain ⟨m, rfl, hlimit, hm⟩ := encode_of_rational hv hx
  obtain ⟨n, rfl, -, hn⟩ := encode_of_rational hw hy
  have hscale : (0 : ℚ) < c.kind.scale := by cases c.kind <;> norm_num [Kind.scale]
  refine ⟨?_, fun s t hs ht => ?_⟩
  · simp only [hm, exists_and_left, exists_eq', and_true, hlimit]
  · obtain ⟨hmlimit, rfl⟩ := (hm s).1 hs
    obtain ⟨hnlimit, rfl⟩ := (hn t).1 ht
    have hmono : StrictMonoOn (unitsText c.kind) {m | m.natAbs < magnitudeLimit c.kind} :=
      fun _ hm _ hn h => (unitsText_below hm hn h).lt
    rw [hmono.lt_iff_lt hmlimit hnlimit, hmono.lt_iff_lt hnlimit hmlimit,
      hmono.injOn.eq_iff hmlimit hnlimit, div_lt_div_iff_of_pos_right hscale,
      div_lt_div_iff_of_pos_right hscale, div_left_inj' hscale.ne', Int.cast_lt, Int.cast_lt,
      Int.cast_inj]
    exact ⟨Iff.rfl, Iff.rfl, Iff.rfl⟩

end Component

namespace DebtSample

def component : Component := .plain "debt" .decimal
def most : Value := .decimal ⟨Int64.minValue⟩
def least : Value := .decimal ⟨-1⟩

theorem rational_most : most.rational? = some (-9223372036854775808 / 100) := by
  have hunits : Int64.minValue.toInt = -9223372036854775808 := rfl
  norm_num only [most, Value.rational?, hunits]

theorem rational_least : least.rational? = some (-1 / 100) := by
  have hunits : (-1 : Int64).toInt = -1 := rfl
  norm_num only [least, Value.rational?, hunits]

theorem number_chunks_debts :
    most.kind = component.kind ∧ least.kind = component.kind ∧
      ∃ s t, component.encode most = .ok s ∧ component.encode least = .ok t ∧ s < t := by
  have hmost := Component.number_chunks (c := component) rfl rfl rational_most rational_least
  have hleast := Component.number_chunks (c := component) rfl rfl rational_least rational_most
  obtain ⟨s, hs⟩ := hmost.1.2 (.inl rfl)
  obtain ⟨t, ht⟩ := hleast.1.2 (.inl rfl)
  exact ⟨rfl, rfl, s, t, hs, ht, (hmost.2 s t hs ht).1.2 (by norm_num)⟩

end DebtSample
end TableMill
