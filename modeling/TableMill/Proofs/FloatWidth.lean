import Mathlib.Algebra.Group.Nat.Defs
import TableMill.Table.Key

/-!
# The width of floating-point numbers in keys

A magnitude below `10 ^ 33`, written with 32 places, has at most 33 digits before the
point. The bound is checked on the numbers themselves; here it is carried to their bits,
which are ordered like the magnitudes, and from the bits to the digits.
-/

namespace TableMill
namespace Number

open Float.Model

theorem unpackMantissa_toNat (b : BitVec 64) :
    (@UnpackedFloat.unpackMantissa Format.binary64 b).toNat = b.toNat % 2 ^ 52 := by
  simp [UnpackedFloat.unpackMantissa, BitVec.extractLsb_toNat]

theorem unpackExponent_toNat (b : BitVec 64) :
    (@UnpackedFloat.unpackExponent Format.binary64 b).toNat =
      b.toNat / 2 ^ 52 % 2 ^ 11 := by
  simp [UnpackedFloat.unpackExponent, BitVec.extractLsb_toNat, Nat.shiftRight_eq_div_pow]

theorem unpackSign_of_lt {b : BitVec 64} (h : b.toNat < 2 ^ 63) :
    @UnpackedFloat.unpackSign Format.binary64 b = 0#1 := by
  apply BitVec.eq_of_toNat_eq
  delta UnpackedFloat.unpackSign
  simp [BitVec.extractLsb_toNat, Nat.shiftRight_eq_div_pow]
  omega

theorem packComponents_lt (e : BitVec 11) (m : BitVec 52) :
    (UnpackedFloat.packComponents Format.binary64 .positive e m).toNat < 2 ^ 63 := by
  have he := e.isLt
  have hm := m.isLt
  simp only [UnpackedFloat.packComponents, UnpackedFloat.Sign.toBitVec, BitVec.toNat_append]
  rw [← Nat.shiftLeft_add_eq_or_of_lt hm, ← Nat.shiftLeft_add_eq_or_of_lt he]
  simp [Nat.shiftLeft_eq] at *
  omega

theorem abs_toBits_lt (x : Float) : x.abs.toBits.toNat < 2 ^ 63 := by
  change (UnpackedFloat.pack Format.binary64 x.toModel.unpack.abs).toNat < 2 ^ 63
  cases x.toModel.unpack with
  | infinity s => exact packComponents_lt _ _
  | notANumber => exact packComponents_lt _ _
  | zero s => exact packComponents_lt _ _
  | finite s m e hm =>
    delta UnpackedFloat.abs UnpackedFloat.pack
    dsimp only
    split
    · exact packComponents_lt _ _
    · split <;> exact packComponents_lt _ _

theorem unpack_normal {b : BitVec 64} (hpos : b.toNat < 2 ^ 63) (he : 0 < b.toNat / 2 ^ 52)
    (hlast : b.toNat / 2 ^ 52 < 2047) :
    UnpackedFloat.unpack Format.binary64 b = .finite .positive (2 ^ 52 + b.toNat % 2 ^ 52)
      ((b.toNat / 2 ^ 52 : Nat) - 1075) (by omega) := by
  have hexp := unpackExponent_toNat b
  have hman := unpackMantissa_toNat b
  rw [Nat.mod_eq_of_lt (by omega)] at hexp
  unfold UnpackedFloat.unpack
  rw [unpackSign_of_lt hpos, if_neg, if_neg, UnpackedFloat.finite.injEq]
  · refine ⟨rfl, ?_, ?_⟩
    · rw [BitVec.toNat_append, ← Nat.shiftLeft_add_eq_or_of_lt (BitVec.isLt _), hman]
      rfl
    · rw [hexp]
      rfl
  · intro h
    rw [h] at hexp
    simp at hexp
    omega
  · intro h
    rw [h] at hexp
    simp at hexp
    omega

/-- Of two such numbers, the one that is not reached has the greater bits. -/
theorem toBits_lt_of_not_le {x y : Float} (hx : x.toBits.toNat < 2 ^ 63)
    (hy : y.toBits.toNat < 2 ^ 63) (hex : 0 < x.toBits.toNat / 2 ^ 52)
    (hex' : x.toBits.toNat / 2 ^ 52 < 2047) (hey : 0 < y.toBits.toNat / 2 ^ 52)
    (hey' : y.toBits.toNat / 2 ^ 52 < 2047) (h : ¬ x ≤ y) : y.toBits.toNat < x.toBits.toNat := by
  have hle : ¬ (UnpackedFloat.unpack Format.binary64 x.toBits.toBitVec).le
      (UnpackedFloat.unpack Format.binary64 y.toBits.toBitVec) = true :=
    fun hle => h (decide_eq_true hle)
  rw [unpack_normal hx hex hex', unpack_normal hy hey hey'] at hle
  change ¬ ((compare (((x.toBits.toNat / 2 ^ 52 : Nat) : Int) - 1075)
      ((y.toBits.toNat / 2 ^ 52 : Nat) - 1075)).then
    (compare (2 ^ 52 + x.toBits.toNat % 2 ^ 52) (2 ^ 52 + y.toBits.toNat % 2 ^ 52))).isLE
      = true at hle
  generalize x.toBits.toNat = m at *
  generalize y.toBits.toNat = n at *
  refine Nat.lt_of_not_le fun hmn => hle ?_
  rcases (by omega : m / 2 ^ 52 < n / 2 ^ 52 ∨ m / 2 ^ 52 = n / 2 ^ 52) with hexp | hexp
  · rw [Int.compare_eq_lt.2 (by omega)]
    rfl
  · rw [hexp, Int.compare_eq_eq.2 rfl]
    exact Nat.isLE_compare.2 (by omega)

theorem divHalfEven_le (n d : Nat) : divHalfEven n d ≤ n / d + 1 := by
  unfold divHalfEven
  dsimp only
  split
  · omega
  · split
    · omega
    · split <;> omega

theorem divHalfEven_one (n : Nat) : divHalfEven n 1 = n := by
  simp [divHalfEven, Nat.mod_one]

theorem length_positional {a k p : Nat} (ha : a < 10 ^ k) (hp : 0 < p) (hk : p < k) :
    (positional a (-(p : Int))).length ≤ k + 1 := by
  have hdigits : (Nat.toDigits 10 a).length ≤ k :=
    (Nat.length_toDigits_le_iff (by decide) (by omega)).2 ha
  have hneg : ¬ (0 : Int) ≤ -(p : Int) := by omega
  have hplaces : (- -(p : Int)).toNat = p := by omega
  unfold positional
  rw [if_neg hneg, hplaces]
  simp only [String.length_ofList, List.length_append, List.length_take, List.length_cons,
    List.length_drop, List.length_replicate]
  omega

theorem rounded_fraction_lt {m : Nat} {q : Int} (hm : m < 2 ^ 53) (hq : q < 0) :
    divHalfEven ((ratio m q).1 * Nat.pow 10 Component.numberPlaces) (ratio m q).2 < 10 ^ 65 := by
  rw [ratio, if_neg (by omega)]
  calc
    divHalfEven (m * 10 ^ 32) (Nat.pow 2 (-q).toNat)
      ≤ m * 10 ^ 32 / Nat.pow 2 (-q).toNat + 1 := divHalfEven_le _ _
    _ ≤ m * 10 ^ 32 + 1 := Nat.succ_le_succ (Nat.div_le_self _ _)
    _ < 10 ^ 65 := by omega

theorem rounded_whole_lt {m : Nat} {q : Int} (hq : 0 ≤ q) (hm : m * 2 ^ q.toNat < 10 ^ 33) :
    divHalfEven ((ratio m q).1 * Nat.pow 10 Component.numberPlaces) (ratio m q).2 < 10 ^ 65 := by
  rw [ratio, if_pos hq, divHalfEven_one]
  have hpow : m * Nat.pow 2 q.toNat < 10 ^ 33 := hm
  have hplaces : Nat.pow 10 Component.numberPlaces = 10 ^ 32 := rfl
  rw [hplaces]
  omega

/-- Numbers with lesser bits than the limit are below `10 ^ 33`. -/
theorem shifted_lt {n : Nat} (hn : n < 5100510072459938204) :
    (2 ^ 52 + n % 2 ^ 52) * 2 ^ (n / 2 ^ 52 - 1075) < 10 ^ 33 := by
  rcases (by omega : n / 2 ^ 52 - 1075 ≤ 56 ∨ n / 2 ^ 52 - 1075 = 57) with h | h
  · have hpow : 2 ^ (n / 2 ^ 52 - 1075) ≤ 2 ^ 56 := Nat.pow_le_pow_right (by decide) h
    have hman : 2 ^ 52 + n % 2 ^ 52 ≤ 2 ^ 53 := by omega
    calc
      _ ≤ 2 ^ 53 * 2 ^ 56 := Nat.mul_le_mul hman hpow
      _ < 10 ^ 33 := by decide
  · rw [h]
    omega

/-- A finite magnitude below the limit has at most 33 digits before the point. -/
theorem rounded_lt {y : Float} (hpos : y.toBits.toNat < 2 ^ 63)
    (hlimit : ¬ Component.floatLimit ≤ y) {negative : Bool} {m : Nat} {q : Int}
    (h : reading y = .finite negative m q) :
    negative = false ∧
      divHalfEven ((ratio m q).1 * Nat.pow 10 Component.numberPlaces) (ratio m q).2 < 10 ^ 65 := by
  have hbits : Component.floatLimit.toBits.toNat = 5100510072459938204 := by decide +kernel
  have horder (hey : 0 < y.toBits.toNat / 2 ^ 52) (hey' : y.toBits.toNat / 2 ^ 52 < 2047) :
      y.toBits.toNat < 5100510072459938204 := by
    rw [← hbits]
    exact toBits_lt_of_not_le (by omega) hpos (by omega) (by omega) hey hey' hlimit
  have hhidden : hiddenBit = 2 ^ 52 := rfl
  unfold reading at h
  rw [hhidden] at h
  dsimp only at h
  generalize y.toBits.toNat = n at *
  have hsign : ¬ 9223372036854775808 ≤ n := by omega
  have hmod : n / 2 ^ 52 % 2048 = n / 2 ^ 52 := Nat.mod_eq_of_lt (by omega)
  rw [hmod, decide_eq_false hsign] at h
  split at h
  · split at h <;> cases h
  · rename_i hlast
    split at h
    · cases h
      exact ⟨rfl, rounded_fraction_lt (by omega) (by decide)⟩
    · cases h
      refine ⟨rfl, ?_⟩
      by_cases hexp : n / 2 ^ 52 < 1075
      · exact rounded_fraction_lt (by omega) (by omega)
      · have hn := horder (by omega) (by omega)
        have hshift : ((n / 2 ^ 52 : Nat) - 1075 : Int).toNat = n / 2 ^ 52 - 1075 := by omega
        refine rounded_whole_lt (by omega) ?_
        rw [hshift]
        exact shifted_lt hn

/-- Floating-point numbers that have keys fit into the width of numbers. -/
theorem length_fixedText {x : Float} (h : ¬ Component.floatLimit ≤ x.abs) :
    (fixedText Component.numberPlaces x.abs).length ≤ Component.numberWidth := by
  unfold fixedText
  split
  · decide
  · rename_i negative _
    cases negative <;> decide
  · rename_i negative m q hreading
    obtain ⟨rfl, hlt⟩ := rounded_lt (abs_toBits_lt x) h hreading
    have hlength := length_positional hlt (p := Component.numberPlaces) (by decide) (by decide)
    simpa [signText, Component.numberWidth] using hlength

end Number
end TableMill
