import Mathlib.Algebra.Order.Floor.Ring
import Mathlib.Data.Rat.Floor
import Mathlib.Tactic.Linarith
import Mathlib.Tactic.FieldSimp
import Mathlib.Tactic.Ring
import TableMill.Number.Word

/-!
# Quotients of integers

Division of integers is that of rational numbers, cut toward zero or rounded with halves away from
zero.
-/

namespace TableMill
namespace Number

def cutToZero (q : ℚ) : ℤ := if 0 ≤ q then ⌊q⌋ else ⌈q⌉

/-- The integer nearest to a rational number; halves go away from zero. -/
def halfAway (q : ℚ) : ℤ := if 0 ≤ q then ⌊q + 1 / 2⌋ else ⌈q - 1 / 2⌉

variable {n d : ℤ}

theorem quotient_eq (hd : d ≠ 0) : (n : ℚ) / d = n.tdiv d + (n.tmod d : ℚ) / d := by
  have hd' : (d : ℚ) ≠ 0 := Int.cast_ne_zero.2 hd
  have h : ((d * n.tdiv d + n.tmod d : ℤ) : ℚ) = n := congrArg _ (Int.mul_tdiv_add_tmod n d)
  push_cast at h
  field_simp
  linarith

theorem abs_fraction_lt (hd : d ≠ 0) : |(n.tmod d : ℚ) / d| < 1 := by
  have h : (n.tmod d).natAbs < d.natAbs := by
    rw [Int.natAbs_tmod]
    exact Nat.mod_lt _ (Int.natAbs_pos.2 hd)
  rw [abs_div, div_lt_one (abs_pos.2 (Int.cast_ne_zero.2 hd)), ← Int.cast_abs, ← Int.cast_abs,
    ← Nat.cast_natAbs, ← Nat.cast_natAbs]
  exact_mod_cast h

theorem fraction_nonneg (h : 0 ≤ (n : ℚ) / d) : 0 ≤ (n.tmod d : ℚ) / d := by
  rcases div_nonneg_iff.1 h with ⟨hn, hd⟩ | ⟨hn, hd⟩
  · exact div_nonneg (Int.cast_nonneg (Int.tmod_nonneg d (Int.cast_nonneg_iff.1 hn))) hd
  · refine div_nonneg_of_nonpos (Int.cast_nonpos.2 ?_) hd
    have hneg := Int.tmod_nonneg d (Int.neg_nonneg_of_nonpos (Int.cast_nonpos.1 hn))
    rw [Int.neg_tmod] at hneg
    omega

theorem fraction_nonpos (h : (n : ℚ) / d ≤ 0) : (n.tmod d : ℚ) / d ≤ 0 := by
  have hneg : 0 ≤ ((-n : ℤ) : ℚ) / d := by
    rw [Int.cast_neg, neg_div]
    exact neg_nonneg.2 h
  have hfraction := fraction_nonneg hneg
  rw [Int.neg_tmod, Int.cast_neg, neg_div] at hfraction
  exact neg_nonneg.1 hfraction

theorem cutToZero_div (hd : d ≠ 0) : cutToZero ((n : ℚ) / d) = n.tdiv d := by
  have hlt := abs_lt.1 (abs_fraction_lt (n := n) hd)
  have heq := quotient_eq (n := n) hd
  unfold cutToZero
  split
  · next h =>
    have hfraction := fraction_nonneg h
    rw [Int.floor_eq_iff]
    constructor <;> linarith
  · next h =>
    have hfraction := fraction_nonpos (le_of_lt (not_le.1 h))
    rw [Int.ceil_eq_iff]
    constructor <;> linarith

theorem half_le_abs_fraction (hd : d ≠ 0) :
    2 * (n.tmod d).natAbs ≥ d.natAbs ↔ 1 / 2 ≤ |(n.tmod d : ℚ) / d| := by
  rw [abs_div, div_le_div_iff₀ two_pos (abs_pos.2 (Int.cast_ne_zero.2 hd)), one_mul,
    ← Int.cast_abs, ← Int.cast_abs, ← Nat.cast_natAbs, ← Nat.cast_natAbs, mul_comm 2]
  exact_mod_cast Iff.rfl

theorem sign_of_quotient_pos (h : 0 < (n : ℚ) / d) : n.sign * d.sign = 1 := by
  rcases div_pos_iff.1 h with ⟨hn, hd⟩ | ⟨hn, hd⟩
  · rw [Int.sign_eq_one_of_pos (Int.cast_pos.1 hn), Int.sign_eq_one_of_pos (Int.cast_pos.1 hd)]
    rfl
  · rw [Int.sign_eq_neg_one_of_neg (Int.cast_lt_zero.1 hn),
      Int.sign_eq_neg_one_of_neg (Int.cast_lt_zero.1 hd)]
    rfl

theorem sign_of_quotient_neg (h : (n : ℚ) / d < 0) : n.sign * d.sign = -1 := by
  have hpos : 0 < ((-n : ℤ) : ℚ) / d := by
    rw [Int.cast_neg, neg_div]
    exact neg_pos.2 h
  have hsign := sign_of_quotient_pos hpos
  rw [Int.sign_neg, Int.neg_mul] at hsign
  omega

/-- Rounded division gives the integer nearest to the exact quotient. -/
theorem halfAway_div (hd : d ≠ 0) : halfAway ((n : ℚ) / d) = divRound n d := by
  have hlt := abs_lt.1 (abs_fraction_lt (n := n) hd)
  have heq := quotient_eq (n := n) hd
  have hhalf := half_le_abs_fraction (n := n) hd
  unfold halfAway divRound
  by_cases hq : 0 ≤ (n : ℚ) / d
  · have hfraction := fraction_nonneg hq
    rw [abs_of_nonneg hfraction] at hhalf
    rw [if_pos hq, Int.floor_eq_iff]
    by_cases h : 2 * (n.tmod d).natAbs ≥ d.natAbs
    · have hup := hhalf.1 h
      have hpos : 0 < (n : ℚ) / d := by
        refine hq.lt_of_ne fun hzero => ?_
        have hn := (div_eq_zero_iff.1 hzero.symm).resolve_right (Int.cast_ne_zero.2 hd)
        rw [Int.cast_eq_zero.1 hn, Int.zero_tmod, Int.cast_zero, zero_div] at hup
        linarith
      rw [if_pos h, sign_of_quotient_pos hpos]
      push_cast
      constructor <;> linarith
    · have hdown := not_le.1 fun hup => h (hhalf.2 hup)
      rw [if_neg h]
      constructor <;> linarith
  · have hneg := not_le.1 hq
    have hfraction := fraction_nonpos hneg.le
    rw [abs_of_nonpos hfraction] at hhalf
    rw [if_neg hq, Int.ceil_eq_iff]
    by_cases h : 2 * (n.tmod d).natAbs ≥ d.natAbs
    · have hup := hhalf.1 h
      rw [if_pos h, sign_of_quotient_neg hneg]
      push_cast
      constructor <;> linarith
    · have hdown := not_le.1 fun hup => h (hhalf.2 hup)
      rw [if_neg h]
      constructor <;> linarith

theorem div_bounds (hd : 1 ≤ d) :
    0 ≤ n ∧ 0 ≤ (n : ℚ) / d ∧ (n : ℚ) / d ≤ n ∨ n < 0 ∧ (n : ℚ) / d < 0 ∧ (n : ℚ) ≤ n / d := by
  have hd' : (1 : ℚ) ≤ d := by exact_mod_cast hd
  rcases le_or_gt 0 n with hn | hn
  · have hn' : (0 : ℚ) ≤ n := Int.cast_nonneg hn
    exact .inl ⟨hn, div_nonneg hn' (by linarith), div_le_self hn' hd'⟩
  · have hn' : (n : ℚ) < 0 := Int.cast_lt_zero.2 hn
    refine .inr ⟨hn, div_neg_of_neg_of_pos hn' (by linarith), ?_⟩
    rw [le_div_iff₀ (by linarith)]
    nlinarith

theorem cutToZero_div_bounds (hd : 1 ≤ d) :
    min 0 n ≤ cutToZero ((n : ℚ) / d) ∧ cutToZero ((n : ℚ) / d) ≤ max 0 n := by
  unfold cutToZero
  rcases div_bounds (n := n) hd with ⟨hn, hlow, hup⟩ | ⟨hn, hup, hlow⟩
  · rw [if_pos hlow, min_eq_left hn, max_eq_right hn, Int.le_floor, Int.floor_le_iff]
    constructor
    · push_cast
      linarith
    · linarith
  · rw [if_neg (not_le.2 hup), min_eq_right hn.le, max_eq_left hn.le, Int.le_ceil_iff, Int.ceil_le]
    constructor
    · linarith
    · push_cast
      linarith

theorem halfAway_div_bounds (hd : 1 ≤ d) :
    min 0 n ≤ halfAway ((n : ℚ) / d) ∧ halfAway ((n : ℚ) / d) ≤ max 0 n := by
  unfold halfAway
  rcases div_bounds (n := n) hd with ⟨hn, hlow, hup⟩ | ⟨hn, hup, hlow⟩
  · rw [if_pos hlow, min_eq_left hn, max_eq_right hn, Int.le_floor, Int.floor_le_iff]
    constructor
    · push_cast
      linarith
    · linarith
  · rw [if_neg (not_le.2 hup), min_eq_right hn.le, max_eq_left hn.le, Int.le_ceil_iff, Int.ceil_le]
    constructor
    · linarith
    · push_cast
      linarith

/-! ## Rounding -/

variable {q : ℚ}

theorem halfAway_eq_iff (hq : 0 ≤ q) : halfAway q = n ↔ n - 1 / 2 ≤ q ∧ q < n + 1 / 2 := by
  rw [halfAway, if_pos hq, Int.floor_eq_iff]
  constructor <;> rintro ⟨hlow, hup⟩ <;> constructor <;> linarith

theorem halfAway_neg (q : ℚ) : halfAway (-q) = -halfAway q := by
  unfold halfAway
  rcases lt_trichotomy q 0 with hq | rfl | hq
  · rw [if_pos (by linarith), if_neg (by linarith), ← Int.floor_neg]
    congr 1
    ring
  · norm_num
  · rw [if_neg (by linarith), if_pos hq.le, ← Int.ceil_neg]
    congr 1
    ring

theorem halfAway_intCast (n : ℤ) : halfAway n = n := by
  have h := halfAway_div (n := n) (d := 1) one_ne_zero
  rwa [Int.cast_one, div_one, divRound, Int.tmod_one, Int.tdiv_one, if_neg (by decide)] at h

theorem natAbs_halfAway_div_le (hd : d ≠ 0) : (halfAway ((n : ℚ) / d)).natAbs ≤ n.natAbs := by
  rcases lt_or_gt_of_ne hd with hneg | hpos
  · have hsame : (n : ℚ) / d = ((-n : ℤ) : ℚ) / ((-d : ℤ) : ℚ) := by
      push_cast
      rw [neg_div_neg_eq]
    obtain ⟨hlow, hup⟩ := halfAway_div_bounds (n := -n) (d := -d) (by omega)
    rw [hsame]
    omega
  · obtain ⟨hlow, hup⟩ := halfAway_div_bounds (n := n) (d := d) hpos
    omega

/-- A part of `p` counts as one if it is a half of `p` or more. -/
theorem halfAway_part {k r p : ℕ} (hr : r < p) :
    halfAway (((p * k + r : ℕ) : ℚ) / p) = k + if p ≤ 2 * r then 1 else 0 := by
  have hp : (0 : ℚ) < p := by exact_mod_cast Nat.zero_lt_of_lt hr
  have hr' : (r : ℚ) < p := by exact_mod_cast hr
  have hparts : ((p * k + r : ℕ) : ℚ) / p = k + r / p := by
    push_cast
    field_simp
  have hpart : (r : ℚ) / p < 1 := (div_lt_one hp).2 hr'
  have hpart0 : (0 : ℚ) ≤ r / p := by positivity
  rw [hparts, halfAway_eq_iff (by positivity)]
  split
  · next h =>
    have hhalf : (1 : ℚ) / 2 ≤ r / p := by
      rw [div_le_div_iff₀ two_pos hp]
      have h' : (p : ℚ) ≤ 2 * r := by exact_mod_cast h
      linarith
    push_cast
    constructor <;> linarith
  · next h =>
    have hhalf : (r : ℚ) / p < 1 / 2 := by
      rw [div_lt_div_iff₀ hp two_pos]
      have h' : (2 : ℚ) * r < p := by exact_mod_cast not_le.1 h
      linarith
    push_cast
    constructor <;> linarith

end Number
end TableMill
