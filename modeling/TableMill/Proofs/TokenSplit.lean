import Mathlib.Data.List.Perm.Basic
import TableMill.Proofs.LeftScan

/-!
# Splitting the tokens

The ranges of a split follow each other from the first token to the last, so every row has its
token in exactly one of them.
-/

namespace TableMill

theorem wordMin_le_tokenOf (a : Int64) : Number.wordMin ≤ tokenOf a := by
  have h := ((mixBits a.toUInt64).toInt64).le_toInt
  unfold tokenOf Number.wordMin
  omega

namespace TokenRange

variable (rows : List Row)

theorem rowsOf_append_perm {first next last : Int} (hfirst : first ≤ next)
    (hlast : next ≤ last + 1) :
    (rowsOf ⟨first, next - 1⟩ rows ++ rowsOf ⟨next, last⟩ rows).Perm
      (rowsOf ⟨first, last⟩ rows) := by
  have hfront : rowsOf ⟨first, next - 1⟩ rows =
      (rowsOf ⟨first, last⟩ rows).filter fun r => r.token < next := by
    rw [rowsOf, rowsOf, List.filter_filter]
    apply List.filter_congr
    intro r _
    by_cases h : r.token < next
    · have hnext : r.token ≤ next - 1 := by omega
      have : r.token ≤ last := by omega
      simp [h, hnext, this]
    · have hnext : ¬ r.token ≤ next - 1 := by omega
      simp [h, hnext]
  have hback : rowsOf ⟨next, last⟩ rows =
      (rowsOf ⟨first, last⟩ rows).filter fun r => !decide (r.token < next) := by
    rw [rowsOf, rowsOf, List.filter_filter]
    apply List.filter_congr
    intro r _
    by_cases h : r.token < next
    · have hnext : ¬ next ≤ r.token := by omega
      simp [h, hnext]
    · have hnext : next ≤ r.token := by omega
      have : first ≤ r.token := by omega
      simp [h, hnext, this]
  rw [hfront, hback]
  exact List.filter_append_perm _ _

theorem rowsOf_steps_perm (first : Int) {width : Int} (hwidth : 0 ≤ width) (count : Nat) :
    ((List.range count).flatMap fun (i : Nat) =>
      rowsOf ⟨first + i * width, first + i * width + width - 1⟩ rows).Perm
      (rowsOf ⟨first, first + count * width - 1⟩ rows) := by
  induction count with
  | zero =>
    have hempty : rowsOf ⟨first, first + (0 : Nat) * width - 1⟩ rows = [] := by
      rw [Int.natCast_zero, Int.zero_mul, rowsOf_of_lt (by omega)]
    rw [hempty]
    exact List.Perm.refl _
  | succ k ih =>
    have hk : 0 ≤ (k : Int) * width := Int.mul_nonneg (Int.natCast_nonneg k) hwidth
    have hend : first + (k + 1 : Nat) * width - 1 = first + k * width + width - 1 := by
      rw [Int.natCast_succ, Int.add_mul, Int.one_mul, Int.add_assoc]
    rw [List.range_succ, List.flatMap_append, List.flatMap_singleton, hend]
    exact (ih.append_right _).trans (rowsOf_append_perm rows (by omega) (by omega))

theorem step_nonneg (n : Nat) : 0 ≤ step n := by
  have hmax := Int.tdiv_nonneg (show (0 : Int) ≤ Number.wordMax by decide) (Int.natCast_nonneg n)
  have hmin := Int.tdiv_nonneg (show (0 : Int) ≤ -Number.wordMin by decide) (Int.natCast_nonneg n)
  rw [Int.neg_tdiv] at hmin
  unfold step
  omega

theorem mul_step {n : Nat} (hn : 0 < n) :
    ∃ rest : Int, n * step n + rest = Number.wordMax - Number.wordMin + 1 ∧
      0 < rest ∧ rest < 2 * n := by
  have hhigh := Int.mul_ediv_add_emod Number.wordMax n
  have hlow := Int.mul_ediv_add_emod (-Number.wordMin) n
  have hhigh₀ := Int.emod_nonneg Number.wordMax (show (n : Int) ≠ 0 by omega)
  have hlow₀ := Int.emod_nonneg (-Number.wordMin) (show (n : Int) ≠ 0 by omega)
  have hhigh₁ := Int.emod_lt_of_pos Number.wordMax (show (0 : Int) < n by omega)
  have hlow₁ := Int.emod_lt_of_pos (-Number.wordMin) (show (0 : Int) < n by omega)
  have hstep : step n = Number.wordMax / n + -Number.wordMin / n := by
    rw [step, Int.tdiv_eq_ediv_of_nonneg (by decide), ← Int.neg_neg Number.wordMin, Int.neg_tdiv,
      Int.tdiv_eq_ediv_of_nonneg (by decide), Int.neg_neg]
    omega
  refine ⟨Number.wordMax % n + -Number.wordMin % n + 1, ?_, by omega, by omega⟩
  rw [hstep, Int.mul_add]
  omega

/-- The ranges do not reach beyond the last token. -/
theorem mul_step_le {n : Nat} (hn : 0 < n) : n * step n ≤ Number.wordMax - Number.wordMin := by
  obtain ⟨rest, hrest, hpos, -⟩ := mul_step hn
  omega

theorem nth_of_lt {n i : Nat} (hi : i + 1 < n) :
    nth n i = ⟨Number.wordMin + i * step n, Number.wordMin + i * step n + step n - 1⟩ := by
  rw [nth, if_neg (by omega)]

theorem nth_last {n i : Nat} (hi : i + 1 = n) :
    nth n i = ⟨Number.wordMin + i * step n, Number.wordMax⟩ := by
  rw [nth, if_pos hi]

theorem rowsOf_all : all.rowsOf rows = rows := by
  apply List.filter_eq_self.2
  intro r _
  have hfirst : Number.wordMin ≤ r.token := wordMin_le_tokenOf r.rowid
  have hlast : r.token ≤ Number.wordMax := tokenOf_le_wordMax r.rowid
  simp [all, hfirst, hlast]

/-- Every row is in exactly one range of a split. -/
theorem split_rowsOf_perm (n : Nat) :
    ((split n).flatMap fun range => range.rowsOf rows).Perm rows := by
  unfold split
  split
  · rw [List.flatMap_singleton, rowsOf_all]
  · next hn =>
    obtain ⟨k, rfl⟩ : ∃ k, n = k + 1 := ⟨n - 1, by omega⟩
    have hwidth := step_nonneg (k + 1)
    have hle := mul_step_le (show 0 < k + 1 by omega)
    rw [Int.natCast_succ, Int.add_mul, Int.one_mul] at hle
    have hk : 0 ≤ (k : Int) * step (k + 1) := Int.mul_nonneg (Int.natCast_nonneg k) hwidth
    have hinner : ((List.range k).flatMap fun i => (nth (k + 1) i).rowsOf rows) =
        (List.range k).flatMap fun (i : Nat) => rowsOf ⟨Number.wordMin + i * step (k + 1),
          Number.wordMin + i * step (k + 1) + step (k + 1) - 1⟩ rows := by
      apply List.flatMap_congr
      intro i hi
      have hlt := List.mem_range.1 hi
      rw [nth_of_lt (by omega)]
    rw [List.flatMap_map, List.range_succ, List.flatMap_append, List.flatMap_singleton, hinner,
      nth_last rfl]
    refine ((rowsOf_steps_perm rows _ hwidth k).append_right _).trans ?_
    refine (rowsOf_append_perm rows (by omega) (by omega)).trans ?_
    exact List.Perm.of_eq (rowsOf_all rows)

end TokenRange
end TableMill
