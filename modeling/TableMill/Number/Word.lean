/-!
# 64-bit integers

Arithmetic is done on exact integers; a result that does not fit a signed 64-bit
word is reported instead of wrapped.
-/

namespace TableMill
namespace Number

def wordMin : Int := -9223372036854775808
def wordMax : Int := 9223372036854775807

/-- The word that stands for an exact integer, if there is one. -/
def narrow? (n : Int) : Option Int64 :=
  if wordMin ≤ n ∧ n ≤ wordMax then some (Int64.ofInt n) else none

theorem toInt_of_narrow? {n : Int} {w : Int64} (h : narrow? n = some w) : w.toInt = n := by
  unfold narrow? at h
  split at h
  · rename_i hn
    obtain rfl := Option.some.inj h
    exact Int64.toInt_ofInt_of_le (by simp only [wordMin] at hn; omega)
      (by simp only [wordMax] at hn; omega)
  · exact absurd h (by simp)

theorem narrow?_toInt (w : Int64) : narrow? w.toInt = some w := by
  have hl := w.le_toInt
  have hu := w.toInt_lt
  unfold narrow?
  rw [if_pos ⟨by simp only [wordMin]; omega, by simp only [wordMax]; omega⟩]
  simp

theorem narrow?_eq_none {n : Int} : narrow? n = none ↔ n < wordMin ∨ wordMax < n := by
  unfold narrow?
  split
  · simp only [reduceCtorEq, false_iff]; omega
  · simp only [true_iff]; omega

theorem toInt_ne_zero {w : Int64} (h : w ≠ 0) : w.toInt ≠ 0 := fun hzero =>
  h (Int64.toInt_inj.1 hzero)

/-- The magnitude of a word. That of the least one is no word. -/
def magnitude? (w : Int64) : Option Int64 :=
  narrow? w.toInt.natAbs

theorem magnitude?_eq_none {w : Int64} : magnitude? w = none ↔ w = Int64.minValue := by
  have hlow := w.le_toInt
  have hup := w.toInt_lt
  rw [magnitude?, narrow?_eq_none, ← Int64.toInt_inj, wordMin, wordMax,
    show Int64.minValue.toInt = -9223372036854775808 from rfl]
  omega

/-- The quotient rounded to the nearest integer, halves away from zero. -/
def divRound (n d : Int) : Int :=
  if 2 * (n.tmod d).natAbs ≥ d.natAbs then n.tdiv d + n.sign * d.sign else n.tdiv d

end Number
end TableMill
