import TableMill.Proofs.RunningTotals

/-!
# Machine integers

Integers of a fixed width. An operation whose exact result does not fit the width, and a division
by zero, stop the machine with a trap: it does not go on with another number. A checked operation
has no result then, and the program goes on.
-/

namespace TableMill

/-- The widths of machine integers, with a sign and without. -/
inductive Width
  | i32 | i64 | i128 | u64
  deriving DecidableEq

inductive MachineOp
  | convert | sum | difference | product | negative | magnitude | power | quotient | remainder
  deriving DecidableEq

/-- An operation that stops the machine. -/
structure Trap where
  width : Width
  op : MachineOp
  operands : List Int
  deriving DecidableEq

/-- What a machine comes to, unless it is stopped. -/
abbrev Machine := Except Trap

namespace Width

def low : Width → Int
  | i32 => -2147483648
  | i64 => -9223372036854775808
  | i128 => -170141183460469231731687303715884105728
  | u64 => 0

def high : Width → Int
  | i32 => 2147483647
  | i64 => 9223372036854775807
  | i128 => 170141183460469231731687303715884105727
  | u64 => 18446744073709551615

def Fits (w : Width) (n : Int) : Prop := w.low ≤ n ∧ n ≤ w.high

instance (w : Width) (n : Int) : Decidable (w.Fits n) := inferInstanceAs (Decidable (_ ∧ _))

/-- The exact result of an operation, if it fits. -/
def perform (w : Width) (op : MachineOp) (operands : List Int) (result : Int) : Machine Int :=
  if w.Fits result then .ok result else .error ⟨w, op, operands⟩

def convert (w : Width) (a : Int) : Machine Int := w.perform .convert [a] a

def sum (w : Width) (a b : Int) : Machine Int := w.perform .sum [a, b] (a + b)

def difference (w : Width) (a b : Int) : Machine Int := w.perform .difference [a, b] (a - b)

def product (w : Width) (a b : Int) : Machine Int := w.perform .product [a, b] (a * b)

def negative (w : Width) (a : Int) : Machine Int := w.perform .negative [a] (-a)

def magnitude (w : Width) (a : Int) : Machine Int := w.perform .magnitude [a] a.natAbs

def power (w : Width) (a : Int) (n : Nat) : Machine Int := w.perform .power [a, n] (a ^ n)

def quotient (w : Width) (a b : Int) : Machine Int :=
  if b = 0 then .error ⟨w, .quotient, [a, b]⟩ else w.perform .quotient [a, b] (a.tdiv b)

/-- The remainder of a quotient that has to fit as well. -/
def remainder (w : Width) (a b : Int) : Machine Int :=
  if b ≠ 0 ∧ w.Fits (a.tdiv b) then .ok (a.tmod b) else .error ⟨w, .remainder, [a, b]⟩

variable {w : Width} {op : MachineOp} {operands : List Int} {a b n : Int}

theorem perform_of_fits (h : w.Fits n) : w.perform op operands n = .ok n := if_pos h

theorem quotient_of_fits (hb : b ≠ 0) (h : w.Fits (a.tdiv b)) :
    w.quotient a b = .ok (a.tdiv b) := by
  rw [quotient, if_neg hb, perform_of_fits h]

theorem remainder_of_fits (hb : b ≠ 0) (h : w.Fits (a.tdiv b)) :
    w.remainder a b = .ok (a.tmod b) :=
  if_pos ⟨hb, h⟩

theorem fits_i128 (h : n.natAbs < 2 ^ 127) : i128.Fits n := by
  simp only [Fits, low, high]
  omega

theorem fits_i64 (h : n.natAbs < 2 ^ 63) : i64.Fits n := by
  simp only [Fits, low, high]
  omega

theorem fits_i64_iff : i64.Fits n ↔ InWords n := Iff.rfl

end Width

namespace Machine

open Number Width

theorem natAbs_toInt_le (w : Int64) : w.toInt.natAbs ≤ 2 ^ 63 := by
  have hlow := w.le_toInt
  have hup := w.toInt_lt
  omega

@[simp] theorem ok_bind {α β : Type} (a : α) (f : α → Machine β) :
    ((.ok a : Machine α) >>= f) = f a := rfl

def checked (m : Machine Int) : Option Int64 := m.toOption.map Int64.ofInt

theorem checked_perform (op : MachineOp) (operands : List Int) (n : Int) :
    checked (i64.perform op operands n) = narrow? n := by
  unfold checked perform
  by_cases h : InWords n
  · rw [if_pos (fits_i64_iff.2 h), narrow?_of_inWords h]
    rfl
  · rw [if_neg (mt fits_i64_iff.1 h), narrow?_of_not_inWords h]
    rfl

def divRound (numerator denominator : Int) : Machine Int := do
  let quotient ← i128.quotient numerator denominator
  let remainder ← i128.remainder numerator denominator
  let size ← i128.magnitude remainder
  let twice ← i128.product size 2
  let bound ← i128.magnitude denominator
  if twice ≥ bound then
    let sign ← i128.product numerator.sign denominator.sign
    i128.sum quotient sign
  else pure quotient

theorem natAbs_signs_le (n d : Int) : (n.sign * d.sign).natAbs ≤ 1 := by
  rcases Int.sign_trichotomy n with hn | hn | hn <;>
    rcases Int.sign_trichotomy d with hd | hd | hd <;> rw [hn, hd] <;> decide

/-- Operands up to the product of two words leave room for the rounding. -/
theorem divRound_value {n d : Int} (hd : d ≠ 0) (hn : n.natAbs ≤ 2 ^ 126)
    (hbound : d.natAbs ≤ 2 ^ 126) : divRound n d = .ok (Number.divRound n d) := by
  have hquotient : (n.tdiv d).natAbs ≤ 2 ^ 126 := (Int.natAbs_tdiv_le_natAbs n d).trans hn
  have hremainder : (n.tmod d).natAbs < d.natAbs := by
    rw [Int.natAbs_tmod]
    exact Nat.mod_lt _ (Int.natAbs_pos.2 hd)
  have hsign := natAbs_signs_le n d
  have hfits : i128.Fits (n.tdiv d) := fits_i128 (by omega)
  unfold divRound Number.divRound
  rw [quotient_of_fits hd hfits, ok_bind, remainder_of_fits hd hfits, ok_bind, magnitude,
    perform_of_fits (fits_i128 (by omega)), ok_bind, product,
    perform_of_fits (fits_i128 (by omega)), ok_bind, magnitude,
    perform_of_fits (fits_i128 (by omega)), ok_bind]
  by_cases h : 2 * (n.tmod d).natAbs ≥ d.natAbs
  · rw [if_pos h, if_pos (by omega), product, perform_of_fits (fits_i128 (by omega)), ok_bind, sum,
      perform_of_fits (fits_i128 (by omega))]
  · rw [if_neg h, if_neg (by omega)]
    rfl

end Machine
end TableMill
