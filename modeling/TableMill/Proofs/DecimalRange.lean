import TableMill.Proofs.AggregateSteps
import TableMill.Proofs.DecimalNumerals

/-!
# The range of decimals

The least decimal is the negative of the greatest one, so that every decimal between them has a
negative and a magnitude. One word of hundredths lies below: an operation on decimals of the range
gives it if and only if this word is its exact result, rounded to hundredths.
-/

namespace TableMill
namespace Decimal

open Number

/-- Whether a decimal lies between the least decimal and the greatest one. -/
def InRange (d : Decimal) : Prop := least.cents ≤ d.cents ∧ d.cents ≤ greatest.cents

instance (d : Decimal) : Decidable d.InRange := inferInstanceAs (Decidable (_ ∧ _))

inductive Operation
  | ofWord (w : Int64)
  | ofText (s : String)
  | add (a b : Decimal)
  | sub (a b : Decimal)
  | mul (a b : Decimal)
  | div (a b : Decimal)
  | divCount (a : Decimal) (count : Int64)
  | rem (a b : Decimal)
  | neg (a : Decimal)
  | abs (a : Decimal)

namespace Operation

def operands : Operation → List Decimal
  | ofWord _ | ofText _ => []
  | add a b | sub a b | mul a b | div a b | rem a b => [a, b]
  | divCount a _ | neg a | abs a => [a]

def result? : Operation → Option Decimal
  | ofWord w => ofWord? w
  | ofText s => ofText? s
  | add a b => a.add? b
  | sub a b => a.sub? b
  | mul a b => a.mul? b
  | div a b => a.div? b
  | divCount a count => a.divCount? count
  | rem a b => a.rem? b
  | neg a => a.neg?
  | abs a => a.abs?

/-- Whether the exact result of an operation, rounded with halves away from zero, has a number of
hundredths. -/
def Exact : Operation → ℤ → Prop
  | ofWord w, n => n = 100 * w.toInt
  | ofText s, n => ∃ m : Numeral, m.Spells (Text.trimBlanks s.toList) ∧ m.Shifts ∧
    n = halfAway (100 * m.value)
  | add a b, n => n = a.cents.toInt + b.cents.toInt
  | sub a b, n => n = a.cents.toInt - b.cents.toInt
  | mul a b, n => n = halfAway ((a.cents.toInt * b.cents.toInt : ℤ) / (100 : ℤ))
  | div a b, n => b.cents ≠ 0 ∧ n = halfAway ((a.cents.toInt * 100 : ℤ) / b.cents.toInt)
  | divCount a count, n => count ≠ 0 ∧ n = halfAway (a.cents.toInt / count.toInt)
  | rem a b, n => b.cents ≠ 0 ∧
    n = a.cents.toInt - b.cents.toInt * cutToZero (a.cents.toInt / b.cents.toInt)
  | neg a, n => n = -a.cents.toInt
  | abs a, n => n = |a.cents.toInt|

/-- Whether the result of an operation may lie below the range although its operands do not. -/
def MayLeave : Operation → Prop
  | ofText _ | add _ _ | sub _ _ | mul _ _ | div _ _ => True
  | _ => False

end Operation

/-! ## The one word out of range -/

variable {d : Decimal}

theorem inRange_iff : d.InRange ↔ d.cents.toInt ≠ wordMin := by
  have hleast : least.cents.toInt = -9223372036854775807 := rfl
  have hgreatest : greatest.cents.toInt = 9223372036854775807 := rfl
  have hlow := d.cents.le_toInt
  have hup := d.cents.toInt_lt
  rw [InRange, Int64.le_iff_toInt_le, Int64.le_iff_toInt_le, hleast, hgreatest, wordMin]
  omega

theorem InRange.bounds (h : d.InRange) : wordMin < d.cents.toInt ∧ d.cents.toInt ≤ wordMax := by
  have hne := inRange_iff.1 h
  have hwords := inWords_toInt d.cents
  exact ⟨lt_of_le_of_ne hwords.1 (Ne.symm hne), hwords.2⟩

/-- The negative of a decimal of the range is one, and the word below has none. -/
theorem neg?_eq (d : Decimal) : d.neg? = if d.InRange then some ⟨-d.cents⟩ else none := by
  split
  · next h =>
    obtain ⟨hlow, hup⟩ := h.bounds
    refine ofCents?_eq_some_iff.2 ?_
    rw [Int64.toInt_neg, Int.bmod_eq_of_le]
    all_goals
      simp only [wordMin, wordMax] at hlow hup
      omega
  · next h =>
    have hmin : d.cents.toInt = wordMin := not_not.1 (mt inRange_iff.2 h)
    rw [neg?, hmin]
    rfl

theorem abs?_eq_some_iff {m : Decimal} : d.abs? = some m ↔ m.cents.toInt = |d.cents.toInt| := by
  rw [← Int.natCast_natAbs]
  exact ofCents?_eq_some_iff

/-- A decimal has its magnitude if it lies in the range; that of the word below stops the program. -/
theorem abs?_exact_iff :
    (∃ m, d.abs? = some m ∧ m.cents.toInt = |d.cents.toInt|) ↔ d.InRange := by
  have hnone : d.abs? = none ↔ ¬d.InRange := by
    rw [abs?, Option.map_eq_none_iff, magnitude?_eq_none, inRange_iff, not_not]
    exact Int64.toInt_inj.symm
  constructor
  · rintro ⟨m, hm, -⟩
    by_contra h
    rw [hnone.2 h] at hm
    cases hm
  · intro h
    obtain ⟨m, hm⟩ := Option.ne_none_iff_exists'.1 (mt hnone.1 (not_not.2 h))
    exact ⟨m, hm, abs?_eq_some_iff.1 hm⟩

namespace Operation

variable {op : Operation}

/-- An operation on decimals of the range produces its exact result, rounded to hundredths, if it
is a word. -/
theorem result?_eq_some_iff (hop : ∀ a ∈ op.operands, a.InRange) :
    op.result? = some d ↔ op.Exact d.cents.toInt := by
  cases op with
  | ofWord w => rw [result?, ofWord?, ofCents?_eq_some_iff, mul_comm]; rfl
  | ofText s => exact ofText?_eq_some_iff
  | add a b | sub a b | neg a => exact ofCents?_eq_some_iff
  | mul a b =>
    rw [result?, mul?, ofCents?_eq_some_iff, Exact, halfAway_div (by decide)]
  | div a b =>
    rw [result?, div?, Exact]
    by_cases hb : b.cents = 0
    · simp [hb]
    · rw [if_neg hb, ofCents?_eq_some_iff, halfAway_div (toInt_ne_zero hb)]
      simp [hb]
  | divCount a count =>
    rw [result?, divCount?, Exact]
    by_cases hcount : count = 0
    · simp [hcount]
    · rw [if_neg hcount, ofCents?_eq_some_iff, halfAway_div (toInt_ne_zero hcount)]
      simp [hcount]
  | rem a b =>
    rw [result?, rem?, Exact]
    by_cases hb : b.cents = 0
    · simp [hb]
    · have ha : a.cents ≠ Int64.minValue := fun h => by
        have hrange := inRange_iff.1 (hop a List.mem_cons_self)
        rw [h] at hrange
        exact hrange rfl
      rw [if_neg hb, if_neg fun h => ha h.1, ofCents?_eq_some_iff, cutToZero_div (toInt_ne_zero hb),
        ← Int.tmod_def]
      simp [hb]
  | abs a => exact abs?_eq_some_iff

/-- The word below the range is the exact result only of five of the operations. -/
theorem mayLeave_of_exact (hop : ∀ a ∈ op.operands, a.InRange) (h : op.Exact wordMin) :
    op.MayLeave := by
  cases op with
  | ofText | add | sub | mul | div => trivial
  | ofWord w =>
    change wordMin = 100 * w.toInt at h
    rw [wordMin] at h
    omega
  | divCount a count =>
    have ha := (hop a List.mem_cons_self).bounds
    obtain ⟨hcount, h⟩ := h
    have hle := natAbs_halfAway_div_le (n := a.cents.toInt) (toInt_ne_zero hcount)
    simp only [← h, wordMin, wordMax] at hle ha
    omega
  | rem a b =>
    have ha := (hop a List.mem_cons_self).bounds
    obtain ⟨hb, h⟩ := h
    have hle : (a.cents.toInt.tmod b.cents.toInt).natAbs ≤ a.cents.toInt.natAbs := by
      rw [Int.natAbs_tmod]
      exact Nat.mod_le _ _
    rw [cutToZero_div (toInt_ne_zero hb), ← Int.tmod_def] at h
    simp only [← h, wordMin, wordMax] at hle ha
    omega
  | neg a =>
    have ha := (hop a List.mem_cons_self).bounds
    change wordMin = -a.cents.toInt at h
    simp only [wordMin, wordMax] at h ha
    omega
  | abs a =>
    have hnonneg := abs_nonneg a.cents.toInt
    change wordMin = |a.cents.toInt| at h
    simp only [← h, wordMin] at hnonneg
    omega

end Operation

theorem evalWith_negate {now : DateTime} {vars : Bindings} {s t : Option Aggregation} {e : Expr}
    (he : e.evalWith now vars s = (.ok (.decimal d), t)) :
    (Expr.unary .negate e).evalWith now vars s =
      (if d.InRange then .ok (.decimal ⟨-d.cents⟩)
        else .error (.overflow (.negateDecimal d)), t) := by
  unfold Expr.evalWith at *
  simp only [Expr.evalM, Eval.run_bind, he, Eval.run_lift, UnaryOp.apply, neg?_eq]
  by_cases h : d.InRange
  · simp only [if_pos h]
  · simp only [if_neg h]

/-- Decimals stay between the least and the greatest one, but for one case: an operation on decimals
of the range produces one out of it if and only if its exact result, rounded to hundredths, is the
word below the range. Of the operations, only sums, differences, products, quotients and texts come
to this word. A decimal that is produced has a negative and a magnitude unless it is this word;
the evaluation of its negative reports an overflow then. -/
theorem produced_inRange_iff {op : Operation} (hop : ∀ a ∈ op.operands, a.InRange) :
    (op.Exact wordMin → op.MayLeave) ∧
    ∀ d, op.result? = some d →
      op.Exact d.cents.toInt ∧ (d.InRange ↔ ¬op.Exact wordMin) ∧
      ((∃ m, d.abs? = some m ∧ m.cents.toInt = |d.cents.toInt|) ↔ d.InRange) ∧
      ∀ (now : DateTime) (vars : Bindings) (s t : Option Aggregation) (e : Expr),
        e.evalWith now vars s = (.ok (.decimal d), t) →
          (Expr.unary .negate e).evalWith now vars s =
            (if d.InRange then .ok (.decimal ⟨-d.cents⟩)
              else .error (.overflow (.negateDecimal d)), t) := by
  refine ⟨Operation.mayLeave_of_exact hop, fun d hd => ?_⟩
  have hexact := (Operation.result?_eq_some_iff hop).1 hd
  have hrange : d.InRange ↔ ¬op.Exact wordMin := by
    rw [inRange_iff, not_iff_not]
    refine ⟨fun hmin => hmin ▸ hexact, fun hmin => ?_⟩
    have hdeep : op.result? = some ⟨Int64.minValue⟩ := (Operation.result?_eq_some_iff hop).2 hmin
    obtain rfl := Option.some.inj (hd.symm.trans hdeep)
    rfl
  exact ⟨hexact, hrange, abs?_exact_iff, fun _ _ _ _ _ => evalWith_negate⟩

example : least.sub? ⟨1⟩ = some ⟨Int64.minValue⟩ := by decide

namespace OverdraftSample

/-! The least decimal less a hundredth is a decimal that has no negative. -/

def overdraft : Operation := .sub least ⟨1⟩

def balance : Expr := .binary .subtract (.selector "r" "balance") (.selector "r" "fee")

def row : Bindings := [("r", [("balance", .decimal least), ("fee", .decimal ⟨1⟩)])]

theorem produced_inRange_iff_overdraft :
    (∀ a ∈ overdraft.operands, a.InRange) ∧ overdraft.Exact wordMin ∧
      overdraft.result? = some ⟨Int64.minValue⟩ ∧ ¬InRange ⟨Int64.minValue⟩ ∧
      balance.evalWith .unset row none = (.ok (.decimal ⟨Int64.minValue⟩), none) ∧
      (Expr.unary .negate balance).evalWith .unset row none =
        (.error (.overflow (.negateDecimal ⟨Int64.minValue⟩)), none) := by
  have hop : ∀ a ∈ overdraft.operands, a.InRange := by decide
  have hresult : overdraft.result? = some ⟨Int64.minValue⟩ := by decide
  obtain ⟨-, hproduced⟩ := produced_inRange_iff hop
  obtain ⟨hexact, hrange, -, hnegate⟩ := hproduced _ hresult
  have hbelow : ¬InRange ⟨Int64.minValue⟩ := by decide
  have hbalance : balance.evalWith .unset row none = (.ok (.decimal ⟨Int64.minValue⟩), none) := by
    decide +kernel
  have hrun := hnegate .unset row none none balance hbalance
  rw [if_neg hbelow] at hrun
  exact ⟨hop, hexact, hresult, hbelow, hbalance, hrun⟩

end OverdraftSample
end Decimal
end TableMill
