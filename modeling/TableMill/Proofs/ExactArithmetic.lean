import TableMill.Proofs.Foretelling
import TableMill.Proofs.OperandKinds
import TableMill.Proofs.Quotients

/-!
# Exact arithmetic

Integers and decimals are rational numbers, counted in units and in hundredths. Operators on them
give what the rational operations give, or fail because a number of units leaves the words or a
divisor is zero.
-/

namespace TableMill

open Number

namespace Value

def rational? : Value → Option ℚ
  | int n => some (n.toInt : ℚ)
  | decimal d => some ((d.cents.toInt : ℚ) / 100)
  | _ => none

/-- The kind of an exact result: decimals, unless both operands are integers. -/
def exactKind (a b : Value) : Kind :=
  if a.kind = .int ∧ b.kind = .int then .int else .decimal

end Value

namespace Kind

/-- How many units of a kind make one. -/
def scale : Kind → ℤ
  | decimal => 100
  | _ => 1

def Spans (k : Kind) (q : ℚ) : Prop :=
  wordMin ≤ q * k.scale ∧ q * k.scale ≤ wordMax

def zeroDivide : Kind → EvalError
  | int => .intDivideByZero
  | _ => .decimalDivideByZero

def ofUnits : Kind → Int64 → Value
  | decimal, w => .decimal ⟨w⟩
  | _, w => .int w

end Kind

/-- Whether the integer beside a decimal has too many hundredths. -/
def Value.Oversize : Value → Value → Prop
  | .int n, .decimal _ | .decimal _, .int n => ¬Kind.decimal.Spans n.toInt
  | _, _ => False

namespace BinaryOp

def IsArithmetic (op : BinaryOp) : Prop :=
  op = add ∨ op = subtract ∨ op = multiply ∨ op = divide ∨ op = remainder

def IsComparison (op : BinaryOp) : Prop :=
  op = equal ∨ op = notEqual ∨ op = less ∨ op = lessEqual ∨ op = greater ∨ op = greaterEqual

def Divides (op : BinaryOp) : Prop := op = divide ∨ op = remainder

/-- The result of exact arithmetic in a kind. Integers are divided toward zero; decimals are
rounded to hundredths, halves away from zero. A remainder belongs to the quotient that is cut
toward zero. -/
def exactResult (op : BinaryOp) (k : Kind) (x y : ℚ) : ℚ :=
  match op with
  | add => x + y
  | subtract => x - y
  | multiply => if k = .int then x * y else halfAway (x * y * 100) / 100
  | divide => if k = .int then cutToZero (x / y) else halfAway (x / y * 100) / 100
  | remainder => x - y * cutToZero (x / y)
  | _ => 0

/-- What a comparison says of two rational numbers. -/
def Orders (op : BinaryOp) (x y : ℚ) : Prop :=
  match op with
  | equal => x = y
  | notEqual => x ≠ y
  | less => x < y
  | lessEqual => x ≤ y
  | greater => y < x
  | greaterEqual => y ≤ x
  | _ => False

/-- A remainder whose quotient does not fit: the least word of units by minus one. -/
def LeastByMinusOne (op : BinaryOp) (k : Kind) (x y : ℚ) : Prop :=
  op = remainder ∧ x * k.scale = wordMin ∧ y * k.scale = -1

/-- What exact arithmetic and comparison come to. The cases exclude each other: an integer beside a
decimal is taken to hundredths first, then the divisor is looked at, then the result. -/
inductive Exactly (op : BinaryOp) (a b : Value) (x y : ℚ) : Except EvalError Value → Prop
  | oversize {what : Overflow} (hsize : a.Oversize b) : Exactly op a b x y (.error (.overflow what))
  | byZero (hsize : ¬a.Oversize b) (hop : op.Divides) (hy : y = 0) :
    Exactly op a b x y (.error (a.exactKind b).zeroDivide)
  | leastByMinusOne {what : Overflow} (hsize : ¬a.Oversize b)
    (hleast : op.LeastByMinusOne (a.exactKind b) x y) :
    Exactly op a b x y (.error (.overflow what))
  | outOfRange {what : Overflow} (hsize : ¬a.Oversize b) (hop : op.IsArithmetic)
    (hy : op.Divides → y ≠ 0) (hspan : ¬(a.exactKind b).Spans (op.exactResult (a.exactKind b) x y)) :
    Exactly op a b x y (.error (.overflow what))
  | result {v : Value} (hsize : ¬a.Oversize b) (hop : op.IsArithmetic) (hy : op.Divides → y ≠ 0)
    (hleast : ¬op.LeastByMinusOne (a.exactKind b) x y)
    (hspan : (a.exactKind b).Spans (op.exactResult (a.exactKind b) x y))
    (hkind : v.kind = a.exactKind b)
    (hexact : v.rational? = some (op.exactResult (a.exactKind b) x y)) : Exactly op a b x y (.ok v)
  | order {t : Bool} (hsize : ¬a.Oversize b) (hop : op.IsComparison)
    (horder : t = true ↔ op.Orders x y) : Exactly op a b x y (.ok (.bool t))

end BinaryOp

section Units

variable {a b : Value} {k : Kind} {x y : ℚ} {n : ℤ}

theorem Kind.spans_iff (h : x * k.scale = n) : k.Spans x ↔ wordMin ≤ n ∧ n ≤ wordMax := by
  unfold Spans
  rw [h]
  exact_mod_cast Iff.rfl

theorem Value.exactKind_cases (a b : Value) : a.exactKind b = .int ∨ a.exactKind b = .decimal := by
  unfold exactKind
  split
  · exact Or.inl rfl
  · exact Or.inr rfl

theorem Kind.rational?_ofUnits (hk : k = .int ∨ k = .decimal) (w : Int64) :
    (k.ofUnits w).rational? = some ((w.toInt : ℚ) / k.scale) ∧ (k.ofUnits w).kind = k := by
  rcases hk with rfl | rfl
  · exact ⟨by simp [ofUnits, Value.rational?, scale], rfl⟩
  · exact ⟨by simp [ofUnits, Value.rational?, scale], rfl⟩

theorem Kind.scale_ne_zero (k : Kind) : (k.scale : ℚ) ≠ 0 := by
  cases k <;> simp [scale]

end Units

namespace BinaryOp

variable {op : BinaryOp} {a b : Value} {x y : ℚ}

theorem exactly_of_units {what : Overflow} {n : ℤ} (hsize : ¬a.Oversize b) (hop : op.IsArithmetic)
    (hy : op.Divides → y ≠ 0) (hleast : ¬op.LeastByMinusOne (a.exactKind b) x y)
    (hn : op.exactResult (a.exactKind b) x y * (a.exactKind b).scale = n) :
    Exactly op a b x y ((orOverflow what (narrow? n)).map (a.exactKind b).ofUnits) := by
  have hspan := Kind.spans_iff hn
  cases hw : narrow? n with
  | none =>
    have hout := narrow?_eq_none.1 hw
    exact .outOfRange hsize hop hy fun h => by
      have hrange := hspan.1 h
      omega
  | some w =>
    obtain ⟨hexact, hkind⟩ := Kind.rational?_ofUnits (a.exactKind_cases b) w
    have hwn := toInt_of_narrow? hw
    refine .result hsize hop hy hleast (hspan.2 ?_) hkind ?_
    · have hl := w.le_toInt
      have hu := w.toInt_lt
      simp only [wordMin, wordMax]
      omega
    · rw [hexact, hwn, ← hn, mul_div_cancel_right₀ _ (Kind.scale_ne_zero _)]

theorem word_eq_zero {n : Int64} : (n.toInt : ℚ) = 0 ↔ n = 0 := by
  rw [Int.cast_eq_zero]
  exact Int64.toInt_inj (y := 0)

theorem leastByMinusOne_units (k : Kind) (m n : Int64) :
    remainder.LeastByMinusOne k ((m.toInt : ℚ) / k.scale) ((n.toInt : ℚ) / k.scale) ↔
      m = Int64.minValue ∧ n = -1 := by
  have hmin : (m.toInt : ℚ) = wordMin ↔ m = Int64.minValue := by
    rw [Int.cast_inj]
    exact Int64.toInt_inj (y := Int64.minValue)
  have hone : (n.toInt : ℚ) = -1 ↔ n = -1 := by
    rw [← Int.cast_one, ← Int.cast_neg, Int.cast_inj]
    exact Int64.toInt_inj (y := -1)
  simp only [LeastByMinusOne, true_and, div_mul_cancel₀ _ k.scale_ne_zero, hmin, hone]

theorem remainder_units (k : Kind) {m n : ℤ} (hn : n ≠ 0) :
    remainder.exactResult k ((m : ℚ) / k.scale) ((n : ℚ) / k.scale) * k.scale = m.tmod n := by
  have hs := k.scale_ne_zero
  simp only [exactResult, div_div_div_cancel_right₀ hs, cutToZero_div hn, Int.tmod_def]
  push_cast
  field_simp

theorem multiply_hundredths (m n : ℤ) :
    multiply.exactResult .decimal ((m : ℚ) / 100) ((n : ℚ) / 100) * 100 = divRound (m * n) 100 := by
  have hproduct : (m : ℚ) / 100 * (n / 100) * 100 = ((m * n : ℤ) : ℚ) / (100 : ℤ) := by
    push_cast
    ring
  simp only [exactResult, reduceCtorEq, if_false, hproduct, halfAway_div (by decide : (100 : ℤ) ≠ 0)]
  ring

theorem divide_hundredths (m : ℤ) {n : ℤ} (hn : n ≠ 0) :
    divide.exactResult .decimal ((m : ℚ) / 100) ((n : ℚ) / 100) * 100 = divRound (m * 100) n := by
  have hratio : (m : ℚ) / 100 / (n / 100) * 100 = ((m * 100 : ℤ) : ℚ) / n := by
    rw [div_div_div_cancel_right₀ (by norm_num)]
    push_cast
    ring
  simp only [exactResult, reduceCtorEq, if_false, hratio, halfAway_div hn]
  ring

theorem exactly_onInts (hop : op.IsArithmetic) (hsize : ¬a.Oversize b)
    (hkind : a.exactKind b = .int) (m n : Int64) :
    Exactly op a b m.toInt n.toInt ((op.onInts m n).map Value.int) := by
  have hint : (a.exactKind b).zeroDivide = .intDivideByZero := by rw [hkind]; rfl
  have units {what : Overflow} {k : ℤ} (hy : op.Divides → (n.toInt : ℚ) ≠ 0)
      (hleast : ¬op.LeastByMinusOne .int m.toInt n.toInt)
      (hn : op.exactResult .int m.toInt n.toInt = k) :
      Exactly op a b m.toInt n.toInt ((orOverflow what (narrow? k)).map Value.int) := by
    have hunits : Value.int = (a.exactKind b).ofUnits := by rw [hkind]; rfl
    rw [hunits]
    exact exactly_of_units hsize hop hy (by rwa [hkind]) (by simpa [hkind, Kind.scale] using hn)
  rcases hop with rfl | rfl | rfl | rfl | rfl
  · exact units (by simp [Divides]) (by simp [LeastByMinusOne]) (by simp [exactResult])
  · exact units (by simp [Divides]) (by simp [LeastByMinusOne]) (by simp [exactResult])
  · exact units (by simp [Divides]) (by simp [LeastByMinusOne]) (by simp [exactResult])
  · by_cases hn : n = 0
    · simp only [onInts, if_pos hn]
      exact hint ▸ .byZero hsize (Or.inl rfl) (word_eq_zero.2 hn)
    · have hzero := mt word_eq_zero.1 hn
      simp only [onInts, if_neg hn]
      refine units (fun _ => hzero) (by simp [LeastByMinusOne]) ?_
      simp only [exactResult, if_true, cutToZero_div (Int.cast_ne_zero.1 hzero)]
  · by_cases hn : n = 0
    · simp only [onInts, if_pos hn]
      exact hint ▸ .byZero hsize (Or.inr rfl) (word_eq_zero.2 hn)
    · have hzero := mt word_eq_zero.1 hn
      have hleast := leastByMinusOne_units .int m n
      have hresult := remainder_units .int (m := m.toInt) (Int.cast_ne_zero.1 hzero)
      simp only [Kind.scale, Int.cast_one, div_one, mul_one] at hleast hresult
      simp only [onInts, if_neg hn]
      split
      · next h => exact .leastByMinusOne hsize (by rw [hkind]; exact hleast.2 h)
      · next h => exact units (fun _ => hzero) (mt hleast.1 h) hresult

theorem exactly_onDecimals (hop : op.IsArithmetic) (hsize : ¬a.Oversize b)
    (hkind : a.exactKind b = .decimal) (c d : Decimal) :
    Exactly op a b ((c.cents.toInt : ℚ) / 100) ((d.cents.toInt : ℚ) / 100)
      ((op.onDecimals c d).map Value.decimal) := by
  have hzero : (d.cents.toInt : ℚ) / 100 = 0 ↔ d.cents = 0 := by
    rw [div_eq_zero_iff, word_eq_zero]
    simp
  have isZero : d.isZero = true ↔ d.cents = 0 := beq_iff_eq
  have hdecimal : (a.exactKind b).zeroDivide = .decimalDivideByZero := by rw [hkind]; rfl
  have units {what : Overflow} {k : ℤ} (hy : op.Divides → (d.cents.toInt : ℚ) / 100 ≠ 0)
      (hleast : ¬op.LeastByMinusOne .decimal (c.cents.toInt / 100) (d.cents.toInt / 100))
      (hn : op.exactResult .decimal (c.cents.toInt / 100) (d.cents.toInt / 100) * 100 = k) :
      Exactly op a b ((c.cents.toInt : ℚ) / 100) ((d.cents.toInt : ℚ) / 100)
        ((orOverflow what (Decimal.ofCents? k)).map Value.decimal) := by
    have hcents : (orOverflow what (Decimal.ofCents? k)).map Value.decimal =
        (orOverflow what (narrow? k)).map (a.exactKind b).ofUnits := by
      rw [hkind, Decimal.ofCents?]
      cases narrow? k <;> rfl
    rw [hcents]
    exact exactly_of_units hsize hop hy (by rwa [hkind]) (by simpa [hkind, Kind.scale] using hn)
  rcases hop with rfl | rfl | rfl | rfl | rfl
  · refine units (by simp [Divides]) (by simp [LeastByMinusOne]) ?_
    simp only [exactResult]
    push_cast
    ring
  · refine units (by simp [Divides]) (by simp [LeastByMinusOne]) ?_
    simp only [exactResult]
    push_cast
    ring
  · exact units (by simp [Divides]) (by simp [LeastByMinusOne]) (multiply_hundredths _ _)
  · by_cases hd : d.cents = 0
    · simp only [onDecimals, if_pos (isZero.2 hd)]
      exact hdecimal ▸ .byZero hsize (Or.inl rfl) (hzero.2 hd)
    · simp only [onDecimals, if_neg (mt isZero.1 hd), Decimal.div?, if_neg hd]
      exact units (fun _ => mt hzero.1 hd) (by simp [LeastByMinusOne])
        (divide_hundredths _ (Int.cast_ne_zero.1 (mt word_eq_zero.1 hd)))
  · by_cases hd : d.cents = 0
    · simp only [onDecimals, if_pos (isZero.2 hd)]
      exact hdecimal ▸ .byZero hsize (Or.inr rfl) (hzero.2 hd)
    · have hleast := leastByMinusOne_units .decimal c.cents d.cents
      have hresult := remainder_units .decimal (m := c.cents.toInt)
        (Int.cast_ne_zero.1 (mt word_eq_zero.1 hd))
      simp only [Kind.scale, Int.cast_ofNat] at hleast hresult
      simp only [onDecimals, if_neg (mt isZero.1 hd), Decimal.rem?, if_neg hd]
      split
      · next h => exact .leastByMinusOne hsize (by rw [hkind]; exact hleast.2 h)
      · next h => exact units (fun _ => mt hzero.1 hd) (mt hleast.1 h) hresult

end BinaryOp

namespace NumericPair

def Exact : NumericPair → ℚ → ℚ → Prop
  | ints m n, x, y => x = m.toInt ∧ y = n.toInt
  | decimals c d, x, y => x = c.cents.toInt / 100 ∧ y = d.cents.toInt / 100
  | floats _ _, _, _ => False

end NumericPair

section Pairs

variable {op : BinaryOp} {a b v : Value} {x y : ℚ}

theorem Value.rational_cases (h : v.rational? = some x) :
    (∃ n : Int64, v = .int n ∧ x = n.toInt) ∨
      ∃ d : Decimal, v = .decimal d ∧ x = d.cents.toInt / 100 := by
  cases v with
  | int n => exact Or.inl ⟨n, rfl, (Option.some.inj h).symm⟩
  | decimal d => exact Or.inr ⟨d, rfl, (Option.some.inj h).symm⟩
  | _ => cases h

theorem Value.common_exactKind (ha : a.rational? = some x) (hb : b.rational? = some y) :
    Kind.common? a.kind b.kind = some (a.exactKind b) := by
  rcases Value.rational_cases ha with ⟨m, rfl, -⟩ | ⟨c, rfl, -⟩ <;>
    rcases Value.rational_cases hb with ⟨n, rfl, -⟩ | ⟨d, rfl, -⟩ <;> rfl

/-- An integer is a decimal of the same number or has too many hundredths. -/
theorem Value.toDecimal_int (n : Int64) :
    (¬Kind.decimal.Spans n.toInt ∧ (Value.int n).toDecimal = .error (.overflow (.castToDecimal n))) ∨
      Kind.decimal.Spans n.toInt ∧
        ∃ d, (Value.int n).toDecimal = .ok d ∧ (n.toInt : ℚ) = d.cents.toInt / 100 := by
  have hspan : Kind.decimal.Spans n.toInt ↔ wordMin ≤ n.toInt * 100 ∧ n.toInt * 100 ≤ wordMax :=
    Kind.spans_iff (by simp [Kind.scale])
  simp only [Value.toDecimal, Decimal.ofWord?, Decimal.ofCents?]
  cases hw : narrow? (n.toInt * 100) with
  | none =>
    have hout := narrow?_eq_none.1 hw
    refine Or.inl ⟨fun h => ?_, rfl⟩
    have hrange := hspan.1 h
    omega
  | some w =>
    have hcents := toInt_of_narrow? hw
    refine Or.inr ⟨hspan.2 ?_, ⟨w⟩, rfl, ?_⟩
    · have hl := w.le_toInt
      have hu := w.toInt_lt
      simp only [wordMin, wordMax]
      omega
    · rw [hcents]
      push_cast
      ring

/-- Two exact numbers meet in a pair of the same numbers, but the integer of a mixed pair may
have too many hundredths. -/
theorem NumericPair.exact_of (ha : a.rational? = some x) (hb : b.rational? = some y) :
    (a.Oversize b ∧ ∃ n, NumericPair.of a b = .error (.overflow (.castToDecimal n))) ∨
      ¬a.Oversize b ∧
        ∃ p, NumericPair.of a b = .ok p ∧ p.kind = a.exactKind b ∧ p.Exact x y := by
  rcases Value.rational_cases ha with ⟨m, rfl, hx⟩ | ⟨c, rfl, hx⟩ <;>
    rcases Value.rational_cases hb with ⟨n, rfl, hy⟩ | ⟨d, rfl, hy⟩
  · exact Or.inr ⟨id, .ints m n, rfl, rfl, hx, hy⟩
  · rcases Value.toDecimal_int m with ⟨hspan, hcast⟩ | ⟨hspan, c, hcast, hexact⟩
    · exact Or.inl ⟨hspan, m, by simp only [NumericPair.of, hcast]; rfl⟩
    · exact Or.inr ⟨not_not.2 hspan, .decimals c d, by simp only [NumericPair.of, hcast]; rfl, rfl,
        hx.trans hexact, hy⟩
  · rcases Value.toDecimal_int n with ⟨hspan, hcast⟩ | ⟨hspan, d, hcast, hexact⟩
    · exact Or.inl ⟨hspan, n, by simp only [NumericPair.of, hcast]; rfl⟩
    · exact Or.inr ⟨not_not.2 hspan, .decimals c d, by simp only [NumericPair.of, hcast]; rfl, rfl,
        hx, hy.trans hexact⟩
  · exact Or.inr ⟨id, .decimals c d, rfl, rfl, hx, hy⟩

namespace BinaryOp

theorem holds_compare (hop : op.IsComparison) (m n : ℤ) :
    op.holds (some (compare m n)) = true ↔ op.Orders (m : ℚ) n := by
  rcases hop with rfl | rfl | rfl | rfl | rfl | rfl <;>
    simp [holds, Orders, compare_lt_iff_lt, compare_gt_iff_gt]

theorem orders_hundredths (op : BinaryOp) (x y : ℚ) :
    op.Orders (x / 100) (y / 100) ↔ op.Orders x y := by
  have hlt (x y : ℚ) : x / 100 < y / 100 ↔ x < y := div_lt_div_iff_of_pos_right (by norm_num)
  have hle (x y : ℚ) : x / 100 ≤ y / 100 ↔ x ≤ y := div_le_div_iff_of_pos_right (by norm_num)
  have heq : x / 100 = y / 100 ↔ x = y := div_left_inj' (by norm_num)
  cases op <;> simp only [Orders, hlt, hle, heq, ne_eq]

theorem exactly_onPair (hop : op.IsArithmetic) (hsize : ¬a.Oversize b) {p : NumericPair}
    (hkind : p.kind = a.exactKind b) (hp : p.Exact x y) : Exactly op a b x y (op.onPair p) := by
  cases p with
  | ints m n =>
    obtain ⟨rfl, rfl⟩ := hp
    exact exactly_onInts hop hsize hkind.symm m n
  | decimals c d =>
    obtain ⟨rfl, rfl⟩ := hp
    exact exactly_onDecimals hop hsize hkind.symm c d
  | floats a b => exact hp.elim

theorem holds_pairOrder (hop : op.IsComparison) {p : NumericPair} (hp : p.Exact x y) :
    op.holds (pairOrder p) = true ↔ op.Orders x y := by
  cases p with
  | ints m n =>
    obtain ⟨rfl, rfl⟩ := hp
    exact holds_compare hop m.toInt n.toInt
  | decimals c d =>
    obtain ⟨rfl, rfl⟩ := hp
    exact (holds_compare hop c.cents.toInt d.cents.toInt).trans (orders_hundredths op _ _).symm
  | floats a b => exact hp.elim

theorem exactly_apply (ha : a.rational? = some x) (hb : b.rational? = some y)
    (hop : op.IsArithmetic ∨ op.IsComparison) : Exactly op a b x y (op.apply a b) := by
  have hcommon := Value.common_exactKind ha hb
  have hpair := NumericPair.exact_of ha hb
  rcases hop with hop | hop
  · have happly : op.apply a b = NumericPair.of a b >>= op.onPair := by
      rw [← arithmetic_eq_onPair hcommon]
      rcases hop with rfl | rfl | rfl | rfl | rfl <;> rfl
    rw [happly]
    rcases hpair with ⟨hsize, n, hof⟩ | ⟨hsize, p, hof, hkind, hp⟩
    · rw [hof]
      exact .oversize hsize
    · rw [hof]
      exact exactly_onPair hop hsize hkind hp
  · have happly : op.apply a b =
        (NumericPair.of a b).map fun p => .bool (op.holds (pairOrder p)) := by
      have hcomparison := @comparison_eq_pairOrder op a b _ hcommon
      rcases hop with rfl | rfl | rfl | rfl | rfl | rfl <;>
        · simp only [apply, hcomparison]
          cases NumericPair.of a b <;> rfl
    rw [happly]
    rcases hpair with ⟨hsize, n, hof⟩ | ⟨hsize, p, hof, -, hp⟩
    · rw [hof]
      exact .oversize hsize
    · rw [hof]
      exact .order hsize hop (holds_pairOrder hop hp)

end BinaryOp

end Pairs
/-- An operator on two integers or decimals, wherever its operands come from, gives what exact
rational arithmetic and comparison give: an integer from two integers and else a decimal, or one
of the named failures. -/
theorem Expr.evalWith_exactly {now : DateTime} {vars : Bindings} {s s₁ s₂ : Option Aggregation}
    {l r : Expr} {op : BinaryOp} {a b : Value} {x y : ℚ}
    (hl : l.evalWith now vars s = (.ok a, s₁)) (hr : r.evalWith now vars s₁ = (.ok b, s₂))
    (ha : a.rational? = some x) (hb : b.rational? = some y) (hop : op.IsArithmetic ∨ op.IsComparison) :
    ∃ outcome, (Expr.binary op l r).evalWith now vars s = (outcome, s₂) ∧
      op.Exactly a b x y outcome := by
  refine ⟨op.apply a b, ?_, BinaryOp.exactly_apply ha hb hop⟩
  unfold Expr.evalWith at *
  simp only [Expr.evalM, Eval.run_bind, Eval.run_lift, hl, hr]

namespace MoneySample

/-! Half of a hundredth of debt is rounded away from zero. -/

def debt : Expr := .selector "r" "debt"

def share : Expr := .selector "r" "share"

def row : Bindings := [("r", [("debt", .decimal ⟨-1⟩), ("share", .decimal ⟨50⟩)])]

theorem evalWith_exactly_debt :
    debt.evalWith .unset row none = (.ok (.decimal ⟨-1⟩), none) ∧
      share.evalWith .unset row none = (.ok (.decimal ⟨50⟩), none) ∧
      (Value.decimal ⟨-1⟩).rational? = some (-1 / 100) ∧ (Value.decimal ⟨50⟩).rational? = some (1 / 2) ∧
      BinaryOp.multiply.IsArithmetic ∧
      (Expr.binary .multiply debt share).evalWith .unset row none = (.ok (.decimal ⟨-1⟩), none) ∧
      BinaryOp.multiply.Exactly (.decimal ⟨-1⟩) (.decimal ⟨50⟩) (-1 / 100) (1 / 2)
        (.ok (.decimal ⟨-1⟩)) := by
  have hdebt : debt.evalWith .unset row none = (.ok (.decimal ⟨-1⟩), none) := rfl
  have hshare : share.evalWith .unset row none = (.ok (.decimal ⟨50⟩), none) := rfl
  have hx : (Value.decimal ⟨-1⟩).rational? = some (-1 / 100) := by
    norm_num [Value.rational?, show Int64.toInt (-1) = -1 from rfl]
  have hy : (Value.decimal ⟨50⟩).rational? = some (1 / 2) := by
    norm_num [Value.rational?, show Int64.toInt 50 = 50 from rfl]
  have hop : BinaryOp.multiply.IsArithmetic := by simp [BinaryOp.IsArithmetic]
  obtain ⟨outcome, hrun, hexactly⟩ := Expr.evalWith_exactly hdebt hshare hx hy (Or.inl hop)
  have hvalue : (Expr.binary .multiply debt share).evalWith .unset row none =
      (.ok (.decimal ⟨-1⟩), none) := by decide +kernel
  rw [hvalue] at hrun
  obtain rfl := (Prod.mk.inj hrun).1
  exact ⟨hdebt, hshare, hx, hy, hop, hvalue, hexactly⟩

end MoneySample
end TableMill
