import TableMill.Eval.Basic

/-!
# Kinds of operands

The kind of an operator's result depends on the kinds of its operands only. On operands
of kinds that it takes, an operator fails by an overflow or a division by zero and by
nothing else.
-/

namespace TableMill

/-- The errors that come from the values and not from the way an expression is written. -/
def EvalError.OfValues : EvalError → Prop
  | .overflow _ | .intDivideByZero | .decimalDivideByZero | .function _ _ => True
  | .type (.decimalRange x) => Decimal.ofFloat? x = none
  | .type _ | .parse _ | .unknownIdentifier _ | .unknownAlias _ _ | .unknownField _ _
  | .unknownFunction _ | .arity _ _ _ | .aggregateDisabled _ | .multipleAggregates _ _
  | .aggregateTypeChange _ _ _ _ => False

/-- Whether an evaluation gives a result with a property or fails by its values. -/
def Foreseen {α : Type} (P : α → Prop) : Except EvalError α → Prop
  | .ok a => P a
  | .error e => e.OfValues

namespace Foreseen

variable {α β : Type} {P : α → Prop} {Q : β → Prop} {x : Except EvalError α}

theorem bind {f : α → Except EvalError β} (hx : Foreseen P x)
    (hf : ∀ a, P a → Foreseen Q (f a)) : Foreseen Q (x >>= f) := by
  cases x with
  | error e => exact hx
  | ok a => exact hf a hx

theorem map {f : α → β} (hx : Foreseen P x) (hf : ∀ a, P a → Q (f a)) :
    Foreseen Q (x.map f) := by
  cases x with
  | error e => exact hx
  | ok a => exact hf a hx

end Foreseen

abbrev OfKind (k : Kind) (x : Except EvalError Value) : Prop := Foreseen (fun v => v.kind = k) x

theorem Foreseen.kind_of_ok {kind? : Option Kind} {x : Except EvalError Value} {v : Value}
    (hsome : ∀ k, kind? = some k → OfKind k x) (hnone : kind? = none → ∃ e, x = .error e)
    (h : x = .ok v) : kind? = some v.kind := by
  subst h
  cases kind? with
  | none =>
    obtain ⟨e, he⟩ := hnone rfl
    cases he
  | some k => rw [show v.kind = k from hsome k rfl]

namespace Kind

def common? : Kind → Kind → Option Kind
  | int, int => some int
  | float, int | float, decimal | float, float | int, float | decimal, float => some float
  | decimal, int | decimal, decimal | int, decimal => some decimal
  | _, _ => none

end Kind

namespace NumericPair

def kind : NumericPair → Kind
  | ints _ _ => .int
  | floats _ _ => .float
  | decimals _ _ => .decimal

theorem foreseen_of {a b : Value} {k : Kind} (h : Kind.common? a.kind b.kind = some k) :
    Foreseen (fun p => p.kind = k) (NumericPair.of a b) := by
  have hword (n : Int64) : Foreseen (fun _ => True) (Value.int n).toDecimal := by
    simp only [Value.toDecimal]
    split <;> trivial
  cases a <;> cases b <;> simp only [Value.kind, Kind.common?, Option.some.injEq, reduceCtorEq] at h
  case int.int => exact h
  case int.decimal n d =>
    exact (hword n).bind fun a _ => h
  case decimal.int d n =>
    exact (hword n).bind fun b _ => h
  all_goals exact h

theorem isNumeric_and (a b : Value) :
    (a.isNumeric && b.isNumeric) = (Kind.common? a.kind b.kind).isSome := by
  cases a <;> cases b <;> rfl

end NumericPair

namespace UnaryOp

def resultKind? : UnaryOp → Kind → Option Kind
  | not, .bool => some .bool
  | negate, .int => some .int
  | negate, .float => some .float
  | negate, .decimal => some .decimal
  | _, _ => none

theorem ofKind_apply {op : UnaryOp} {v : Value} {k : Kind}
    (h : op.resultKind? v.kind = some k) : OfKind k (op.apply v) := by
  cases op <;> cases v <;> simp only [Value.kind, resultKind?, Option.some.injEq, reduceCtorEq] at h
  case not.bool b => exact h
  case negate.int n =>
    simp only [apply]
    split
    · exact h
    · trivial
  case negate.float x => exact h
  case negate.decimal d =>
    simp only [apply]
    split
    · exact h
    · trivial

theorem apply_refused {op : UnaryOp} {v : Value} (h : op.resultKind? v.kind = none) :
    ∃ e, op.apply v = .error e := by
  cases op <;> cases v <;> first | exact ⟨_, rfl⟩ | cases h

theorem resultKind?_of_ok {op : UnaryOp} {v w : Value} (h : op.apply v = .ok w) :
    op.resultKind? v.kind = some w.kind :=
  Foreseen.kind_of_ok (fun _ => ofKind_apply) apply_refused h

end UnaryOp

namespace BinaryOp

theorem foreseen_orOverflow {α : Type} (what : Overflow) (o : Option α) :
    Foreseen (fun _ => True) (orOverflow what o) := by
  cases o <;> trivial

/-- Arithmetic on two numbers of one kind; floats have no remainder. -/
def onKind? (op : BinaryOp) (k : Kind) : Option Kind :=
  match op with
  | add | subtract | multiply | divide => some k
  | remainder => if k = .float then none else some k
  | _ => none

theorem foreseen_onInts {op : BinaryOp} (h : (op.onKind? .int).isSome) (a b : Int64) :
    Foreseen (fun _ => True) (op.onInts a b) := by
  cases op <;> simp only [onKind?, Option.isSome_none, Bool.false_eq_true] at h
  case divide =>
    simp only [onInts]
    split
    · trivial
    · exact foreseen_orOverflow _ _
  case remainder =>
    simp only [onInts]
    split
    · trivial
    · split
      · trivial
      · exact foreseen_orOverflow _ _
  all_goals exact foreseen_orOverflow _ _

theorem foreseen_onFloats {op : BinaryOp} (h : (op.onKind? .float).isSome) (a b : Float) :
    Foreseen (fun _ => True) (op.onFloats a b) := by
  cases op <;> simp only [onKind?, if_true, Option.isSome_none, Bool.false_eq_true] at h
  all_goals trivial

theorem foreseen_onDecimals {op : BinaryOp} (h : (op.onKind? .decimal).isSome)
    (a b : Decimal) : Foreseen (fun _ => True) (op.onDecimals a b) := by
  cases op <;> simp only [onKind?, Option.isSome_none, Bool.false_eq_true] at h
  case divide =>
    simp only [onDecimals]
    split
    · trivial
    · exact foreseen_orOverflow _ _
  case remainder =>
    simp only [onDecimals]
    split
    · trivial
    · exact foreseen_orOverflow _ _
  all_goals exact foreseen_orOverflow _ _

def onPair (op : BinaryOp) : NumericPair → Except EvalError Value
  | .ints a b => (op.onInts a b).map Value.int
  | .floats a b => (op.onFloats a b).map Value.float
  | .decimals a b => (op.onDecimals a b).map Value.decimal

theorem ofKind_onPair {op : BinaryOp} {p : NumericPair} {k : Kind}
    (h : op.onKind? p.kind = some k) : OfKind k (op.onPair p) := by
  have hk : k = p.kind := by
    cases op <;> simp only [onKind?, Option.some.injEq, reduceCtorEq] at h
    case remainder =>
      split at h
      · cases h
      · exact (Option.some.inj h).symm
    all_goals exact h.symm
  subst hk
  have hs : (op.onKind? p.kind).isSome := by rw [h]; rfl
  cases p with
  | ints a b => exact (foreseen_onInts hs a b).map fun _ _ => rfl
  | floats a b => exact (foreseen_onFloats hs a b).map fun _ _ => rfl
  | decimals a b => exact (foreseen_onDecimals hs a b).map fun _ _ => rfl

theorem onPair_refused {op : BinaryOp} {p : NumericPair} (h : op.onKind? p.kind = none) :
    ∃ e, op.onPair p = .error e := by
  cases p <;> cases op <;> first | exact ⟨_, rfl⟩ | cases h

def arithmeticKind? (op : BinaryOp) (k l : Kind) : Option Kind :=
  if k = .text ∧ l = .text then if op = add then some .text else none
  else (Kind.common? k l).bind op.onKind?

theorem arithmetic_eq_onPair {op : BinaryOp} {a b : Value} {k : Kind}
    (h : Kind.common? a.kind b.kind = some k) :
    op.arithmetic a b = NumericPair.of a b >>= op.onPair := by
  have hn : (a.isNumeric && b.isNumeric) = true := by rw [NumericPair.isNumeric_and, h]; rfl
  unfold arithmetic
  split
  · cases h
  · rw [if_pos hn]
    cases NumericPair.of a b with
    | error e => rfl
    | ok p => cases p <;> rfl

theorem arithmetic_texts (op : BinaryOp) {a b : Value}
    (h : a.kind = .text ∧ b.kind = .text) :
    op.arithmetic a b =
      if op = add then .ok (.text (a.toText ++ b.toText))
      else .error (.type (.arithmetic op a b)) := by
  cases a <;> cases b <;> first | rfl | simp [Value.kind] at h

theorem arithmetic_not_numbers {op : BinaryOp} {a b : Value}
    (h : Kind.common? a.kind b.kind = none) (ht : ¬(a.kind = .text ∧ b.kind = .text)) :
    op.arithmetic a b = .error (.type (.arithmetic op a b)) := by
  have hn : ¬(a.isNumeric && b.isNumeric) = true := by simp [NumericPair.isNumeric_and, h]
  unfold arithmetic
  split
  · exact absurd ⟨rfl, rfl⟩ ht
  · rw [if_neg hn]

theorem ofKind_arithmetic {op : BinaryOp} {a b : Value} {k : Kind}
    (h : op.arithmeticKind? a.kind b.kind = some k) : OfKind k (op.arithmetic a b) := by
  by_cases ht : a.kind = .text ∧ b.kind = .text
  · rw [arithmeticKind?, if_pos ht] at h
    rw [arithmetic_texts op ht]
    by_cases hop : op = add
    · rw [if_pos hop] at h ⊢
      exact Option.some.inj h
    · rw [if_neg hop] at h
      cases h
  · rw [arithmeticKind?, if_neg ht] at h
    obtain ⟨l, hl, hk⟩ := Option.bind_eq_some_iff.1 h
    rw [arithmetic_eq_onPair hl]
    refine (NumericPair.foreseen_of hl).bind fun p hp => ?_
    exact ofKind_onPair (hp ▸ hk)

theorem arithmetic_refused {op : BinaryOp} {a b : Value}
    (h : op.arithmeticKind? a.kind b.kind = none) : ∃ e, op.arithmetic a b = .error e := by
  by_cases ht : a.kind = .text ∧ b.kind = .text
  · rw [arithmeticKind?, if_pos ht] at h
    by_cases hop : op = add
    · rw [if_pos hop] at h
      cases h
    · rw [arithmetic_texts op ht, if_neg hop]
      exact ⟨_, rfl⟩
  · rw [arithmeticKind?, if_neg ht] at h
    cases hl : Kind.common? a.kind b.kind with
    | none => exact ⟨_, arithmetic_not_numbers hl ht⟩
    | some l =>
      rw [hl, Option.bind_some] at h
      rw [arithmetic_eq_onPair hl]
      have hpair := NumericPair.foreseen_of hl
      cases hp : NumericPair.of a b with
      | error e => exact ⟨e, rfl⟩
      | ok p =>
        rw [hp] at hpair
        have hkind : p.kind = l := hpair
        exact onPair_refused (hkind ▸ h)

/-- Whether a comparison takes two kinds: equal kinds or two numbers, but truth values have
no order. -/
def Comparable (op : BinaryOp) (k l : Kind) : Prop :=
  (k = l ∨ (Kind.common? k l).isSome) ∧ (k = .bool → op = equal ∨ op = notEqual)

instance (op : BinaryOp) (k l : Kind) : Decidable (op.Comparable k l) :=
  inferInstanceAs (Decidable (_ ∧ _))

def pairOrder : NumericPair → Option Ordering
  | .ints a b => some (compare a.toInt b.toInt)
  | .floats a b => compareFloats a b
  | .decimals a b => some (compare a b)

theorem comparison_eq_pairOrder {op : BinaryOp} {a b : Value} {k : Kind}
    (h : Kind.common? a.kind b.kind = some k) :
    op.comparison a b = (NumericPair.of a b).map fun p => op.holds (pairOrder p) := by
  have hn : (a.isNumeric && b.isNumeric) = true := by rw [NumericPair.isNumeric_and, h]; rfl
  unfold comparison
  split
  case h_1 | h_2 | h_3 => cases h
  rw [if_pos hn]
  cases NumericPair.of a b with
  | error e => rfl
  | ok p => cases p <;> rfl

theorem foreseen_comparison {op : BinaryOp} {a b : Value} (h : op.Comparable a.kind b.kind) :
    Foreseen (fun _ => True) (op.comparison a b) := by
  cases hl : Kind.common? a.kind b.kind with
  | some k =>
    rw [comparison_eq_pairOrder hl]
    exact (NumericPair.foreseen_of hl).map fun _ _ => trivial
  | none =>
    have hsame : a.kind = b.kind := by simpa [hl] using h.1
    cases a <;> cases b <;> cases hsame
    case none.bool.bool.refl =>
      rcases h.2 rfl with rfl | rfl <;> trivial
    all_goals trivial

theorem comparison_refused {op : BinaryOp} {a b : Value} (h : ¬op.Comparable a.kind b.kind) :
    ∃ e, op.comparison a b = .error e := by
  have hordered (hb : a.kind ≠ .bool) :
      ¬(a.kind = b.kind ∨ (Kind.common? a.kind b.kind).isSome) :=
    fun hs => h ⟨hs, fun hk => absurd hk hb⟩
  cases a <;> cases b
  case bool.bool =>
    cases op <;> first | exact ⟨_, rfl⟩ | exact absurd ⟨Or.inl rfl, by simp⟩ h
  all_goals first
    | exact ⟨_, rfl⟩
    | exact absurd (Or.inr rfl) (hordered (by simp [Value.kind]))
    | exact absurd (Or.inl rfl) (hordered (by simp [Value.kind]))

theorem ofKind_logic {op : BinaryOp} {a b : Value} (h : a.kind = .bool ∧ b.kind = .bool) :
    OfKind .bool (op.logic a b) := by
  cases a <;> cases b <;> first | rfl | simp [Value.kind] at h

theorem logic_refused {op : BinaryOp} {a b : Value} (h : ¬(a.kind = .bool ∧ b.kind = .bool)) :
    ∃ e, op.logic a b = .error e := by
  cases a <;> cases b <;> first | exact ⟨_, rfl⟩ | exact absurd ⟨rfl, rfl⟩ h

def resultKind? (op : BinaryOp) (k l : Kind) : Option Kind :=
  match op with
  | add | subtract | multiply | divide | remainder => op.arithmeticKind? k l
  | equal | notEqual | less | lessEqual | greater | greaterEqual =>
    if op.Comparable k l then some .bool else none
  | and | or => if k = .bool ∧ l = .bool then some .bool else none

theorem ofKind_apply {op : BinaryOp} {a b : Value} {k : Kind}
    (h : op.resultKind? a.kind b.kind = some k) : OfKind k (op.apply a b) := by
  cases op
  case add | subtract | multiply | divide | remainder => exact ofKind_arithmetic h
  case and | or =>
    obtain ⟨hk, he⟩ := Option.ite_none_right_eq_some.1 h
    rw [← Option.some.inj he]
    exact ofKind_logic hk
  all_goals
    obtain ⟨hk, he⟩ := Option.ite_none_right_eq_some.1 h
    rw [← Option.some.inj he]
    exact (foreseen_comparison hk).map fun _ _ => rfl

theorem apply_refused {op : BinaryOp} {a b : Value}
    (h : op.resultKind? a.kind b.kind = none) : ∃ e, op.apply a b = .error e := by
  cases op
  case add | subtract | multiply | divide | remainder => exact arithmetic_refused h
  case and | or => exact logic_refused fun hb => by simp [resultKind?, hb] at h
  all_goals
    obtain ⟨e, he⟩ := comparison_refused fun hc => by
      rw [resultKind?, if_pos hc] at h
      cases h
    exact ⟨e, congrArg (Except.map Value.bool) he⟩

theorem resultKind?_of_ok {op : BinaryOp} {a b v : Value} (h : op.apply a b = .ok v) :
    op.resultKind? a.kind b.kind = some v.kind :=
  Foreseen.kind_of_ok (fun _ => ofKind_apply) apply_refused h

end BinaryOp
end TableMill
