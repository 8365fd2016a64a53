import Mathlib.Tactic.Linarith
import Mathlib.Tactic.Ring
import TableMill.Proofs.Lexing

/-!
# Numerals of integers

An integer is read from a text if and only if the text is a sign and digits, of a number in the
range that is asked for. The value of digits is that of the first ones, moved by the places of the
others, and of the others.
-/

namespace TableMill
namespace Number

open Text (isDigit)

/-! ## The value of digits -/

theorem digitValue_lt {c : Char} (hc : isDigit c = true) : digitValue c < 10 := by
  have hcode : 48 ≤ c.toNat ∧ c.toNat ≤ 57 := by
    simpa [isDigit, Token.char_le_iff] using hc
  have hzero : '0'.toNat = 48 := rfl
  unfold digitValue
  omega

@[simp] theorem ofDigits_nil : ofDigits [] = 0 := rfl

theorem ofDigits_append (cs ds : List Char) :
    ofDigits (cs ++ ds) = 10 ^ ds.length * ofDigits cs + ofDigits ds := by
  rw [ofDigits, List.foldl_append]
  exact Nat.ofDigitChars_eq_ofDigitChars_zero

theorem ofDigits_cons (c : Char) (ds : List Char) :
    ofDigits (c :: ds) = 10 ^ ds.length * digitValue c + ofDigits ds := by
  have hone : ofDigits [c] = digitValue c := by simp [ofDigits]
  rw [← hone, ← ofDigits_append]
  rfl

theorem ofDigits_lt {ds : List Char} (hds : ∀ d ∈ ds, isDigit d = true) :
    ofDigits ds < 10 ^ ds.length := by
  induction ds with
  | nil => simp
  | cons c ds ih =>
    have hc := digitValue_lt (hds c List.mem_cons_self)
    have hrest := ih fun d hd => hds d (List.mem_cons_of_mem _ hd)
    rw [ofDigits_cons, List.length_cons, pow_succ]
    nlinarith

theorem ofDigits_dropWhile (ds : List Char) : ofDigits (ds.dropWhile (· == '0')) = ofDigits ds := by
  induction ds with
  | nil => rfl
  | cons c ds ih =>
    rw [List.dropWhile_cons]
    split
    · next hc =>
      obtain rfl : c = '0' := beq_iff_eq.1 hc
      rw [ih, ofDigits_cons]
      simp [digitValue]
    · rfl

theorem le_ofDigits {c : Char} {ds : List Char} (hc : isDigit c = true) (hzero : c ≠ '0') :
    10 ^ ds.length ≤ ofDigits (c :: ds) := by
  have hcode : 48 ≤ c.toNat ∧ c.toNat ≤ 57 := by
    simpa [isDigit, Token.char_le_iff] using hc
  have hne : c.toNat ≠ 48 := fun h => hzero (Char.toNat_inj.1 h)
  have hvalue : 1 ≤ digitValue c := by
    have hzero : '0'.toNat = 48 := rfl
    unfold digitValue
    omega
  rw [ofDigits_cons]
  exact (Nat.le_mul_of_pos_right _ hvalue).trans (Nat.le_add_right _ _)

/-! ## Signs -/

inductive Sign
  | unmarked | plus | minus
  deriving DecidableEq

namespace Sign

def text : Sign → List Char
  | unmarked => []
  | plus => ['+']
  | minus => ['-']

/-- A magnitude with its sign. -/
def signed : Sign → Int → Int
  | minus, n => -n
  | _, n => n

end Sign

/-- Whether a text is a sign and digits of an integer. -/
def IsNumeral (cs : List Char) (n : Int) : Prop :=
  ∃ (sign : Sign) (ds : List Char), cs = sign.text ++ ds ∧ ds ≠ [] ∧
    (∀ d ∈ ds, isDigit d = true) ∧ n = sign.signed (ofDigits ds)

/-! ## Reading -/

/-- Digits are read upwards as long as they stay in the range, and nothing else is. -/
theorem readUp_eq_ok_iff {hi m : Int} {ds : List Char} {k : Nat} (hk : k ≤ hi) :
    readUp hi k ds = .ok m ↔
      (∀ d ∈ ds, isDigit d = true) ∧ m = Nat.ofDigitChars 10 ds k ∧ m ≤ hi := by
  refine ⟨fun h => ?_, fun ⟨hds, hm, hle⟩ => hm ▸ Token.readUp_of_isDigit hds k (hm ▸ hle)⟩
  induction ds generalizing k with
  | nil =>
    cases h
    exact ⟨by simp, rfl, hk⟩
  | cons d ds ih =>
    rw [readUp] at h
    split at h
    · next hd =>
      dsimp only at h
      split at h
      · cases h
      · next hle =>
        obtain ⟨hds, hm, hle⟩ := ih (k := 10 * k + digitValue d) (by push_cast; omega)
          (by push_cast; exact h)
        exact ⟨List.forall_mem_cons.2 ⟨hd, hds⟩, by rwa [Nat.ofDigitChars_cons], hle⟩
    · cases h

/-- Reading downwards is reading upwards in the mirrored range. -/
theorem readDown_neg_iff {lo n m : Int} {ds : List Char} :
    readDown lo (-n) ds = .ok (-m) ↔ readUp (-lo) n ds = .ok m := by
  induction ds generalizing n with
  | nil => simp [readDown, readUp]
  | cons d ds ih =>
    have hstep : 10 * -n - (digitValue d : Int) = -(10 * n + digitValue d) := by ring
    have hlimit : -(10 * n + (digitValue d : Int)) < lo ↔ -lo < 10 * n + digitValue d := by omega
    simp only [readDown, readUp, hstep, hlimit]
    split
    · split
      · simp
      · exact ih
    · simp

section ReadInt

variable {lo hi n : Int} {cs : List Char}

theorem readInt_plus (hhi : 0 ≤ hi) (hcs : cs ≠ []) :
    readInt lo hi ('+' :: cs) = .ok n ↔
      (∀ d ∈ cs, isDigit d = true) ∧ n = ofDigits cs ∧ n ≤ hi := by
  obtain ⟨c, cs, rfl⟩ := List.exists_cons_of_ne_nil hcs
  exact readUp_eq_ok_iff (k := 0) hhi

theorem readInt_minus (hlo : lo < 0) (hcs : cs ≠ []) :
    readInt lo hi ('-' :: cs) = .ok n ↔
      (∀ d ∈ cs, isDigit d = true) ∧ n = -ofDigits cs ∧ lo ≤ n := by
  obtain ⟨c, cs, rfl⟩ := List.exists_cons_of_ne_nil hcs
  have hdown : readDown lo 0 (c :: cs) = .ok n ↔ readUp (-lo) 0 (c :: cs) = .ok (-n) := by
    simpa using readDown_neg_iff (n := 0) (m := -n)
  have hup : readUp (-lo) 0 (c :: cs) = .ok (-n) ↔
      (∀ d ∈ c :: cs, isDigit d = true) ∧ -n = ofDigits (c :: cs) ∧ -n ≤ -lo :=
    readUp_eq_ok_iff (k := 0) (by omega)
  rw [readInt, if_pos hlo, hdown, hup, neg_eq_iff_eq_neg, neg_le_neg_iff]

theorem readInt_unmarked (hhi : 0 ≤ hi) (hplus : cs.head? ≠ some '+') (hminus : cs.head? ≠ some '-')
    (hcs : cs ≠ []) :
    readInt lo hi cs = .ok n ↔
      (∀ d ∈ cs, isDigit d = true) ∧ n = ofDigits cs ∧ n ≤ hi := by
  have hread : readInt lo hi cs = readUp hi 0 cs := by
    unfold readInt
    split
    · exact absurd rfl hcs
    · exact absurd rfl hplus
    · exact absurd rfl hminus
    · rfl
  rw [hread]
  exact readUp_eq_ok_iff (k := 0) hhi

/-- An integer is read if the text is a numeral of it and it lies in the range. -/
theorem readInt_eq_ok_iff (hlo : lo < 0) (hhi : 0 ≤ hi) :
    readInt lo hi cs = .ok n ↔ IsNumeral cs n ∧ lo ≤ n ∧ n ≤ hi := by
  constructor
  · intro h
    rcases cs with _ | ⟨c, cs⟩
    · cases h
    by_cases hplus : c = '+'
    · subst hplus
      by_cases hne : cs = []
      · subst hne
        cases h
      · obtain ⟨hds, rfl, hge⟩ := (readInt_plus hhi hne).1 h
        exact ⟨⟨.plus, cs, rfl, hne, hds, rfl⟩, by omega, hge⟩
    by_cases hminus : c = '-'
    · subst hminus
      by_cases hne : cs = []
      · subst hne
        cases h
      · obtain ⟨hds, rfl, hle⟩ := (readInt_minus hlo hne).1 h
        exact ⟨⟨.minus, cs, rfl, hne, hds, rfl⟩, hle, by omega⟩
    · obtain ⟨hds, rfl, hge⟩ := (readInt_unmarked hhi (by simpa using hplus)
        (by simpa using hminus) (List.cons_ne_nil c cs)).1 h
      exact ⟨⟨.unmarked, c :: cs, rfl, List.cons_ne_nil c cs, hds, rfl⟩, by omega, hge⟩
  · rintro ⟨⟨sign, ds, rfl, hne, hds, rfl⟩, hle, hge⟩
    cases sign with
    | unmarked =>
      have hhead (c : Char) (hc : isDigit c = false) : ds.head? ≠ some c := fun h => by
        rw [hds c (List.mem_of_mem_head? h)] at hc
        cases hc
      exact (readInt_unmarked hhi (hhead '+' rfl) (hhead '-' rfl) hne).2 ⟨hds, rfl, hge⟩
    | plus => exact (readInt_plus hhi hne).2 ⟨hds, rfl, hge⟩
    | minus => exact (readInt_minus hlo hne).2 ⟨hds, rfl, hle⟩

end ReadInt

end Number
end TableMill
