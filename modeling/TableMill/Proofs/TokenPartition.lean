import TableMill.Proofs.MachineIntegers
import TableMill.Proofs.TokenSplit

/-!
# Splitting the tokens into equal parts

The ranges of a split are made one after the other on 64-bit integers, from a width that two rounded
quotients come to, since the number of all tokens is no word. No sum is beyond the words on the way,
and the last range takes what the quotients have left, which is more than nothing and less than two
tokens for every range.
-/

namespace TableMill

open Number

/-- The sum, or the end of the width beyond which it lies. -/
def Width.saturatingSum (w : Width) (a b : Int) : Machine Int :=
  .ok (max w.low (min w.high (a + b)))

theorem Width.saturatingSum_of_fits {w : Width} {a b : Int} (h : w.Fits (a + b)) :
    w.saturatingSum a b = .ok (a + b) := by
  rw [saturatingSum, min_eq_right h.2, max_eq_right h.1]

namespace TokenRange

open Number Width Machine

def size (r : TokenRange) : Int := r.last - r.first + 1

/-! ## On the machine -/

/-- Makes the ranges from a place and a token on, where `add` finds the end of a range from its
start. A range that ends with the last token is the last one. -/
def rangesFrom (add : Int → Int → Machine Int) (n : Nat) (step : Int) :
    Nat → Nat → Int → Machine (List TokenRange)
  | 0, _, _ => pure []
  | count + 1, place, first => do
    let behind ← u64.sum place 1
    let last ←
      if behind = n then pure wordMax
      else do
        let width ← i64.difference step 1
        add first width
    if last = wordMax then pure [⟨first, last⟩]
    else do
      let next ← i64.sum last 1
      let rest ← rangesFrom add n step count (place + 1) next
      pure (⟨first, last⟩ :: rest)

/-- Splits all tokens into ranges. A number of ranges that is no word counts as the greatest one. -/
def splitOnMachine (add : Int → Int → Machine Int) (n : Nat) : Machine (List TokenRange) :=
  if n ≤ 1 then pure [all]
  else do
    let high ← i64.quotient wordMax (min n wordMax)
    let low ← i64.quotient wordMin (min n wordMax)
    let step ← i64.difference high low
    rangesFrom add n step n 0 wordMin

variable {n i : Nat}

/-! ## The width -/

theorem step_pos (hn : 0 < n) (hmax : n ≤ wordMax) : 0 < step n := by
  obtain ⟨rest, hrest, -, hlt⟩ := mul_step hn
  by_contra hneg
  have hle : n * step n ≤ 0 := Int.mul_nonpos_of_nonneg_of_nonpos (by omega) (by omega)
  unfold wordMax wordMin at hrest
  unfold wordMax at hmax
  omega

theorem step_le (hn : 2 ≤ n) : step n ≤ wordMax := by
  obtain ⟨rest, hrest, hpos, -⟩ := mul_step (show 0 < n by omega)
  have hle := Int.mul_le_mul_of_nonneg_right (show (2 : Int) ≤ n by omega) (step_nonneg n)
  unfold wordMax wordMin at hrest
  unfold wordMax
  omega

/-- Up to the place before the last one, the ranges of one width leave a token over. -/
theorem add_step_le (hi : i < n) : i * step n + step n ≤ wordMax - wordMin := by
  have hle := Int.mul_le_mul_of_nonneg_right (show (i : Int) + 1 ≤ n by omega) (step_nonneg n)
  rw [Int.add_mul, Int.one_mul] at hle
  exact Int.le_trans hle (mul_step_le (by omega))

/-! ## The loop -/

theorem start_succ (n i : Nat) :
    wordMin + (i + 1 : Nat) * step n = wordMin + i * step n + step n := by
  rw [Int.natCast_succ, Int.add_mul, Int.one_mul, Int.add_assoc]

theorem place_succ (hi : i < n) (hmax : n ≤ wordMax) : u64.sum i 1 = .ok (i + 1 : Int) := by
  apply perform_of_fits
  unfold wordMax at hmax
  constructor <;> simp only [low, high] <;> omega

section Exact

-- No sum of the loop is beyond the words, so it does not matter what the addition does there.
variable {add : Int → Int → Machine Int} (hn : 2 ≤ n) (hmax : n ≤ wordMax)
  (hadd : ∀ a b, i64.Fits (a + b) → add a b = .ok (a + b))

include hmax in
theorem rangesFrom_last (hi : i + 1 = n) (count : Nat) :
    rangesFrom add n (step n) (count + 1) i (wordMin + i * step n) = .ok [nth n i] := by
  rw [rangesFrom, place_succ (by omega) hmax, ok_bind, if_pos (by omega), nth_last hi]
  rfl

include hn hmax hadd

theorem rangesFrom_next (hi : i + 1 < n) (count : Nat) :
    rangesFrom add n (step n) (count + 1) i (wordMin + i * step n) =
      (do
        let rest ← rangesFrom add n (step n) count (i + 1) (wordMin + (i + 1 : Nat) * step n)
        pure (nth n i :: rest)) := by
  have hpos := step_pos (show 0 < n by omega) hmax
  have hle := step_le hn
  have hstart := Int.mul_nonneg (Int.natCast_nonneg i) (step_nonneg n)
  have hend := add_step_le (show i < n by omega)
  have hwidth : i64.difference (step n) 1 = .ok (step n - 1) := by
    apply perform_of_fits
    exact fits_i64_iff.2 ⟨by unfold wordMin; omega, by omega⟩
  have hlast : add (wordMin + i * step n) (step n - 1) =
      .ok (wordMin + i * step n + step n - 1) := by
    rw [hadd _ _ (fits_i64_iff.2 ⟨by omega, by omega⟩), Int.add_sub_assoc]
  have hnext : i64.sum (wordMin + i * step n + step n - 1) 1 =
      .ok (wordMin + (i + 1 : Nat) * step n) := by
    rw [start_succ, sum, Int.sub_add_cancel]
    exact perform_of_fits (fits_i64_iff.2 ⟨by omega, by omega⟩)
  rw [rangesFrom, place_succ (by omega) hmax, ok_bind, if_neg (by omega), hwidth, ok_bind, hlast,
    ok_bind]
  dsimp only
  rw [if_neg (by omega), hnext, ok_bind, nth_of_lt hi]

/-- From a place on, the loop makes the ranges of the places that are left. -/
theorem rangesFrom_value (count : Nat) (hcount : i + count = n) :
    rangesFrom add n (step n) count i (wordMin + i * step n) =
      .ok ((List.range' i count).map (nth n)) := by
  induction count generalizing i with
  | zero => rfl
  | succ count ih =>
    by_cases hlast : i + 1 = n
    · obtain rfl : count = 0 := by omega
      exact rangesFrom_last hmax hlast 0
    · rw [rangesFrom_next hn hmax hadd (by omega), ih (by omega), List.range'_succ, List.map_cons]
      rfl

theorem splitOnMachine_value : splitOnMachine add n = .ok (split n) := by
  have hquotient : ∀ a : Int, a.natAbs ≤ 2 ^ 63 → i64.quotient a n = .ok (a.tdiv n) := by
    intro a ha
    have hhalf : (a.tdiv n).natAbs ≤ 2 ^ 62 := by
      rw [Int.natAbs_tdiv, Int.natAbs_natCast]
      exact (Nat.div_le_div ha hn (by decide)).trans (by decide)
    exact quotient_of_fits (by omega) (fits_i64 (by omega))
  have hwidth : InWords (step n) :=
    ⟨(show wordMin ≤ 0 by decide).trans (step_nonneg n), step_le hn⟩
  have hstep : i64.difference (wordMax.tdiv n) (wordMin.tdiv n) = .ok (step n) :=
    perform_of_fits (fits_i64_iff.2 hwidth)
  have hstart : wordMin = wordMin + (0 : Nat) * step n := by
    rw [Int.natCast_zero, Int.zero_mul, Int.add_zero]
  rw [splitOnMachine, if_neg (by omega), min_eq_left hmax, hquotient _ (by decide), ok_bind,
    hquotient _ (by decide), ok_bind, hstep, ok_bind, split, if_neg (by omega),
    List.range_eq_range']
  nth_rewrite 1 [hstart]
  exact rangesFrom_value hn hmax hadd n (Nat.zero_add n)

end Exact

/-! ## The ranges in their order -/

def Contains (r : TokenRange) (token : Int) : Prop := r.first ≤ token ∧ token ≤ r.last

instance (r : TokenRange) (token : Int) : Decidable (r.Contains token) :=
  inferInstanceAs (Decidable (_ ∧ _))

theorem contains_mk {first last token : Int} :
    Contains ⟨first, last⟩ token ↔ first ≤ token ∧ token ≤ last := Iff.rfl

/-- Ranges that follow each other from a first token to a last one, none of them empty. -/
inductive Spans : Int → List TokenRange → Int → Prop
  | one {first last : Int} : first ≤ last → Spans first [⟨first, last⟩] last
  | next {first middle last : Int} {ranges : List TokenRange} : first ≤ middle →
      Spans (middle + 1) ranges last → Spans first (⟨first, middle⟩ :: ranges) last

namespace Spans

variable {first last : Int} {ranges : List TokenRange}

theorem le (h : Spans first ranges last) : first ≤ last := by
  induction h with
  | one hle => exact hle
  | next hle _ ih => omega

theorem head (h : Spans first ranges last) : ranges.head?.map TokenRange.first = some first := by
  cases h <;> rfl

theorem getLast (h : Spans first ranges last) :
    ranges.getLast?.map TokenRange.last = some last := by
  induction h with
  | one => rfl
  | next _ hrest ih => cases hrest <;> exact ih

theorem nonempty (h : Spans first ranges last) : ∀ r ∈ ranges, r.first ≤ r.last := by
  induction h with
  | one hle => exact List.forall_mem_singleton.2 hle
  | next hle _ ih => exact List.forall_mem_cons.2 ⟨hle, ih⟩

theorem isChain (h : Spans first ranges last) :
    ranges.IsChain fun r next => next.first = r.last + 1 := by
  induction h with
  | one => exact .singleton _
  | next _ hrest ih => cases hrest <;> exact .cons_cons rfl ih

theorem countP_contains (h : Spans first ranges last) (token : Int) :
    ranges.countP (fun r => r.Contains token) = if first ≤ token ∧ token ≤ last then 1 else 0 := by
  induction h with
  | one hle => simp only [List.countP_singleton, decide_eq_true_eq, contains_mk]
  | next hle hrest ih =>
    have hlast := hrest.le
    simp only [List.countP_cons, ih, decide_eq_true_eq, contains_mk]
    split_ifs <;> omega

end Spans

theorem spans_from (hn : 2 ≤ n) (hmax : n ≤ wordMax) (count : Nat) (hcount : i + (count + 1) = n) :
    Spans (wordMin + i * step n) ((List.range' i (count + 1)).map (nth n)) wordMax := by
  have hpos := step_pos (show 0 < n by omega) hmax
  have hend := add_step_le (show i < n by omega)
  induction count generalizing i with
  | zero =>
    rw [List.range'_one, List.map_singleton, nth_last hcount]
    exact .one (by omega)
  | succ count ih =>
    rw [List.range'_succ, List.map_cons, nth_of_lt (by omega)]
    refine .next (by omega) ?_
    rw [Int.sub_add_cancel, ← start_succ]
    exact ih (by omega) (add_step_le (by omega))

theorem spans_split (hn : 2 ≤ n) (hmax : n ≤ wordMax) : Spans wordMin (split n) wordMax := by
  obtain ⟨count, rfl⟩ : ∃ count, n = count + 1 := ⟨n - 1, by omega⟩
  have h := spans_from (i := 0) hn hmax count (Nat.zero_add _)
  rw [split, if_neg (by omega), List.range_eq_range']
  simpa using h

/-- All ranges but the last one have the width, and the last one what is left of all tokens. -/
theorem sizes_split (hn : 2 ≤ n) : ∃ rest : Int, 0 < rest ∧ rest < 2 * n ∧
    (split n).map size = List.replicate (n - 1) (step n) ++ [step n + rest] := by
  obtain ⟨rest, hrest, hpos, hlt⟩ := mul_step (show 0 < n by omega)
  refine ⟨rest, hpos, hlt, ?_⟩
  obtain ⟨k, rfl⟩ : ∃ k, n = k + 1 := ⟨n - 1, by omega⟩
  rw [split, if_neg (by omega), List.range_succ, List.map_append, List.map_append, List.map_map]
  congr 1
  · rw [List.eq_replicate_iff, List.length_map, List.length_range]
    refine ⟨rfl, fun size hsize => ?_⟩
    obtain ⟨i, hi, rfl⟩ := List.mem_map.1 hsize
    rw [Function.comp_apply, nth_of_lt (by have := List.mem_range.1 hi; omega), TokenRange.size]
    dsimp only
    omega
  · rw [List.map_singleton, List.map_singleton, nth_last rfl, TokenRange.size]
    rw [Int.natCast_succ, Int.add_mul, Int.one_mul] at hrest
    dsimp only
    rw [show wordMax - (wordMin + k * step (k + 1)) + 1 = step (k + 1) + rest by omega]

/-! ## The split -/

/-- The ranges part all tokens into a number of parts of one size, but for what the last one has
above it. -/
structure Parts (n : Nat) (ranges : List TokenRange) : Prop where
  length : ranges.length = n
  nonempty : ∀ r ∈ ranges, r.first ≤ r.last
  head : ranges.head?.map TokenRange.first = some wordMin
  getLast : ranges.getLast?.map TokenRange.last = some wordMax
  isChain : ranges.IsChain fun r next => next.first = r.last + 1
  sizes : ∃ width rest : Int, 0 < rest ∧ rest < 2 * n ∧
    ranges.map size = List.replicate (n - 1) width ++ [width + rest]
  once : ∀ token, wordMin ≤ token → token ≤ wordMax →
    ranges.countP (fun r => r.Contains token) = 1

theorem parts_split (hn : 2 ≤ n) (hmax : n ≤ wordMax) : Parts n (split n) := by
  have hspans := spans_split hn hmax
  exact {
    length := by rw [split, if_neg (by omega), List.length_map, List.length_range]
    nonempty := hspans.nonempty
    head := hspans.head
    getLast := hspans.getLast
    isChain := hspans.isChain
    sizes := ⟨step n, sizes_split hn⟩
    once := fun token hfirst hlast => by
      rw [hspans.countP_contains, if_pos ⟨hfirst, hlast⟩] }

/-- On the machine the tokens are split into equal parts, also with an addition that stops at a sum
beyond the words: none is beyond them, and none is cut to their ends. -/
theorem split_partition (hn : 2 ≤ n) (hmax : n ≤ wordMax) :
    splitOnMachine i64.saturatingSum n = .ok (split n) ∧
      splitOnMachine i64.sum n = .ok (split n) ∧ Parts n (split n) :=
  ⟨splitOnMachine_value hn hmax fun _ _ => saturatingSum_of_fits,
    splitOnMachine_value hn hmax fun _ _ => perform_of_fits, parts_split hn hmax⟩

/-- Three ranges, of which the last one has four tokens more than the others. -/
theorem split_partition_three :
    2 ≤ 3 ∧ ((3 : Nat) : Int) ≤ wordMax ∧
      splitOnMachine i64.saturatingSum 3 = .ok
        [⟨-9223372036854775808, -3074457345618258605⟩, ⟨-3074457345618258604, 3074457345618258599⟩,
          ⟨3074457345618258600, 9223372036854775807⟩] ∧
      splitOnMachine i64.sum 3 = .ok (split 3) ∧ Parts 3 (split 3) := by
  have h := split_partition (n := 3) (by decide) (by decide)
  exact ⟨by decide, by decide, h.1, h.2⟩

end TokenRange
end TableMill
