import TableMill.Proofs.PaddedNumbers

/-!
# Numbers in base 16

Two verbs write an integer in base 16. The one with small digits puts a minus sign before the digits
of a negative number. The one with capitals writes the word that stands for the number in two's
complement, so that the two agree on all numbers but the negative ones.
-/

namespace TableMill
namespace Function

open Number (ofDigits Sign)
open Text (hexDigit? hexNumber isBlank trimBlanks)
open Directive (Flag IsWidth asked)

/-! ## Reading base 16 -/

def readMagnitude? (ds : List Char) : Option Nat :=
  if ds ≠ [] ∧ ds.all (fun d => (hexDigit? d).isSome) then some (hexNumber ds) else none

def readHex? : List Char → Option Int
  | '-' :: ds => (readMagnitude? ds).map fun n : Nat => Sign.minus.signed n
  | ds => (readMagnitude? ds).map fun n : Nat => Sign.unmarked.signed n

theorem readHex?_signed {sign : Sign} {ds : List Char} {n : Nat} (hsign : sign ≠ .plus)
    (hread : readMagnitude? ds = some n) : readHex? (sign.text ++ ds) = some (sign.signed n) := by
  cases sign with
  | plus => exact absurd rfl hsign
  | minus => exact congrArg (Option.map fun n : Nat => Sign.minus.signed n) hread
  | unmarked =>
    have hdigits : ∀ d ∈ ds, (hexDigit? d).isSome := by
      by_contra hnot
      rw [readMagnitude?, if_neg fun h => hnot (List.all_eq_true.1 h.2)] at hread
      cases hread
    show readHex? ds = _
    unfold readHex?
    split
    · next rest => cases hdigits '-' List.mem_cons_self
    · rw [hread]
      rfl

/-- Characters that are read as the digits for which they are written, and are no blanks. -/
structure Legible (write : Char → Char) : Prop where
  hexDigit? : ∀ d < 16, hexDigit? (write d.digitChar) = some d
  isBlank : ∀ d < 16, isBlank (write d.digitChar) = false

theorem legible_small : Legible id := ⟨by decide, by decide⟩

theorem legible_capital : Legible Char.toUpper := ⟨by decide, by decide⟩

theorem exists_digitChar {n : Nat} {c : Char} (hc : c ∈ Nat.toDigits 16 n) :
    ∃ d < 16, c = d.digitChar := by
  induction n using Nat.strongRecOn with
  | ind n ih =>
    by_cases hn : n < 16
    · rw [Nat.toDigits_of_lt_base hn] at hc
      exact ⟨n, hn, List.eq_of_mem_singleton hc⟩
    · rw [Nat.toDigits_of_base_le (by decide) (by omega)] at hc
      rcases List.mem_append.1 hc with hc | hc
      · exact ih (n / 16) (by omega) hc
      · exact ⟨n % 16, Nat.mod_lt _ (by decide), List.eq_of_mem_singleton hc⟩

theorem hexNumber_replicate_zero (k : Nat) (ds : List Char) :
    hexNumber (List.replicate k '0' ++ ds) = hexNumber ds := by
  induction k with
  | zero => rfl
  | succ k ih => exact ih

namespace Legible

variable {write : Char → Char} (h : Legible write)

include h

/-- A number is read from its digits, by the last one and those before it. -/
theorem hexNumber_digits (n : Nat) : hexNumber ((Nat.toDigits 16 n).map write) = n := by
  induction n using Nat.strongRecOn with
  | ind n ih =>
    by_cases hn : n < 16
    · rw [Nat.toDigits_of_lt_base hn]
      simp [hexNumber, h.hexDigit? n hn]
    · have hlast := h.hexDigit? (n % 16) (Nat.mod_lt _ (by decide))
      have hfront := ih (n / 16) (by omega)
      rw [Nat.toDigits_of_base_le (by decide) (by omega), List.map_append]
      unfold hexNumber at hfront ⊢
      rw [List.foldl_append, hfront]
      simp only [List.map_cons, List.map_nil, List.foldl_cons, List.foldl_nil, hlast]
      omega

theorem digits_spec {n : Nat} {c : Char} (hc : c ∈ (Nat.toDigits 16 n).map write) :
    (Text.hexDigit? c).isSome ∧ Text.isBlank c = false := by
  obtain ⟨b, hb, rfl⟩ := List.mem_map.1 hc
  obtain ⟨d, hd, rfl⟩ := exists_digitChar hb
  rw [h.hexDigit? d hd]
  exact ⟨rfl, h.isBlank d hd⟩

theorem ne_sign {n : Nat} {c : Char} (hc : c ∈ (Nat.toDigits 16 n).map write) :
    c ≠ '-' ∧ c ≠ '+' := by
  have hsome := (h.digits_spec hc).1
  constructor <;> rintro rfl <;> cases hsome

/-- Digits are read, with zeros in front of them. -/
theorem readMagnitude?_digits (zeros n : Nat) :
    readMagnitude? (List.replicate zeros '0' ++ (Nat.toDigits 16 n).map write) = some n := by
  have hne : (Nat.toDigits 16 n).map write ≠ [] := by simp
  have hdigits : ∀ c ∈ List.replicate zeros '0' ++ (Nat.toDigits 16 n).map write,
      (Text.hexDigit? c).isSome := by
    intro c hc
    rcases List.mem_append.1 hc with hc | hc
    · rw [List.eq_of_mem_replicate hc]
      rfl
    · exact (h.digits_spec hc).1
  rw [readMagnitude?, if_pos ⟨List.append_ne_nil_of_right_ne_nil _ hne, List.all_eq_true.2 hdigits⟩,
    hexNumber_replicate_zero, h.hexNumber_digits]

theorem readHex?_fillUp (flags : List Flag) {sign : Sign} (hsign : sign ≠ .plus) (n missing : Nat) :
    readHex? (trimBlanks (fillUp flags missing sign ((Nat.toDigits 16 n).map write))) =
      some (sign.signed n) := by
  obtain ⟨zeros, htrim⟩ := trimBlanks_fillUp flags sign (fun c hc => (h.digits_spec hc).2)
    (by simp) missing
  rw [htrim, readHex?_signed hsign (h.readMagnitude?_digits zeros n)]

theorem trimBlanks_signed (sign : Sign) (n : Nat) :
    trimBlanks (sign.text ++ (Nat.toDigits 16 n).map write) =
      sign.text ++ (Nat.toDigits 16 n).map write :=
  trimBlanks_of_forall (isBlank_of_mem_signed fun _ hc => (h.digits_spec hc).2)

end Legible

/-! ## Writing base 16 -/

variable {flags : List Flag} {digits : List Char}

theorem toNat_toUInt64 (v : Int64) : (v.toUInt64.toNat : Int) = v.toInt % 2 ^ 64 := by
  have hword : v.toInt = (v.toUInt64.toNat : Int).bmod (2 ^ 64) :=
    BitVec.toInt_eq_toNat_bmod v.toBitVec
  have hlt := v.toUInt64.toNat_lt
  have hmod := Int.bmod_emod (x := v.toUInt64.toNat) (m := 2 ^ 64)
  rw [hword]
  omega

theorem toList_render_small (d : Directive) (v : Int64) :
    (renderVerb 'x' d (.int v)).toList =
      (signOf [] v).text ++ Nat.toDigits 16 v.toInt.natAbs := by
  have hnegative : v < 0 ↔ v.toInt < 0 := Int64.lt_iff_toInt_lt
  show (if v < 0 then "-" ++ Text.hexText v.toInt.natAbs
    else Text.hexText v.toInt.natAbs).toList = _
  by_cases hv : v.toInt < 0
  · rw [if_pos (hnegative.2 hv), signOf, if_pos hv]
    simp [Text.hexText, Sign.text]
  · rw [if_neg (mt hnegative.1 hv), signOf, if_neg hv]
    simp [Text.hexText, Sign.text]

/-- The digits of the word that stands for a number are capitals. -/
theorem toList_render_capital (d : Directive) (v : Int64) :
    (renderVerb 'X' d (.int v)).toList =
      Sign.unmarked.text ++ (Nat.toDigits 16 v.toUInt64.toNat).map Char.toUpper :=
  String.toList_ofList

/-- Of what stands in a number that is filled up, only digits may be letters. -/
theorem map_toUpper_fillUp (flags : List Flag) (missing : Nat) (sign : Sign) (ds : List Char) :
    (fillUp flags missing sign ds).map Char.toUpper =
      fillUp flags missing sign (ds.map Char.toUpper) := by
  have hsign : sign.text.map Char.toUpper = sign.text := by
    cases sign <;> rfl
  have hblank : Char.toUpper ' ' = ' ' := rfl
  have hzero : Char.toUpper '0' = '0' := rfl
  unfold fillUp
  split
  · simp only [List.map_append, hsign, List.map_replicate, hblank]
  split
  · simp only [List.map_append, hsign, List.map_replicate, hzero]
  · simp only [List.map_append, hsign, List.map_replicate, hblank]

theorem fillUp_zero (flags : List Flag) (sign : Sign) (ds : List Char) :
    fillUp flags 0 sign ds = sign.text ++ ds := by
  unfold fillUp
  split
  · simp
  split
  · simp
  · simp

def missingIn (digits : List Char) (sign : Sign) (ds : List Char) : Nat :=
  ofDigits digits - (sign.text ++ ds).length

theorem missingIn_map (digits : List Char) (sign : Sign) (ds : List Char) (f : Char → Char) :
    missingIn digits sign (ds.map f) = missingIn digits sign ds := by
  simp [missingIn]

theorem sprintf_small (flags : List Flag) (hdigits : IsWidth digits) (v : Int64) :
    ∃ t : String, sprintf [.text (template flags digits 'x'), .int v] = .ok (.text t) ∧
      t.toList = fillUp flags (missingIn digits (signOf [] v) (Nat.toDigits 16 v.toInt.natAbs))
        (signOf [] v) (Nat.toDigits 16 v.toInt.natAbs) := by
  have hdigit (c : Char) (hc : c ∈ Nat.toDigits 16 v.toInt.natAbs) : c ≠ '-' ∧ c ≠ '+' :=
    legible_small.ne_sign (by rwa [List.map_id])
  exact ⟨_, sprintf_template hdigits (by decide) (.int v),
    toList_pad_of_ne (toList_render_small _ v) hdigit⟩

theorem sprintf_capital (flags : List Flag) (hdigits : IsWidth digits) (v : Int64) :
    ∃ t : String, sprintf [.text (template flags digits 'X'), .int v] = .ok (.text t) ∧
      t.toList = fillUp flags (missingIn digits .unmarked (Nat.toDigits 16 v.toUInt64.toNat))
        .unmarked ((Nat.toDigits 16 v.toUInt64.toNat).map Char.toUpper) := by
  refine ⟨_, sprintf_template hdigits (by decide) (.int v), ?_⟩
  rw [← missingIn_map _ _ _ Char.toUpper]
  exact toList_pad_of_ne (toList_render_capital _ v) fun _ => legible_capital.ne_sign

/-- With any flags and width, an integer is written in base 16 so that it is read back, but for
blanks around it, of which there are none without a width. The digits of the two verbs are the same,
small and in capitals, if and only if the number is not negative: the capitals of a negative number
are read as the unsigned word with the same bits. -/
theorem sprintf_hex (flags : List Flag) (hdigits : IsWidth digits) (v : Int64) :
    ∃ small capital : String,
      sprintf [.text (template flags digits 'x'), .int v] = .ok (.text small) ∧
      sprintf [.text (template flags digits 'X'), .int v] = .ok (.text capital) ∧
      (capital = small.map Char.toUpper ↔ 0 ≤ v.toInt) ∧
      readHex? (trimBlanks small.toList) = some v.toInt ∧
      readHex? (trimBlanks capital.toList) = some (v.toInt % 2 ^ 64) ∧
      (digits = [] → trimBlanks small.toList = small.toList ∧
        trimBlanks capital.toList = capital.toList) := by
  obtain ⟨small, hsprintf, hsmall⟩ := sprintf_small flags hdigits v
  obtain ⟨capital, hsprintf', hcapital⟩ := sprintf_capital flags hdigits v
  have hsign : signOf [] v ≠ .plus := by
    unfold signOf
    split <;> simp
  have hsigned : (signOf [] v).signed v.toInt.natAbs = v.toInt := by
    have h := signed_digitsOf [] v
    rwa [digitsOf, ofDigits_toDigits] at h
  have hunsigned : Sign.unmarked ≠ .plus := by decide
  have hread : readHex? (trimBlanks small.toList) = some v.toInt := by
    rw [hsmall, ← List.map_id (Nat.toDigits 16 _), legible_small.readHex?_fillUp flags hsign,
      hsigned]
  have hread' : readHex? (trimBlanks capital.toList) = some (v.toInt % 2 ^ 64) := by
    rw [hcapital, legible_capital.readHex?_fillUp flags hunsigned, ← toNat_toUInt64]
    rfl
  refine ⟨small, capital, hsprintf, hsprintf', ⟨?_, ?_⟩, hread, hread', ?_⟩
  · rintro rfl
    rw [String.toList_map, hsmall, map_toUpper_fillUp,
      legible_capital.readHex?_fillUp flags hsign, hsigned] at hread'
    have hmod := Option.some.inj hread'
    omega
  · intro hv
    have hword := toNat_toUInt64 v
    have hrange := v.toInt_lt
    have habs : v.toUInt64.toNat = v.toInt.natAbs := by omega
    have hunmarked : signOf [] v = .unmarked := by simp [signOf, hv]
    rw [← String.toList_inj, String.toList_map, hsmall, hcapital, map_toUpper_fillUp, habs,
      hunmarked]
  · rintro rfl
    have hnone (sign : Sign) (ds : List Char) : missingIn [] sign ds = 0 := Nat.zero_sub _
    have htrim := legible_small.trimBlanks_signed (signOf [] v) v.toInt.natAbs
    rw [List.map_id] at htrim
    rw [hsmall, hcapital, hnone, hnone, fillUp_zero, fillUp_zero]
    exact ⟨htrim, legible_capital.trimBlanks_signed _ _⟩

theorem sprintf_hex_negative :
    IsWidth ['6'] ∧ sprintf [.text "%06x", .int (-255)] = .ok (.text "-000ff") ∧
      sprintf [.text "%06X", .int (-255)] = .ok (.text "FFFFFFFFFFFFFF01") ∧
      readHex? (trimBlanks "-000ff".toList) = some (-255) ∧
      "FFFFFFFFFFFFFF01" ≠ "-000ff".map Char.toUpper := by
  have hvalue : ofDigits ['6'] = 6 := by decide
  have hsix : IsWidth ['6'] := ⟨by simp [Text.isDigit], by decide, by rw [hvalue]; decide⟩
  have hx : sprintf [.text "%06x", .int (-255)] = .ok (.text "-000ff") := by rfl
  have hX : sprintf [.text "%06X", .int (-255)] = .ok (.text "FFFFFFFFFFFFFF01") := by rfl
  obtain ⟨small, capital, hsmall, hcapital, hiff, hread, -⟩ := sprintf_hex [.zero] hsix (-255)
  obtain rfl : small = "-000ff" := Value.text.inj (Except.ok.inj (hsmall.symm.trans hx))
  obtain rfl : capital = "FFFFFFFFFFFFFF01" :=
    Value.text.inj (Except.ok.inj (hcapital.symm.trans hX))
  exact ⟨hsix, hx, hX, hread, mt hiff.1 (by decide)⟩

end Function
end TableMill
