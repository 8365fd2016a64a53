import Mathlib.Algebra.Group.Nat.Defs
import TableMill.Proofs.FirstDifference

/-!
# Texts in descending order

A descending chunk writes what every byte of a text lacks to 255. The bytes of letters are
ordered like the letters, and no letter's bytes begin another's, so the chunk turns the
order of texts around.
-/

namespace TableMill

theorem byteArray_loop (b : ByteArray) (n i : Nat) (r : List UInt8) (h : n + i = b.size) :
    ByteArray.toList.loop b i r = r.reverse ++ b.data.toList.drop i := by
  induction n generalizing i r with
  | zero =>
    have hi : b.data.toList.length ≤ i := by
      simp only [Array.length_toList]
      exact Nat.le_of_eq (by simpa using h.symm)
    rw [ByteArray.toList.loop, if_neg (by omega), List.drop_of_length_le hi, List.append_nil]
  | succ n ih =>
    have hi : i < b.size := by omega
    have hdata : i < b.data.toList.length := by simpa using hi
    have hget : b.get! i = b.data.toList[i] := by
      simp [ByteArray.get!, getElem!_pos b.data i hi]
    rw [ByteArray.toList.loop, if_pos hi, ih (i + 1) _ (by omega), List.drop_eq_getElem_cons hdata, hget]
    simp

theorem byteArray_toList (b : ByteArray) : b.toList = b.data.toList := by
  rw [ByteArray.toList, byteArray_loop b b.size 0 [] (Nat.add_zero _), List.reverse_nil,
    List.nil_append, List.drop_zero]

theorem toUTF8_toList (s : String) : s.toUTF8.toList = s.toList.flatMap String.utf8EncodeChar := by
  rw [byteArray_toList, String.toUTF8_eq_toByteArray, ← String.utf8Encode_toList]
  simp [List.utf8Encode]

theorem byte_lt {m n : Nat} (h : m < n) (hn : n < 256) : UInt8.ofNat m < UInt8.ofNat n := by
  rw [UInt8.lt_iff_toNat_lt, UInt8.toNat_ofNat_of_lt' hn, UInt8.toNat_ofNat_of_lt' (by omega : m < 2 ^ 8)]
  exact h

theorem below_bytes {m n : Nat} {u v : List UInt8} (hn : n < 256) (h : m < n ∨ m = n ∧ Below u v) :
    Below (UInt8.ofNat m :: u) (UInt8.ofNat n :: v) :=
  below_cons (h.imp (fun h => byte_lt h hn) (And.imp_left (congrArg UInt8.ofNat)))

/-- The last `k` groups of six bits of a letter, a byte each. -/
def sixBits : Nat → Nat → List UInt8
  | 0, _ => []
  | k + 1, m => UInt8.ofNat (m / 64 ^ k % 64 + 128) :: sixBits k m

theorem sixBits_below {k m n : Nat} (hlt : m < n) (h : m / 64 ^ k = n / 64 ^ k) :
    Below (sixBits k m) (sixBits k n) := by
  induction k with
  | zero =>
    simp only [Nat.pow_zero, Nat.div_one] at h
    omega
  | succ k ih =>
    have hle : m / 64 ^ k ≤ n / 64 ^ k := Nat.div_le_div_right (Nat.le_of_lt hlt)
    have hhigh : m / 64 ^ k / 64 = n / 64 ^ k / 64 := by
      simpa only [Nat.div_div_eq_div_mul, ← Nat.pow_succ] using h
    rcases Nat.lt_or_eq_of_le hle with hless | hsame
    · exact below_bytes (by omega) (.inl (by omega))
    · exact below_bytes (by omega) (.inr ⟨by rw [hsame], ih hsame⟩)

/-- Of two letters with equally many bytes, the greater one has the greater bytes. -/
theorem lead_below {k w l m n : Nat} (hlt : m < n) (hn : n / 64 ^ k < w)
    (hl : w + l ≤ 256) :
    Below (UInt8.ofNat (m / 64 ^ k % w + l) :: sixBits k m)
      (UInt8.ofNat (n / 64 ^ k % w + l) :: sixBits k n) := by
  have hle : m / 64 ^ k ≤ n / 64 ^ k := Nat.div_le_div_right (Nat.le_of_lt hlt)
  have hmod : n / 64 ^ k % w = n / 64 ^ k := Nat.mod_eq_of_lt hn
  rcases Nat.lt_or_eq_of_le hle with hless | hsame
  · have hm : m / 64 ^ k % w = m / 64 ^ k := Nat.mod_eq_of_lt (Nat.lt_trans hless hn)
    exact below_bytes (by omega) (.inl (by omega))
  · exact below_bytes (by omega) (.inr ⟨by rw [hsame], sixBits_below hlt hsame⟩)

/-- Letters are ordered like their bytes, and differ in them before either ends. -/
theorem utf8_below {x y : Char} (h : x < y) :
    Below (String.utf8EncodeChar x) (String.utf8EncodeChar y) := by
  have hlt : x.val.toNat < y.val.toNat := h
  have hmax : y.val.toNat < 0x110000 := by
    rcases y.valid with h | h <;> omega
  unfold String.utf8EncodeChar
  generalize x.val.toNat = m at *
  generalize y.val.toNat = n at *
  dsimp only
  split
  · split
    · exact below_bytes (by omega) (.inl hlt)
    · split
      · exact below_bytes (by omega) (.inl (by omega))
      · split <;> exact below_bytes (by omega) (.inl (by omega))
  · rw [if_neg (by omega : ¬ n ≤ 127)]
    split
    · split
      · simpa [sixBits] using lead_below (k := 1) (w := 32) (l := 192) hlt (by omega) (by decide)
      · split <;> exact below_bytes (by omega) (.inl (by omega))
    · rw [if_neg (by omega : ¬ n ≤ 2047)]
      split
      · split
        · simpa [sixBits] using lead_below (k := 2) (w := 16) (l := 224) hlt (by omega) (by decide)
        · exact below_bytes (by omega) (.inl (by omega))
      · rw [if_neg (by omega : ¬ n ≤ 65535)]
        simpa [sixBits] using lead_below (k := 3) (w := 8) (l := 240) hlt (by omega) (by decide)

theorem hexByte_eq (b : UInt8) :
    Component.hexByte b = [(b.toNat / 16).digitChar, (b.toNat % 16).digitChar] := by
  have hb : b.toNat < 256 := b.toNat_lt
  unfold Component.hexByte
  by_cases h : b.toNat < 16
  · have hlt : b < 16 := h
    rw [if_pos hlt, Nat.toDigits_of_lt_base h, Nat.div_eq_of_lt h, Nat.mod_eq_of_lt h]
    rfl
  · have hlt : ¬ b < 16 := h
    have hdiv : b.toNat / 16 < 16 := by omega
    rw [if_neg hlt, Nat.toDigits_of_base_le (by decide) (by omega), Nat.toDigits_of_lt_base hdiv]
    rfl

theorem digitChar_lt {m n : Nat} (h : m < n) (hn : n < 16) : m.digitChar < n.digitChar := by
  have hall : ∀ n : Fin 16, ∀ m : Fin 16, m < n → m.val.digitChar < n.val.digitChar := by decide
  exact hall ⟨n, hn⟩ ⟨m, by omega⟩ h

theorem toNat_lack (b : UInt8) : (255 - b).toNat = 255 - b.toNat :=
  UInt8.toNat_sub_of_le 255 b (UInt8.le_iff_toNat_le.2 (Nat.le_of_lt_succ b.toNat_lt))

/-- The greater byte lacks less. -/
theorem lack_below {b c : UInt8} (h : b < c) :
    Below (Component.hexByte (255 - c)) (Component.hexByte (255 - b)) := by
  have hlt : b.toNat < c.toNat := h
  have hc : c.toNat < 256 := c.toNat_lt
  rw [hexByte_eq, hexByte_eq, toNat_lack, toNat_lack]
  by_cases hhigh : (255 - c.toNat) / 16 = (255 - b.toNat) / 16
  · rw [hhigh]
    exact below_cons (.inr ⟨rfl, below_cons (.inl (digitChar_lt (by omega) (by omega)))⟩)
  · exact below_cons (.inl (digitChar_lt (by omega) (by omega)))

/-- A text below another is above it in descending order. -/
theorem descend_below {s t : String} (h : Below s.toList t.toList) :
    Below (Component.descend t).toList (Component.descend s).toList := by
  simp only [Component.descend, toUTF8_toList, String.toList_ofList, List.flatMap_assoc]
  refine h.flatMap_anti _ fun x y hxy => ?_
  exact (utf8_below hxy).flatMap_anti _ fun _ _ => lack_below

end TableMill
