import TableMill.Function.Template
import TableMill.Proofs.TextConversions

/-!
# Numbers in a width

A directive with flags and a width fills a number up to the width. The sign stays in front of what
zeros are put in, and blanks stand before the sign or after the digits, so that the number is read
back from the text whichever flags are given.
-/

namespace TableMill
namespace Function

open Number (ofDigits readWord Sign IsNumeral)
open Text (isDigit isBlank trimBlanks)

/-! ## Directives -/

namespace Directive

inductive Flag
  | minus | zero | plus
  deriving DecidableEq

def Flag.char : Flag → Char
  | minus => '-'
  | zero => '0'
  | plus => '+'

/-- The digits of a width, or none of them. A zero in front of a width is one of the flags. -/
structure IsWidth (digits : List Char) : Prop where
  isDigit : ∀ c ∈ digits, isDigit c = true
  head_ne : digits.head? ≠ some '0'
  le_countMax : ofDigits digits ≤ countMax

def asked (flags : List Flag) (digits : List Char) : Directive where
  leftAlign := flags.contains .minus
  zeroPad := flags.contains .zero
  plus := flags.contains .plus
  width := if digits = [] then none else some (ofDigits digits)

variable {flags : List Flag} {digits : List Char} {verb : Char}

theorem width_asked : (asked flags digits).width.getD 0 = ofDigits digits := by
  unfold asked
  split
  · next h => simp [h]
  · rfl

theorem readFlags_append (d : Directive) {rest : List Char}
    (hrest : ∀ f : Flag, rest.head? ≠ some f.char) :
    readFlags d (flags.map Flag.char ++ rest) = ({ d with
      leftAlign := d.leftAlign || flags.contains .minus
      zeroPad := d.zeroPad || flags.contains .zero
      plus := d.plus || flags.contains .plus }, rest) := by
  induction flags generalizing d with
  | nil =>
    have hdone : readFlags d rest = (d, rest) := by
      unfold readFlags
      split
      · exact absurd rfl (hrest .minus)
      · exact absurd rfl (hrest .zero)
      · exact absurd rfl (hrest .plus)
      · rfl
    simp [hdone]
  | cons f flags ih => cases f <;> simp [readFlags, Flag.char, ih]

/-- A letter is none of the characters that may stand before the verb. -/
theorem of_isAsciiLetter (hverb : Text.isAsciiLetter verb = true) :
    isDigit verb = false ∧ verb ≠ '.' ∧ verb ≠ '%' ∧ ∀ f : Flag, verb ≠ f.char := by
  refine ⟨?_, ?_, ?_, fun f => ?_⟩
  · have hletter : (97 ≤ verb.toNat ∧ verb.toNat ≤ 122) ∨ (65 ≤ verb.toNat ∧ verb.toNat ≤ 90) := by
      simpa [Text.isAsciiLetter, Token.char_le_iff] using hverb
    have hdigit : ¬(48 ≤ verb.toNat ∧ verb.toNat ≤ 57) := by omega
    simpa [isDigit, Token.char_le_iff] using hdigit
  · rintro rfl
    cases hverb
  · rintro rfl
    cases hverb
  · rintro rfl
    cases f <;> cases hverb

theorem readCount_append (hdigits : IsWidth digits) (hverb : isDigit verb = false)
    (rest : List Char) :
    readCount (digits ++ verb :: rest) =
      (if digits = [] then none else some (ofDigits digits), verb :: rest) := by
  have htaken : (digits ++ verb :: rest).takeWhile isDigit = digits :=
    Token.takeWhile_append hdigits.isDigit (by simpa using hverb)
  have hfits : ¬countMax < ofDigits digits := Nat.not_lt.2 hdigits.le_countMax
  simp [readCount, htaken, hfits]

theorem read_append (flags : List Flag) (hdigits : IsWidth digits)
    (hverb : Text.isAsciiLetter verb = true) (rest : List Char) :
    Directive.read (flags.map Flag.char ++ (digits ++ verb :: rest)) =
      (asked flags digits, verb :: rest) := by
  obtain ⟨hdigit, hpoint, -, hflag⟩ := of_isAsciiLetter hverb
  have hrest : ∀ f : Flag, (digits ++ verb :: rest).head? ≠ some f.char := by
    intro f hf
    cases digits with
    | nil => exact hflag f (Option.some.inj hf)
    | cons c digits =>
      obtain rfl : c = f.char := Option.some.inj hf
      have hc := hdigits.isDigit _ List.mem_cons_self
      cases f with
      | minus | plus => cases hc
      | zero => exact hdigits.head_ne rfl
  simp only [Directive.read, readFlags_append _ hrest, readCount_append hdigits hdigit]
  simp [asked, hpoint]

end Directive

open Directive (Flag IsWidth asked)

variable {flags : List Flag} {digits : List Char} {verb : Char}

/-- A template that is one directive, without a precision. -/
def template (flags : List Flag) (digits : List Char) (verb : Char) : String :=
  String.ofList ('%' :: (flags.map Flag.char ++ (digits ++ [verb])))

/-- Such a template is filled with one value as its verb says, up to the width. -/
theorem sprintf_template (hdigits : IsWidth digits) (hverb : Text.isAsciiLetter verb = true)
    (v : Value) :
    sprintf [.text (template flags digits verb), v] = .ok (.text ((asked flags digits).pad
      (renderVerb verb (asked flags digits) v) v.isNumeric)) := by
  have hread := Directive.read_append flags hdigits hverb []
  have hpercent := (Directive.of_isAsciiLetter hverb).2.2.1
  have hextra (fuel : Nat) : fillFrom fuel [] [] = "" := by
    cases fuel <;> rfl
  have hfill : fill (template flags digits verb) [v] = (asked flags digits).pad
      (renderVerb verb (asked flags digits) v) v.isNumeric := by
    rw [fill, template, String.toList_ofList]
    simp only [fillFrom, hread, if_neg hpercent, hextra, String.append_empty]
  exact congrArg (Except.ok ∘ Value.text) hfill

/-! ## Filling up -/

/-- A text is filled up to the width and never cut. -/
theorem length_pad (d : Directive) (s : String) (numeric : Bool) :
    (d.pad s numeric).length = max (d.width.getD 0) s.length := by
  rw [← String.length_toList, ← String.length_toList]
  unfold Directive.pad
  dsimp only
  generalize s.toList = cs
  split
  · simp only [String.toList_ofList, List.length_append, List.length_replicate]
    omega
  split
  · split <;>
      simp only [String.toList_ofList, List.length_append, List.length_cons,
        List.length_replicate] <;>
      omega
  · simp only [String.toList_ofList, List.length_append, List.length_replicate]
    omega

def signOf (flags : List Flag) (v : Int64) : Sign :=
  if v.toInt < 0 then .minus else if .plus ∈ flags then .plus else .unmarked

def digitsOf (v : Int64) : List Char := Nat.toDigits 10 v.toInt.natAbs

theorem isDigit_of_mem_digitsOf (v : Int64) : ∀ c ∈ digitsOf v, isDigit c = true :=
  fun _ => Token.isDigit_of_mem_toDigits

theorem signed_digitsOf (flags : List Flag) (v : Int64) :
    (signOf flags v).signed (ofDigits (digitsOf v)) = v.toInt := by
  rw [digitsOf, ofDigits_toDigits, signOf]
  split
  · show -(v.toInt.natAbs : Int) = v.toInt
    omega
  · have habs : (v.toInt.natAbs : Int) = v.toInt := by omega
    split <;> exact habs

/-- Only negative numbers are written with a minus in front. -/
theorem startsWith_minus (v : Int64) : (toString v.toInt).startsWith "-" = true ↔ v.toInt < 0 := by
  rw [String.startsWith_string_iff, toList_toString]
  split
  · next h => exact iff_of_true (List.prefix_append _ _) h
  · next h =>
    refine iff_of_false (fun hstarts => ?_) h
    have hminus := isDigit_of_mem_digitsOf v '-' (hstarts.subset List.mem_cons_self)
    cases hminus

theorem withSign_asked (v : Int64) :
    (asked flags digits).withSign (toString v.toInt) (.int v) =
      if .plus ∈ flags ∧ ¬v.toInt < 0 then "+" ++ toString v.toInt else toString v.toInt := by
  have hasked : ((asked flags digits).plus && (Value.int v).isNumeric &&
      !(toString v.toInt).startsWith "-") = true ↔ .plus ∈ flags ∧ ¬v.toInt < 0 := by
    rw [Bool.and_eq_true, Bool.and_eq_true, Bool.not_eq_true', ← Bool.not_eq_true,
      startsWith_minus]
    simp [asked, Value.isNumeric]
  exact if_congr hasked rfl rfl

theorem toList_render_int (flags : List Flag) (digits : List Char) (v : Int64) :
    (renderVerb 'd' (asked flags digits) (.int v)).toList = (signOf flags v).text ++ digitsOf v := by
  show ((asked flags digits).withSign (toString v.toInt) (.int v)).toList = _
  rw [withSign_asked, signOf, digitsOf]
  by_cases hv : v.toInt < 0
  · rw [if_neg fun h => h.2 hv, toList_toString, if_pos hv, if_pos hv]
  rw [if_neg hv]
  by_cases hplus : .plus ∈ flags
  · rw [if_pos ⟨hplus, hv⟩, if_pos hplus, String.toList_append, toList_toString, if_neg hv]
    rfl
  · rw [if_neg fun h => hplus h.1, if_neg hplus, toList_toString, if_neg hv]
    rfl

/-- A sign and digits with what fills them up. -/
def fillUp (flags : List Flag) (missing : Nat) (sign : Sign) (ds : List Char) : List Char :=
  if .minus ∈ flags then sign.text ++ ds ++ List.replicate missing ' '
  else if .zero ∈ flags then sign.text ++ List.replicate missing '0' ++ ds
  else List.replicate missing ' ' ++ (sign.text ++ ds)

/-- What is missing in the width is filled as the flags say, with zeros only after the sign. -/
theorem toList_pad_of_ne {s : String} {sign : Sign} {ds : List Char}
    (hs : s.toList = sign.text ++ ds) (hds : ∀ c ∈ ds, c ≠ '-' ∧ c ≠ '+') :
    ((asked flags digits).pad s true).toList =
      fillUp flags (ofDigits digits - (sign.text ++ ds).length) sign ds := by
  have hleft : (asked flags digits).leftAlign = true ↔ .minus ∈ flags := by simp [asked]
  have hzero : (asked flags digits).zeroPad = true ↔ .zero ∈ flags := by simp [asked]
  simp only [Directive.pad, hs, Directive.width_asked, fillUp, hleft, hzero, Bool.and_true]
  split
  · rw [String.toList_ofList]
  split
  · cases sign with
    | minus | plus => exact String.toList_ofList
    | unmarked =>
      split
      · next rest heq =>
        obtain rfl : ds = '-' :: rest := heq
        exact absurd rfl (hds '-' List.mem_cons_self).1
      · next rest heq =>
        obtain rfl : ds = '+' :: rest := heq
        exact absurd rfl (hds '+' List.mem_cons_self).2
      · exact String.toList_ofList
  · rw [String.toList_ofList]

theorem toList_pad {s : String} {sign : Sign} {ds : List Char} (hs : s.toList = sign.text ++ ds)
    (hds : ∀ c ∈ ds, isDigit c = true) :
    ((asked flags digits).pad s true).toList =
      fillUp flags (ofDigits digits - (sign.text ++ ds).length) sign ds := by
  refine toList_pad_of_ne hs fun c hc => ⟨?_, ?_⟩
  · rintro rfl
    cases hds '-' hc
  · rintro rfl
    cases hds '+' hc

/-! ## Reading back -/

theorem trimBlanks_pad (front back : List Char) {cs : List Char}
    (hfront : ∀ c ∈ front, isBlank c = true) (hback : ∀ c ∈ back, isBlank c = true)
    (hcs : ∀ c ∈ cs, isBlank c = false) (hne : cs ≠ []) :
    trimBlanks (front ++ cs ++ back) = cs := by
  have hfirst : ∀ c ∈ (cs ++ back).head?, isBlank c = false := by
    rw [List.head?_append_of_ne_nil _ hne]
    exact fun c hc => hcs c (List.mem_of_mem_head? hc)
  have hlast : ∀ c ∈ cs.reverse.head?, isBlank c = false :=
    fun c hc => hcs c (List.mem_reverse.1 (List.mem_of_mem_head? hc))
  have hreversed : ∀ c ∈ back.reverse, isBlank c = true :=
    fun c hc => hback c (List.mem_reverse.1 hc)
  rw [trimBlanks, List.append_assoc, Token.dropWhile_append hfront hfirst, List.reverse_append,
    Token.dropWhile_append hreversed hlast, List.reverse_reverse]

theorem isBlank_of_mem_signed {sign : Sign} {ds : List Char} (hds : ∀ c ∈ ds, isBlank c = false) :
    ∀ c ∈ sign.text ++ ds, isBlank c = false := by
  intro c hc
  rcases List.mem_append.1 hc with hc | hc
  · cases sign with
    | unmarked => cases hc
    | plus | minus =>
      obtain rfl := List.eq_of_mem_singleton hc
      decide
  · exact hds c hc

/-- The blanks that fill a number up are outside of it, and the zeros are not. -/
theorem trimBlanks_fillUp (flags : List Flag) (sign : Sign) {ds : List Char}
    (hds : ∀ c ∈ ds, isBlank c = false) (hne : ds ≠ []) (missing : Nat) :
    ∃ zeros, trimBlanks (fillUp flags missing sign ds) =
      sign.text ++ (List.replicate zeros '0' ++ ds) := by
  have hblanks : ∀ c ∈ List.replicate missing ' ', isBlank c = true := by
    intro c hc
    rw [List.eq_of_mem_replicate hc]
    rfl
  have hnone : ∀ c ∈ ([] : List Char), isBlank c = true := fun _ hc => by cases hc
  have hall : ∀ c ∈ sign.text ++ ds, isBlank c = false := isBlank_of_mem_signed hds
  have hsigned : sign.text ++ ds ≠ [] := List.append_ne_nil_of_right_ne_nil _ hne
  unfold fillUp
  split
  · have htrim := trimBlanks_pad [] (List.replicate missing ' ') hnone hblanks hall hsigned
    exact ⟨0, htrim⟩
  split
  · have hzeros : ∀ c ∈ List.replicate missing '0' ++ ds, isBlank c = false := by
      intro c hc
      rcases List.mem_append.1 hc with hc | hc
      · rw [List.eq_of_mem_replicate hc]
        rfl
      · exact hds c hc
    rw [List.append_assoc, trimBlanks_of_forall (isBlank_of_mem_signed hzeros)]
    exact ⟨missing, rfl⟩
  · have htrim := trimBlanks_pad (List.replicate missing ' ') [] hblanks hnone hall hsigned
    rw [List.append_nil] at htrim
    exact ⟨0, htrim⟩

theorem isNumeral_fillUp (flags : List Flag) (sign : Sign) {ds : List Char}
    (hds : ∀ c ∈ ds, isDigit c = true) (hne : ds ≠ []) (missing : Nat) :
    IsNumeral (trimBlanks (fillUp flags missing sign ds)) (sign.signed (ofDigits ds)) := by
  obtain ⟨zeros, htrim⟩ := trimBlanks_fillUp flags sign (fun c hc => isBlank_of_isDigit (hds c hc))
    hne missing
  have hzeros : ∀ c ∈ List.replicate zeros '0' ++ ds, isDigit c = true := by
    intro c hc
    rcases List.mem_append.1 hc with hc | hc
    · rw [List.eq_of_mem_replicate hc]
      rfl
    · exact hds c hc
  rw [htrim]
  exact ⟨sign, _, rfl, List.append_ne_nil_of_right_ne_nil _ hne, hzeros,
    by rw [ofDigits_replicate_zero]⟩

/-- A directive of flags and a width writes a number in as many characters as the width asks for, or
as its sign and digits have if these are more, and the number is read back. What is missing is
filled with blanks at the end, with zeros after the sign, or with blanks in front, as the flags say.
A text is filled to the same length. All widths of 64 bits count, those for which there is no memory
among them. -/
theorem sprintf_padded (flags : List Flag) (hdigits : IsWidth digits) :
    (∀ v : Int64, ∃ t, sprintf [.text (template flags digits 'd'), .int v] = .ok (.text t) ∧
      t.length = max (ofDigits digits) ((signOf flags v).text ++ digitsOf v).length ∧
      readWord (Text.trim t) = .ok v ∧
      t.toList = fillUp flags (ofDigits digits - ((signOf flags v).text ++ digitsOf v).length)
        (signOf flags v) (digitsOf v)) ∧
    ∀ s : String, ∃ t, sprintf [.text (template flags digits 's'), .text s] = .ok (.text t) ∧
      t.length = max (ofDigits digits) s.length := by
  constructor
  · intro v
    have hrender := toList_render_int flags digits v
    have hds := isDigit_of_mem_digitsOf v
    refine ⟨_, sprintf_template hdigits (by decide) (.int v), ?_, ?_, toList_pad hrender hds⟩
    · rw [length_pad, Directive.width_asked, ← String.length_toList, hrender]
    · have hnumeral := isNumeral_fillUp flags (signOf flags v) hds Nat.toDigits_ne_nil
        (ofDigits digits - ((signOf flags v).text ++ digitsOf v).length)
      rw [signed_digitsOf, ← toList_pad hrender hds] at hnumeral
      refine readWord_of_isNumeral ?_
      rw [Text.trim, String.toList_ofList]
      exact hnumeral
  · intro s
    refine ⟨_, sprintf_template hdigits (by decide) (.text s), ?_⟩
    rw [length_pad, Directive.width_asked]
    rfl

theorem sprintf_padded_six :
    IsWidth ['6'] ∧ sprintf [.text "%+06d", .int 42] = .ok (.text "+00042") ∧
      readWord (Text.trim "+00042") = .ok 42 ∧
      ∃ t, sprintf [.text "%6s", .text "four"] = .ok (.text t) ∧ t.length = 6 := by
  have hvalue : ofDigits ['6'] = 6 := by decide
  have hsix : IsWidth ['6'] := ⟨by simp [isDigit], by decide, by rw [hvalue]; decide⟩
  obtain ⟨t, ht, -, hread, hfill⟩ := (sprintf_padded [.plus, .zero] hsix).1 42
  obtain rfl : t = "+00042" := String.toList_inj.1 (hfill.trans (by decide))
  exact ⟨hsix, ht, hread, (sprintf_padded [] hsix).2 "four"⟩

end Function
end TableMill
