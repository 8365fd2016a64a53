import TableMill.Expr.Parser

/-!
# Reading one token after another

A token is read in the same way whatever comes after it, as long as the next character does
not make it longer. So the tokens of a text are found from its last token to its first.
-/

namespace TableMill

namespace Text

namespace Ranges

/-- Bisection finds a range only where there is one. -/
theorem exists_of_search {spans : Array (Nat × Nat)} {n lo hi : Nat}
    (h : search spans n lo hi = true) : ∃ s ∈ spans.toList, s.1 ≤ n ∧ n ≤ s.2 := by
  fun_induction search spans n lo hi with
  | case1 lo hi hlt mid hnone => cases h
  | case2 lo hi hlt mid first last hspan hbelow ih => exact ih h
  | case3 lo hi hlt mid first last hspan hbelow habove ih => exact ih h
  | case4 lo hi hlt mid first last hspan hbelow habove =>
    have hmem : (first, last) ∈ spans.toList := (Array.mem_of_getElem? hspan).val
    exact ⟨_, hmem, Nat.not_lt.1 hbelow, Nat.not_lt.1 habove⟩
  | case5 lo hi hle => cases h

def apart (spans others : List (Nat × Nat)) : Bool :=
  spans.all fun a => others.all fun b => a.2 < b.1 || b.2 < a.1

theorem contains_of_apart {r s : Ranges} (h : apart r.spans.toList s.spans.toList = true)
    {c : Char} (hc : s.contains c = true) : r.contains c = false := by
  rw [Bool.eq_false_iff]
  intro hr
  obtain ⟨a, ha, hfirst, hlast⟩ := exists_of_search hr
  obtain ⟨b, hb, hfirst', hlast'⟩ := exists_of_search hc
  have hab := List.all_eq_true.1 (List.all_eq_true.1 h a ha) b hb
  simp only [Bool.or_eq_true, decide_eq_true_eq] at hab
  omega

/-- The ranges of a table, from its characters. A long literal is read as its characters by
unification with the left side, where evaluation takes too long. -/
theorem spans_ofText (cs : List Char) : (ofText (String.ofList cs)).spans.toList =
    ((splitChars (fun c => c == ' ' || c == '\n') cs).filter (· ≠ [])).map readSpan := by
  rw [ofText, tableWords, String.toList_ofList]

end Ranges

theorem blankRanges_spans : blankRanges.spans.toList =
    [(0x9, 0xD), (0x20, 0x20), (0x85, 0x85), (0xA0, 0xA0), (0x1680, 0x1680), (0x2000, 0x200A),
      (0x2028, 0x2029), (0x202F, 0x202F), (0x205F, 0x205F), (0x3000, 0x3000)] := by
  rw [blankRanges, Ranges.spans_ofText]
  decide +kernel

set_option maxRecDepth 40000 in
theorem alphabeticRanges_apart :
    Ranges.apart alphabeticRanges.spans.toList blankRanges.spans.toList = true := by
  rw [blankRanges_spans, alphabeticRanges, Ranges.spans_ofText]
  decide +kernel

set_option maxRecDepth 40000 in
theorem numberRanges_apart :
    Ranges.apart numberRanges.spans.toList blankRanges.spans.toList = true := by
  rw [blankRanges_spans, numberRanges, Ranges.spans_ofText]
  decide +kernel

end Text

def UnaryOp.token : UnaryOp → Token
  | not => .bang
  | negate => .minus

def BinaryOp.token : BinaryOp → Token
  | add => .plus
  | subtract => .minus
  | multiply => .star
  | divide => .slash
  | remainder => .percent
  | equal => .equal
  | notEqual => .notEqual
  | less => .less
  | lessEqual => .lessEqual
  | greater => .greater
  | greaterEqual => .greaterEqual
  | and => .and
  | or => .or

namespace Token

open Text

theorem char_le_iff {a b : Char} : a ≤ b ↔ a.toNat ≤ b.toNat := Iff.rfl

/-- No blank is a part of a name. -/
theorem isNamePart_of_isBlank {c : Char} (hc : isBlank c = true) : isNamePart c = false := by
  by_cases hascii : c.toNat < 128
  · have hcode : c.toNat = 32 ∨ 9 ≤ c.toNat ∧ c.toNat ≤ 13 := by
      simpa [isBlank, isAscii, hascii, char_le_iff, ← Char.toNat_inj] using hc
    simp [isNamePart, isAlphanumeric, isAlphabetic, isNumber, isAsciiLetter, isDigit, isAscii,
      hascii, char_le_iff, ← Char.toNat_inj]
    omega
  · have hblank : blankRanges.contains c = true := by simpa [isBlank, isAscii, hascii] using hc
    have halpha := Ranges.contains_of_apart alphabeticRanges_apart hblank
    have hnumber := Ranges.contains_of_apart numberRanges_apart hblank
    have hunderscore : c ≠ '_' := by
      rintro rfl
      exact hascii (by decide)
    simp [isNamePart, isAlphanumeric, isAlphabetic, isNumber, isAscii, hascii, halpha, hnumber,
      hunderscore]

theorem isNamePart_of_isNameStart {c : Char} (hc : isNameStart c = true) :
    isNamePart c = true := by
  rw [isNameStart, Bool.or_eq_true] at hc
  rcases hc with hc | hc <;> simp [isNamePart, isAlphanumeric, hc]

theorem isNamePart_of_isDigit {c : Char} (hc : isDigit c = true) : isNamePart c = true := by
  have hcode : 48 ≤ c.toNat ∧ c.toNat ≤ 57 := by simpa [isDigit, char_le_iff] using hc
  have hascii : c.toNat < 128 := by omega
  simp [isNamePart, isAlphanumeric, isNumber, isAscii, hascii, hc]

theorem isBlank_of_isNamePart {c : Char} (hc : isNamePart c = true) : isBlank c = false := by
  rw [Bool.eq_false_iff]
  intro hblank
  simp [isNamePart_of_isBlank hblank] at hc

/-! ## What one token takes -/

def EndsName (rest : List Char) : Prop :=
  ∀ c ∈ rest.head?, isNamePart c = false

/-- The next character can make neither a name nor a number longer. -/
def EndsOperand (rest : List Char) : Prop :=
  EndsName rest ∧ rest.head? ≠ some '.'

theorem endsOperand_nil : EndsOperand [] :=
  ⟨nofun, nofun⟩

theorem endsName_cons {c : Char} (hpart : isNamePart c = false) (rest : List Char) :
    EndsName (c :: rest) := by
  rintro d ⟨⟩
  exact hpart

theorem endsOperand_cons {c : Char} (hpart : isNamePart c = false) (hdot : c ≠ '.')
    (rest : List Char) : EndsOperand (c :: rest) := by
  exact ⟨endsName_cons hpart rest, by simpa using hdot⟩

theorem endsOperand_blanks {pad rest : List Char} (hpad : ∀ c ∈ pad, isBlank c = true)
    (hrest : EndsOperand rest) : EndsOperand (pad ++ rest) := by
  cases pad with
  | nil => exact hrest
  | cons c pad =>
    have hc := hpad c List.mem_cons_self
    refine endsOperand_cons (isNamePart_of_isBlank hc) ?_ _
    rintro rfl
    exact absurd hc (by decide)

theorem endsOperand_symbol (op : BinaryOp) (rest : List Char) :
    EndsOperand (op.symbol.toList ++ rest) := by
  cases op <;> exact endsOperand_cons (by decide) (by decide) _

theorem head?_blanks {pad rest : List Char} (hpad : ∀ c ∈ pad, isBlank c = true)
    (hrest : rest.head? ≠ some '=') : (pad ++ rest).head? ≠ some '=' := by
  cases pad with
  | nil => exact hrest
  | cons c pad =>
    rintro ⟨⟩
    exact absurd (hpad '=' List.mem_cons_self) (by decide)

section Span

variable {p : Char → Bool} {front rest : List Char}

theorem takeWhile_append (hfront : ∀ c ∈ front, p c = true) (hrest : ∀ c ∈ rest.head?, p c = false) :
    (front ++ rest).takeWhile p = front := by
  rw [List.takeWhile_append_of_pos hfront]
  cases rest with
  | nil => simp
  | cons c rest => simp [hrest c rfl]

theorem dropWhile_append (hfront : ∀ c ∈ front, p c = true) (hrest : ∀ c ∈ rest.head?, p c = false) :
    (front ++ rest).dropWhile p = rest := by
  rw [List.dropWhile_append_of_pos hfront]
  cases rest with
  | nil => simp
  | cons c rest => simp [hrest c rfl]

end Span

/-- Whether the lexer can read a text as one name. -/
def isName (s : String) : Bool :=
  match s.toList with
  | [] => false
  | c :: cs => isNameStart c && cs.all isNamePart

theorem exists_of_isName {s : String} (hs : isName s = true) :
    ∃ c cs, s.toList = c :: cs ∧ isNameStart c = true ∧ ∀ d ∈ cs, isNamePart d = true := by
  unfold isName at hs
  split at hs
  · cases hs
  · next c cs hchars =>
    rw [Bool.and_eq_true, List.all_eq_true] at hs
    exact ⟨c, cs, hchars, hs⟩

variable {input : String} {c : Char} {cs rest : List Char}

theorem read_of_isNamePart (hc : isNamePart c = true) :
    read input c rest =
      if isDigit c then readNumber (c :: rest)
      else if isNameStart c then
        .ok (.ident (String.ofList (c :: rest.takeWhile isNamePart)), rest.dropWhile isNamePart)
      else .error (.unexpectedChar c input) := by
  unfold read
  extract_lets
  split
  case h_18 => rfl
  all_goals exact absurd hc (by decide)

theorem read_alone (hrest : rest.head? ≠ some '=') :
    read input '<' rest = .ok (.less, rest) ∧ read input '>' rest = .ok (.greater, rest) ∧
      read input '!' rest = .ok (.bang, rest) := by
  cases rest with
  | nil => exact ⟨rfl, rfl, rfl⟩
  | cons d more =>
    have hd : d ≠ '=' := by simpa using hrest
    simp [read, hd]

theorem isDigit_of_isNameStart (hc : isNameStart c = true) : isDigit c = false := by
  rw [Bool.eq_false_iff]
  intro hdigit
  have hcode : 48 ≤ c.toNat ∧ c.toNat ≤ 57 := by simpa [isDigit, char_le_iff] using hdigit
  have hascii : c.toNat < 128 := by omega
  simp [isNameStart, isAlphabetic, isAsciiLetter, isAscii, hascii, char_le_iff,
    ← Char.toNat_inj] at hc
  omega

/-! ## Numbers -/

theorem le_ofDigitChars (cs : List Char) (k : Nat) : k ≤ Nat.ofDigitChars 10 cs k := by
  rw [Nat.ofDigitChars_eq_ofDigitChars_zero]
  have hpow : k ≤ 10 ^ cs.length * k := Nat.le_mul_of_pos_left k (Nat.pow_pos (by decide))
  omega

theorem toList_toString {v : Int64} (hv : 0 ≤ v.toInt) :
    (toString v.toInt).toList = Nat.toDigits 10 v.toInt.toNat := by
  obtain ⟨n, hn⟩ := Int.eq_ofNat_of_zero_le hv
  rw [hn]
  exact Nat.toList_repr

/-- Digits are read as their number if the whole of them is in range. -/
theorem readUp_of_isDigit {hi : Int} {ds : List Char} (hds : ∀ d ∈ ds, isDigit d = true) (k : Nat)
    (hhi : (Nat.ofDigitChars 10 ds k : Int) ≤ hi) :
    Number.readUp hi k ds = .ok (Nat.ofDigitChars 10 ds k : Int) := by
  induction ds generalizing k with
  | nil => rfl
  | cons d ds ih =>
    rw [Nat.ofDigitChars_cons] at hhi ⊢
    have hstep : 10 * (k : Int) + Number.digitValue d = (10 * k + (d.toNat - '0'.toNat) : Nat) := by
      simp [Number.digitValue]
    have hle := le_ofDigitChars ds (10 * k + (d.toNat - '0'.toNat))
    rw [Number.readUp, if_pos (hds d List.mem_cons_self), hstep, if_neg (by omega)]
    exact ih (fun x hx => hds x (List.mem_cons_of_mem _ hx)) _ hhi

theorem isDigit_of_mem_toDigits {n : Nat} {d : Char} (hd : d ∈ Nat.toDigits 10 n) :
    isDigit d = true := by
  have h := Nat.isDigit_of_mem_toDigits (by decide) (by decide) hd
  simpa [Char.isDigit, isDigit, char_le_iff, UInt32.le_iff_toNat_le] using h

theorem readWord_toDigits {v : Int64} (hv : 0 ≤ v.toInt) :
    Number.readWord (String.ofList (Nat.toDigits 10 v.toInt.toNat)) = .ok v := by
  have hds : ∀ d ∈ Nat.toDigits 10 v.toInt.toNat, isDigit d = true :=
    fun d => isDigit_of_mem_toDigits
  have hvalue : (Nat.ofDigitChars 10 (Nat.toDigits 10 v.toInt.toNat) 0 : Int) = v.toInt := by
    rw [Nat.ofDigitChars_toDigits (by decide) (by decide), Int.toNat_of_nonneg hv]
  have hmax : v.toInt ≤ Number.wordMax := by
    have := v.toInt_lt
    unfold Number.wordMax
    omega
  have hread := readUp_of_isDigit hds 0 (hvalue ▸ hmax)
  rw [hvalue] at hread
  rw [Number.readWord, String.toList_ofList]
  unfold Number.readInt
  split
  · next hnil => exact absurd hnil Nat.toDigits_ne_nil
  · next hplus => exact absurd (hds '+' (hplus ▸ List.mem_cons_self)) (by decide)
  · next hminus => exact absurd (hds '-' (hminus ▸ List.mem_cons_self)) (by decide)
  · rw [Int.natCast_zero] at hread
    rw [hread]
    simp [Except.map]

theorem readNumber_toDigits {v : Int64} (hv : 0 ≤ v.toInt) (hrest : EndsOperand rest) :
    readNumber (Nat.toDigits 10 v.toInt.toNat ++ rest) = .ok (.int v, rest) := by
  obtain ⟨hname, hdot⟩ := hrest
  have hends : ∀ c ∈ rest.head?, isDigit c = false := by
    intro c hc
    rw [Bool.eq_false_iff]
    intro hdigit
    have hpart := isNamePart_of_isDigit hdigit
    rw [hname c hc] at hpart
    cases hpart
  have hread : readDigits (Nat.toDigits 10 v.toInt.toNat ++ rest) =
      (Nat.toDigits 10 v.toInt.toNat, rest) := by
    rw [readDigits, takeWhile_append (fun d => isDigit_of_mem_toDigits) hends,
      dropWhile_append (fun d => isDigit_of_mem_toDigits) hends]
  rw [readNumber, hread]
  dsimp only
  split
  · exact absurd rfl hdot
  · exact absurd (hname 'e' rfl) (by decide)
  · exact absurd (hname 'E' rfl) (by decide)
  · rw [readWord_toDigits hv]

/-! ## Quoted texts -/

def escaped : Char → List Char
  | '"' => ['\\', '"']
  | '\\' => ['\\', '\\']
  | '\n' => ['\\', 'n']
  | '\t' => ['\\', 't']
  | '\r' => ['\\', 'r']
  | c => [c]

theorem readQuoted_escaped (c : Char) (cs : List Char) :
    readQuoted (escaped c ++ cs) = (readQuoted cs).map fun r => (c :: r.1, r.2) := by
  unfold escaped
  split
  case h_6 hquote hslash _ _ _ =>
    rw [List.singleton_append, readQuoted]
    · exact hquote
    · exact fun h _ => hslash h
    · exact fun _ _ h _ => hslash h
  all_goals simp [readQuoted, unescape?]

theorem readQuoted_flatMap_escaped (cs rest : List Char) :
    readQuoted (cs.flatMap escaped ++ '"' :: rest) = .ok (cs, rest) := by
  induction cs with
  | nil => simp [readQuoted]
  | cons c cs ih =>
    rw [List.flatMap_cons, List.append_assoc, readQuoted_escaped, ih]
    rfl

/-! ## Whole texts -/

/-- The lexer reads characters as tokens, without a fault. -/
def Lexes (input : String) (cs : List Char) (ts : List Token) : Prop :=
  ∀ fuel, cs.length < fuel → scanFrom input fuel cs = ⟨ts, none⟩

theorem scan_eq_of_lexes {ts : List Token} (h : Lexes input input.toList ts) :
    scan input = ⟨ts, none⟩ :=
  h _ (Nat.lt_succ_self _)

namespace Lexes

variable {ts : List Token} {t : Token}

theorem nil : Lexes input [] [] := by
  intro fuel hfuel
  cases fuel with
  | zero => rfl
  | succ fuel => rfl

theorem blank (hc : isBlank c = true) (h : Lexes input cs ts) : Lexes input (c :: cs) ts := by
  intro fuel hfuel
  cases fuel with
  | zero => cases hfuel
  | succ fuel =>
    have hcs := h (fuel + 1) (Nat.lt_of_succ_lt hfuel)
    rw [scanFrom] at hcs ⊢
    rw [List.dropWhile_cons_of_pos hc, hcs]

theorem blanks {pad : List Char} (hpad : ∀ c ∈ pad, isBlank c = true) (h : Lexes input cs ts) :
    Lexes input (pad ++ cs) ts := by
  induction pad with
  | nil => exact h
  | cons c pad ih =>
    have hc := hpad c List.mem_cons_self
    exact (ih fun d hd => hpad d (List.mem_cons_of_mem _ hd)).blank hc

theorem read (hc : isBlank c = false) (hread : Token.read input c cs = .ok (t, rest))
    (hlength : rest.length ≤ cs.length) (h : Lexes input rest ts) :
    Lexes input (c :: cs) (t :: ts) := by
  intro fuel hfuel
  cases fuel with
  | zero => cases hfuel
  | succ fuel =>
    rw [List.length_cons] at hfuel
    have hrest := h fuel (by omega)
    rw [scanFrom, List.dropWhile_cons_of_neg (by simp [hc])]
    simp [hread, hrest]

/-! One lemma for each kind of token. -/

theorem name {s : String} (hs : isName s = true) (hrest : EndsName rest) (h : Lexes input rest ts) :
    Lexes input (s.toList ++ rest) (.ident s :: ts) := by
  obtain ⟨c, cs, hchars, hc, hcs⟩ := exists_of_isName hs
  have hblank := isBlank_of_isNamePart (isNamePart_of_isNameStart hc)
  have hread : Token.read input c (cs ++ rest) = .ok (.ident s, rest) := by
    rw [read_of_isNamePart (isNamePart_of_isNameStart hc), takeWhile_append hcs hrest,
      dropWhile_append hcs hrest, ← hchars, String.ofList_toList]
    simp [isDigit_of_isNameStart hc, hc]
  rw [hchars]
  exact h.read hblank hread (by simp)

theorem int {v : Int64} (hv : 0 ≤ v.toInt) (hrest : EndsOperand rest) (h : Lexes input rest ts) :
    Lexes input ((toString v.toInt).toList ++ rest) (.int v :: ts) := by
  have hread := readNumber_toDigits hv hrest
  rw [toList_toString hv]
  cases hds : Nat.toDigits 10 v.toInt.toNat with
  | nil => exact absurd hds Nat.toDigits_ne_nil
  | cons d ds =>
    have hd : isDigit d = true := isDigit_of_mem_toDigits (hds ▸ List.mem_cons_self)
    have hpart := isNamePart_of_isDigit hd
    rw [hds] at hread
    have hint : Token.read input d (ds ++ rest) = .ok (.int v, rest) := by
      rw [read_of_isNamePart hpart, if_pos hd]
      exact hread
    exact h.read (isBlank_of_isNamePart hpart) hint (by simp)

theorem quoted (s : String) (h : Lexes input rest ts) :
    Lexes input ('"' :: (s.toList.flatMap escaped ++ '"' :: rest)) (.text s :: ts) := by
  refine h.read (by decide) ?_ (by simp; omega)
  simp [Token.read, readQuoted_flatMap_escaped, Except.map]

theorem openParen (h : Lexes input rest ts) : Lexes input ('(' :: rest) (.openParen :: ts) :=
  h.read (by decide) rfl (Nat.le_refl _)

theorem closeParen (h : Lexes input rest ts) : Lexes input (')' :: rest) (.closeParen :: ts) :=
  h.read (by decide) rfl (Nat.le_refl _)

theorem comma (h : Lexes input rest ts) : Lexes input (',' :: rest) (.comma :: ts) :=
  h.read (by decide) rfl (Nat.le_refl _)

theorem dot (h : Lexes input rest ts) : Lexes input ('.' :: rest) (.dot :: ts) :=
  h.read (by decide) rfl (Nat.le_refl _)

theorem unaryOp (op : UnaryOp) (hrest : rest.head? ≠ some '=') (h : Lexes input rest ts) :
    Lexes input (op.symbol.toList ++ rest) (op.token :: ts) := by
  have hread : Token.read input '!' rest = .ok (.bang, rest) := (read_alone hrest).2.2
  cases op with
  | negate => exact h.read (by decide) rfl (Nat.le_refl _)
  | not => exact h.read (by decide) hread (Nat.le_refl _)

theorem binaryOp (op : BinaryOp) (hrest : rest.head? ≠ some '=') (h : Lexes input rest ts) :
    Lexes input (op.symbol.toList ++ rest) (op.token :: ts) := by
  have hless : Token.read input '<' rest = .ok (.less, rest) := (read_alone hrest).1
  have hgreater : Token.read input '>' rest = .ok (.greater, rest) := (read_alone hrest).2.1
  cases op with
  | add | subtract | multiply | divide | remainder => exact h.read (by decide) rfl (Nat.le_refl _)
  | equal | notEqual | lessEqual | greaterEqual | and | or =>
    exact h.read (by decide) rfl (Nat.le_succ _)
  | less => exact h.read (by decide) hless (Nat.le_refl _)
  | greater => exact h.read (by decide) hgreater (Nat.le_refl _)

end Lexes
end Token
end TableMill
