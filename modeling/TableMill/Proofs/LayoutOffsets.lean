import TableMill.Layout.Read
import TableMill.Proofs.LayoutCodes

/-!
# Offsets in coded layouts

Whether a layout has an offset is decided by a search of its coded form. The code of an offset is
found there if a token of an offset was taken. It is also found if the layout spells the code out:
the percent sign is doubled, but the second one still stands before the letters.
-/

namespace TableMill

namespace Text

theorem occursIn_iff {part cs : List Char} : occursIn part cs = true ↔ part <:+: cs := by
  induction cs with
  | nil => rw [occursIn, List.isEmpty_iff, List.infix_nil]
  | cons c cs ih =>
    rw [occursIn, Bool.or_eq_true, List.isPrefixOf_iff_prefix, ih, List.infix_cons_iff]

theorem contains_iff {s part : String} : contains s part = true ↔ part.toList <:+: s.toList :=
  occursIn_iff

end Text

namespace Layout

variable {cs : List Char} {ls : List Lexeme}

def offsetLetters (colon : Bool) : List Char :=
  if colon then [':', 'z'] else ['z']

def offsetTokens : List String := ["Z07:00", "-07:00", "-0700"]

/-- A token of an offset is among the lexemes of a layout. -/
def TakesOffset (layout : String) : Prop :=
  ∃ ls, Lexes layout.toList ls ∧ ∃ text ∈ offsetTokens, ∃ item, .token text item ∈ ls

/-- A layout has the code of an offset among its own characters. -/
def SpellsOffset (layout : String) : Prop :=
  ∃ colon, '%' :: offsetLetters colon <:+: layout.toList

/-! ## The tables -/

theorem offsetTokens_iff : ∀ t ∈ tokens,
    t.1 ∈ offsetTokens ↔ t.2 = .offset false ∨ t.2 = .offset true := by
  decide +kernel

theorem percent_not_mem_text : ∀ t ∈ tokens, '%' ∉ t.1.toList := by
  decide +kernel

theorem head?_text : ∀ t ∈ tokens, t.1.toList.head? ≠ some ':' ∧ t.1.toList.head? ≠ some 'z' := by
  decide +kernel

theorem code_of_item : ∀ t ∈ tokens, t.2.code.toList = '%' :: t.2.code.toList.tail ∧
    '%' ∉ t.2.code.toList.tail := by
  decide +kernel

/-- The code of an item and that of an offset are the same or differ before either ends. -/
theorem offset_or_differs : ∀ t ∈ tokens, ∀ colon,
    t.2 = .offset colon ∧ t.2.code.toList.tail = offsetLetters colon ∨
      t.2 ≠ .offset colon ∧ ¬offsetLetters colon <+: t.2.code.toList.tail ∧
        ¬t.2.code.toList.tail <+: offsetLetters colon := by
  decide +kernel

/-! ## The search -/

/-- What starts with a character that a text does not have is not found in the text. -/
theorem infix_append_iff_of_not_mem {c : Char} {part front back : List Char} (hc : c ∉ front) :
    c :: part <:+: front ++ back ↔ c :: part <:+: back := by
  induction front with
  | nil => rfl
  | cons d front ih =>
    obtain ⟨hne, hfront⟩ := List.ne_and_not_mem_of_not_mem_cons hc
    rw [List.cons_append, List.infix_cons_iff, List.cons_prefix_cons, ih hfront]
    simp [hne]

/-- No token starts with a character of the letters of an offset, and neither does a code, so that
the letters stand in the coded form where they stand in the layout. -/
theorem offsetLetters_prefix_iff {part : List Char} (hpart : ∀ c ∈ part, c = ':' ∨ c = 'z')
    (h : Lexes cs ls) : part <+: ls.flatMap Lexeme.code ↔ part <+: cs := by
  induction part generalizing cs ls with
  | nil => simp
  | cons c part ih =>
    have hc := hpart c List.mem_cons_self
    have hpercent : c ≠ '%' := by
      rintro rfl
      simp at hc
    cases h with
    | nil => rfl
    | @token text item rest ls mem =>
      obtain ⟨d, taken, htext⟩ := List.exists_cons_of_ne_nil (text_ne_nil _ mem)
      have hd : c ≠ d := by
        rintro rfl
        have hhead := head?_text _ mem
        rw [htext] at hhead
        rcases hc with rfl | rfl
        · exact hhead.1 rfl
        · exact hhead.2 rfl
      rw [List.flatMap_cons, Lexeme.code, (code_of_item _ mem).1, htext, List.cons_append,
        List.cons_append, List.cons_prefix_cons, List.cons_prefix_cons]
      simp [hpercent, hd]
    | @char d rest ls _ more =>
      have hrest := ih (fun e he => hpart e (List.mem_cons_of_mem _ he)) more
      rw [List.flatMap_cons, Lexeme.code]
      by_cases hd : d = '%'
      · rw [if_pos hd, hd, List.cons_append, List.cons_prefix_cons, List.cons_prefix_cons]
        simp [hpercent]
      · rw [if_neg hd, List.singleton_append, List.cons_prefix_cons, List.cons_prefix_cons, hrest]

theorem mem_offsetLetters (colon : Bool) : ∀ c ∈ offsetLetters colon, c = ':' ∨ c = 'z' := by
  cases colon <;> simp [offsetLetters]

/-- The code of an offset is found in the coded form of a layout where a token of this offset was
taken or where the layout spells the code out. -/
theorem offset_infix_iff (colon : Bool) (h : Lexes cs ls) :
    '%' :: offsetLetters colon <:+: ls.flatMap Lexeme.code ↔
      (∃ text, .token text (.offset colon) ∈ ls) ∨ '%' :: offsetLetters colon <:+: cs := by
  induction h with
  | nil => simp
  | @token text item rest ls mem _ _ ih =>
    obtain ⟨hcode, htail⟩ := code_of_item _ mem
    rw [List.flatMap_cons, Lexeme.code, hcode, List.cons_append, List.infix_cons_iff,
      List.cons_prefix_cons, infix_append_iff_of_not_mem htail,
      infix_append_iff_of_not_mem (percent_not_mem_text _ mem), ih]
    rcases offset_or_differs _ mem colon with ⟨hitem, hletters⟩ | ⟨hitem, hback, hfront⟩
    · obtain rfl : item = .offset colon := hitem
      rw [hletters]
      simp
    · have hnot : ¬offsetLetters colon <+: item.code.toList.tail ++ ls.flatMap Lexeme.code :=
        fun hstarts => (List.prefix_or_prefix_of_prefix hstarts (List.prefix_append _ _)).elim
          hback hfront
      have hne : ∀ other, Lexeme.token other (.offset colon) ≠ .token text item := by
        intro other heq
        exact hitem (Lexeme.token.inj heq).2.symm
      simp [hnot, hne]
  | @char c rest ls _ more ih =>
    have hletters := offsetLetters_prefix_iff (mem_offsetLetters colon) more
    rw [List.flatMap_cons, Lexeme.code]
    by_cases hc : c = '%'
    · -- Of the two signs, the letters can only follow the second one.
      have hsecond : ¬offsetLetters colon <+: '%' :: ls.flatMap Lexeme.code := by
        cases colon <;> simp [offsetLetters]
      simp [hc, List.infix_cons_iff, hsecond, hletters, ih, or_left_comm]
    · simp [hc, Ne.symm hc, List.infix_cons_iff, ih]

theorem mem_tokens {text : String} {item : Item} (h : Lexes cs ls)
    (hmem : Lexeme.token text item ∈ ls) : (text, item) ∈ tokens := by
  induction h with
  | nil => cases hmem
  | token mem _ _ ih =>
    rcases List.mem_cons.1 hmem with heq | hmem
    · obtain ⟨rfl, rfl⟩ := Lexeme.token.inj heq
      exact mem
    · exact ih hmem
  | char _ _ ih =>
    rcases List.mem_cons.1 hmem with heq | hmem
    · cases heq
    · exact ih hmem

theorem takesOffset_iff {layout : String} (h : Lexes layout.toList ls) :
    TakesOffset layout ↔ ∃ colon text, Lexeme.token text (.offset colon) ∈ ls := by
  constructor
  · rintro ⟨more, hmore, text, htext, item, hmem⟩
    obtain rfl := hmore.unique h
    rcases (offsetTokens_iff _ (mem_tokens h hmem)).1 htext with hitem | hitem
    · obtain rfl : item = .offset false := hitem
      exact ⟨false, text, hmem⟩
    · obtain rfl : item = .offset true := hitem
      exact ⟨true, text, hmem⟩
  · rintro ⟨colon, text, hmem⟩
    have htext := (offsetTokens_iff _ (mem_tokens h hmem)).2 (by cases colon <;> simp)
    exact ⟨ls, h, text, htext, .offset colon, hmem⟩

theorem takesOffset_iff_mem_pieces (layout : String) :
    TakesOffset layout ↔ ∃ colon, Piece.item (.offset colon) ∈ pieces layout := by
  obtain ⟨ls, hls, hpieces⟩ := exists_lexes layout.toList
  have hmem (colon : Bool) : Piece.item (.offset colon) ∈ ls.map Lexeme.piece ↔
      ∃ text, Lexeme.token text (.offset colon) ∈ ls := by
    rw [List.mem_map]
    constructor
    · rintro ⟨l, hl, hpiece⟩
      cases l with
      | token text item => exact ⟨text, Piece.item.inj hpiece ▸ hl⟩
      | char c => cases hpiece
    · rintro ⟨text, hl⟩
      exact ⟨_, hl, rfl⟩
  rw [takesOffset_iff hls, pieces, hpieces]
  simp only [hmem]

theorem hasOffset_iff (layout : String) :
    hasOffset layout = true ↔ TakesOffset layout ∨ SpellsOffset layout := by
  obtain ⟨ls, hls, -⟩ := exists_lexes layout.toList
  have hsearch : hasOffset layout = true ↔
      ∃ colon, '%' :: offsetLetters colon <:+: (code layout).toList := by
    rw [hasOffset, Bool.or_eq_true, Text.contains_iff, Text.contains_iff, Bool.exists_bool]
    rfl
  rw [hsearch, toList_code hls, takesOffset_iff hls, SpellsOffset, ← exists_or]
  simp only [offset_infix_iff _ hls]

end Layout
end TableMill
