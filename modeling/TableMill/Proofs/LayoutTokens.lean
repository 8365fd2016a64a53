import Mathlib.Data.List.Infix
import TableMill.Layout.Basic

/-!
# The tokens of a layout

A layout is passed over from the left: at every place the longest token that stands there is taken,
or one character if there is none. The tokens are searched in the order of their table, in which a
token stands before all that it begins with, so that the first one found is the longest.
-/

namespace TableMill
namespace Layout

/-- A token of a layout with the part it stands for, or a character that stands for itself. -/
inductive Lexeme
  | token (text : String) (item : Item)
  | char (c : Char)
  deriving DecidableEq

def Lexeme.piece : Lexeme → Piece
  | token _ item => .item item
  | char c => .char c

/-- The longest tokens of a text from its left end, and the characters at which no token starts. -/
inductive Lexes : List Char → List Lexeme → Prop
  | nil : Lexes [] []
  | token {text : String} {item : Item} {rest : List Char} {ls : List Lexeme}
      (mem : (text, item) ∈ tokens)
      (longest : ∀ t ∈ tokens, t.1.toList <+: text.toList ++ rest → t.1.length ≤ text.length)
      (more : Lexes rest ls) : Lexes (text.toList ++ rest) (.token text item :: ls)
  | char {c : Char} {rest : List Char} {ls : List Lexeme}
      (alone : ∀ t ∈ tokens, ¬t.1.toList <+: c :: rest)
      (more : Lexes rest ls) : Lexes (c :: rest) (.char c :: ls)

/-! ## The table of tokens -/

theorem tokens_pairwise : tokens.Pairwise fun s t => ¬s.1.toList <+: t.1.toList := by
  decide +kernel

theorem eq_of_text_eq : ∀ s ∈ tokens, ∀ t ∈ tokens, s.1 = t.1 → s = t := by
  decide +kernel

theorem text_ne_nil : ∀ t ∈ tokens, t.1.toList ≠ [] := by
  decide +kernel

variable {cs rest : List Char} {t : String × Item}

/-- The first token that is found is the longest one. -/
theorem longest_of_tokenAt (h : tokenAt cs = some t) :
    t ∈ tokens ∧ t.1.toList <+: cs ∧ ∀ s ∈ tokens, s.1.toList <+: cs → s.1.length ≤ t.1.length := by
  obtain ⟨hstarts, before, after, htokens, hbefore⟩ := List.find?_eq_some_iff_append.1 h
  rw [List.isPrefixOf_iff_prefix] at hstarts
  have hpairs := tokens_pairwise
  rw [htokens, List.pairwise_append, List.pairwise_cons] at hpairs
  refine ⟨htokens ▸ by simp, hstarts, fun s hs hs' => ?_⟩
  rw [htokens, List.mem_append, List.mem_cons] at hs
  rcases hs with hs | rfl | hs
  · have hnot := hbefore s hs
    simp [List.isPrefixOf_iff_prefix.2 hs'] at hnot
  · exact le_rfl
  · rcases List.prefix_or_prefix_of_prefix hstarts hs' with hle | hle
    · exact absurd hle (hpairs.2.1.1 s hs)
    · simpa only [String.length_toList] using hle.length_le

theorem tokenAt_eq_none_iff : tokenAt cs = none ↔ ∀ t ∈ tokens, ¬t.1.toList <+: cs := by
  simp [tokenAt, List.find?_eq_none]

theorem tokenAt_eq_some_iff : tokenAt cs = some t ↔
    t ∈ tokens ∧ t.1.toList <+: cs ∧ ∀ s ∈ tokens, s.1.toList <+: cs → s.1.length ≤ t.1.length := by
  refine ⟨longest_of_tokenAt, fun ⟨hmem, hstarts, hlongest⟩ => ?_⟩
  cases hfound : tokenAt cs with
  | none => exact absurd hstarts (tokenAt_eq_none_iff.1 hfound t hmem)
  | some u =>
    obtain ⟨humem, hustarts, hulongest⟩ := longest_of_tokenAt hfound
    have hlength : u.1.toList.length = t.1.toList.length := by
      simpa only [String.length_toList] using
        le_antisymm (hlongest u humem hustarts) (hulongest t hmem hstarts)
    have htext : u.1.toList = t.1.toList :=
      (List.prefix_of_prefix_length_le hustarts hstarts hlength.le).eq_of_length hlength
    rw [eq_of_text_eq u humem t hmem (String.toList_inj.1 htext)]

/-! ## All lexemes -/

theorem piecesFrom_append (taken rest : List Char) :
    piecesFrom taken.length (taken ++ rest) = piecesFrom 0 rest := by
  induction taken with
  | nil => rfl
  | cons c taken ih => exact ih

theorem piecesFrom_token (h : tokenAt (t.1.toList ++ rest) = some t) :
    piecesFrom 0 (t.1.toList ++ rest) = .item t.2 :: piecesFrom 0 rest := by
  obtain ⟨c, taken, htext⟩ :=
    List.exists_cons_of_ne_nil (text_ne_nil t (longest_of_tokenAt h).1)
  have hlength : t.1.length - 1 = taken.length := by
    rw [← String.length_toList, htext, List.length_cons, Nat.add_sub_cancel]
  rw [htext, List.cons_append] at h ⊢
  rw [piecesFrom, h]
  dsimp only
  rw [hlength, piecesFrom_append]

theorem piecesFrom_char {c : Char} (h : tokenAt (c :: rest) = none) :
    piecesFrom 0 (c :: rest) = .char c :: piecesFrom 0 rest := by
  rw [piecesFrom, h]

theorem exists_lexes (cs : List Char) : ∃ ls, Lexes cs ls ∧ piecesFrom 0 cs = ls.map Lexeme.piece := by
  induction h : cs.length using Nat.strong_induction_on generalizing cs with
  | _ n ih =>
    cases cs with
    | nil => exact ⟨[], .nil, rfl⟩
    | cons c rest =>
      cases hfound : tokenAt (c :: rest) with
      | none =>
        obtain ⟨ls, hls, hpieces⟩ := ih rest.length (h ▸ Nat.lt_succ_self _) rest rfl
        refine ⟨.char c :: ls, .char (tokenAt_eq_none_iff.1 hfound) hls, ?_⟩
        rw [piecesFrom_char hfound, hpieces]
        rfl
      | some t =>
        obtain ⟨hmem, ⟨rest', hrest⟩, hlongest⟩ := longest_of_tokenAt hfound
        have hshorter : rest'.length < n := by
          have hpos := List.length_pos_of_ne_nil (text_ne_nil t hmem)
          rw [← h, ← hrest, List.length_append]
          omega
        obtain ⟨ls, hls, hpieces⟩ := ih rest'.length hshorter rest' rfl
        rw [← hrest] at hfound hlongest ⊢
        refine ⟨.token t.1 t.2 :: ls, .token hmem hlongest hls, ?_⟩
        rw [piecesFrom_token hfound, hpieces]
        rfl

namespace Lexes

variable {ls more : List Lexeme}

/-- A text has lexemes in one way only. -/
theorem unique (h : Lexes cs ls) (hmore : Lexes cs more) : ls = more := by
  induction h generalizing more with
  | nil =>
    generalize hcs : ([] : List Char) = cs at hmore
    cases hmore with
    | nil => rfl
    | token mem => exact absurd (List.append_eq_nil_iff.1 hcs.symm).1 (text_ne_nil _ mem)
    | char => cases hcs
  | @token text item rest ls mem longest _ ih =>
    have hfound := tokenAt_eq_some_iff.2 ⟨mem, List.prefix_append _ _, longest⟩
    generalize hcs : text.toList ++ rest = cs at hmore hfound
    cases hmore with
    | nil => exact absurd (List.append_eq_nil_iff.1 hcs).1 (text_ne_nil _ mem)
    | token mem' longest' hmore =>
      have hfound' := tokenAt_eq_some_iff.2 ⟨mem', List.prefix_append _ _, longest'⟩
      obtain ⟨rfl, rfl⟩ := Prod.mk.inj (Option.some.inj (hfound.symm.trans hfound'))
      rw [ih (List.append_cancel_left hcs ▸ hmore)]
    | char alone' =>
      rw [tokenAt_eq_none_iff.2 alone'] at hfound
      cases hfound
  | @char c rest ls alone _ ih =>
    have hfound := tokenAt_eq_none_iff.2 alone
    generalize hcs : c :: rest = cs at hmore hfound
    cases hmore with
    | nil => cases hcs
    | token mem' longest' =>
      rw [tokenAt_eq_some_iff.2 ⟨mem', List.prefix_append _ _, longest'⟩] at hfound
      cases hfound
    | char _ hmore =>
      obtain ⟨rfl, rfl⟩ := List.cons.inj hcs
      rw [ih hmore]

theorem piecesFrom_eq (h : Lexes cs ls) : piecesFrom 0 cs = ls.map Lexeme.piece := by
  obtain ⟨more, hmore, hpieces⟩ := exists_lexes cs
  rw [hpieces, h.unique hmore]

end Lexes
end Layout
end TableMill
