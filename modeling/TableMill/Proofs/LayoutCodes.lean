import Mathlib.Data.List.Pairwise
import TableMill.Proofs.LayoutTokens

/-!
# Reading coded layouts

A coded text consists of codes, of doubled percent signs and of other characters that stand for
themselves. No code begins with another one, so that a coded text is read in one way only. A layout
in coded form is read as its lexemes: none of its characters becomes part of a code.
-/

namespace TableMill
namespace Layout

/-- What is read in a coded text: a part of a date-time that layouts have, another part, or a
character that stands for itself. -/
inductive Mark
  | item (item : Item)
  | other (code : List Char)
  | char (c : Char)
  deriving DecidableEq

def Mark.ofItem (code : List Char) : Option Item → Mark
  | some i => .item i
  | none => .other code

def zeroFilled (item : Item) : Padding → Option Item
  | .zero => some item
  | _ => none

/-- The letters of numbers, with the padding of the bare letter and the part of a layout that a
padding makes of the number. -/
def numberLetters : List (Char × Padding × (Padding → Option Item)) :=
  [('Y', .zero, zeroFilled .year),
   ('y', .zero, zeroFilled .yearOfCentury),
   ('m', .zero, some ∘ .month),
   ('d', .zero, some ∘ .day),
   ('e', .space, some ∘ .day),
   ('j', .zero, zeroFilled .dayOfYear),
   ('H', .zero, zeroFilled .hour),
   ('k', .space, zeroFilled .hour),
   ('I', .zero, some ∘ .hour12),
   ('l', .space, some ∘ .hour12),
   ('M', .zero, some ∘ .minute),
   ('S', .zero, some ∘ .second)] ++
  ['C', 'G', 'g', 'q', 'U', 'u', 'V', 'W', 'w', 'f', 's'].map fun letter =>
    (letter, .zero, fun _ => none)

def codesOfNumber : Char × Padding × (Padding → Option Item) → List (List Char × Mark)
  | (letter, padding, item?) =>
    [([letter], padding), (['-', letter], .none), (['_', letter], .space),
      (['0', letter], .zero)].map fun (code, padding) => (code, .ofItem code (item? padding))

/-- The codes that admit no mark for a padding. -/
def otherLetters : List (List Char × Option Item) :=
  [(['B'], some (.monthName true)),
   (['b'], some (.monthName false)),
   (['h'], some (.monthName false)),
   (['A'], some (.weekdayName true)),
   (['a'], some (.weekdayName false)),
   (['p'], some (.halfDay true)),
   (['P'], some (.halfDay false)),
   (['Z'], some .zoneName),
   (['z'], some (.offset false)),
   ([':', 'z'], some (.offset true)),
   (['.', '3', 'f'], some (.fraction 3)),
   (['.', '6', 'f'], some (.fraction 6)),
   (['.', '9', 'f'], some (.fraction 9))] ++
  [[':', ':', 'z'], [':', ':', ':', 'z'], ['#', 'z'], ['.', 'f'], ['3', 'f'], ['6', 'f'], ['9', 'f'],
    ['D'], ['F'], ['v'], ['x'], ['R'], ['T'], ['X'], ['r'], ['c'], ['+'], ['t'], ['n']].map
    fun letter => (letter, none)

/-- All that may follow a percent sign in a coded text. -/
def codes : List (List Char × Mark) :=
  (['%'], .char '%') :: numberLetters.flatMap codesOfNumber ++
    otherLetters.map fun (code, item?) => (code, .ofItem code item?)

/-- A coded text with what is read in it, from its left end to its right end. -/
inductive Coded : List Char → List Mark → Prop
  | nil : Coded [] []
  | char {c : Char} {rest : List Char} {marks : List Mark} (plain : c ≠ '%')
      (more : Coded rest marks) : Coded (c :: rest) (.char c :: marks)
  | code {text : List Char} {mark : Mark} {rest : List Char} {marks : List Mark}
      (mem : (text, mark) ∈ codes) (more : Coded rest marks) :
      Coded ('%' :: (text ++ rest)) (mark :: marks)

def Lexeme.code : Lexeme → List Char
  | .token _ item => item.code.toList
  | .char c => if c = '%' then ['%', '%'] else [c]

def Lexeme.mark : Lexeme → Mark
  | .token _ item => .item item
  | .char c => .char c

/-! ## The table of codes -/

/-- Neither of two codes begins with the other one. Most codes differ in their first characters. -/
def Apart (s t : List Char × Mark) : Prop :=
  s.1.head? ≠ t.1.head? ∨ ¬s.1 <+: t.1 ∧ ¬t.1 <+: s.1

instance : DecidableRel Apart := fun _ _ => inferInstanceAs (Decidable (_ ∨ _))

instance : Std.Symm Apart := ⟨fun _ _ => Or.imp Ne.symm And.symm⟩

theorem codes_pairwise : codes.Pairwise Apart := by
  decide +kernel

theorem code_ne_nil : ∀ c ∈ codes, c.1 ≠ [] := by
  decide +kernel

theorem eq_of_begins {s t : List Char × Mark} (hs : s ∈ codes) (ht : t ∈ codes)
    (h : s.1 <+: t.1) : s = t := by
  by_contra hne
  rcases codes_pairwise.forall hs ht hne with hhead | hapart
  · obtain ⟨rest, hrest⟩ := h
    rw [← hrest, List.head?_append_of_ne_nil _ (code_ne_nil s hs)] at hhead
    exact hhead rfl
  · exact hapart.1 h

theorem code_of_token : ∀ t ∈ tokens,
    ∃ c ∈ codes, c.2 = .item t.2 ∧ t.2.code.toList = '%' :: c.1 := by
  decide +kernel

namespace Coded

variable {cs rest : List Char} {marks more : List Mark}

/-- A coded text is read in one way only. -/
theorem unique (h : Coded cs marks) (hmore : Coded cs more) : marks = more := by
  induction h generalizing more with
  | nil =>
    generalize hcs : ([] : List Char) = cs at hmore
    cases hmore with
    | nil => rfl
    | char => cases hcs
    | code => cases hcs
  | @char c rest marks plain _ ih =>
    generalize hcs : c :: rest = cs at hmore
    cases hmore with
    | nil => cases hcs
    | char _ hmore =>
      obtain ⟨rfl, rfl⟩ := List.cons.inj hcs
      rw [ih hmore]
    | code => exact absurd (List.cons.inj hcs).1 plain
  | @code text mark rest marks mem _ ih =>
    generalize hcs : '%' :: (text ++ rest) = cs at hmore
    cases hmore with
    | nil => cases hcs
    | char plain => exact absurd (List.cons.inj hcs).1.symm plain
    | code mem' hmore =>
      have htexts := (List.cons.inj hcs).2
      have hsame : (text, mark) = (_, _) :=
        (List.prefix_or_prefix_of_prefix (List.prefix_append text rest)
          (htexts ▸ List.prefix_append _ _)).elim (eq_of_begins mem mem')
          fun h => (eq_of_begins mem' mem h).symm
      obtain ⟨rfl, rfl⟩ := Prod.mk.inj hsame
      rw [ih (List.append_cancel_left htexts ▸ hmore)]

/-- The lexemes of a layout are read in their coded forms. -/
theorem of_lexes {ls : List Lexeme} (h : Lexes cs ls) :
    Coded (ls.flatMap Lexeme.code) (ls.map Lexeme.mark) := by
  induction h with
  | nil => exact .nil
  | @token text item rest ls mem _ _ ih =>
    obtain ⟨⟨code, mark⟩, hcode, hmark, htext⟩ := code_of_token _ mem
    obtain rfl : mark = .item item := hmark
    have hread := Coded.code hcode ih
    rwa [← List.cons_append, ← htext] at hread
  | @char c rest ls _ _ ih =>
    rw [List.flatMap_cons, List.map_cons, Lexeme.code, Lexeme.mark]
    by_cases hc : c = '%'
    · subst hc
      exact @Coded.code ['%'] _ _ _ List.mem_cons_self ih
    · rw [if_neg hc]
      exact .char hc ih

end Coded

theorem toList_code {layout : String} {ls : List Lexeme} (h : Lexes layout.toList ls) :
    (code layout).toList = ls.flatMap Lexeme.code := by
  have hpiece : ∀ l : Lexeme, l.piece.code.toList = l.code := by
    intro l
    cases l with
    | token text item => rfl
    | char c =>
      by_cases hc : c = '%'
      · simp [Lexeme.piece, Piece.code, Lexeme.code, hc]
      · simp [Lexeme.piece, Piece.code, Lexeme.code, hc]
  rw [code, String.toList_join, pieces, h.piecesFrom_eq, List.map_map, List.flatMap_map]
  simp only [Function.comp_apply, hpiece]

/-- A layout has exactly one sequence of lexemes: at every place the longest token, or a character
where no token starts. Its pieces and its coded form are those of the lexemes, one after the other,
and what is read in the coded form, in whatever way it is cut into codes and characters, is what the
lexemes say. -/
theorem coded_iff_lexes (layout : String) : ∃ ls : List Lexeme,
    (∀ more, Lexes layout.toList more ↔ more = ls) ∧
    pieces layout = ls.map Lexeme.piece ∧
    (code layout).toList = ls.flatMap Lexeme.code ∧
    ∀ marks, Coded (code layout).toList marks ↔ marks = ls.map Lexeme.mark := by
  obtain ⟨ls, hls, hpieces⟩ := exists_lexes layout.toList
  refine ⟨ls, fun more => ?_, hpieces, toList_code hls, fun marks => ?_⟩
  · exact ⟨fun hmore => hmore.unique hls, fun h => h ▸ hls⟩
  · rw [toList_code hls]
    exact ⟨fun hmarks => hmarks.unique (.of_lexes hls), fun h => h ▸ .of_lexes hls⟩

end Layout
end TableMill
