import Mathlib.Data.String.Basic
import TableMill.Proofs.KeyOrder

/-!
# The order of texts in keys

A key takes a text in a fixed width, cut or filled up with blanks. Cutting never turns the order of
two texts around. Filling up does, if the longer text goes on with a character that comes before
the blank.
-/

namespace TableMill

namespace Text

def fitted (width : Nat) (cs : List Char) : List Char :=
  cs.take width ++ List.replicate (width - (cs.take width).length) ' '

/-- Whether a text goes on, within a width, where another one ends: after blanks, if any, with a
character that comes before the blank. -/
def Undercuts (width : Nat) (b a : List Char) : Prop :=
  ∃ k x rest, b.take width = a ++ List.replicate k ' ' ++ x :: rest ∧ x < ' '

theorem fitted_zero (cs : List Char) : fitted 0 cs = [] := by
  simp [fitted]

theorem fitted_nil (width : Nat) : fitted (width + 1) [] = ' ' :: fitted width [] := by
  simp [fitted, List.replicate_succ]

theorem fitted_cons (width : Nat) (c : Char) (cs : List Char) :
    fitted (width + 1) (c :: cs) = c :: fitted width cs := by
  simp [fitted]

variable {width : Nat} {a b : List Char} {x y : Char}

theorem not_undercuts_zero : ¬Undercuts 0 b a := by
  rintro ⟨k, x, rest, h, -⟩
  simp at h

theorem not_undercuts_nil : ¬Undercuts width [] a := by
  rintro ⟨k, x, rest, h, -⟩
  simp at h

theorem undercuts_nil_iff :
    Undercuts (width + 1) (y :: b) [] ↔ y < ' ' ∨ y = ' ' ∧ Undercuts width b [] := by
  constructor
  · rintro ⟨k, x, rest, h, hx⟩
    cases k with
    | zero =>
      obtain ⟨rfl, -⟩ : y = x ∧ _ := by simpa using h
      exact .inl hx
    | succ k =>
      obtain ⟨rfl, hrest⟩ : y = ' ' ∧ _ := by simpa [List.replicate_succ] using h
      exact .inr ⟨rfl, k, x, rest, by simpa using hrest, hx⟩
  · rintro (hy | ⟨rfl, k, x, rest, h, hx⟩)
    · exact ⟨0, y, b.take width, by simp, hy⟩
    · exact ⟨k + 1, x, rest, by simpa [List.replicate_succ] using h, hx⟩

theorem undercuts_cons_iff :
    Undercuts (width + 1) (y :: b) (x :: a) ↔ y = x ∧ Undercuts width b a := by
  constructor
  · rintro ⟨k, z, rest, h, hz⟩
    obtain ⟨rfl, hrest⟩ : y = x ∧ _ := by simpa using h
    exact ⟨rfl, k, z, rest, by simpa using hrest, hz⟩
  · rintro ⟨rfl, k, z, rest, h, hz⟩
    exact ⟨k, z, rest, by simpa using h, hz⟩

/-- Of two texts in order, the second comes before the first in a fixed width if it undercuts it. -/
theorem fitted_lt_iff (h : ¬b < a) : fitted width b < fitted width a ↔ Undercuts width b a := by
  induction width generalizing a b with
  | zero => simp [fitted_zero, not_undercuts_zero]
  | succ width ih =>
    cases b with
    | nil =>
      have ha : a = [] := by
        cases a with
        | nil => rfl
        | cons x a => exact absurd (List.nil_lt_cons x a) h
      simp [ha, not_undercuts_nil]
    | cons y b =>
      cases a with
      | nil =>
        rw [fitted_nil, fitted_cons, List.cons_lt_cons_iff, ih (List.not_lt_nil b),
          undercuts_nil_iff]
      | cons x a =>
        obtain ⟨hyx, hba⟩ : ¬y < x ∧ ¬(y = x ∧ b < a) := by
          simpa only [List.cons_lt_cons_iff, not_or] using h
        rw [fitted_cons, fitted_cons, List.cons_lt_cons_iff, undercuts_cons_iff]
        constructor
        · rintro (hlt | ⟨rfl, hlt⟩)
          · exact absurd hlt hyx
          · exact ⟨rfl, (ih fun hlt => hba ⟨rfl, hlt⟩).1 hlt⟩
        · rintro ⟨rfl, hunder⟩
          exact .inr ⟨rfl, (ih fun hlt => hba ⟨rfl, hlt⟩).2 hunder⟩

end Text

namespace Component

/-- Chunks of texts in which letter case counts come in the order of the texts without their marks,
unless the greater text undercuts the other one. -/
theorem text_chunks {c : Component} (hc : c.kind = .text) (hcase : c.ignoreCase = false)
    {s t : String} (h : Text.bare s.toList ≤ Text.bare t.toList) :
    ∃ p q, c.encode (.text s) = .ok p ∧ c.encode (.text t) = .ok q ∧
      (p ≤ q ↔ ¬Text.Undercuts c.length (Text.bare t.toList) (Text.bare s.toList)) := by
  have hencode (u : String) :
      c.encode (.text u) = .ok (String.ofList (Text.fitted c.length (Text.bare u.toList))) := by
    simp [encode, Value.kind, hc, hcase, encodeText, Text.fitted]
  refine ⟨_, _, hencode s, hencode t, ?_⟩
  rw [String.le_iff_toList_le, String.toList_ofList, String.toList_ofList, ← not_lt,
    Text.fitted_lt_iff (not_lt.2 h)]

end Component

namespace RiverSample

/-- Names that differ where the first one is filled up. -/
def component : Component := ⟨"river", .text, false, false, 3⟩

theorem bare_han : Text.bare "한".toList = ['한'] := by
  decide +kernel

theorem bare_hangang : Text.bare "한강".toList = ['한', '강'] := by
  decide +kernel

theorem text_chunks_rivers :
    Text.bare "한".toList ≤ Text.bare "한강".toList ∧
      ∃ p q, component.encode (.text "한") = .ok p ∧ component.encode (.text "한강") = .ok q ∧
        p ≤ q := by
  have hle : Text.bare "한".toList ≤ Text.bare "한강".toList := by
    rw [bare_han, bare_hangang]
    decide
  obtain ⟨p, q, hp, hq, horder⟩ := Component.text_chunks (c := component) rfl rfl hle
  refine ⟨hle, p, q, hp, hq, horder.2 ?_⟩
  rw [bare_han, bare_hangang]
  simp [component, Text.undercuts_cons_iff, Text.undercuts_nil_iff, Text.not_undercuts_nil]

end RiverSample
end TableMill
