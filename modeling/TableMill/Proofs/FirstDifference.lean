import TableMill.Table.Key

/-!
# Where two texts differ first

Texts of one length are equal or have a first place where they differ. That place decides
their order, and it stays the first one under a common prefix and before any ends.
-/

namespace TableMill

variable {α β : Type} [LT α] [LT β]

/-- One list is like another up to a place where it goes on with less. -/
def Below (a b : List α) : Prop :=
  ∃ p x y u v, x < y ∧ a = p ++ x :: u ∧ b = p ++ y :: v

theorem Below.append {a b : List α} (h : Below a b) (s t : List α) : Below (a ++ s) (b ++ t) := by
  obtain ⟨p, x, y, u, v, hlt, rfl, rfl⟩ := h
  exact ⟨p, x, y, u ++ s, v ++ t, hlt, by simp, by simp⟩

theorem Below.prepend {a b : List α} (h : Below a b) (s : List α) : Below (s ++ a) (s ++ b) := by
  obtain ⟨p, x, y, u, v, hlt, rfl, rfl⟩ := h
  exact ⟨s ++ p, x, y, u, v, hlt, by simp, by simp⟩

theorem below_cons {x y : α} {u v : List α} (h : x < y ∨ x = y ∧ Below u v) :
    Below (x :: u) (y :: v) := by
  rcases h with hlt | ⟨rfl, h⟩
  · exact ⟨[], x, y, u, v, hlt, rfl, rfl⟩
  · exact h.prepend [x]

theorem Below.map {a b : List α} (h : Below a b) (f : α → β) (hf : ∀ x y, x < y → f x < f y) :
    Below (a.map f) (b.map f) := by
  obtain ⟨p, x, y, u, v, hlt, rfl, rfl⟩ := h
  exact ⟨p.map f, f x, f y, u.map f, v.map f, hf x y hlt, by simp, by simp⟩

theorem Below.map_anti {a b : List α} (h : Below a b) (f : α → β) (hf : ∀ x y, x < y → f y < f x) :
    Below (b.map f) (a.map f) := by
  obtain ⟨p, x, y, u, v, hlt, rfl, rfl⟩ := h
  exact ⟨p.map f, f y, f x, v.map f, u.map f, hf x y hlt, by simp, by simp⟩

/-- A code that turns the order of letters around turns the order of texts around. -/
theorem Below.flatMap_anti {a b : List α} (h : Below a b) (f : α → List β)
    (hf : ∀ x y, x < y → Below (f y) (f x)) : Below (b.flatMap f) (a.flatMap f) := by
  obtain ⟨p, x, y, u, v, hlt, rfl, rfl⟩ := h
  simp only [List.flatMap_append, List.flatMap_cons]
  exact ((hf x y hlt).append _ _).prepend _

theorem char_lt_or_gt {x y : Char} (h : x ≠ y) : x < y ∨ y < x := by
  rcases Char.le_total x y with hle | hle
  · exact .inl (Char.not_le.1 fun hge => h (Char.le_antisymm hle hge))
  · exact .inr (Char.not_le.1 fun hge => h (Char.le_antisymm hge hle))

theorem below_or_above {a b : List Char} (hlen : a.length = b.length) (hne : a ≠ b) :
    Below a b ∨ Below b a := by
  induction a generalizing b with
  | nil => exact absurd (List.eq_nil_of_length_eq_zero hlen.symm).symm hne
  | cons x a ih =>
    cases b with
    | nil => simp at hlen
    | cons y b =>
      by_cases hxy : x = y
      · subst hxy
        have htail : a ≠ b := fun h => hne (by rw [h])
        rcases ih (by simpa using hlen) htail with h | h
        · exact .inl (h.prepend [x])
        · exact .inr (h.prepend [x])
      · rcases char_lt_or_gt hxy with h | h
        · exact .inl (below_cons (.inl h))
        · exact .inr (below_cons (.inl h))

theorem Below.lt {s t : String} (h : Below s.toList t.toList) : s < t := by
  obtain ⟨p, x, y, u, v, hlt, hs, ht⟩ := h
  change s.toList < t.toList
  rw [hs, ht]
  clear hs ht
  induction p with
  | nil => exact List.Lex.rel hlt
  | cons z p ih => exact List.Lex.cons ih

theorem Below.compare_eq {s t : String} (h : Below s.toList t.toList) : compare s t = .lt :=
  compareOfLessAndEq_eq_lt.2 h.lt

theorem below_of_compare {s t : String} (hlen : s.length = t.length) (h : compare s t = .lt) :
    Below s.toList t.toList := by
  have hlt : s < t := compareOfLessAndEq_eq_lt.1 h
  have hlists : s.toList.length = t.toList.length := by simpa [String.length_toList] using hlen
  have hne : s.toList ≠ t.toList := fun h => String.lt_irrefl t (String.toList_inj.1 h ▸ hlt)
  rcases below_or_above hlists hne with hbelow | habove
  · exact hbelow
  · exact absurd habove.lt (String.lt_asymm hlt)

end TableMill
