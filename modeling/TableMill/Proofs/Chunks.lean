import TableMill.Batch.Lookup

/-!
# Lists in chunks

The chunks of a list are its first elements and the chunks of the others. One after another they
are the list again, and none is longer than asked for.
-/

namespace TableMill

variable {α : Type} {n : Nat}

@[simp] theorem chunks_nil : chunks n ([] : List α) = [] := rfl

theorem chunks_go_eq (hn : 0 < n) (fuel : Nat) (l : List α) (h : l.length ≤ fuel) :
    chunks.go n fuel l = chunks n l := by
  suffices hgo : ∀ fuel' : Nat, l.length ≤ fuel' → chunks.go n fuel l = chunks.go n fuel' l from
    hgo l.length (Nat.le_refl _)
  induction fuel generalizing l with
  | zero =>
    intro fuel' _
    obtain rfl := List.eq_nil_of_length_eq_zero (Nat.le_zero.1 h)
    cases fuel' <;> rfl
  | succ fuel ih =>
    intro fuel' h'
    cases l with
    | nil => cases fuel' <;> rfl
    | cons x xs =>
      rw [List.length_cons] at h h'
      obtain ⟨fuel', rfl⟩ : ∃ k, fuel' = k + 1 := ⟨fuel' - 1, by omega⟩
      have hdrop : ((x :: xs).drop n).length ≤ xs.length := by
        rw [List.length_drop, List.length_cons]
        omega
      exact congrArg _ (ih _ (by omega) fuel' (by omega))

theorem chunks_of_ne_nil (hn : 0 < n) {l : List α} (hl : l ≠ []) :
    chunks n l = l.take n :: chunks n (l.drop n) := by
  obtain ⟨x, xs, rfl⟩ := List.exists_cons_of_ne_nil hl
  have hdrop : ((x :: xs).drop n).length ≤ xs.length := by
    rw [List.length_drop, List.length_cons]
    omega
  exact congrArg _ (chunks_go_eq hn xs.length _ hdrop)

theorem chunks_of_length_le (hn : 0 < n) {l : List α} (hl : l ≠ []) (h : l.length ≤ n) :
    chunks n l = [l] := by
  rw [chunks_of_ne_nil hn hl, List.take_of_length_le h, List.drop_eq_nil_of_le h, chunks_nil]

theorem chunks_flatten (hn : 0 < n) (l : List α) : (chunks n l).flatten = l := by
  induction hlength : l.length using Nat.strongRecOn generalizing l with
  | ind length ih =>
    by_cases hl : l = []
    · rw [hl]
      rfl
    · have hpos := List.length_pos_iff.2 hl
      have hrest := ih (l.drop n).length (by rw [List.length_drop]; omega) (l.drop n) rfl
      rw [chunks_of_ne_nil hn hl, List.flatten_cons, hrest, List.take_append_drop]

theorem ne_nil_of_mem_chunks (hn : 0 < n) {l c : List α} (h : c ∈ chunks n l) : c ≠ [] := by
  induction hlength : l.length using Nat.strongRecOn generalizing l with
  | ind length ih =>
    by_cases hl : l = []
    · rw [hl, chunks_nil] at h
      cases h
    · have hpos := List.length_pos_iff.2 hl
      rw [chunks_of_ne_nil hn hl] at h
      rcases List.mem_cons.1 h with rfl | h
      · exact fun htake => hl ((List.take_eq_nil_iff.1 htake).resolve_left (by omega))
      · exact ih (l.drop n).length (by rw [List.length_drop]; omega) h rfl

theorem length_chunks_le (l : List α) : (chunks n l).length ≤ l.length := by
  suffices hgo : ∀ fuel (l : List α), (chunks.go n fuel l).length ≤ fuel from hgo l.length l
  intro fuel
  induction fuel with
  | zero => exact fun _ => Nat.le_refl 0
  | succ fuel ih =>
    intro l
    cases l with
    | nil => exact Nat.zero_le _
    | cons x xs => exact Nat.succ_le_succ (ih _)

theorem length_le_of_mem_chunks {l c : List α} (h : c ∈ chunks n l) : c.length ≤ n := by
  unfold chunks at h
  generalize l.length = fuel at h
  induction fuel generalizing l with
  | zero => simp [chunks.go] at h
  | succ fuel ih =>
    cases l with
    | nil => simp [chunks.go] at h
    | cons x xs =>
      rw [chunks.go] at h
      · rcases List.mem_cons.1 h with rfl | h
        · exact List.length_take_le _ _
        · exact ih h
      · simp

end TableMill
