import Mathlib.Algebra.Group.Nat.Defs
import TableMill.Proofs.Chunks
import TableMill.Proofs.StoreOrder

/-!
# Pages of an index

A page of an index ends with a state from which the next one starts, as long as there are more
entries. The states lead through the entries in chunks, and the last page is known by what is not
behind it, so that no page is empty unless there are no entries.
-/

namespace TableMill
namespace Store

/-! ## States -/

theorem foldr_bytes (k n : Nat) :
    ((List.range k).map fun i => UInt8.ofNat (n / Nat.pow 256 i)).foldr
      (fun b m => 256 * m + b.toNat) 0 = n % 256 ^ k := by
  induction k generalizing n with
  | zero => simp [Nat.mod_one]
  | succ k ih =>
    have hshift : ∀ i, n / Nat.pow 256 (i + 1) = n / 256 / Nat.pow 256 i := by
      intro i
      rw [Nat.pow_eq, Nat.pow_eq, Nat.pow_succ', Nat.div_div_eq_div_mul]
    rw [List.range_succ_eq_map, List.map_cons, List.map_map, List.foldr_cons]
    simp only [Function.comp_def, Nat.succ_eq_add_one, hshift]
    rw [ih (n / 256), Nat.pow_succ', Nat.mod_mul, Nat.pow_eq, Nat.pow_zero, Nat.div_one,
      UInt8.toNat_ofNat']
    omega

theorem decodeState_encodeState {n : Nat} (h : n < 2 ^ 64) :
    decodeState (some (encodeState n)) = n := by
  have hlength : (encodeState n).length = 8 := by simp [encodeState]
  rw [decodeState, if_pos hlength, encodeState, foldr_bytes]
  exact Nat.mod_eq_of_lt (by omega)

/-! ## Pages -/

/-- The pages that are read from a state on, each from the state that the one before it tells. -/
inductive IndexPages (s : Store) (name : String) (keys : List String) (limit : Nat) :
    Option PageState → List (List Entry) → Prop
  | last {state : Option PageState} {page : List Entry}
    (h : s.indexPage name keys limit state = .ok (page, none)) :
    IndexPages s name keys limit state [page]
  | next {state : Option PageState} {page : List Entry} {behind : PageState}
    {pages : List (List Entry)} (h : s.indexPage name keys limit state = .ok (page, some behind))
    (hrest : IndexPages s name keys limit (some behind) pages) :
    IndexPages s name keys limit state (page :: pages)

def listingFrom (s : Store) (name : String) (keys : List String) (state : Option PageState) :
    List Entry :=
  (s.listing name keys).drop (decodeState state)

variable {s : Store} {name : String} {ix : StoredIndex} {keys : List String} {limit : Nat}
  {state : Option PageState}

theorem listingFrom_none : s.listingFrom name keys none = s.listing name keys := List.drop_zero

theorem indexPage_eq (hix : s.index name = .ok ix) (hlimit : 0 < limit) :
    s.indexPage name keys limit state =
      .ok ((s.listingFrom name keys state).take limit,
        if ((s.listingFrom name keys state).drop limit).isEmpty then none
        else some (encodeState
          (decodeState state + ((s.listingFrom name keys state).take limit).length))) := by
  simp only [indexPage, hix, if_neg (Nat.ne_of_gt hlimit)]
  rfl

theorem indexPage_last (hix : s.index name = .ok ix) (hlimit : 0 < limit)
    (hlast : (s.listingFrom name keys state).length ≤ limit) :
    s.indexPage name keys limit state = .ok (s.listingFrom name keys state, none) := by
  rw [indexPage_eq hix hlimit, List.drop_eq_nil_of_le hlast, List.take_of_length_le hlast]
  rfl

/-- While there are more entries, the state behind a full page leads to them. -/
theorem indexPage_next (hix : s.index name = .ok ix) (hlimit : 0 < limit)
    (hfits : (s.listing name keys).length ≤ 2 ^ 64)
    (hmore : limit < (s.listingFrom name keys state).length) :
    ∃ behind, s.indexPage name keys limit state =
        .ok ((s.listingFrom name keys state).take limit, some behind) ∧
      s.listingFrom name keys (some behind) = (s.listingFrom name keys state).drop limit := by
  have htake : ((s.listingFrom name keys state).take limit).length = limit :=
    List.length_take_of_le (Nat.le_of_lt hmore)
  have hrest : ((s.listingFrom name keys state).drop limit).isEmpty = false := by
    rw [List.isEmpty_eq_false_iff, ne_eq, List.drop_eq_nil_iff]
    omega
  refine ⟨encodeState (decodeState state + limit), ?_, ?_⟩
  · rw [indexPage_eq hix hlimit, hrest, htake]
    rfl
  · rw [listingFrom, List.length_drop] at hmore
    rw [listingFrom, decodeState_encodeState (by omega), listingFrom, List.drop_drop]

/-- From a state on, the pages are the chunks of the entries that are left, or one empty page. -/
theorem indexPages_from (hix : s.index name = .ok ix) (hlimit : 0 < limit)
    (hfits : (s.listing name keys).length ≤ 2 ^ 64) (state : Option PageState) :
    s.IndexPages name keys limit state
      (if s.listingFrom name keys state = [] then [[]]
        else chunks limit (s.listingFrom name keys state)) := by
  induction hlength : (s.listingFrom name keys state).length using Nat.strongRecOn
    generalizing state with
  | ind length ih =>
    by_cases hmore : limit < (s.listingFrom name keys state).length
    · obtain ⟨behind, hpage, hbehind⟩ := indexPage_next hix hlimit hfits hmore
      have hne : s.listingFrom name keys state ≠ [] := List.ne_nil_of_length_pos (by omega)
      have hne' : (s.listingFrom name keys state).drop limit ≠ [] := by
        rw [ne_eq, List.drop_eq_nil_iff]
        omega
      have hrest := ih _ (by rw [hbehind, List.length_drop]; omega) (some behind) rfl
      rw [hbehind, if_neg hne'] at hrest
      rw [if_neg hne, chunks_of_ne_nil hlimit hne]
      exact .next hpage hrest
    · have hpage := indexPage_last hix hlimit (Nat.le_of_not_lt hmore)
      split
      · next hnil => exact .last (hnil ▸ hpage)
      · next hne =>
        rw [chunks_of_length_le hlimit hne (Nat.le_of_not_lt hmore)]
        exact .last hpage

theorem exists_indexPages (hix : s.index name = .ok ix) (hlimit : 0 < limit)
    (hfits : (s.listing name keys).length ≤ 2 ^ 64) :
    ∃ pages, s.IndexPages name keys limit none pages ∧
      (∀ page ∈ pages, page.length ≤ limit) ∧ pages.flatten = s.listing name keys ∧
      pages.length ≤ (s.listing name keys).length + 1 := by
  refine ⟨_, indexPages_from hix hlimit hfits none, ?_⟩
  rw [listingFrom_none]
  split
  · next hnil => simp [hnil]
  · exact ⟨fun _ => length_le_of_mem_chunks, chunks_flatten hlimit _,
      Nat.le_succ_of_le (length_chunks_le _)⟩

end Store
end TableMill
