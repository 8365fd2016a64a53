import TableMill.Proofs.Listing

/-!
# The listing of an index is complete

Read page by page, whatever the size of a page, an index gives all entries under the keys: key by
key, and the row ids under a key in rising order. Where every row id stands under at most one of the
keys, the pages come to the key of every listed row id.
-/

namespace TableMill

namespace Store

variable {s : Store} {name : String} {ix : StoredIndex}

theorem Ordered.idsOf (h : s.Ordered) (hix : s.index name = .ok ix) (key : String) :
    (ix.idsOf key).Pairwise (· < ·) := by
  rw [StoredIndex.idsOf]
  cases hkey : Assoc.get? ix key with
  | none => exact List.Pairwise.nil
  | some ids => exact h.ids (get?_of_index hix) hkey

end Store

namespace Join

/-- Whatever was done to a store, following the pages of an index from the start ends. No page is
longer than the limit, and together the pages are the listing of the keys in their order, with the
row ids of each in rising order. What a join collects on the way are the entries of all pages; if
the keys are different and no row id stands under two of them, it is the key of every listed row id,
once. An offset has 64 bits, so that there may be no more entries than it counts; of different keys
without a row id in common there never are. -/
theorem listing_paged {s : Store} (hs : s.Reachable) {name : String} {ix : StoredIndex}
    (hix : s.index name = .ok ix) (keys : List String) {limit : Nat} (hlimit : 0 < limit) :
    ((s.listing name keys).length ≤ 2 ^ 64 →
      ∃ pages, s.IndexPages name keys limit none pages ∧ (∀ page ∈ pages, page.length ≤ limit) ∧
        pages.flatten = keys.flatMap (fun key => (ix.idsOf key).map (Entry.mk key)) ∧
        ∀ (j : Join) (handed : List Item), j.lookup.indexName = name →
          j.lookup.indexPageSize = limit →
          (j.list Store.backend keys).run.run ⟨s, handed⟩ =
            (.ok (collect pages.flatten []), ⟨s, handed⟩)) ∧
    (∀ key, (ix.idsOf key).Pairwise (· < ·)) ∧
    (keys.Nodup → ix.SingleUnder keys →
      (s.listing name keys).length ≤ 2 ^ 64 ∧
        ∃ found, Collected found ∧
          (∀ rowid key, (rowid, key) ∈ found ↔ key ∈ keys ∧ rowid ∈ ix.idsOf key) ∧
          ∀ (j : Join) (handed : List Item), j.lookup.indexName = name →
            j.lookup.indexPageSize = limit →
            (j.list Store.backend keys).run.run ⟨s, handed⟩ = (.ok found, ⟨s, handed⟩)) := by
  have hrising := hs.ordered.idsOf hix
  have hids : ∀ key, (ix.idsOf key).Nodup := fun key => (hrising key).imp Int64.ne_of_lt
  have hlisting : s.listing name keys = ix.entriesUnder keys := by
    rw [Store.listing, Store.get?_of_index hix]
    rfl
  have hlist (hlength : (ix.entriesUnder keys).length ≤ 2 ^ 64) (j : Join) (handed : List Item)
      (hname : j.lookup.indexName = name) (hsize : j.lookup.indexPageSize = limit) :
      (j.list Store.backend keys).run.run ⟨s, handed⟩ = (.ok (ix.keysOf keys), ⟨s, handed⟩) := by
    obtain ⟨_, rfl, hrun⟩ := list_collects (s.answers "" j.lookup.right.name j.lookup.indexName)
      (hname ▸ hix) (hsize ▸ hlimit) hlength ⟨s, handed⟩ rfl
    rwa [List.append_nil] at hrun
  refine ⟨fun hlength => ?_, hrising, fun hkeys hsingle => ?_⟩
  · obtain ⟨pages, hpages, hsizes, hflatten, -⟩ := Store.exists_indexPages hix hlimit hlength
    rw [hlisting] at hflatten hlength
    refine ⟨pages, hpages, hsizes, hflatten, ?_⟩
    rw [hflatten]
    exact hlist hlength
  · have hlength := StoredIndex.length_entriesUnder_le hids hsingle hkeys
    rw [hlisting]
    exact ⟨hlength, _, StoredIndex.collected_keysOf keys,
      fun _ _ => StoredIndex.mem_keysOf hids hsingle hkeys, hlist hlength⟩

end Join

namespace ListingSample

/-! The last page is full, and the last key has no entries. -/

def store : Store :=
  (((Store.empty.putKey "idx" "a" 2).putKey "idx" "b" 9).putKey "idx" "a" 0).putKey "idx" "a" 1

def keys : List String := ["a", "b", "c"]

def lookup : Lookup :=
  ⟨"idx", [], false, "", none, .inner, 2, 1, ⟨"right", "", none, [], []⟩, ⟨false, []⟩⟩

theorem listing_paged_full :
    store.Reachable ∧ store.index "idx" = .ok [("a", [0, 1, 2]), ("b", [9])] ∧ keys.Nodup ∧
      StoredIndex.SingleUnder [("a", [0, 1, 2]), ("b", [9])] keys ∧
      (∃ pages, store.IndexPages "idx" keys 2 none pages ∧ (∀ page ∈ pages, page.length ≤ 2) ∧
        pages.flatten = [⟨"a", 0⟩, ⟨"a", 1⟩, ⟨"a", 2⟩, ⟨"b", 9⟩]) ∧
      ∃ found, Collected found ∧ (9, "b") ∈ found ∧ ∀ j : Join, j.lookup = lookup →
        (j.list Store.backend keys).run.run ⟨store, []⟩ = (.ok found, ⟨store, []⟩) := by
  have hreachable : store.Reachable :=
    (((Store.Reachable.empty.putKey _ _ _).putKey _ _ _).putKey _ _ _).putKey _ _ _
  have hix : store.index "idx" = .ok [("a", [0, 1, 2]), ("b", [9])] := by rfl
  have hkeys : keys.Nodup := by decide
  have hsingle : StoredIndex.SingleUnder [("a", [0, 1, 2]), ("b", [9])] keys := by decide
  obtain ⟨hpaged, -, hmap⟩ := Join.listing_paged hreachable hix keys (by decide : 0 < 2)
  obtain ⟨hlength, found, hfound, hmem, hrun⟩ := hmap hkeys hsingle
  obtain ⟨pages, hpages, hsizes, hflatten, -⟩ := hpaged hlength
  refine ⟨hreachable, hix, hkeys, hsingle, ⟨pages, hpages, hsizes, hflatten⟩, found, hfound,
    (hmem 9 "b").2 (by decide), fun j hj => hrun j [] ?_ ?_⟩
  · rw [hj]
    rfl
  · rw [hj]
    rfl

end ListingSample
end TableMill
