import Mathlib.Data.List.Sort
import TableMill.Proofs.IndexPages
import TableMill.Proofs.NestedLoop
import TableMill.Proofs.Reading

/-!
# Listing right rows

The entries of an index under some keys are read page by page and collected by row id. As
every row id stands under one key, no entry is lost on the way.
-/

namespace TableMill

theorem length_le_of_nodup {ids : List Int64} (h : ids.Nodup) : ids.length ≤ 2 ^ 64 := by
  have hinj : Function.Injective fun n : Int64 => n.toUInt64.toNat :=
    fun a b hab => by simpa using congrArg UInt64.toInt64 (UInt64.toNat_inj.1 hab)
  have hsub : ids.map (fun n => n.toUInt64.toNat) ⊆ List.range (2 ^ 64) := by
    intro x hx
    obtain ⟨n, -, rfl⟩ := List.mem_map.1 hx
    exact List.mem_range.2 n.toUInt64.toNat_lt
  have hle := (List.subperm_of_subset (h.map hinj) hsub).length_le
  rwa [List.length_map, List.length_range] at hle

/-- Row ids with their keys, each id once and in rising order. -/
def Collected (found : List (Int64 × String)) : Prop :=
  found.Pairwise fun a b => a.1 < b.1

section SetKey

variable {rowid : Int64} {key : String} {found : List (Int64 × String)}

theorem mem_setKey (h : Collected found) {x : Int64 × String} :
    x ∈ setKey rowid key found ↔ x = (rowid, key) ∨ (x ∈ found ∧ x.1 ≠ rowid) := by
  induction found with
  | nil => simp [setKey]
  | cons e rest ih =>
    obtain ⟨n, k⟩ := e
    obtain ⟨hn, hrest⟩ := List.pairwise_cons.1 h
    have hother : rowid ≤ n → ∀ y ∈ rest, y.1 ≠ rowid := by
      intro hle y hy
      exact (Int64.ne_of_lt (Int64.lt_of_le_of_lt hle (hn y hy))).symm
    simp only [setKey]
    split
    · next hlt =>
      have hne : n ≠ rowid := (Int64.ne_of_lt hlt).symm
      have hrest' := hother (Int64.le_of_lt hlt)
      simp only [List.mem_cons]
      constructor
      · rintro (h | rfl | h)
        · exact Or.inl h
        · exact Or.inr ⟨Or.inl rfl, hne⟩
        · exact Or.inr ⟨Or.inr h, hrest' x h⟩
      · rintro (h | ⟨h | h, -⟩)
        · exact Or.inl h
        · exact Or.inr (Or.inl h)
        · exact Or.inr (Or.inr h)
    · split
      · next heq =>
        subst heq
        have hrest' := hother (Int64.le_refl _)
        simp only [List.mem_cons]
        constructor
        · rintro (h | h)
          · exact Or.inl h
          · exact Or.inr ⟨Or.inr h, hrest' x h⟩
        · rintro (h | ⟨rfl | h, hx⟩)
          · exact Or.inl h
          · exact absurd rfl hx
          · exact Or.inr h
      · next hne =>
        simp only [List.mem_cons, ih hrest]
        constructor
        · rintro (rfl | h | ⟨h, hx⟩)
          · exact Or.inr ⟨Or.inl rfl, fun h => hne h.symm⟩
          · exact Or.inl h
          · exact Or.inr ⟨Or.inr h, hx⟩
        · rintro (h | ⟨h | h, hx⟩)
          · exact Or.inr (Or.inl h)
          · exact Or.inl h
          · exact Or.inr (Or.inr ⟨h, hx⟩)

theorem collected_setKey (h : Collected found) : Collected (setKey rowid key found) := by
  unfold Collected at *
  induction found with
  | nil => simp [setKey]
  | cons e rest ih =>
    obtain ⟨n, k⟩ := e
    obtain ⟨hn, hrest⟩ := List.pairwise_cons.1 h
    simp only [setKey]
    split
    · next hlt =>
      refine List.pairwise_cons.2 ⟨fun x hx => ?_, h⟩
      rcases List.mem_cons.1 hx with rfl | hx
      · exact hlt
      · exact Int64.lt_trans hlt (hn x hx)
    · split
      · next heq => exact List.pairwise_cons.2 ⟨fun x hx => heq ▸ hn x hx, hrest⟩
      · next hlt hne =>
        refine List.pairwise_cons.2 ⟨fun x hx => ?_, ih hrest⟩
        rcases (mem_setKey hrest).1 hx with rfl | ⟨hx, -⟩
        · rw [Int64.lt_iff_toInt_lt] at hlt ⊢
          have hint : rowid.toInt ≠ n.toInt := fun h => hne (Int64.toInt_inj.1 h)
          show n.toInt < rowid.toInt
          omega
        · exact hn x hx

end SetKey

def collect (entries : List Entry) (found : List (Int64 × String)) : List (Int64 × String) :=
  entries.foldl (fun found e => setKey e.rowid e.key found) found

theorem collect_append (entries more : List Entry) (found : List (Int64 × String)) :
    collect (entries ++ more) found = collect more (collect entries found) := by
  simp [collect]

theorem collected_collect {found : List (Int64 × String)} (h : Collected found)
    (entries : List Entry) : Collected (collect entries found) := by
  induction entries generalizing found with
  | nil => exact h
  | cons e rest ih => exact ih (collected_setKey h)

theorem mem_collect {entries : List Entry} (hnodup : (entries.map Entry.rowid).Nodup)
    {found : List (Int64 × String)} (h : Collected found)
    (hnew : ∀ x ∈ found, x.1 ∉ entries.map Entry.rowid) {x : Int64 × String} :
    x ∈ collect entries found ↔ x ∈ found ∨ ∃ e ∈ entries, x = (e.rowid, e.key) := by
  induction entries generalizing found with
  | nil => simp [collect]
  | cons e rest ih =>
    obtain ⟨he, hrest⟩ := List.nodup_cons.1 hnodup
    have hnew' : ∀ y ∈ setKey e.rowid e.key found, y.1 ∉ rest.map Entry.rowid := by
      intro y hy
      rcases (mem_setKey h).1 hy with rfl | ⟨hy, -⟩
      · exact he
      · exact fun hm => hnew y hy (List.mem_cons_of_mem _ hm)
    have hset : collect (e :: rest) found = collect rest (setKey e.rowid e.key found) := rfl
    rw [hset, ih hrest (collected_setKey h) hnew', mem_setKey h]
    constructor
    · rintro ((rfl | ⟨hx, -⟩) | ⟨f, hf, rfl⟩)
      · exact Or.inr ⟨e, List.mem_cons_self, rfl⟩
      · exact Or.inl hx
      · exact Or.inr ⟨f, List.mem_cons_of_mem _ hf, rfl⟩
    · rintro (hx | ⟨f, hf, rfl⟩)
      · refine Or.inl (Or.inr ⟨hx, fun heq => hnew x hx ?_⟩)
        rw [heq]
        exact List.mem_cons_self
      · rcases List.mem_cons.1 hf with rfl | hf
        · exact Or.inl (Or.inl rfl)
        · exact Or.inr ⟨f, hf, rfl⟩

namespace StoredIndex

variable {ix : StoredIndex}

def entriesUnder (ix : StoredIndex) (keys : List String) : List Entry :=
  keys.flatMap (Store.entriesOf ix)

theorem map_rowid_entriesOf (key : String) :
    (Store.entriesOf ix key).map Entry.rowid = ix.idsOf key := by
  simp [Store.entriesOf, idsOf, Function.comp_def]

theorem mem_entriesOf {key : String} {e : Entry} :
    e ∈ Store.entriesOf ix key ↔ e.key = key ∧ e.rowid ∈ ix.idsOf key := by
  obtain ⟨k, n⟩ := e
  simp only [Store.entriesOf, idsOf, List.mem_map, Entry.mk.injEq]
  constructor
  · rintro ⟨m, hm, rfl, rfl⟩
    exact ⟨rfl, hm⟩
  · rintro ⟨rfl, hn⟩
    exact ⟨n, hn, rfl, rfl⟩

theorem mem_entriesUnder {keys : List String} {e : Entry} :
    e ∈ ix.entriesUnder keys ↔ e.key ∈ keys ∧ e.rowid ∈ ix.idsOf e.key := by
  simp only [entriesUnder, List.mem_flatMap, mem_entriesOf]
  constructor
  · rintro ⟨key, hkey, rfl, hn⟩
    exact ⟨hkey, hn⟩
  · rintro ⟨hkey, hn⟩
    exact ⟨e.key, hkey, rfl, hn⟩

def SingleUnder (ix : StoredIndex) (keys : List String) : Prop :=
  ∀ key ∈ keys, ∀ key' ∈ keys, ∀ rowid, rowid ∈ ix.idsOf key → rowid ∈ ix.idsOf key' → key = key'

-- Only the listed row ids are tried: there are finitely many words, so they could all be tried.
instance (ix : StoredIndex) (keys : List String) : Decidable (ix.SingleUnder keys) :=
  letI (key key' : String) :
      Decidable (∀ rowid ∈ ix.idsOf key, rowid ∈ ix.idsOf key' → key = key') :=
    List.decidableBAll _ _
  inferInstanceAs (Decidable (∀ key ∈ keys, ∀ key' ∈ keys, ∀ rowid ∈ ix.idsOf key,
    rowid ∈ ix.idsOf key' → key = key'))

theorem Single.under (h : ix.Single) (keys : List String) : ix.SingleUnder keys :=
  fun key _ key' _ rowid => h key key' rowid

theorem nodup_entriesUnder (hids : ∀ key, (ix.idsOf key).Nodup) {keys : List String}
    (hsingle : ix.SingleUnder keys) (hkeys : keys.Nodup) :
    ((ix.entriesUnder keys).map Entry.rowid).Nodup := by
  induction keys with
  | nil => simp [entriesUnder]
  | cons key rest ih =>
    obtain ⟨hkey, hrest⟩ := List.nodup_cons.1 hkeys
    have hsingle' : ix.SingleUnder rest := fun k hk k' hk' =>
      hsingle k (List.mem_cons_of_mem _ hk) k' (List.mem_cons_of_mem _ hk')
    have hcons : ix.entriesUnder (key :: rest) =
        Store.entriesOf ix key ++ ix.entriesUnder rest := List.flatMap_cons
    rw [hcons, List.map_append, map_rowid_entriesOf]
    refine List.nodup_append.2 ⟨hids key, ih hsingle' hrest, ?_⟩
    rintro n hn m hm rfl
    obtain ⟨e, he, rfl⟩ := List.mem_map.1 hm
    obtain ⟨hek, hem⟩ := mem_entriesUnder.1 he
    exact hkey (hsingle key List.mem_cons_self e.key (List.mem_cons_of_mem _ hek) _ hn hem ▸ hek)

theorem length_entriesUnder_le (hids : ∀ key, (ix.idsOf key).Nodup) {keys : List String}
    (hsingle : ix.SingleUnder keys) (hkeys : keys.Nodup) :
    (ix.entriesUnder keys).length ≤ 2 ^ 64 := by
  rw [← List.length_map (f := Entry.rowid)]
  exact length_le_of_nodup (nodup_entriesUnder hids hsingle hkeys)

def keysOf (ix : StoredIndex) (keys : List String) : List (Int64 × String) :=
  collect (ix.entriesUnder keys) []

theorem collected_keysOf (keys : List String) : Collected (ix.keysOf keys) :=
  collected_collect List.Pairwise.nil _

theorem mem_keysOf (hids : ∀ key, (ix.idsOf key).Nodup) {keys : List String}
    (hsingle : ix.SingleUnder keys) (hkeys : keys.Nodup) {rowid : Int64} {key : String} :
    (rowid, key) ∈ ix.keysOf keys ↔ key ∈ keys ∧ rowid ∈ ix.idsOf key := by
  unfold keysOf
  rw [mem_collect (nodup_entriesUnder hids hsingle hkeys) List.Pairwise.nil (by simp)]
  constructor
  · rintro (h | ⟨e, he, heq⟩)
    · simp at h
    · obtain ⟨rfl, rfl⟩ := Prod.mk.inj heq
      exact mem_entriesUnder.1 he
  · intro h
    exact Or.inr ⟨⟨key, rowid⟩, mem_entriesUnder.2 h, rfl⟩

theorem lookup_eq_some_iff {found : List (Int64 × String)} (h : Collected found) {rowid : Int64}
    {key : String} : List.lookup rowid found = some key ↔ (rowid, key) ∈ found := by
  induction found with
  | nil => simp
  | cons e rest ih =>
    obtain ⟨n, k⟩ := e
    obtain ⟨hn, hrest⟩ := List.pairwise_cons.1 h
    by_cases hr : rowid = n
    · subst hr
      simp only [List.lookup_cons_self, Option.some.injEq, List.mem_cons, Prod.mk.injEq, true_and]
      constructor
      · rintro rfl
        exact Or.inl rfl
      · rintro (rfl | hm)
        · rfl
        · exact absurd (hn _ hm) Int64.lt_irrefl
    · have hb : (rowid == n) = false := by simpa using hr
      simp only [List.lookup_cons, hb, ih hrest, List.mem_cons, Prod.mk.injEq, hr, false_and,
        false_or]

end StoredIndex

namespace Join

open ReadM

variable {σ : Type} {I : σ → Prop} {b : Backend σ} {s : Store} {left : String} {j : Join}
  {ix : StoredIndex}

/-- Reading goes through the pages and collects the entries of all of them. -/
theorem listFrom_yields (hb : b.Answers I s left j.lookup.right.name j.lookup.indexName)
    {keys : List String} {state : Option PageState} {pages : List (List Entry)}
    (hpages : s.IndexPages j.lookup.indexName keys j.lookup.indexPageSize state pages) (fuel : Nat)
    (hfuel : pages.length ≤ fuel) (found : List (Int64 × String)) :
    Yields I (j.listFrom b keys fuel state found) (.ok (collect pages.flatten found)) [] := by
  have hread {state : Option PageState} {page : List Entry} {behind : Option PageState}
      (h : s.indexPage j.lookup.indexName keys j.lookup.indexPageSize state = .ok (page, behind)) :
      Yields I (ReadM.call (b.indexPage j.lookup.indexName keys j.lookup.indexPageSize state))
        (.ok (page, behind)) [] :=
    yields_call fun m hm => by
      obtain ⟨m', hm', hread⟩ := hb.indexPage hm keys j.lookup.indexPageSize state
      exact ⟨m', hm', hread.trans (congrArg (·, m') h)⟩
  induction hpages generalizing fuel found with
  | last hpage =>
    rw [List.length_singleton] at hfuel
    obtain ⟨fuel, rfl⟩ : ∃ k, fuel = k + 1 := ⟨fuel - 1, by omega⟩
    rw [List.flatten_singleton]
    exact yields_seq (hread hpage) (yields_pure _)
  | next hpage _ ih =>
    rw [List.length_cons] at hfuel
    obtain ⟨fuel, rfl⟩ : ∃ k, fuel = k + 1 := ⟨fuel - 1, by omega⟩
    rw [List.flatten_cons, collect_append]
    exact yields_seq (hread hpage) (ih fuel (by omega) _)

/-- All entries under the keys are collected, whatever the size of a page. -/
theorem list_collects (hb : b.Answers I s left j.lookup.right.name j.lookup.indexName)
    (hix : s.index j.lookup.indexName = .ok ix) (hsize : 0 < j.lookup.indexPageSize)
    {keys : List String} (hlength : (ix.entriesUnder keys).length ≤ 2 ^ 64) :
    Yields I (j.list b keys) (.ok (ix.keysOf keys)) [] := by
  have hlisting : s.listing j.lookup.indexName keys = ix.entriesUnder keys := by
    rw [Store.listing, Store.get?_of_index hix]
    rfl
  have hbound : Yields I (ReadM.peek (b.listed j.lookup.indexName keys))
      (.ok (ix.entriesUnder keys).length) [] := by
    refine yields_peek fun m hm => ?_
    rw [hb.listed hm, hlisting]
  obtain ⟨pages, hpages, -, hflatten, hcount⟩ :=
    Store.exists_indexPages hix hsize (hlisting ▸ hlength)
  have hlist := listFrom_yields hb hpages _ (hlisting ▸ hcount) []
  rw [hflatten, hlisting] at hlist
  exact yields_seq hbound hlist

theorem list_yields (hb : b.Answers I s left j.lookup.right.name j.lookup.indexName)
    (hix : s.index j.lookup.indexName = .ok ix) (hsize : 0 < j.lookup.indexPageSize)
    (hids : ∀ key, (ix.idsOf key).Nodup) {keys : List String} (hsingle : ix.SingleUnder keys)
    (hkeys : keys.Nodup) : Yields I (j.list b keys) (.ok (ix.keysOf keys)) [] :=
  list_collects hb hix hsize (StoredIndex.length_entriesUnder_le hids hsingle hkeys)

end Join
end TableMill
