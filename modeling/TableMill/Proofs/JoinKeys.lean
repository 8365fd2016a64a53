import Mathlib.Data.List.TakeWhile
import TableMill.Proofs.Accepted
import TableMill.Proofs.KeyOrder
import TableMill.Proofs.TypedPages

/-!
# Keys of left rows

The columns that a lookup joins on are checked against the columns of its index, which name a
field once however many components it has. If every component has a field of its own, the join
columns belong to the components by position, with the same types, and a left row has the key of
the record that its join columns make.
-/

namespace TableMill

namespace Columns

def Apart (cs : Columns) : Prop :=
  cs.Pairwise fun c d => ¬ (c.table = d.table ∧ c.name = d.name)

variable {cs more : Columns} {c : Column}

theorem has_eq_false_iff {table name : String} :
    cs.has table name = false ↔ ∀ d ∈ cs, ¬ (d.table = table ∧ d.name = name) := by
  rw [Bool.eq_false_iff, ne_eq, has_iff]
  push Not
  rfl

theorem addNew_sublist (cs : Columns) (c : Column) : (cs.addNew c).Sublist (cs ++ [c]) := by
  unfold addNew
  split
  · exact List.sublist_append_left _ _
  · exact List.Sublist.refl _

theorem foldl_addNew_sublist (cs more : Columns) :
    (more.foldl addNew cs).Sublist (cs ++ more) := by
  induction more generalizing cs with
  | nil => simp
  | cons c rest ih =>
    have hstep := (addNew_sublist cs c).append_right rest
    rw [List.append_assoc, List.singleton_append] at hstep
    exact (ih _).trans hstep

theorem apart_addNew (h : cs.Apart) (c : Column) : (cs.addNew c).Apart := by
  unfold addNew
  split
  · exact h
  · next hnew =>
    refine List.pairwise_append.2 ⟨h, List.pairwise_singleton _ _, fun d hd e he => ?_⟩
    rw [List.mem_singleton.1 he]
    exact has_eq_false_iff.1 (Bool.eq_false_iff.2 hnew) d hd

theorem apart_foldl_addNew (h : cs.Apart) (more : Columns) : (more.foldl addNew cs).Apart := by
  induction more generalizing cs with
  | nil => exact h
  | cons c rest ih => exact ih (apart_addNew h c)

theorem foldl_addNew_of_apart (h : (cs ++ more).Apart) : more.foldl addNew cs = cs ++ more := by
  induction more generalizing cs with
  | nil => simp
  | cons c rest ih =>
    obtain ⟨-, -, hcross⟩ := List.pairwise_append.1 h
    have hnew : cs.has c.table c.name = false :=
      has_eq_false_iff.2 fun d hd => hcross d hd c List.mem_cons_self
    have hstep : cs.addNew c = cs ++ [c] := by simp [addNew, hnew]
    have hrest : ((cs ++ [c]) ++ rest).Apart := by simpa using h
    rw [List.foldl_cons, hstep, ih hrest, List.append_assoc, List.singleton_append]

/-- Collecting columns leaves none out if and only if they are apart. -/
theorem ofList_eq_iff : ofList cs = cs ↔ cs.Apart := by
  constructor
  · intro h
    rw [← h]
    exact apart_foldl_addNew List.Pairwise.nil cs
  · exact fun h => foldl_addNew_of_apart h

theorem length_ofList_eq_iff : (ofList cs).length = cs.length ↔ cs.Apart := by
  rw [← ofList_eq_iff]
  exact ⟨(foldl_addNew_sublist [] cs).eq_of_length, congrArg List.length⟩

end Columns

namespace Index

def columnOf (table : String) (c : Component) : Column :=
  ⟨table, c.field, c.kind⟩

variable {ix : Index} {table : String}

theorem apart_columnOf {cs : List Component} :
    Columns.Apart (cs.map (columnOf table)) ↔ (cs.map Component.field).Nodup := by
  rw [Columns.Apart, List.pairwise_map, List.nodup_iff_pairwise_ne, List.pairwise_map]
  simp [columnOf]

/-- The key has a column for every component if and only if no field is repeated. -/
theorem length_columns_eq_iff : (ix.columns table).length = ix.components.length ↔
    (ix.components.map Component.field).Nodup := by
  rw [← apart_columnOf, ← Columns.length_ofList_eq_iff, List.length_map]
  rfl

theorem columns_of_nodup (h : (ix.components.map Component.field).Nodup) :
    ix.columns table = ix.components.map (columnOf table) :=
  Columns.ofList_eq_iff.2 (apart_columnOf.2 h)

end Index

namespace Lookup

theorem checkKinds_eq_ok {ls rs : Columns} (h : checkKinds ls rs = .ok ())
    (hlength : ls.length = rs.length) : List.Forall₂ (fun l r => l.kind = r.kind) ls rs := by
  induction ls generalizing rs with
  | nil =>
    obtain rfl := List.length_eq_zero_iff.1 hlength.symm
    exact .nil
  | cons l ls ih =>
    cases rs with
    | nil => cases hlength
    | cons r rs =>
      rw [checkKinds] at h
      split at h
      · next hkind => exact .cons hkind (ih h (Nat.succ.inj hlength))
      · cases h

/-- A join column has the alias of the left rows, and neither alias nor name has a dot. -/
structure JoinColumn (leftTable : String) (left : Columns) (c : Column) : Prop where
  mem : c ∈ left
  table_eq : c.table = leftTable
  table_dotless : '.' ∉ c.table.toList
  name_dotless : '.' ∉ c.name.toList

theorem not_mem_of_splitAt? {mark : Char} {cs front back : List Char}
    (h : splitAt? mark cs = some (front, back)) : mark ∉ front := by
  unfold splitAt? at h
  split at h
  · cases h
  · obtain rfl := congrArg Prod.fst (Option.some.inj h)
    intro hmark
    simpa using List.mem_takeWhile_imp hmark

theorem mem_of_mem_trimBlanks {cs : List Char} {c : Char} (h : c ∈ Text.trimBlanks cs) : c ∈ cs := by
  have hback := (List.dropWhile_suffix Text.isBlank).subset (List.mem_reverse.1 h)
  exact (List.dropWhile_suffix Text.isBlank).subset (List.mem_reverse.1 hback)

theorem joinColumn_spec {source leftTable : String} {left : Columns} {part : List Char} {c : Column}
    (h : joinColumn source leftTable left part = .ok c) : JoinColumn leftTable left c := by
  unfold joinColumn at h
  split at h
  · cases h
  · next table name hsplit =>
    split at h
    · cases h
    · next hdot =>
      dsimp only at h
      split at h
      · cases h
      · next htable =>
        split at h
        · cases h
        · next found hfound =>
          obtain rfl := Except.ok.inj h
          obtain ⟨hmem, ht, hn⟩ := Columns.at?_eq_some hfound
          refine ⟨hmem, ht.trans (not_not.1 htable), ?_, ?_⟩
          · rw [ht, String.toList_ofList]
            exact fun hc => not_mem_of_splitAt? hsplit (mem_of_mem_trimBlanks hc)
          · rw [hn, String.toList_ofList]
            exact fun hc => hdot (by simpa using mem_of_mem_trimBlanks hc)

theorem joinColumns_spec {source leftTable : String} {left columns : Columns}
    (h : joinColumns source leftTable left = .ok columns) :
    ∀ c ∈ columns, JoinColumn leftTable left c := by
  unfold joinColumns at h
  refine foldlM_preserves (P := fun cs => ∀ c ∈ cs, JoinColumn leftTable left c)
    (fun cs part cs' hcs hstep => ?_) (List.forall_mem_nil _) h
  obtain ⟨c, hc, hpush⟩ := bind_eq_ok.1 hstep
  unfold Columns.push at hpush
  split at hpush
  · cases hpush
  · obtain rfl := Except.ok.inj hpush
    intro d hd
    rcases List.mem_append.1 hd with hd | hd
    · exact hcs d hd
    · exact List.mem_singleton.1 hd ▸ joinColumn_spec hc

end Lookup

/-! ## The key of a left row -/

theorem Component.noKey_of_encode {c : Component} {v : Value} (hkind : v.kind = c.kind)
    {e : TableError} (h : c.encode v = .error e) : ∃ fault, e = .noKey fault := by
  unfold encode at h
  rw [if_neg (not_not.2 hkind)] at h
  split at h
  · unfold encodeInt at h
    dsimp only at h
    split at h
    · exact ⟨_, (Except.error.inj h).symm⟩
    · cases h
  · unfold encodeFloat at h
    split at h
    · exact ⟨_, (Except.error.inj h).symm⟩
    · split at h
      · exact ⟨_, (Except.error.inj h).symm⟩
      · cases h
  · cases h
  · cases h
  · cases h
  · unfold encodeTime at h
    dsimp only at h
    split at h
    · exact ⟨_, (Except.error.inj h).symm⟩
    · cases h

theorem Component.noKey_of_chunk {c : Component} {row : Record} {v : Value}
    (hv : Assoc.get? row c.field = some v) (hkind : v.kind = c.kind) {e : TableError}
    (h : c.chunk row = .error e) : ∃ fault, e = .noKey fault := by
  simp only [chunk, hv] at h
  cases hencode : c.encode v with
  | error e' =>
    rw [hencode] at h
    obtain rfl := Except.error.inj h
    exact noKey_of_encode hkind hencode
  | ok s =>
    rw [hencode] at h
    cases h

namespace Lookup

/-- A record gives the field of every index component the value that a left row has in the join
column at the same place. -/
def Gives (page : RowPage) (i : Nat) (record : Record) : Columns → List Component → Prop :=
  List.Forall₂ fun c k => ∃ v, page.value i c.table c.name = .ok v ∧
    Assoc.get? record k.field = some v

variable {page : RowPage} {i : Nat} {ls : Columns} {ks : List Component}

/-- Two such records give the components the same chunks. -/
theorem Gives.chunks_eq {record record' : Record} (h : Gives page i record ls ks)
    (h' : Gives page i record' ls ks) :
    (ks.mapM fun k => k.chunk record) = ks.mapM fun k => k.chunk record' := by
  unfold Gives at h h'
  induction h with
  | nil => rfl
  | @cons c k ls ks hhead _ ih =>
    cases h' with
    | cons hhead' htail' =>
      obtain ⟨v, hv, hget⟩ := hhead
      obtain ⟨v', hv', hget'⟩ := hhead'
      obtain rfl : v = v' := Except.ok.inj (hv.symm.trans hv')
      have hchunk : k.chunk record = k.chunk record' := by
        simp only [Component.chunk, hget, hget']
      rw [List.mapM_cons, List.mapM_cons, hchunk, ih htail']

theorem Gives.congr {record record' : Record} (h : Gives page i record ls ks)
    (heq : ∀ k ∈ ks, Assoc.get? record' k.field = Assoc.get? record k.field) :
    Gives page i record' ls ks := by
  unfold Gives at h ⊢
  induction h with
  | nil => exact .nil
  | cons hhead _ ih =>
    obtain ⟨v, hv, hget⟩ := hhead
    exact .cons ⟨v, hv, (heq _ List.mem_cons_self).trans hget⟩
      (ih fun k hk => heq k (List.mem_cons_of_mem _ hk))

/-- If no field is repeated, the values of the join columns make such a record. -/
theorem gives_of_keyRecord (hfields : (ks.map Component.field).Nodup)
    (hlength : ls.length = ks.length)
    (hvalues : ∀ c ∈ ls, ∃ v, page.value i c.table c.name = .ok v) :
    ∃ row, keyRecord page i ls ks = .ok row ∧ row.map Prod.fst = ks.map Component.field ∧
      Gives page i row ls ks := by
  induction ls generalizing ks with
  | nil =>
    obtain rfl := List.length_eq_zero_iff.1 hlength.symm
    exact ⟨[], rfl, rfl, .nil⟩
  | cons c ls ih =>
    cases ks with
    | nil => cases hlength
    | cons k ks =>
      obtain ⟨hk, hks⟩ := List.nodup_cons.1 hfields
      obtain ⟨v, hv⟩ := hvalues c List.mem_cons_self
      obtain ⟨row, hrow, hnames, hgives⟩ := ih hks (Nat.succ.inj hlength)
        fun d hd => hvalues d (List.mem_cons_of_mem _ hd)
      refine ⟨(k.field, v) :: row, bind_eq_ok.2 ⟨v, hv, bind_eq_ok.2 ⟨row, hrow, rfl⟩⟩,
        congrArg (k.field :: ·) hnames, .cons ⟨v, hv, ?_⟩ (hgives.congr fun k' hk' => ?_)⟩
      · simp [Assoc.get?_cons]
      · have hne : k.field ≠ k'.field := fun heq => hk (heq ▸ List.mem_map_of_mem hk')
        simp [Assoc.get?_cons, hne]

/-- The key of a left row is the key of the record that its join columns make. -/
theorem key_eq {l : Lookup} (hfields : (l.index.components.map Component.field).Nodup)
    (hlength : l.leftColumns.length = l.index.components.length)
    (hvalues : ∀ c ∈ l.leftColumns, ∃ v, page.value i c.table c.name = .ok v) :
    ∃ record, Gives page i record l.leftColumns l.index.components ∧
      l.key page i = l.index.key record := by
  obtain ⟨row, hrow, hnames, hgives⟩ := gives_of_keyRecord hfields hlength hvalues
  have hkeyed : Assoc.Keyed row := by
    rw [Assoc.Keyed, hnames]
    exact hfields
  refine ⟨Assoc.ofList row, hgives.congr fun k _ => ?_, by simp [key, hrow, bind, Except.bind]⟩
  rw [Assoc.ofList, Assoc.get?_merge hkeyed]
  exact Option.or_none

theorem Gives.key_eq_key {l : Lookup} {record record' : Record}
    (h : Gives page i record l.leftColumns l.index.components)
    (h' : Gives page i record' l.leftColumns l.index.components) :
    l.index.key record = l.index.key record' := by
  simp only [Index.key, h.chunks_eq h']

theorem Gives.noKey {l : Lookup} {record : Record}
    (h : Gives page i record l.leftColumns l.index.components)
    (hkinds : List.Forall₂ (fun c k => ∀ v, page.value i c.table c.name = .ok v → v.kind = k.kind)
      l.leftColumns l.index.components) {e : TableError} (he : l.index.key record = .error e) :
    ∃ fault, e = .noKey fault := by
  have hchunks : (l.index.components.mapM fun k => k.chunk record) = .error e := by
    cases hchunks : l.index.components.mapM fun k => k.chunk record with
    | error e' =>
      simp only [Index.key, hchunks] at he
      exact congrArg Except.error (Except.error.inj he)
    | ok chunks =>
      simp only [Index.key, hchunks] at he
      cases he
  obtain ⟨k, hk, hchunk⟩ := mem_of_mapM_eq_error hchunks
  obtain ⟨n, hn, rfl⟩ := List.getElem_of_mem hk
  obtain ⟨hlength, hget⟩ := List.forall₂_iff_get.1 h
  obtain ⟨v, hv, hfield⟩ := hget n (hlength ▸ hn) hn
  exact Component.noKey_of_chunk hfield ((List.forall₂_iff_get.1 hkinds).2 n (hlength ▸ hn) hn v hv)
    hchunk

/-- What a checked lookup joins on. The join columns are as many as the components of the index
if and only if no field of the index is repeated. Then they have the types of the components by
position, and on every filled page that has them every row has the key of the record that gives
the fields of the components the values of the join columns, by position; only the encoding of a
value fails. -/
theorem key_by_position {leftTable : String} {left : Columns} {right : Table} {s : Source}
    {l : Lookup} (h : ofSource leftTable left right s = .ok l) :
    (l.leftColumns.length = l.index.components.length ↔
      (l.index.components.map Component.field).Nodup) ∧
    ((l.index.components.map Component.field).Nodup →
      List.Forall₂ (fun c k => c.kind = k.kind) l.leftColumns l.index.components ∧
      ∀ (columns : Columns) (page : RowPage) (i : Nat), columns.Distinct →
        RowPage.Built columns page → l.leftColumns ⊆ columns → i < page.rowCount →
        (∃ record, Gives page i record l.leftColumns l.index.components) ∧
        (∀ record, Gives page i record l.leftColumns l.index.components →
          l.key page i = l.index.key record) ∧
        ∀ e, l.key page i = .error e → ∃ fault, e = .noKey fault) := by
  obtain ⟨-, -, -, -, hjoin, hlength, hkinds⟩ := ofSource_eq_ok h
  refine ⟨hlength ▸ Index.length_columns_eq_iff, fun hfields => ?_⟩
  have hlength' := hlength.trans (Index.length_columns_eq_iff.2 hfields)
  have hkinds' : List.Forall₂ (fun c k => c.kind = k.kind) l.leftColumns l.index.components := by
    have hforall := checkKinds_eq_ok hkinds hlength
    rw [Index.columns_of_nodup hfields, List.forall₂_map_right_iff] at hforall
    exact hforall
  refine ⟨hkinds', fun columns page i hdistinct hpage hsubset hi => ?_⟩
  have hvalue : ∀ c ∈ l.leftColumns, ∃ v, page.value i c.table c.name = .ok v ∧ v.kind = c.kind :=
    fun c hc => hpage.typed.value_eq_ok hdistinct (hsubset hc)
      (joinColumns_spec hjoin c hc).table_dotless (joinColumns_spec hjoin c hc).name_dotless hi
  obtain ⟨record, hgives, hkey⟩ := key_eq hfields hlength' fun c hc =>
    let ⟨v, hv, _⟩ := hvalue c hc
    ⟨v, hv⟩
  refine ⟨⟨record, hgives⟩, fun record' hgives' => hkey.trans (hgives.key_eq_key hgives'),
    fun e he => hgives.noKey ?_ (hkey.symm.trans he)⟩
  have hvalues : List.Forall₂ (fun c k => c ∈ l.leftColumns ∧ c.kind = k.kind) l.leftColumns
      l.index.components := by
    refine List.forall₂_iff_get.2 ⟨hlength', fun n hn hn' => ?_⟩
    exact ⟨List.get_mem _ _, (List.forall₂_iff_get.1 hkinds').2 n hn hn'⟩
  refine hvalues.imp fun c k ⟨hc, hkind⟩ v hv => ?_
  obtain ⟨w, hw, hwkind⟩ := hvalue c hc
  obtain rfl : v = w := Except.ok.inj (hv.symm.trans hw)
  exact hwkind.trans hkind

end Lookup

namespace ShelfSample

/-! Parcels join shelves by width and height. A second index names the width twice. -/

def parcels : Columns := [⟨"r", "width", .int⟩, ⟨"r", "height", .int⟩]

def wide : Component := .plain "wide" .int

def high : Component := .plain "high" .int

def shelves : Table :=
  ⟨"shelves", "", none, [⟨"wide", .int, "", .int 0, ""⟩, ⟨"high", .int, "", .int 0, ""⟩],
    [("idx_size", ⟨false, [wide, high]⟩), ("idx_twice", ⟨false, [wide, wide, high]⟩)]⟩

def bySize : Lookup :=
  ⟨"idx_size", parcels, false, "", none, .inner, 1, 1, shelves, ⟨false, [wide, high]⟩⟩

def byWidthTwice : Lookup :=
  ⟨"idx_twice", parcels, false, "", none, .inner, 1, 1, shelves, ⟨false, [wide, wide, high]⟩⟩

def page : RowPage := ⟨parcels, [[.int 4, .int 9]], 1⟩

theorem built_page : RowPage.Built parcels page := by
  have hpage : ((RowPage.ofColumns parcels).init 1).append [.int 4, .int 9] = .ok page := rfl
  exact (RowPage.Built.new.init 1).append hpage

theorem key_by_position_sizes :
    Lookup.ofSource "r" parcels shelves ⟨"idx_size", "r.width, r.height", false, "", "inner", 1, 1⟩ =
        .ok bySize ∧
      bySize.key page 0 = .ok "00000000000000000040000000000000000009" ∧
      (∀ record, Lookup.Gives page 0 record bySize.leftColumns bySize.index.components →
        bySize.key page 0 = bySize.index.key record) ∧
      Lookup.ofSource "r" parcels shelves
          ⟨"idx_twice", "r.width, r.height", false, "", "inner", 1, 1⟩ = .ok byWidthTwice ∧
        byWidthTwice.leftColumns.length ≠ byWidthTwice.index.components.length ∧
        byWidthTwice.key page 0 = .error (.missingKeyField "high" ["wide"]) := by
  have hsize : Lookup.ofSource "r" parcels shelves
      ⟨"idx_size", "r.width, r.height", false, "", "inner", 1, 1⟩ = .ok bySize := rfl
  have htwice : Lookup.ofSource "r" parcels shelves
      ⟨"idx_twice", "r.width, r.height", false, "", "inner", 1, 1⟩ = .ok byWidthTwice := rfl
  have hdistinct : parcels.Distinct := by
    unfold Columns.Distinct
    decide
  have hrecord := ((Lookup.key_by_position hsize).2 (by decide)).2 parcels page 0 hdistinct
    built_page (List.Subset.refl _) Nat.zero_lt_one
  have hmissing : byWidthTwice.key page 0 =
      .error (.missingKeyField "high" (["wide"].mergeSort fun a b => a ≤ b)) := rfl
  rw [List.mergeSort_singleton] at hmissing
  exact ⟨hsize, rfl, hrecord.2.1, htwice, fun h => absurd ((Lookup.key_by_position htwice).1.1 h)
    (by decide), hmissing⟩

end ShelfSample
end TableMill
