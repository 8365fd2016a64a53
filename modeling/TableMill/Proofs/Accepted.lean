import TableMill.Node.Basic
import TableMill.Proofs.ColumnLists
import TableMill.Proofs.Selectors

/-!
# Accepted nodes

What the checks of a node and of its lookup promise about everything that runs later.
-/

namespace TableMill

theorem Table.mem_usedFields {t : Table} {f : Field} (hf : f ∈ t.fields) {p : String × String}
    (hp : p ∈ f.expr.selectors) : p ∈ t.usedFields := by
  rw [usedFields, Expr.mem_foldl_addNew]
  exact Or.inr (List.mem_flatMap.2 ⟨f, hf, Expr.mem_usedFields.2 hp⟩)

theorem Table.uniqueIndex_eq_ok {t : Table} {unique : String × Index}
    (h : t.uniqueIndex = .ok unique) : unique ∈ t.indexes ∧ unique.2.unique = true ∧
      ∀ e ∈ t.indexes, e.2.unique = true → e = unique := by
  have hfilter : (t.indexes.filter fun e => e.2.unique) = [unique] := by
    unfold uniqueIndex at h
    split at h
    · next e he => rw [he, Except.ok.inj h]
    · simp [misconfigured] at h
    · simp [misconfigured] at h
  have hmem : ∀ e, e ∈ t.indexes ∧ e.2.unique = true ↔ e = unique := fun e => by
    rw [← List.mem_filter (p := fun e : String × Index => e.2.unique), hfilter, List.mem_singleton]
  obtain ⟨hunique, hflag⟩ := (hmem unique).2 rfl
  exact ⟨hunique, hflag, fun e he hflag => (hmem e).1 ⟨he, hflag⟩⟩

namespace Lookup

theorem joinColumns_subset {source leftTable : String} {left columns : Columns}
    (h : joinColumns source leftTable left = .ok columns) : columns ⊆ left := by
  unfold joinColumns at h
  refine foldlM_preserves (P := fun cs => cs ⊆ left) (fun cs part cs' hcs hstep => ?_)
    (List.nil_subset _) h
  obtain ⟨c, hc, hpush⟩ := bind_eq_ok.1 hstep
  have hmem : c ∈ left := by
    unfold joinColumn at hc
    split at hc
    · simp [misconfigured] at hc
    · split at hc
      · simp [misconfigured] at hc
      · dsimp only at hc
        split at hc
        · simp [misconfigured] at hc
        · split at hc
          · simp [misconfigured] at hc
          · next hat => exact Except.ok.inj hc ▸ (Columns.at?_eq_some hat).1
  unfold Columns.push at hpush
  split at hpush
  · simp [misconfigured] at hpush
  · obtain rfl := Except.ok.inj hpush
    exact List.append_subset.2 ⟨hcs, by simpa using hmem⟩

theorem checkSize_pos {name : String} {given : Int} {n : Nat} (h : checkSize name given = .ok n) :
    0 < n := by
  unfold checkSize at h
  split at h
  · exact Except.ok.inj h ▸ by decide
  · split at h
    · obtain rfl := Except.ok.inj h
      omega
    · simp [misconfigured] at h

theorem readFilter_known {source : String} {right : Table} {e : Expr}
    (h : readFilter source right = .ok (some e)) {p : String × String} (hp : p ∈ e.selectors)
    (hi : p.1 ∉ Columns.constantPackages) :
    (right.columnsAs lookupAlias).has p.1 p.2 = true := by
  obtain ⟨condition, -, h⟩ := bind_eq_ok.1 h
  cases condition with
  | none => cases h
  | some e' =>
    dsimp only at h
    split at h
    · next hresolve =>
      obtain rfl := Option.some.inj (Except.ok.inj h)
      exact (Columns.resolve_eq_ok hresolve).1 p (Expr.mem_usedFields.2 hp) hi
    · simp at h

/-- What the check of a lookup promises. -/
structure Accepted (l : Lookup) (left : Columns) (right : Table) : Prop where
  right_eq : l.right = right
  indexPageSize_pos : 0 < l.indexPageSize
  rowPageSize_pos : 0 < l.rowPageSize
  leftColumns_subset : l.leftColumns ⊆ left
  filter_known {e : Expr} (he : l.filter = some e) {p : String × String} (hp : p ∈ e.selectors)
    (hi : p.1 ∉ Columns.constantPackages) : l.rightColumns.has p.1 p.2 = true

/-- Everything that the check of a lookup does, if it succeeds. -/
theorem ofSource_eq_ok {leftTable : String} {left : Columns} {right : Table} {s : Source}
    {l : Lookup} (h : ofSource leftTable left right s = .ok l) :
    l.right = right ∧
      checkSize "idx_read_batch_size" s.indexPageSize = .ok l.indexPageSize ∧
      checkSize "right_lookup_read_batch_size" s.rowPageSize = .ok l.rowPageSize ∧
      readFilter s.filter right = .ok l.filter ∧
      joinColumns s.joinOn leftTable left = .ok l.leftColumns ∧
      l.leftColumns.length = (l.index.columns right.name).length ∧
      checkKinds l.leftColumns (l.index.columns right.name) = .ok () := by
  unfold ofSource at h
  dsimp only at h
  split at h
  · obtain ⟨join, -, h⟩ := bind_eq_ok.1 h
    obtain ⟨indexPageSize, hindexPage, h⟩ := bind_eq_ok.1 h
    obtain ⟨rowPageSize, hrowPage, h⟩ := bind_eq_ok.1 h
    obtain ⟨filter, hfilter, h⟩ := bind_eq_ok.1 h
    split at h
    · obtain ⟨index, -, h⟩ := bind_eq_ok.1 h
      obtain ⟨leftColumns, hleft, h⟩ := bind_eq_ok.1 h
      split at h
      · obtain ⟨_, hfault, -⟩ := bind_eq_ok.1 h
        simp [misconfigured] at hfault
      · next hlength =>
        obtain ⟨_, hkinds, h⟩ := bind_eq_ok.1 h
        obtain rfl := Except.ok.inj h
        exact ⟨rfl, hindexPage, hrowPage, hfilter, hleft, (not_not.1 hlength).symm, hkinds⟩
    · obtain ⟨_, hfault, -⟩ := bind_eq_ok.1 h
      simp [misconfigured] at hfault
  · obtain ⟨_, hfault, -⟩ := bind_eq_ok.1 h
    simp [misconfigured] at hfault

theorem accepted_of_ofSource {leftTable : String} {left : Columns} {right : Table} {s : Source}
    {l : Lookup} (h : ofSource leftTable left right s = .ok l) : l.Accepted left right := by
  obtain ⟨hright, hindexPage, hrowPage, hfilter, hleft, -⟩ := ofSource_eq_ok h
  refine ⟨hright, checkSize_pos hindexPage, checkSize_pos hrowPage, joinColumns_subset hleft, ?_⟩
  intro e he p hp hi
  rw [rightColumns, hright]
  exact readFilter_known (hfilter.trans (congrArg Except.ok he)) hp hi

end Lookup

namespace Node

theorem failuresIn_eq_nil {α : Type} {setting : Setting} {outcome : TableResult α} :
    failuresIn setting outcome = [] ↔ ∃ a, outcome = .ok a := by
  rw [failuresIn, List.map_eq_nil_iff, failures_eq_nil]

/-- What the check of a node promises. -/
structure Accepted (n : Node) (now : DateTime) : Prop where
  used : ∃ columns, n.output.checkUsedFields n.sourceColumns = .ok columns
  fields {f : Field} (hf : f ∈ n.output.fields) : n.fieldErrors now f = []

theorem check_eq_ok {now : DateTime} {name : String} {kind : NodeKind} {reader : Reader}
    {source output : Table} {lookup : Option Lookup} {n : Node}
    (h : check now name kind reader source output lookup = .ok n) :
    reader.table = source.name ∧
      n = ⟨name, kind, reader, source.columnsAs readerAlias, output, lookup⟩ ∧
      n.errors now = [] := by
  unfold check at h
  split at h
  · simp [misconfigured] at h
  · next htable =>
    obtain ⟨_, hnone, h⟩ := bind_eq_ok.1 h
    have hn := Except.ok.inj h
    exact ⟨not_not.1 htable, hn.symm, hn ▸ noErrors_eq_ok.1 hnone⟩

theorem accepted_of_errors {n : Node} {now : DateTime} (h : n.errors now = []) :
    n.Accepted now := by
  simp only [errors, List.append_eq_nil_iff, List.flatMap_eq_nil_iff] at h
  exact ⟨failuresIn_eq_nil.1 h.1.1.1.1, h.1.2 _⟩

/-- What the check of a node without repeated rows promises beyond that. -/
theorem distinct_of_errors {n : Node} {now : DateTime} (h : n.errors now = [])
    (hkind : n.kind = .distinct) :
    n.output.having = none ∧ ∃ unique, n.output.uniqueIndex = .ok unique := by
  simp only [errors, List.append_eq_nil_iff, if_pos hkind] at h
  refine ⟨?_, failures_eq_nil.1 h.2⟩
  have hhaving := h.1.1.2
  unfold havingErrors at hhaving
  split at hhaving
  · assumption
  · simp [hkind] at hhaving

theorem joined_eq_ok {now : DateTime} {name : String} {reader : Reader} {source output : Table}
    {lookup : Lookup.Source} {right : Table} {n : Node}
    (h : joined now name reader source output lookup right = .ok n) :
    ∃ l, reader.table = source.name ∧
      n = ⟨name, .lookup, reader, source.columnsAs readerAlias, output, some l⟩ ∧
      l.Accepted (source.columnsAs readerAlias) right ∧ n.Accepted now := by
  obtain ⟨l, hl, h⟩ := bind_eq_ok.1 h
  obtain ⟨htable, hn, herrors⟩ := check_eq_ok h
  exact ⟨l, htable, hn, Lookup.accepted_of_ofSource hl, accepted_of_errors herrors⟩

/-- A node that one of the three checks accepted, at some time, over a source table. -/
inductive Defined (now : DateTime) (source : Table) (n : Node) : Prop
  | table {name : String} {reader : Reader} {output : Table}
    (h : Node.table now name reader source output = .ok n)
  | distinct {name : String} {reader : Reader} {output : Table}
    (h : Node.distinct now name reader source output = .ok n)
  | joined {name : String} {reader : Reader} {output right : Table} {lookup : Lookup.Source}
    (h : Node.joined now name reader source output lookup right = .ok n)

namespace Defined

variable {n : Node} {now : DateTime} {source : Table}

theorem readerColumns_eq (h : n.Defined now source) :
    n.readerColumns = source.columnsAs readerAlias := by
  cases h with
  | table h | distinct h => rw [(check_eq_ok h).2.1]
  | joined h =>
    obtain ⟨l, -, h⟩ := bind_eq_ok.1 h
    rw [(check_eq_ok h).2.1]

theorem errors_eq (h : n.Defined now source) : n.errors now = [] := by
  cases h with
  | table h | distinct h => exact (check_eq_ok h).2.2
  | joined h =>
    obtain ⟨l, -, h⟩ := bind_eq_ok.1 h
    exact (check_eq_ok h).2.2

theorem accepted (h : n.Defined now source) : n.Accepted now :=
  accepted_of_errors h.errors_eq

theorem lookup_accepted (h : n.Defined now source) {l : Lookup} (hlookup : n.lookup = some l) :
    l.Accepted n.readerColumns l.right := by
  cases h with
  | table h | distinct h =>
    rw [(check_eq_ok h).2.1] at hlookup
    cases hlookup
  | joined h =>
    obtain ⟨k, hk, h⟩ := bind_eq_ok.1 h
    have haccepted := Lookup.accepted_of_ofSource hk
    rw [(check_eq_ok h).2.1] at hlookup ⊢
    obtain rfl : k = l := Option.some.inj hlookup
    exact haccepted.right_eq ▸ haccepted

end Defined

theorem forExpr_of_accepted {n : Node} {now : DateTime} (h : n.Accepted now)
    (hgrouped : n.grouped = true) {f : Field} (hf : f ∈ n.output.fields) :
    ∃ s, Aggregation.forExpr f.expr = .ok s := by
  have hfield := h.fields hf
  rw [fieldErrors, hgrouped, if_pos rfl] at hfield
  obtain ⟨_, hkind⟩ := failuresIn_eq_nil.1 hfield
  unfold Expr.checkKind at hkind
  split at hkind
  · simp at hkind
  · next s hs => exact ⟨s, hs⟩

end Node
end TableMill
