import TableMill.Proofs.Accepted
import TableMill.Proofs.JoinRow

/-!
# The columns of pages

The pages of an accepted join have a column of ids and the declared columns that are needed.
What an expression sees there is what the stored rows hold.
-/

namespace TableMill

namespace Columns

/-- The columns of a page of rows: the column of ids, and some declared columns of an alias. -/
structure Pages (paged declared : Columns) (table : String) : Prop where
  mem_or {c : Column} (hc : c ∈ paged) : c = .rowid table ∨ c ∈ declared
  table_eq {c : Column} (hc : c ∈ declared) : c.table = table
  distinct : declared.Distinct
  name_ne {c : Column} (hc : c ∈ declared) : c.name ≠ rowidName

namespace Pages

variable {paged declared : Columns} {table : String}

theorem table_eq_of_paged (h : paged.Pages declared table) {c : Column} (hc : c ∈ paged) :
    c.table = table := by
  rcases h.mem_or hc with rfl | hc
  · rfl
  · exact h.table_eq hc

theorem distinct_paged (h : paged.Pages declared table) : paged.Distinct := by
  intro c hc d hd ht hn
  rcases h.mem_or hc with rfl | hc'
  · rcases h.mem_or hd with rfl | hd'
    · rfl
    · exact absurd hn.symm (h.name_ne hd')
  · rcases h.mem_or hd with rfl | hd'
    · exact absurd hn (h.name_ne hc')
    · exact h.distinct c hc' d hd' ht hn

/-- A declared column whose name is among those of the page is in the page. -/
theorem mem_of_name (h : paged.Pages declared table) {c d : Column} (hc : c ∈ declared)
    (hd : d ∈ paged) (hname : d.name = c.name) : c ∈ paged := by
  rcases h.mem_or hd with rfl | hd'
  · exact absurd hname.symm (h.name_ne hc)
  · exact h.distinct d hd' c hc ((h.table_eq hd').trans (h.table_eq hc).symm) hname ▸ hd

theorem look_paged (h : paged.Pages declared table) (r : Row) {c : Column} (hc : c ∈ declared)
    (hpaged : c ∈ paged) :
    (paged.bindBy r.pagedIn).look table c.name = (r.bound declared).look table c.name := by
  have hleft := look_bindBy r.pagedIn hpaged fun d hd ht hn =>
    congrArg r.pagedIn (h.distinct_paged d hd c hpaged ht hn)
  have hright := look_bindBy r.valueIn hc fun d hd ht hn =>
    congrArg r.valueIn (h.distinct d hd c hc ht hn)
  rw [Row.pagedIn_of_ne (h.name_ne hc)] at hleft
  rw [h.table_eq hc] at hleft hright
  exact hleft.trans hright.symm

theorem look_other (h : paged.Pages declared table) (r : Row) {other : String}
    (hother : other ≠ table) (field : String) :
    (paged.bindBy r.pagedIn).look other field = none ∧
      (r.bound declared).look other field = none :=
  ⟨look_bindBy_none _ (fun _ hc ht => hother (ht.symm.trans (h.table_eq_of_paged hc))) _,
    look_bindBy_none _ (fun _ hc ht => hother (ht.symm.trans (h.table_eq hc))) _⟩

theorem kind_paged (h : paged.Pages declared table) {rows : List Row} (hrows : declared.Hold rows)
    {r : Row} (hr : r ∈ rows) {c : Column} (hc : c ∈ paged) : (r.pagedIn c).kind = c.kind := by
  rcases h.mem_or hc with rfl | hc
  · rfl
  · rw [Row.pagedIn_of_ne (h.name_ne hc)]
    exact hrows r hr c hc

end Pages
end Columns

theorem Table.pages_columnsAs {t : Table} (hnames : ∀ f ∈ t.fields, f.name ≠ rowidName)
    {paged : Columns} {table : String}
    (hpaged : ∀ c ∈ paged, c = .rowid table ∨ c ∈ t.columnsAs table) :
    paged.Pages (t.columnsAs table) table where
  mem_or := hpaged _
  table_eq hc := (mem_columnsAs hc).1
  distinct := t.distinct_columnsAs table
  name_ne hc := by
    obtain ⟨-, f, hf, hname⟩ := mem_columnsAs hc
    exact hname ▸ hnames f hf

namespace Lookup

variable {l : Lookup} {right : Table} {left : Columns}

def pageColumns (l : Lookup) : Columns :=
  Columns.append [.rowid lookupAlias] l.rightColumns none

theorem pageColumns_eq (l : Lookup) : ∃ cs, l.pageColumns = .rowid lookupAlias :: cs := by
  obtain ⟨cs, hcs⟩ := Columns.prefix_foldl_addNew [.rowid lookupAlias]
    (l.rightColumns.filter fun c => (none : Option String).all (· == c.table))
  exact ⟨cs, hcs.symm⟩

theorem pages_pageColumns (hl : l.Accepted left right)
    (hnames : ∀ f ∈ right.fields, f.name ≠ rowidName) :
    l.pageColumns.Pages l.rightColumns lookupAlias := by
  unfold rightColumns
  rw [hl.right_eq]
  refine Table.pages_columnsAs hnames fun c hc => ?_
  rcases Columns.mem_append_iff_or hc with hc | ⟨hc, -⟩
  · exact Or.inl (List.mem_singleton.1 hc)
  · exact Or.inr (hl.right_eq ▸ hc)

theorem mem_pageColumns (hl : l.Accepted left right)
    (hnames : ∀ f ∈ right.fields, f.name ≠ rowidName) {c : Column} (hc : c ∈ l.rightColumns) :
    c ∈ l.pageColumns := by
  obtain ⟨d, hd, -, hname⟩ : ∃ d ∈ l.pageColumns, d.table = c.table ∧ d.name = c.name :=
    Columns.append_covers hc rfl
  exact (pages_pageColumns hl hnames).mem_of_name hc hd hname

/-- The filter sees a right row as it is stored. -/
theorem passes_page (hl : l.Accepted left right)
    (hnames : ∀ f ∈ right.fields, f.name ≠ rowidName) (now : DateTime) (m : Row) :
    l.passes now (l.pageColumns.bindBy m.pagedIn) = l.passes now (m.bound l.rightColumns) := by
  unfold passes
  cases hfilter : l.filter with
  | none => rfl
  | some e =>
    have hpages := pages_pageColumns hl hnames
    have hagree : Bindings.AgreeOn e.selectors (l.pageColumns.bindBy m.pagedIn)
        (m.bound l.rightColumns) := by
      intro p hp
      apply Bindings.select_eq_of_look
      by_cases hi : p.1 ∈ Columns.constantPackages
      · have hne : p.1 ≠ lookupAlias := by
          rintro h
          exact absurd (h ▸ hi) (by decide)
        obtain ⟨hleft, hright⟩ := hpages.look_other m hne p.2
        rw [hleft, hright]
      · obtain ⟨c, hc, ht, hn⟩ := Columns.has_iff.1 (hl.filter_known hfilter hp hi)
        rw [← hn, ← ht, hpages.table_eq hc]
        exact hpages.look_paged m hc (mem_pageColumns hl hnames hc)
    simp only [Expr.eval, Expr.evalWith_congr hagree]

end Lookup

namespace Node

variable {n : Node} {l : Lookup} {source right : Table} {now : DateTime}

theorem leftColumns_eq_ok (hn : n.Accepted now) (hlookup : n.lookup = some l) :
    ∃ used, n.sourceColumns.resolve n.output.usedFields Columns.constantPackages = .ok used ∧
      n.leftColumns = .ok
        ((Columns.append [.rowid readerAlias] used (some readerAlias)).append l.leftColumns none) := by
  obtain ⟨used, hused⟩ := hn.used
  refine ⟨used, hused, bind_eq_ok.2 ⟨used, hused, ?_⟩⟩
  rw [hlookup]

/-- A selector of a field names a constant, a column of the left row or one of the right. -/
theorem selector_cases (hn : n.Accepted now) (hlookup : n.lookup = some l) {f : Field}
    (hf : f ∈ n.output.fields) {p : String × String} (hp : p ∈ f.expr.selectors) :
    p.1 ∈ Columns.constantPackages ∨
      ∃ c, (c ∈ n.readerColumns ∨ c ∈ l.rightColumns) ∧ c.table = p.1 ∧ c.name = p.2 := by
  by_cases hi : p.1 ∈ Columns.constantPackages
  · exact Or.inl hi
  · obtain ⟨used, hused, -⟩ := leftColumns_eq_ok hn hlookup
    obtain ⟨c, hc, hcp⟩ := Columns.has_iff.1
      ((Columns.resolve_eq_ok hused).1 p (Table.mem_usedFields hf hp) hi)
    rw [sourceColumns, hlookup] at hc
    refine Or.inr ⟨c, ?_, hcp⟩
    exact (Columns.mem_append_iff_or hc).imp_right And.left

theorem pages_leftColumns (hn : n.Accepted now) (hlookup : n.lookup = some l)
    (hreader : n.readerColumns = source.columnsAs readerAlias)
    (hl : l.Accepted n.readerColumns right) (hnames : ∀ f ∈ source.fields, f.name ≠ rowidName) :
    ∃ cs, n.leftColumns = .ok (.rowid readerAlias :: cs) ∧
      Columns.Pages (.rowid readerAlias :: cs) n.readerColumns readerAlias ∧
      l.leftColumns ⊆ .rowid readerAlias :: cs ∧
      ∀ f ∈ n.output.fields, ∀ p ∈ f.expr.selectors, ∀ c ∈ n.readerColumns,
        c.table = p.1 → c.name = p.2 → c ∈ Column.rowid readerAlias :: cs := by
  obtain ⟨used, hused, hcolumns⟩ := leftColumns_eq_ok hn hlookup
  generalize hlc : (Columns.append [.rowid readerAlias] used (some readerAlias)).append
    l.leftColumns none = lc at hcolumns
  have hbase : Columns.append [.rowid readerAlias] used (some readerAlias) ⊆ lc :=
    hlc ▸ Columns.subset_append _ _ _
  obtain ⟨cs, rfl⟩ : ∃ cs, lc = .rowid readerAlias :: cs := by
    obtain ⟨cs, hcs⟩ := (Columns.prefix_foldl_addNew [.rowid readerAlias] _).trans
      (Columns.prefix_foldl_addNew (Columns.append [.rowid readerAlias] used (some readerAlias))
        (l.leftColumns.filter fun c => (none : Option String).all (· == c.table)))
    exact ⟨cs, hlc.symm.trans hcs.symm⟩
  have hmem : ∀ c ∈ Column.rowid readerAlias :: cs,
      c = .rowid readerAlias ∨ c ∈ n.readerColumns := by
    intro c hc
    rcases Columns.mem_append_iff_or (hlc ▸ hc) with hc | ⟨hc, -⟩
    · rcases Columns.mem_append_iff_or hc with hc | ⟨hc, ht⟩
      · exact Or.inl (List.mem_singleton.1 hc)
      · have hknown := Columns.mem_resolve hused hc
        rw [sourceColumns, hlookup] at hknown
        rcases Columns.mem_append_iff_or hknown with hc | ⟨hc, -⟩
        · exact Or.inr hc
        · have htable : readerAlias = c.table := by simpa using ht
          rw [(Table.mem_columnsAs hc).1] at htable
          exact absurd htable (by decide)
    · exact Or.inr (hl.leftColumns_subset hc)
  have hpages : Columns.Pages (.rowid readerAlias :: cs) n.readerColumns readerAlias := by
    rw [hreader] at hmem ⊢
    exact Table.pages_columnsAs hnames hmem
  refine ⟨cs, hcolumns, hpages, fun c hc => ?_, fun f hf p hp c hc ht hname => ?_⟩
  · obtain ⟨d, hd, -, hdn⟩ : ∃ d ∈ Column.rowid readerAlias :: cs,
        d.table = c.table ∧ d.name = c.name := hlc ▸ Columns.append_covers hc rfl
    exact hpages.mem_of_name (hl.leftColumns_subset hc) hd hdn
  · have hi : p.1 ∉ Columns.constantPackages := by
      rw [← ht, hpages.table_eq hc]
      decide
    obtain ⟨d, hd, hdt, hdn⟩ := Columns.resolve_covers hused (Table.mem_usedFields hf hp) hi
    have hdr : (some readerAlias).all (· == d.table) = true := by
      simp [hdt, ← ht, hpages.table_eq hc]
    obtain ⟨e, he, -, hen⟩ : ∃ e ∈ Columns.append [.rowid readerAlias] used (some readerAlias),
        e.table = d.table ∧ e.name = d.name := Columns.append_covers hd hdr
    exact hpages.mem_of_name hc (hbase he) (hen.trans (hdn.trans hname.symm))

end Node

/-- Expressions of an accepted join see on the pages what the stored rows hold. -/
theorem Join.sees_pages {j : Join} {right : Table} {now : DateTime} {cs : Columns}
    (hn : j.node.Accepted now) (hlookup : j.node.lookup = some j.lookup)
    (hl : j.lookup.Accepted j.node.readerColumns right)
    (hright : ∀ f ∈ right.fields, f.name ≠ rowidName)
    (hpages : Columns.Pages (.rowid readerAlias :: cs) j.node.readerColumns readerAlias)
    (hused : ∀ f ∈ j.node.output.fields, ∀ p ∈ f.expr.selectors, ∀ c ∈ j.node.readerColumns,
      c.table = p.1 → c.name = p.2 → c ∈ Column.rowid readerAlias :: cs) :
    j.Sees (.rowid readerAlias :: cs) j.lookup.pageColumns := by
  have hrpages := Lookup.pages_pageColumns hl hright
  have hlook : ∀ r m : Row, ∀ f ∈ j.node.output.fields, ∀ p ∈ f.expr.selectors,
      (Columns.bindBy (.rowid readerAlias :: cs) r.pagedIn).look p.1 p.2 =
        (r.bound j.node.readerColumns).look p.1 p.2 ∧
      (j.lookup.pageColumns.bindBy m.pagedIn).look p.1 p.2 =
        (m.bound j.lookup.rightColumns).look p.1 p.2 := by
    intro r m f hf p hp
    have hother : ∀ {paged declared : Columns} {table : String} (r : Row),
        paged.Pages declared table → p.1 ≠ table →
        (paged.bindBy r.pagedIn).look p.1 p.2 = (r.bound declared).look p.1 p.2 := by
      intro paged declared table r h hne
      rw [(h.look_other r hne p.2).1, (h.look_other r hne p.2).2]
    rcases Node.selector_cases hn hlookup hf hp with hi | ⟨c, hc | hc, ht, hname⟩
    · refine ⟨hother r hpages fun h => ?_, hother m hrpages fun h => ?_⟩
      · exact absurd (h ▸ hi) (by decide)
      · exact absurd (h ▸ hi) (by decide)
    · have htable := (hpages.table_eq hc).symm.trans ht
      refine ⟨?_, hother m hrpages (by rw [← htable]; decide)⟩
      rw [← hname, ← htable]
      exact hpages.look_paged r hc (hused f hf p hp c hc ht hname)
    · have htable := (hrpages.table_eq hc).symm.trans ht
      refine ⟨hother r hpages (by rw [← htable]; decide), ?_⟩
      rw [← hname, ← htable]
      exact hrpages.look_paged m hc (Lookup.mem_pageColumns hl hright hc)
  refine ⟨fun m => Lookup.passes_page hl hright j.now m, fun r f hf p hp => ?_,
    fun r m f hf p hp => ?_⟩
  · exact Bindings.select_eq_of_look (hlook r r f hf p hp).1
  · apply Bindings.select_eq_of_look
    unfold Row.bound at hlook ⊢
    rw [Bindings.look_merge (Columns.keyed_bindBy _ _), Bindings.look_merge (Columns.keyed_bindBy _ _),
      (hlook r m f hf p hp).1, (hlook r m f hf p hp).2]

end TableMill
