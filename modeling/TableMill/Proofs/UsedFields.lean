import TableMill.Proofs.RowByRow

/-!
# An expression reads the fields that it uses

Of its bindings an expression reads nothing but the fields among its selectors, and nothing of
the time unless it asks for the time. So a page without the columns that no field uses makes of
a row what all its columns would make of it.
-/

namespace TableMill

theorem Builtin.name_of_ofName? {name : String} (h : ofName? name = some .timeNow) :
    name = "time.Now" := by
  unfold ofName? at h
  split at h <;> simp_all

theorem Builtin.apply_of_ne {f : Builtin} (hf : f ≠ .timeNow) (now now' : DateTime) :
    f.apply now = f.apply now' := by
  cases f <;> first | rfl | exact absurd rfl hf

namespace Expr

open Bindings

mutual

def asksTime : Expr → Bool
  | int _ | float _ | text _ | ident _ | selector _ _ => false
  | call _ name args => name == "time.Now" || asksTimeAny args
  | unary _ e => e.asksTime
  | binary _ l r => l.asksTime || r.asksTime

def asksTimeAny : List Expr → Bool
  | [] => false
  | e :: es => e.asksTime || asksTimeAny es

end

variable {now now' : DateTime} {b b' : Bindings}

mutual

theorem evalM_of_time (now now' : DateTime) (b : Bindings) : (e : Expr) → e.asksTime = false →
    e.evalM now b = e.evalM now' b
  | int _, _ | float _, _ | text _, _ | ident _, _ | selector _ _, _ => by simp only [evalM]
  | unary op e, h => by
    have he := evalM_of_time now now' b e (by simpa only [asksTime] using h)
    simp only [evalM, he]
  | binary op l r, h => by
    simp only [asksTime, Bool.or_eq_false_iff] at h
    have hl := evalM_of_time now now' b l h.1
    have hr := evalM_of_time now now' b r h.2
    simp only [evalM, hl, hr]
  | call site name args, h => by
    simp only [asksTime, Bool.or_eq_false_iff] at h
    have hname : name ≠ "time.Now" := by simpa using h.1
    have hall := evalAll_of_time now now' b args h.2
    have hnth := fun n => evalNth_of_time now now' b args n h.2
    have hcond := fun f n => evalCondition_of_time now now' b f args n h.2
    have happly : ∀ f, Builtin.ofName? name = some f → f.apply now = f.apply now' := by
      intro f hf
      refine Builtin.apply_of_ne ?_ now now'
      rintro rfl
      exact hname (Builtin.name_of_ofName? hf)
    simp only [evalM, hall, hnth, hcond]
    cases hf : Builtin.ofName? name with
    | none => rfl
    | some f => simp only [happly f hf]

theorem evalAll_of_time (now now' : DateTime) (b : Bindings) : (es : List Expr) →
    asksTimeAny es = false → evalAll now b es = evalAll now' b es
  | [], _ => by simp only [evalAll]
  | e :: es, h => by
    simp only [asksTimeAny, Bool.or_eq_false_iff] at h
    have he := evalM_of_time now now' b e h.1
    have hes := evalAll_of_time now now' b es h.2
    simp only [evalAll, he, hes]

theorem evalNth_of_time (now now' : DateTime) (b : Bindings) : (es : List Expr) → (n : Nat) →
    asksTimeAny es = false → evalNth now b es n = evalNth now' b es n
  | [], _, _ => by simp only [evalNth]
  | e :: es, 0, h => by
    simp only [asksTimeAny, Bool.or_eq_false_iff] at h
    simpa only [evalNth] using evalM_of_time now now' b e h.1
  | e :: es, n + 1, h => by
    simp only [asksTimeAny, Bool.or_eq_false_iff] at h
    simpa only [evalNth] using evalNth_of_time now now' b es n h.2

theorem evalCondition_of_time (now now' : DateTime) (b : Bindings) (f : Aggregate) :
    (es : List Expr) → (n : Nat) → asksTimeAny es = false →
    evalCondition now b f es n = evalCondition now' b f es n
  | [], _, _ => by simp only [evalCondition]
  | e :: es, 0, h => by
    simp only [asksTimeAny, Bool.or_eq_false_iff] at h
    have he := evalM_of_time now now' b e h.1
    simp only [evalCondition, he]
  | e :: es, n + 1, h => by
    simp only [asksTimeAny, Bool.or_eq_false_iff] at h
    simpa only [evalCondition] using evalCondition_of_time now now' b f es n h.2

end

/-- Two times are the same to an expression if it does not ask for the time. -/
def SameTime (e : Expr) (now now' : DateTime) : Prop :=
  e.asksTime = true → now = now'

theorem evalWith_of_agree {e : Expr} (htime : e.SameTime now now')
    (hagree : AgreeOn e.selectors b b') (s : Option Aggregation) :
    e.evalWith now b s = e.evalWith now' b' s := by
  rw [evalWith_congr hagree]
  by_cases hasks : e.asksTime = true
  · rw [htime hasks]
  · rw [Bool.not_eq_true] at hasks
    simp only [evalWith, evalM_of_time now now' b' e hasks]

/-- Bindings that give the same values to the selectors of an expression, and have the same of
its aliases, answer the selectors alike. -/
theorem agreeOn_of_used {e : Expr}
    (hvalue : ∀ p ∈ e.usedFields, b.value? p.1 p.2 = b'.value? p.1 p.2)
    (halias : ∀ p ∈ e.usedFields, Assoc.has b p.1 = Assoc.has b' p.1) :
    AgreeOn e.selectors b b' := by
  intro p hp
  have hused := mem_usedFields.2 hp
  have hv := hvalue p hused
  have ha := halias p hused
  apply select_eq_of_look
  simp only [look, value?, Assoc.has] at hv ha ⊢
  cases hb : Assoc.get? b p.1 <;> cases hb' : Assoc.get? b' p.1 <;> simp_all

end Expr

/-! ## Pages with the columns that are used -/

theorem Bindings.look_merge_congr {b b' : Bindings} {table field : String}
    (h : b.look table field = b'.look table field) (c : Bindings) :
    look (Assoc.merge b c) table field = look (Assoc.merge b' c) table field := by
  induction c generalizing b b' with
  | nil => exact h
  | cons e rest ih =>
    refine ih ?_
    unfold look at h ⊢
    rw [Assoc.get?_set, Assoc.get?_set]
    by_cases he : e.1 = table
    · rw [if_pos he, if_pos he]
    · rw [if_neg he, if_neg he, h]

namespace Columns.Reads

variable {paged declared more : Columns} {table : String}

theorem append (h : paged.Reads declared table) (hmore : more ⊆ declared) :
    (paged.append more none).Reads declared table where
  rowid_mem := Columns.subset_append _ _ _ h.rowid_mem
  mem_or hc := (Columns.mem_append_iff_or hc).elim h.mem_or fun hc => Or.inr (hmore hc.1)
  table_eq := h.table_eq
  distinct := h.distinct
  distinct_paged := Columns.distinct_foldl_addNew h.distinct_paged _

theorem fill (h : paged.Reads declared table) {rows : List Row} (hrows : declared.Hold rows)
    {capacity : Nat} (hroom : rows.length ≤ capacity) :
    ((RowPage.ofColumns paged).init capacity).fill rows = .ok (.ofRows paged capacity rows) := by
  have hfill : (RowPage.ofRows paged capacity []).fill rows =
      .ok (.ofRows paged capacity ([] ++ rows)) := by
    refine RowPage.fill_ofRows (fun r hr c hc => h.kind_paged hrows hr hc) ?_
    rwa [List.length_nil, Nat.zero_add]
  exact hfill

end Columns.Reads

namespace Node

variable {n : Node} {checked : DateTime} {source : Table}

def fullColumns (n : Node) : Columns :=
  Columns.append [.rowid readerAlias] n.readerColumns none

theorem mem_readerColumns {c : Column} (hc : c ∈ n.sourceColumns)
    (htable : c.table = readerAlias) : c ∈ n.readerColumns := by
  unfold sourceColumns at hc
  cases hlookup : n.lookup with
  | none => rwa [hlookup] at hc
  | some l =>
    rw [hlookup] at hc
    rcases Columns.mem_append_iff_or hc with hc | ⟨hc, -⟩
    · exact hc
    · rw [(Table.mem_columnsAs hc).1] at htable
      exact absurd htable (by decide)

theorem reads_rowid (hn : n.Defined checked source) :
    Columns.Reads [.rowid readerAlias] n.readerColumns readerAlias where
  rowid_mem := List.mem_cons_self
  mem_or hc := Or.inl (List.mem_singleton.1 hc)
  table_eq hc := (Table.mem_columnsAs (hn.readerColumns_eq ▸ hc)).1
  distinct := hn.readerColumns_eq ▸ source.distinct_columnsAs readerAlias
  distinct_paged := by simp [Columns.Distinct]

theorem reads_leftColumns (hn : n.Defined checked source) :
    ∃ columns, n.leftColumns = .ok columns ∧ columns.Reads n.readerColumns readerAlias ∧
      ∀ f ∈ n.output.fields, ∀ p ∈ f.expr.selectors, p.1 = readerAlias →
        ∃ c ∈ n.readerColumns, ∃ d ∈ columns, c.name = p.2 ∧ d.name = c.name := by
  obtain ⟨used, hused⟩ := hn.accepted.used
  have hreader : ∀ {c : Column}, c ∈ n.readerColumns → c.table = readerAlias :=
    (reads_rowid hn).table_eq
  generalize hbase : Columns.append [.rowid readerAlias] used (some readerAlias) = base
  have hreads : base.Reads n.readerColumns readerAlias := by
    subst hbase
    refine ⟨Columns.subset_append _ _ _ List.mem_cons_self, ?_, hreader,
      (reads_rowid hn).distinct, Columns.distinct_foldl_addNew (reads_rowid hn).distinct_paged _⟩
    intro c hc
    rcases Columns.mem_append_iff_or hc with hc | ⟨hc, ht⟩
    · exact Or.inl (List.mem_singleton.1 hc)
    · have htable : readerAlias = c.table := by simpa using ht
      exact Or.inr (mem_readerColumns (Columns.mem_resolve hused hc) htable.symm)
  have hcovers : ∀ f ∈ n.output.fields, ∀ p ∈ f.expr.selectors, p.1 = readerAlias →
      ∃ c ∈ n.readerColumns, ∃ d ∈ base, c.name = p.2 ∧ d.name = c.name := by
    intro f hf p hp htable
    have hwanted := Table.mem_usedFields hf hp
    have hconst : p.1 ∉ Columns.constantPackages := by
      rw [htable]
      decide
    obtain ⟨c, hc, ht, hname⟩ := Columns.has_iff.1
      ((Columns.resolve_eq_ok hused).1 p hwanted hconst)
    obtain ⟨d, hd, hdt, hdn⟩ := Columns.resolve_covers hused hwanted hconst
    have hdr : (some readerAlias).all (· == d.table) = true := by simp [hdt, htable]
    obtain ⟨e, he, -, hen⟩ : ∃ e ∈ base, e.table = d.table ∧ e.name = d.name :=
      hbase ▸ Columns.append_covers hd hdr
    exact ⟨c, mem_readerColumns hc (ht.trans htable), e, he, hname, hen.trans (hdn.trans hname.symm)⟩
  cases hlookup : n.lookup with
  | none =>
    refine ⟨base, bind_eq_ok.2 ⟨used, hused, ?_⟩, hreads, hcovers⟩
    rw [hlookup, hbase]
  | some l =>
    have hjoin := (hn.lookup_accepted hlookup).leftColumns_subset
    refine ⟨base.append l.leftColumns none, bind_eq_ok.2 ⟨used, hused, ?_⟩, hreads.append hjoin, ?_⟩
    · rw [hlookup, hbase]
    · intro f hf p hp htable
      obtain ⟨c, hc, d, hd, hname⟩ := hcovers f hf p hp htable
      exact ⟨c, hc, d, Columns.subset_append _ _ _ hd, hname⟩

/-- Fields see on the page of left rows what they would see on a page with all columns. -/
theorem look_leftColumns (hn : n.Defined checked source) :
    ∃ columns, n.leftColumns = .ok columns ∧ columns.Reads n.readerColumns readerAlias ∧
      ∀ r : Row, ∀ f ∈ n.output.fields, ∀ p ∈ f.expr.selectors,
        (columns.bindBy r.pagedIn).look p.1 p.2 = (n.fullColumns.bindBy r.pagedIn).look p.1 p.2 := by
  obtain ⟨columns, hcolumns, hreads, hused⟩ := reads_leftColumns hn
  have hfull : n.fullColumns.Reads n.readerColumns readerAlias :=
    (reads_rowid hn).append (List.Subset.refl _)
  refine ⟨columns, hcolumns, hreads, fun r f hf p hp => ?_⟩
  by_cases htable : p.1 = readerAlias
  · obtain ⟨c, hc, d, hd, hname, hsame⟩ := hused f hf p hp htable
    obtain ⟨e, he, -, hsame'⟩ : ∃ e ∈ n.fullColumns, e.table = c.table ∧ e.name = c.name :=
      Columns.append_covers hc rfl
    rw [htable, ← hname, hreads.look_eq r hc hd hsame, hfull.look_eq r hc he hsame']
  · rw [hreads.look_other r htable, hfull.look_other r htable]

/-- An expression that does not ask for the time makes the same, value or error and aggregation,
of any bindings that give its fields the same values and have the same of its aliases. So the
fields of an accepted node make the same of a row on the page of the columns that are used, and
on a page with all columns, with whatever right row it is paired. -/
theorem used_fields_suffice :
    (∀ (e : Expr) (now now' : DateTime) (b b' : Bindings) (s : Option Aggregation),
      e.SameTime now now' →
      (∀ p ∈ e.usedFields, b.value? p.1 p.2 = b'.value? p.1 p.2) →
      (∀ p ∈ e.usedFields, Assoc.has b p.1 = Assoc.has b' p.1) →
      e.evalWith now b s = e.evalWith now' b' s) ∧
    (∀ {n : Node} {checked : DateTime} {source : Table}, n.Defined checked source →
      ∀ {rows : List Row} {capacity : Nat}, n.readerColumns.Hold rows → rows.length ≤ capacity →
      ∃ columns page full, n.leftColumns = .ok columns ∧
        ((RowPage.ofColumns columns).init capacity).fill rows = .ok page ∧
        ((RowPage.ofColumns n.fullColumns).init capacity).fill rows = .ok full ∧
        ∀ i < rows.length, ∃ vars all, page.bindRow i [] none = .ok vars ∧
          full.bindRow i [] none = .ok all ∧
          ∀ f ∈ n.output.fields, ∀ (now now' : DateTime) (right : Bindings)
            (s : Option Aggregation), f.expr.SameTime now now' →
            f.calculate now (Assoc.merge vars right) s =
              f.calculate now' (Assoc.merge all right) s) := by
  refine ⟨fun e now now' b b' s htime hvalue halias =>
    Expr.evalWith_of_agree htime (Expr.agreeOn_of_used hvalue halias) s, ?_⟩
  intro n checked source hn rows capacity hrows hroom
  obtain ⟨columns, hcolumns, hreads, hlook⟩ := look_leftColumns hn
  have hfull : n.fullColumns.Reads n.readerColumns readerAlias :=
    (reads_rowid hn).append (List.Subset.refl _)
  refine ⟨columns, _, _, hcolumns, hreads.fill hrows hroom, hfull.fill hrows hroom, fun i hi => ?_⟩
  have hrow : rows[i]? = some rows[i] := List.getElem?_eq_getElem hi
  refine ⟨_, _, RowPage.bindRow_ofRows hrow, RowPage.bindRow_ofRows hrow, ?_⟩
  intro f hf now now' right s htime
  have hagree : Bindings.AgreeOn f.expr.selectors
      (Assoc.merge (columns.bindBy rows[i].pagedIn) right)
      (Assoc.merge (n.fullColumns.bindBy rows[i].pagedIn) right) := fun p hp =>
    Bindings.select_eq_of_look (Bindings.look_merge_congr (hlook rows[i] f hf p hp) right)
  simp only [Field.calculate, Expr.evalWith_of_agree htime hagree]

end Node

namespace UsedSample

/-! Orders whose notes no field uses. Only open orders count. -/

def orders : Table :=
  ⟨"orders", "", none, [⟨"id", .int, "", .int 0, ""⟩, ⟨"note", .text, "", .text "", ""⟩,
    ⟨"open", .bool, "", .ident "true", ""⟩], []⟩

def items : Table :=
  ⟨"items", "", none, [⟨"order", .int, "", .int 0, ""⟩, ⟨"price", .int, "", .int 0, ""⟩],
    [("idx_order", ⟨false, [.plain "order" .int]⟩)]⟩

def total : Expr :=
  .call ⟨0, 0⟩ "sum_if" [.selector "l" "price", .selector "r" "open"]

def sums : Table :=
  ⟨"sums", "", none, [⟨"total", .int, "sum_if(l.price, r.open)", total, ""⟩], []⟩

def node : Node :=
  ⟨"sum", .lookup, ⟨"orders", 1, 1⟩, orders.columnsAs readerAlias, sums,
    some ⟨"idx_order", [⟨"r", "id", .int⟩], true, "", none, .left, 1, 1, items,
      ⟨false, [.plain "order" .int]⟩⟩⟩

def order : Row := ⟨1, [("id", .int 7), ("note", .text "by air"), ("open", .bool true)]⟩

def full : Bindings :=
  [("r", [("id", .int 7), ("note", .text "by air"), ("open", .bool true)]),
    ("l", [("price", .int 30)])]

def few : Bindings :=
  [("l", [("price", .int 30)]), ("r", [("open", .bool true)])]

theorem used_fields_suffice_orders :
    total.SameTime .unset ⟨60, 0, 0⟩ ∧
    (∀ p ∈ total.usedFields, full.value? p.1 p.2 = few.value? p.1 p.2) ∧
    (∀ p ∈ total.usedFields, Assoc.has full p.1 = Assoc.has few p.1) ∧
    total.evalWith .unset full (some .fresh) = total.evalWith ⟨60, 0, 0⟩ few (some .fresh) ∧
    Node.joined .unset "sum" ⟨"orders", 1, 1⟩ orders sums
      ⟨"idx_order", "r.id", true, "", "left", 1, 1⟩ items = .ok node ∧
    node.readerColumns.Hold [order] ∧
    ∃ columns page full, node.leftColumns = .ok columns ∧
      ((RowPage.ofColumns columns).init 1).fill [order] = .ok page ∧
      ((RowPage.ofColumns node.fullColumns).init 1).fill [order] = .ok full ∧
      ∀ i < 1, ∃ vars all, page.bindRow i [] none = .ok vars ∧ full.bindRow i [] none = .ok all ∧
        ∀ f ∈ sums.fields, ∀ (now now' : DateTime) (right : Bindings) (s : Option Aggregation),
          f.expr.SameTime now now' →
          f.calculate now (Assoc.merge vars right) s =
            f.calculate now' (Assoc.merge all right) s := by
  have htime : total.SameTime .unset ⟨60, 0, 0⟩ := nofun
  have hvalue : ∀ p ∈ total.usedFields, full.value? p.1 p.2 = few.value? p.1 p.2 := by decide
  have halias : ∀ p ∈ total.usedFields, Assoc.has full p.1 = Assoc.has few p.1 := by decide
  have hnode : Node.joined .unset "sum" ⟨"orders", 1, 1⟩ orders sums
      ⟨"idx_order", "r.id", true, "", "left", 1, 1⟩ items = .ok node := rfl
  have hrows : node.readerColumns.Hold [order] := by decide
  exact ⟨htime, hvalue, halias, Node.used_fields_suffice.1 total _ _ full few _ htime hvalue halias,
    hnode, hrows, Node.used_fields_suffice.2 (.joined hnode) hrows (Nat.le_refl 1)⟩

end UsedSample
end TableMill
