import TableMill.Proofs.CheckedNames
import TableMill.Proofs.NameErrors
import TableMill.Proofs.UsedFields

/-!
# Checked nodes

The check of a node evaluates its fields, its filter and its condition on samples of all columns
that they may use. So on rows that have the columns that are used, with values of their types,
none of them fails by a name; and every record has a value of the right type for every field,
which is what the condition was checked on.
-/

namespace TableMill

/-- A state that the aggregation of a field can have after its check on some columns. -/
def Field.Foreseen (f : Field) (columns : Columns) (s : Option Aggregation) : Prop :=
  ∃ start done, f.expr.Probed (f.expr.usedColumns columns) f.kind start done ∧ Grows s done

/-- A record has a value of the right type for every field, in order. -/
def Table.Fits (t : Table) (r : Record) : Prop :=
  List.Forall₂ (fun (f : Field) e => e.1 = f.name ∧ e.2.kind = f.kind) t.fields r

namespace Field

variable {f : Field} {columns : Columns} {s : Option Aggregation} {vars : Bindings}

theorem nameless_outcome {now : DateTime} {x : Except EvalError Value × Option Aggregation}
    (hx : f.expr.evalWith now vars s = x) (h : OfKind f.kind x.1) :
    Nameless (fun v => v.kind = f.kind) (f.calculate now vars s).1 := by
  unfold calculate
  rw [hx]
  rcases x with ⟨e | v, t⟩
  · exact EvalError.ofNames_of_ofValues h
  · have hkind : f.checkKind v = .ok v := if_pos h
    show Nameless _ (f.checkKind v)
    rw [hkind]
    exact h

/-- On values of the columns that it uses, a field has a value of its type or fails but not by a
name, and leaves its aggregation in a state like that again. -/
theorem Foreseen.calculate (h : f.Foreseen columns s) (hvars : vars.Fill (f.expr.usedColumns columns))
    (now : DateTime) :
    f.Foreseen columns (f.calculate now vars s).2 ∧
      Nameless (fun v => v.kind = f.kind) (f.calculate now vars s).1 := by
  obtain ⟨start, done, hprobed, hs⟩ := h
  obtain ⟨hgrows, hkind⟩ :
      Grows (f.expr.evalWith now vars s).2 done ∧ OfKind f.kind (f.expr.evalWith now vars s).1 :=
    hprobed.evalWith hvars hs
  refine ⟨⟨start, done, hprobed, ?_⟩, nameless_outcome rfl hkind⟩
  have hstate : (f.calculate now vars s).2 = (f.expr.evalWith now vars s).2 := by
    unfold Field.calculate
    rcases f.expr.evalWith now vars s with ⟨_ | _, _⟩ <;> rfl
  rwa [hstate]

theorem kind_of_calculate {now : DateTime} {v : Value}
    (h : (f.calculate now vars s).1 = .ok v) :
    v.kind = f.kind := by
  unfold calculate at h
  rcases hrun : f.expr.evalWith now vars s with ⟨outcome, s'⟩
  rw [hrun] at h
  cases outcome with
  | error e => cases h
  | ok w =>
    have hcheck : f.checkKind w = .ok v := h
    unfold checkKind at hcheck
    split at hcheck
    · next hkind => exact Except.ok.inj hcheck ▸ hkind
    · cases hcheck

end Field

namespace Table

variable {t : Table} {now : DateTime} {vars : Bindings} {r : Record}

theorem fits_values {fields : List Field} {value : Field → TableResult Value}
    (h : ∀ f ∈ fields, ∃ v, value f = .ok v ∧ v.kind = f.kind) :
    List.Forall₂ (fun (f : Field) e => e.1 = f.name ∧ e.2.kind = f.kind) fields
      ((fields.map fun f => (f.name, value f)).filterMap fun p =>
        p.2.toOption.map fun v => (p.1, v)) := by
  induction fields with
  | nil => exact .nil
  | cons f fs ih =>
    obtain ⟨⟨v, hv, hkind⟩, hfs⟩ := List.forall_mem_cons.1 h
    rw [List.map_cons, List.filterMap_cons]
    simp only [hv]
    exact .cons ⟨rfl, hkind⟩ (ih hfs)

theorem fits_record (h : t.record now vars = .ok r) :
    t.Fits r := by
  obtain ⟨_, hnone, h⟩ := bind_eq_ok.1 h
  obtain rfl := Except.ok.inj h
  have hfailures := List.flatMap_eq_nil_iff.1 (noErrors_eq_ok.1 hnone)
  refine fits_values fun f hf => ?_
  obtain ⟨v, hv⟩ := failures_eq_nil.1 (hfailures _ (List.mem_map_of_mem hf))
  exact ⟨v, hv, Field.kind_of_calculate hv⟩

theorem nameless_record (h : ∀ f ∈ t.fields,
    Nameless (fun v => v.kind = f.kind) (f.calculate now vars none).1) :
    Nameless t.Fits (t.record now vars) := by
  have hrecord : Nameless (fun _ => True) (t.record now vars) := by
    refine (nameless_noErrors fun e he => ?_).bind fun _ _ => trivial
    obtain ⟨p, hp, he⟩ := List.mem_flatMap.1 he
    obtain ⟨f, hf, rfl⟩ := List.mem_map.1 hp
    have hout := h f hf
    dsimp only at he
    cases hx : (f.calculate now vars none).1 with
    | ok v => simp [hx, failures] at he
    | error e' =>
      obtain rfl : e = e' := by simpa [hx, failures] using he
      rw [hx] at hout
      exact hout
  exact hrecord.of_ok fun _ hr => fits_record hr

end Table

/-! ## The columns of a record -/

namespace Columns

/-- Of the columns of one alias and name, the first one is collected. -/
theorem mem_foldl_of_at? {cs more : Columns} {table name : String} {c : Column}
    (h : more.at? table name = some c) (hnew : cs.has table name = false) :
    c ∈ more.foldl addNew cs := by
  induction more generalizing cs with
  | nil => cases h
  | cons d rest ih =>
    have hhas : cs.has d.table d.name = true → ¬ d.isAt table name = true := by
      intro hd hat
      obtain ⟨rfl, rfl⟩ : d.table = table ∧ d.name = name := by simpa [Column.isAt] using hat
      exact absurd hd (by simp [hnew])
    unfold at? at h
    by_cases hat : d.isAt table name = true
    · rw [List.find?_cons, hat] at h
      obtain rfl := Option.some.inj h
      have hstep : cs.addNew d = cs ++ [d] := if_neg fun hd => hhas hd hat
      rw [List.foldl_cons, hstep]
      exact (prefix_foldl_addNew _ rest).subset (by simp)
    · rw [List.find?_cons, Bool.eq_false_iff.2 hat] at h
      refine ih h (has_eq_false_iff.2 fun e he => ?_)
      rcases mem_addNew he with he | rfl
      · exact has_eq_false_iff.1 hnew e he
      · simpa [Column.isAt] using hat

theorem at?_of_mem_ofList {cs : Columns} {c : Column} (h : c ∈ ofList cs) :
    cs.at? c.table c.name = some c := by
  obtain ⟨d, hd⟩ := Option.isSome_iff_exists.1 (has_iff.2 ⟨c, mem_ofList h, rfl, rfl⟩)
  obtain ⟨-, ht, hn⟩ := at?_eq_some hd
  rw [hd, distinct_ofList cs d (mem_foldl_of_at? hd rfl) c h ht hn]

end Columns

namespace Table

variable {t : Table} {r : Record}

theorem Fits.fill (h : t.Fits r) (table : String) :
    Bindings.Fill [(table, r)] (t.columnsAs table) := by
  intro c hc
  have hfirst := Columns.at?_of_mem_ofList hc
  obtain rfl := (mem_columnsAs hc).1
  have hlook : ∀ v, Assoc.get? r c.name = some v →
      Bindings.look [(c.table, r)] c.table c.name = some (some v) := fun v hv => by
    simp [Bindings.look, Assoc.get?_cons, hv]
  suffices ∃ v, Assoc.get? r c.name = some v ∧ v.kind = c.kind by
    obtain ⟨v, hv, hkind⟩ := this
    exact ⟨v, hlook v hv, hkind⟩
  clear hlook hc
  unfold Fits at h
  generalize t.fields = fields at h hfirst
  induction h with
  | nil => cases hfirst
  | @cons f e fs es hhead _ ih =>
    obtain ⟨name, v⟩ := e
    obtain ⟨rfl, hkind⟩ := hhead
    rw [List.map_cons, Columns.at?] at hfirst
    by_cases hname : f.name = c.name
    · rw [List.find?_cons_of_pos (by simp [Column.isAt, hname])] at hfirst
      refine ⟨v, by simp [Assoc.get?_cons, hname], ?_⟩
      rw [← Option.some.inj hfirst]
      exact hkind
    · rw [List.find?_cons_of_neg (by simp [Column.isAt, hname])] at hfirst
      obtain ⟨w, hw, hwkind⟩ := ih hfirst
      exact ⟨w, by simp [Assoc.get?_cons, hname, hw], hwkind⟩

end Table

theorem Columns.covers_sample {cs : Columns} (h : cs.Distinct) : cs.sample.Covers cs where
  fill c hc := ⟨c.kind.sample, Columns.look_bindBy (fun c => c.kind.sample) hc
    fun d hd ht hn => by rw [h d hd c hc ht hn], c.kind.kind_sample⟩
  other hother field := Columns.look_bindBy_none _ hother field
  keyed := Columns.keyed_bindBy _ cs

/-! ## What the check of a node promises -/

def Expr.Condition (e : Expr) (columns : Columns) : Prop :=
  ∃ done, e.Probed columns .bool none done

theorem Expr.Condition.eval {e : Expr} {columns : Columns} (h : e.Condition columns)
    {vars : Bindings} (hvars : vars.Fill columns) (now : DateTime) :
    OfKind .bool (e.eval now vars) := by
  obtain ⟨done, hprobed⟩ := h
  exact (hprobed.evalWith hvars hprobed.grows).2

theorem Expr.condition_of_checkKind {e : Expr} {columns : Columns} {now : DateTime}
    (h : e.checkKind now columns .bool = .ok ()) : e.Condition columns := by
  obtain ⟨start, done, hprobed⟩ := Expr.probed_of_checkKind h
  obtain rfl := hprobed.start_eq_none
  exact ⟨done, hprobed⟩

theorem Expr.root_of_firstAggregate {e : Expr} (h : e.firstAggregate? = none) :
    e.rootAggregate? = none := by
  unfold rootAggregate?
  split
  · rw [firstAggregate?] at h
    split at h
    · cases h
    · next hname => exact hname
  · rfl

theorem Table.nameless_meetsHaving {t : Table} {r : Record} (hr : t.Fits r)
    (h : ∀ e, t.having = some e → e.Condition (t.columnsAs outputAlias)) (now : DateTime) :
    Nameless (fun _ => True) (t.meetsHaving now r) := by
  unfold meetsHaving
  split
  · trivial
  · next e he =>
    have hkind := (h e he).eval (hr.fill outputAlias) now
    split
    · next err herr =>
      rw [herr] at hkind
      exact EvalError.ofNames_of_ofValues hkind
    · trivial
    · rfl

theorem Lookup.nameless_passes {l : Lookup} (h : ∀ e, l.filter = some e → e.Condition l.rightColumns)
    {vars : Bindings} (hvars : vars.Fill l.rightColumns) (now : DateTime) :
    Nameless (fun _ => True) (l.passes now vars) := by
  unfold passes
  split
  · trivial
  · next e he =>
    have hkind := (h e he).eval hvars now
    split
    · next err herr =>
      rw [herr] at hkind
      exact EvalError.ofNames_of_ofValues hkind
    · trivial
    · rfl

namespace Node

/-- What the check of a node promises of the evaluations of its expressions. -/
structure Promises (n : Node) : Prop where
  field {f : Field} (hf : f ∈ n.output.fields) :
    ∃ s, Aggregation.forExpr f.expr = .ok s ∧ f.Foreseen n.sourceColumns s
  plain (hn : n.grouped = false) {f : Field} (hf : f ∈ n.output.fields) : f.isAggregate = false
  having {e : Expr} (he : n.output.having = some e) : e.Condition (n.output.columnsAs outputAlias)
  filter {l : Lookup} (hl : n.lookup = some l) {e : Expr} (he : l.filter = some e) :
    e.Condition l.rightColumns

variable {n : Node} {checked : DateTime} {source : Table}

theorem mem_sourceColumns (hn : n.Defined checked source) {c : Column} (hc : c ∈ n.sourceColumns) :
    (c ∈ n.readerColumns ∧ c.table = readerAlias) ∨
      ∃ l, n.lookup = some l ∧ c ∈ l.rightColumns ∧ c.table = lookupAlias := by
  unfold sourceColumns at hc
  cases hlookup : n.lookup with
  | none =>
    rw [hlookup] at hc
    exact Or.inl ⟨hc, (reads_rowid hn).table_eq hc⟩
  | some l =>
    rw [hlookup] at hc
    rcases Columns.mem_append_iff_or hc with hc | ⟨hc, -⟩
    · exact Or.inl ⟨hc, (reads_rowid hn).table_eq hc⟩
    · exact Or.inr ⟨l, rfl, hc, (Table.mem_columnsAs hc).1⟩

theorem distinct_sourceColumns (hn : n.Defined checked source) : n.sourceColumns.Distinct := by
  unfold sourceColumns
  cases n.lookup with
  | none => exact (reads_rowid hn).distinct
  | some l => exact Columns.distinct_foldl_addNew (reads_rowid hn).distinct _

theorem constant_sourceColumns (hn : n.Defined checked source) {c : Column}
    (hc : c ∈ n.sourceColumns) : c.table ∉ Columns.constantPackages := by
  rcases mem_sourceColumns hn hc with ⟨-, ht⟩ | ⟨_, -, -, ht⟩ <;> rw [ht] <;> decide

theorem known_sourceColumns (hn : n.Defined checked source) {f : Field} (hf : f ∈ n.output.fields)
    {p : String × String} (hp : p ∈ f.expr.selectors) (hconst : p.1 ∉ Columns.constantPackages) :
    n.sourceColumns.has p.1 p.2 = true := by
  obtain ⟨used, hused⟩ := hn.accepted.used
  exact (Columns.resolve_eq_ok hused).1 p (Table.mem_usedFields hf hp) hconst

theorem condition_of_failuresIn {setting : Setting} {e : Expr} {now : DateTime} {columns : Columns}
    (h : failuresIn setting (e.checkKind now columns .bool) = []) : e.Condition columns := by
  obtain ⟨⟨⟩, hcheck⟩ := failuresIn_eq_nil.1 h
  exact Expr.condition_of_checkKind hcheck

theorem Defined.promises (hn : n.Defined checked source) : n.Promises where
  field {f} hf := by
    have hfield := hn.accepted.fields hf
    unfold fieldErrors at hfield
    split at hfield
    · cases hfield
    · obtain ⟨⟨⟩, hcheck⟩ := failuresIn_eq_nil.1 hfield
      obtain ⟨start, done, hprobed⟩ := Expr.probed_of_checkKind hcheck
      have hused := hprobed.used (distinct_sourceColumns hn) (fun _ => constant_sourceColumns hn)
        fun _ => known_sourceColumns hn hf
      exact ⟨start, hprobed.forExpr, start, done, hused, hprobed.grows⟩
  plain hgrouped f hf := by
    have hfield := hn.accepted.fields hf
    rw [fieldErrors, hgrouped] at hfield
    have hfirst : f.expr.firstAggregate? = none := by
      cases h : f.expr.firstAggregate? with
      | none => rfl
      | some func => simp [h] at hfield
    rw [Field.isAggregate, Expr.root_of_firstAggregate hfirst, Option.isSome_none]
  having {e} he := by
    have herrors := hn.errors_eq
    simp only [errors, List.append_eq_nil_iff, havingErrors, he] at herrors
    exact condition_of_failuresIn herrors.1.1.2.2
  filter {l} hl {e} he := by
    have herrors := hn.errors_eq
    simp only [errors, List.append_eq_nil_iff, filterErrors, hl, he] at herrors
    exact condition_of_failuresIn herrors.1.1.1.2

theorem Promises.foreseen_none (h : n.Promises) {f : Field} (hf : f ∈ n.output.fields)
    (hplain : f.isAggregate = false) : f.Foreseen n.sourceColumns none := by
  obtain ⟨s, hs, hforeseen⟩ := h.field hf
  rw [Expr.forExpr_of_root_none (by simpa [Field.isAggregate] using hplain)] at hs
  exact Except.ok.inj hs ▸ hforeseen

/-- Where every field finds what it uses, a node without groups has a record of the right types. -/
theorem Promises.nameless_record (h : n.Promises) (hn : n.grouped = false) {vars : Bindings}
    (hfill : ∀ f ∈ n.output.fields, vars.Fill (f.expr.usedColumns n.sourceColumns))
    (now : DateTime) : Nameless n.output.Fits (n.output.record now vars) :=
  Table.nameless_record fun _ hf =>
    ((h.foreseen_none hf (h.plain hn hf)).calculate (hfill _ hf) now).2

/-! ## What rows bind -/

variable {columns : Columns} {left right : Bindings} {f : Field}

theorem reads_of_leftColumns (hn : n.Defined checked source) (hcolumns : n.leftColumns = .ok columns) :
    columns.Reads n.readerColumns readerAlias ∧
      ∀ f ∈ n.output.fields, ∀ p ∈ f.expr.selectors, p.1 = readerAlias →
        ∃ c ∈ n.readerColumns, ∃ d ∈ columns, c.name = p.2 ∧ d.name = c.name := by
  obtain ⟨columns', hcolumns', hreads⟩ := reads_leftColumns hn
  exact Except.ok.inj (hcolumns'.symm.trans hcolumns) ▸ hreads

/-- A left row with a right row has the columns that a field uses. -/
theorem fill_pair (hn : n.Defined checked source) (hsource : ∀ f ∈ source.fields, f.name ≠ rowidName)
    (hcolumns : n.leftColumns = .ok columns) (hf : f ∈ n.output.fields) (hleft : left.Covers columns)
    (hright : ∀ l, n.lookup = some l → right.Fill l.rightColumns)
    (hother : ∀ field, right.look readerAlias field = none) (hkeyed : Assoc.Keyed right) :
    Bindings.Fill (Assoc.merge left right) (f.expr.usedColumns n.sourceColumns) := by
  intro c hc
  obtain ⟨hc, hused⟩ := List.mem_filter.1 hc
  have hselector : (c.table, c.name) ∈ f.expr.selectors := by simpa using hused
  rw [Bindings.look_merge hkeyed]
  rcases mem_sourceColumns hn hc with ⟨hc, ht⟩ | ⟨l, hl, hc, -⟩
  · obtain ⟨hreads, hcovers⟩ := reads_of_leftColumns hn hcolumns
    obtain ⟨d, hd, e, he, hdn, hen⟩ := hcovers f hf _ hselector ht
    replace hdn : d.name = c.name := hdn
    have hname : c.name ≠ rowidName := by
      have hsourced : c ∈ source.columnsAs readerAlias := hn.readerColumns_eq ▸ hc
      obtain ⟨g, hg, hgn⟩ := (Table.mem_columnsAs hsourced).2
      exact hgn ▸ hsource g hg
    have hmem : e ∈ n.readerColumns := (hreads.mem_or he).resolve_left fun heq => hname <| by
      rw [← hdn, ← hen, heq]
      rfl
    obtain rfl : e = c := hreads.distinct e hmem c hc
      ((hreads.table_eq hmem).trans (hreads.table_eq hc).symm) (hen.trans hdn)
    obtain ⟨v, hv, hkind⟩ := hleft.fill e he
    exact ⟨v, by rw [ht, hother, ← ht, hv, Option.none_or], hkind⟩
  · obtain ⟨v, hv, hkind⟩ := hright l hl c hc
    exact ⟨v, by rw [hv, Option.some_or], hkind⟩

/-- Samples of the columns of right rows, if there are any, can stand for a right row. -/
theorem exists_right (n : Node) : ∃ right : Bindings,
    (∀ l, n.lookup = some l → right.Fill l.rightColumns) ∧
    (∀ table ≠ lookupAlias, ∀ field, right.look table field = none) ∧ Assoc.Keyed right := by
  cases n.lookup with
  | none => exact ⟨[], nofun, fun _ _ _ => rfl, Assoc.keyed_nil⟩
  | some l =>
    have hcovers := Columns.covers_sample (l.right.distinct_columnsAs lookupAlias)
    refine ⟨_, fun l' hl => ?_, fun table ht => hcovers.other fun c hc htable => ht ?_, hcovers.keyed⟩
    · exact Option.some.inj hl ▸ hcovers.fill
    · exact htable ▸ (Table.mem_columnsAs hc).1

/-- A left row alone answers a selector like the row with a right row, or the selector asks for a
column of right rows. -/
theorem select_left (hreads : columns.Reads n.readerColumns readerAlias) (hleft : left.Covers columns)
    (hother : ∀ table ≠ lookupAlias, ∀ field, right.look table field = none)
    (hkeyed : Assoc.Keyed right) (table field : String) :
    select left table field = select (Assoc.merge left right) table field ∨
      table = lookupAlias ∧
        select left table field = .error (.unknownAlias lookupAlias field) := by
  by_cases htable : table = lookupAlias
  · subst htable
    have hnone : left.look lookupAlias field = none :=
      hleft.other (fun c hc ht => absurd (ht.symm.trans (hreads.table_eq_of_paged hc)) (by decide)) _
    have hget : Assoc.get? left lookupAlias = none := by
      simpa [Bindings.look] using hnone
    exact Or.inr ⟨rfl, by simp [select, constant?, hget, show lookupAlias ≠ "time" by decide]⟩
  · refine Or.inl (Bindings.select_eq_of_look ?_)
    rw [Bindings.look_merge hkeyed, hother _ htable, Option.none_or]

/-- Without a right row, a field that is no aggregate asks for a column of right rows, or has a
value of its type or fails but not by a name. -/
theorem missing_calculate (hn : n.Defined checked source)
    (hsource : ∀ f ∈ source.fields, f.name ≠ rowidName) (hcolumns : n.leftColumns = .ok columns)
    (hf : f ∈ n.output.fields) (hplain : f.isAggregate = false) (hleft : left.Covers columns)
    (now : DateTime) :
    Nameless (fun v => v.kind = f.kind) (f.calculate now left none).1 ∨
      ∃ field, (lookupAlias, field) ∈ f.usedFields ∧
        (f.calculate now left none).1 = .error (.fieldEval f.name (.unknownAlias lookupAlias field)) := by
  obtain ⟨right, hright, hother, hkeyed⟩ := exists_right n
  obtain ⟨hreads, -⟩ := reads_of_leftColumns hn hcolumns
  obtain ⟨start, done, hprobed, hgrows⟩ := hn.promises.foreseen_none hf hplain
  have hfill := fill_pair hn hsource hcolumns hf hleft hright (hother readerAlias (by decide)) hkeyed
  have hselect : ∀ p ∈ f.expr.selectors,
      select left p.1 p.2 = select (Assoc.merge left right) p.1 p.2 ∨
      ∃ err, (∃ field, (lookupAlias, field) ∈ f.usedFields ∧
        err = EvalError.unknownAlias lookupAlias field) ∧ select left p.1 p.2 = .error err := by
    intro p hp
    refine (select_left hreads hleft hother hkeyed p.1 p.2).imp_right fun ⟨htable, herror⟩ => ?_
    exact ⟨_, ⟨p.2, Expr.mem_usedFields.2 (htable ▸ hp), rfl⟩, herror⟩
  have hends : Eval.EndsLike _ (Expr.evalM now left f.expr)
      (Expr.evalM now (Assoc.merge left right) f.expr) := Expr.endsLike_evalM f.expr hselect
  rcases hends none with heq | ⟨err, ⟨field, hused, rfl⟩, herr⟩
  · left
    exact Field.nameless_outcome heq (hprobed.evalWith hfill hgrows).2
  · right
    refine ⟨field, hused, ?_⟩
    have hout : (f.expr.evalWith now left none).1 = .error (.unknownAlias lookupAlias field) := herr
    unfold Field.calculate
    rcases hx : f.expr.evalWith now left none with ⟨x, t⟩
    rw [hx] at hout
    obtain rfl : x = _ := hout
    rfl

end Node
end TableMill
