import Mathlib.Data.Prod.Basic
import TableMill.Proofs.PageLists

/-!
# Collections of columns

A collection has one column for every pair of alias and name: the one that was offered first, and
in the order in which the pairs were offered. Of the ways to come by a collection one can break
this: columns of several aliases that are put under one alias may come to share a pair.
-/

namespace TableMill

namespace Columns

variable {cs : Columns}

/-! ## The first column of every pair -/

/-- The columns of a list that have a pair of alias and name which no column before them has. -/
def firsts : List Column → Columns
  | [] => []
  | c :: cs => c :: (firsts cs).filter fun d => !d.isAt c.table c.name

/-- No name stands under two aliases. -/
def NamesApart (cs : Columns) : Prop :=
  ∀ c ∈ cs, ∀ d ∈ cs, c.name = d.name → c.table = d.table

theorem isAt_iff {c : Column} {table name : String} :
    c.isAt table name = true ↔ c.table = table ∧ c.name = name := by
  simp [Column.isAt]

theorem has_append (cs more : Columns) (table name : String) :
    has (cs ++ more) table name = (cs.has table name || more.has table name) := by
  simp [has, at?, List.find?_append]

theorem has_singleton (c : Column) (table name : String) :
    has [c] table name = c.isAt table name := by
  cases h : c.isAt table name <;> simp [has, at?, h]

/-- Columns that are added to a collection one after the other: the first ones of those pairs that
the collection does not have. -/
theorem foldl_addNew_eq (cs more : Columns) :
    more.foldl addNew cs = cs ++ (firsts more).filter fun d => !cs.has d.table d.name := by
  induction more generalizing cs with
  | nil => simp [firsts]
  | cons c rest ih =>
    rw [List.foldl_cons, ih, addNew, firsts]
    by_cases hc : cs.has c.table c.name = true
    · have hother : ∀ d : Column,
          (!cs.has d.table d.name) = (!d.isAt c.table c.name && !cs.has d.table d.name) := by
        intro d
        cases hd : d.isAt c.table c.name with
        | false => rfl
        | true =>
          obtain ⟨ht, hn⟩ := isAt_iff.1 hd
          simp [ht, hn, hc]
      rw [if_pos hc, List.filter_cons_of_neg (by simp [hc]), List.filter_filter]
      simp only [Bool.and_comm, ← hother]
    · have hnew : ∀ d : Column, (!has (cs ++ [c]) d.table d.name) =
          (!cs.has d.table d.name && !d.isAt c.table c.name) := by
        intro d
        have hsame : c.isAt d.table d.name = d.isAt c.table c.name := by
          rw [Bool.eq_iff_iff, isAt_iff, isAt_iff, eq_comm, @eq_comm _ c.name]
        rw [has_append, has_singleton, hsame, Bool.not_or]
      rw [if_neg hc, List.filter_cons_of_pos (by simp [hc]), List.filter_filter,
        List.append_assoc, List.singleton_append]
      simp only [hnew]

theorem ofList_eq_firsts (offered : List Column) : ofList offered = firsts offered := by
  rw [ofList, foldl_addNew_eq]
  simp [has, at?]

theorem unique_firsts (offered : List Column) : (firsts offered).Unique :=
  ofList_eq_firsts offered ▸ unique_ofList offered

theorem mem_of_mem_firsts {offered : List Column} {c : Column} (hc : c ∈ firsts offered) :
    c ∈ offered :=
  mem_ofList (ofList_eq_firsts offered ▸ hc)

theorem at?_firsts (offered : List Column) (table name : String) :
    (firsts offered).at? table name = at? offered table name := by
  induction offered with
  | nil => rfl
  | cons c rest ih =>
    unfold at? at ih ⊢
    rw [firsts, List.find?_cons, List.find?_cons]
    cases hc : c.isAt table name with
    | true => rfl
    | false =>
      have hother : ∀ d : Column, decide ((!d.isAt c.table c.name) = true ∧ d.isAt table name = true) =
          d.isAt table name := by
        intro d
        cases hd : d.isAt table name with
        | false => simp
        | true =>
          obtain ⟨rfl, rfl⟩ := isAt_iff.1 hd
          have hne : d.isAt c.table c.name = false := by
            rw [Bool.eq_false_iff, ne_eq, isAt_iff]
            rintro ⟨ht, hn⟩
            exact Bool.eq_false_iff.1 hc (isAt_iff.2 ⟨ht.symm, hn.symm⟩)
          simp [hne]
      simp only [List.find?_filter, hother]
      exact ih

/-- Pairs that are left out are left out of the first columns. -/
theorem firsts_filter {p : Column → Bool}
    (hp : ∀ c d : Column, c.table = d.table → c.name = d.name → p c = p d) (offered : List Column) :
    firsts (offered.filter p) = (firsts offered).filter p := by
  induction offered with
  | nil => rfl
  | cons c rest ih =>
    rw [firsts]
    by_cases hc : p c = true
    · rw [List.filter_cons_of_pos hc, List.filter_cons_of_pos hc, firsts, ih, List.filter_filter,
        List.filter_filter]
      simp only [Bool.and_comm]
    · have hother : ∀ d : Column, (p d && !d.isAt c.table c.name) = p d := by
        intro d
        cases hd : d.isAt c.table c.name with
        | false => simp
        | true =>
          obtain ⟨ht, hn⟩ := isAt_iff.1 hd
          simp [hp d c ht hn, hc]
      rw [List.filter_cons_of_neg hc, List.filter_cons_of_neg hc, ih, List.filter_filter]
      simp only [hother]

theorem firsts_firsts (offered : List Column) : firsts (firsts offered) = firsts offered := by
  induction offered with
  | nil => rfl
  | cons c rest ih =>
    have hpair : ∀ d e : Column, d.table = e.table → d.name = e.name →
        (!d.isAt c.table c.name) = !e.isAt c.table c.name := by
      intro d e ht hn
      rw [Column.isAt, Column.isAt, ht, hn]
    rw [firsts, firsts, firsts_filter hpair, ih, List.filter_filter]
    simp only [Bool.and_self]

theorem firsts_append (offered more : List Column) :
    firsts (offered ++ more) = (firsts more).foldl addNew (firsts offered) := by
  rw [foldl_addNew_eq, firsts_firsts, ← foldl_addNew_eq, ← ofList_eq_firsts, ← ofList_eq_firsts,
    ofList, List.foldl_append]
  rfl

/-! ## One step -/

/-- A collection together with the columns that were offered to it: it holds the first of them. -/
def Collects (offered : List Column) (cs : Columns) : Prop := cs = firsts offered

namespace Collects

variable {offered more : List Column} {ds : Columns}

theorem unique (h : Collects offered cs) : cs.Unique := h ▸ unique_firsts offered

theorem addNew (h : Collects offered cs) (c : Column) :
    Collects (offered ++ [c]) (cs.addNew c) := by
  rw [Collects, firsts_append, ← h]
  rfl

theorem append (h : Collects offered cs) (hmore : Collects more ds) (table : Option String) :
    Collects (offered ++ more.filter fun c => table.all (· == c.table)) (cs.append ds table) := by
  have halias : ∀ c d : Column, c.table = d.table → c.name = d.name →
      table.all (· == c.table) = table.all (· == d.table) := by
    intro c d ht _
    rw [ht]
  rw [Collects, firsts_append, firsts_filter halias, ← h, ← hmore]
  rfl

theorem ofAlias (h : Collects offered cs) (table : String) :
    Collects (Columns.ofAlias offered table) (cs.ofAlias table) := by
  have halias : ∀ c d : Column, c.table = d.table → c.name = d.name →
      (c.table == table) = (d.table == table) := by
    intro c d ht _
    rw [ht]
  unfold Collects Columns.ofAlias
  rw [firsts_filter halias, ← h]

theorem resolve (h : Collects offered cs) {used : List (String × String)} {ignored : List String}
    (hds : cs.resolve used ignored = .ok ds) :
    Collects ((used.filter fun p => !ignored.contains p.1).filterMap
      fun p => at? offered p.1 p.2) ds := by
  rw [Collects, ← ofList_eq_firsts, (resolve_eq_ok hds).2, h]
  simp only [at?_firsts]

theorem namesApart_iff (h : Collects offered cs) : NamesApart offered ↔ cs.NamesApart := by
  constructor
  · intro hapart c hc d hd
    rw [h] at hc hd
    exact hapart c (mem_of_mem_firsts hc) d (mem_of_mem_firsts hd)
  · intro hapart c hc d hd hname
    obtain ⟨c', hc', hct, hcn⟩ := ofList_covers hc
    obtain ⟨d', hd', hdt, hdn⟩ := ofList_covers hd
    rw [ofList_eq_firsts, ← h] at hc' hd'
    rw [← hct, ← hdt]
    exact hapart c' hc' d' hd' (hcn.trans (hname.trans hdn.symm))

theorem withAlias (h : Collects offered cs) (hapart : cs.NamesApart) (table : String) :
    Collects (Columns.withAlias offered table) (cs.withAlias table) := by
  have hfirsts : ∀ offered : List Column, NamesApart offered →
      firsts (Columns.withAlias offered table) = (firsts offered).withAlias table := by
    intro offered
    induction offered with
    | nil => exact fun _ => rfl
    | cons c rest ih =>
      intro hnames
      have hrest := ih fun d hd e he =>
        hnames d (List.mem_cons_of_mem _ hd) e (List.mem_cons_of_mem _ he)
      unfold Columns.withAlias at hrest ⊢
      rw [List.map_cons, firsts, firsts, List.map_cons, hrest, List.filter_map]
      congr 2
      refine List.filter_congr fun d hd => ?_
      have hsame : Column.isAt { d with table := table } table c.name = d.isAt c.table c.name := by
        rw [Bool.eq_iff_iff, isAt_iff, isAt_iff]
        constructor
        · rintro ⟨-, hn⟩
          exact ⟨hnames d (List.mem_cons_of_mem _ (mem_of_mem_firsts hd)) c List.mem_cons_self hn,
            hn⟩
        · rintro ⟨-, hn⟩
          exact ⟨rfl, hn⟩
      exact congrArg not hsame
  rw [Collects, hfirsts offered (h.namesApart_iff.2 hapart), ← h]

end Collects

/-- Columns that are put under one alias stay apart if and only if no two of them share a name. -/
theorem unique_withAlias_iff (h : cs.Unique) (table : String) :
    (cs.withAlias table).Unique ↔ cs.NamesApart := by
  have hnames : (cs.withAlias table).Unique ↔ (cs.map Column.name).Nodup := by
    have hpairs : (cs.withAlias table).map (fun c => (c.table, c.name)) =
        (cs.map Column.name).map (Prod.mk table) := by
      simp [withAlias]
    rw [Unique, hpairs, List.nodup_map_iff (Prod.mk_right_injective table)]
  rw [hnames]
  constructor
  · intro hnodup c hc d hd hname
    rw [List.inj_on_of_nodup_map hnodup hc hd hname]
  · intro hapart
    refine (List.nodup_map_iff_inj_on h.of_map).2 fun c hc d hd hname => ?_
    exact List.inj_on_of_nodup_map h hc hd (Prod.ext (hapart c hc d hd hname) hname)

/-! ## All ways to come by a collection -/

/-- A change of a collection. What it has done stays when it fails. -/
abbrev Change (α : Type) := ExceptT TableError (StateM Columns) α

def pushInPlace (c : Column) : Change Unit := do
  let cs ← get
  if cs.has c.table c.name then throw (.config (.duplicateColumn c))
  set (cs ++ [c])

theorem run_pushInPlace (cs : Columns) (c : Column) : (pushInPlace c).run.run cs =
    match cs.push c with
    | .ok ds => (.ok (), ds)
    | .error e => (.error e, cs) := by
  unfold push
  show (if cs.has c.table c.name then throw _ else set (cs ++ [c]) : Change Unit).run.run cs = _
  by_cases hc : cs.has c.table c.name = true
  · rw [if_pos hc, if_pos hc]
    rfl
  · rw [if_neg hc, if_neg hc]
    rfl

/-- A way to come by a collection, by way of others. -/
inductive Origin
  | new
  | collect (offered : List Column)
  | push (o : Origin) (c : Column)
  | append (o more : Origin) (table : Option String)
  | resolve (known : Origin) (used : List (String × String)) (ignored : List String)
  | ofAlias (o : Origin) (table : String)
  | withAlias (o : Origin) (table : String)

namespace Origin

/-- The collection that is come by. There is none where selectors are not resolved; a push that
fails hands on what it leaves. -/
def columns : Origin → TableResult Columns
  | new => .ok []
  | collect offered => .ok (ofList offered)
  | push o c => do
    let cs ← o.columns
    .ok ((pushInPlace c).run.run cs).2
  | append o more table => do
    let cs ← o.columns
    let ds ← more.columns
    .ok (cs.append ds table)
  | resolve known used ignored => do
    let cs ← known.columns
    cs.resolve used ignored
  | ofAlias o table => do
    let cs ← o.columns
    .ok (cs.ofAlias table)
  | withAlias o table => do
    let cs ← o.columns
    .ok (cs.withAlias table)

/-- The columns that were offered to a collection, in order, whether it took them or not. -/
def offered : Origin → List Column
  | new => []
  | collect offered => offered
  | push o c => o.offered ++ [c]
  | append o more table => o.offered ++ more.offered.filter fun c => table.all (· == c.table)
  | resolve known used ignored =>
    (used.filter fun p => !ignored.contains p.1).filterMap fun p => at? known.offered p.1 p.2
  | ofAlias o table => Columns.ofAlias o.offered table
  | withAlias o table => Columns.withAlias o.offered table

/-- Columns were put under one alias only where no name stood under two. -/
def RelabelsApart : Origin → Prop
  | new | collect _ => True
  | push o _ | resolve o _ _ | ofAlias o _ => o.RelabelsApart
  | append o more _ => o.RelabelsApart ∧ more.RelabelsApart
  | withAlias o _ => o.RelabelsApart ∧ ∀ cs, o.columns = .ok cs → cs.NamesApart

theorem collects {o : Origin} (hapart : o.RelabelsApart) (hcs : o.columns = .ok cs) :
    Collects o.offered cs := by
  induction o generalizing cs with
  | new => exact (Except.ok.inj hcs).symm
  | collect offered => exact (Except.ok.inj hcs).symm.trans (ofList_eq_firsts offered)
  | push o c ih =>
    obtain ⟨ds, hds, hcs⟩ := bind_eq_ok.1 hcs
    have hadd : ((pushInPlace c).run.run ds).2 = ds.addNew c := by
      by_cases hc : ds.has c.table c.name = true
      · simp [run_pushInPlace, Columns.push, addNew, misconfigured, hc]
      · simp [run_pushInPlace, Columns.push, addNew, hc]
    rw [hadd] at hcs
    exact Except.ok.inj hcs ▸ (ih hapart hds).addNew c
  | append o more table ih ihmore =>
    obtain ⟨ds, hds, hcs⟩ := bind_eq_ok.1 hcs
    obtain ⟨es, hes, hcs⟩ := bind_eq_ok.1 hcs
    exact Except.ok.inj hcs ▸ (ih hapart.1 hds).append (ihmore hapart.2 hes) table
  | resolve known used ignored ih =>
    obtain ⟨ds, hds, hcs⟩ := bind_eq_ok.1 hcs
    exact (ih hapart hds).resolve hcs
  | ofAlias o table ih =>
    obtain ⟨ds, hds, hcs⟩ := bind_eq_ok.1 hcs
    exact Except.ok.inj hcs ▸ (ih hapart hds).ofAlias table
  | withAlias o table ih =>
    obtain ⟨ds, hds, hcs⟩ := bind_eq_ok.1 hcs
    exact Except.ok.inj hcs ▸ (ih hapart.1 hds).withAlias (hapart.2 ds hds) table

/-- However a collection is come by, it has one column for every pair of alias and name that was
offered to it, the first one, in the order of the offers, if columns were put under one alias only
where no name stood under two. Where one did, the relabelled columns share a pair. A push that
fails leaves any collection as it is. -/
theorem columns_eq_firsts {o : Origin} (hcs : o.columns = .ok cs) :
    (o.RelabelsApart → cs.Unique ∧ cs = firsts o.offered ∧
      ∀ table, (cs.withAlias table).Unique ↔ cs.NamesApart) ∧
    ∀ c, (pushInPlace c).run.run cs =
      if cs.has c.table c.name then (.error (.config (.duplicateColumn c)), cs)
      else (.ok (), cs ++ [c]) := by
  refine ⟨fun hapart => ?_, fun c => ?_⟩
  · have hcollects := collects hapart hcs
    exact ⟨hcollects.unique, hcollects, unique_withAlias_iff hcollects.unique⟩
  · by_cases hc : cs.has c.table c.name = true
    · simp [run_pushInPlace, Columns.push, misconfigured, hc]
    · simp [run_pushInPlace, Columns.push, hc]

end Origin
end Columns

namespace ColumnSample

/-! Columns of two tables are collected, some of them more than once, and put under the alias of the
rows that are written. Both tables have a column `id`; put under one alias, they share a pair. -/

def orders : Columns := [⟨"r", "id", .int⟩, ⟨"r", "name", .text⟩]

def items : Columns := [⟨"l", "id", .int⟩, ⟨"l", "amount", .decimal⟩]

open Columns (Origin)

def known : Origin := .push (.append (.collect (orders ++ orders)) (.collect items) none)
  ⟨"r", "id", .float⟩

def written : Origin := .withAlias
  (.resolve known [("l", "amount"), ("time", "UTC"), ("r", "name"), ("l", "amount")] ["time"]) "w"

theorem columns_eq_firsts_written :
    written.RelabelsApart ∧
      written.columns = .ok [⟨"w", "amount", .decimal⟩, ⟨"w", "name", .text⟩] ∧
      Columns.Unique [⟨"w", "amount", .decimal⟩, ⟨"w", "name", .text⟩] ∧
      Columns.firsts written.offered = [⟨"w", "amount", .decimal⟩, ⟨"w", "name", .text⟩] ∧
      (Origin.withAlias known "w").columns = .ok [⟨"w", "id", .int⟩, ⟨"w", "name", .text⟩,
        ⟨"w", "id", .int⟩, ⟨"w", "amount", .decimal⟩] ∧
      ¬Columns.Unique [⟨"w", "id", .int⟩, ⟨"w", "name", .text⟩, ⟨"w", "id", .int⟩,
        ⟨"w", "amount", .decimal⟩] := by
  have hknown : known.columns = .ok (orders ++ items) := rfl
  have hcolumns : written.columns = .ok [⟨"w", "amount", .decimal⟩, ⟨"w", "name", .text⟩] := rfl
  have hapart : written.RelabelsApart := by
    refine ⟨⟨trivial, trivial⟩, fun cs hcs => ?_⟩
    obtain rfl : [⟨"l", "amount", .decimal⟩, ⟨"r", "name", .text⟩] = cs := Except.ok.inj hcs
    unfold Columns.NamesApart
    decide
  obtain ⟨hunique, hfirsts, -⟩ := (Origin.columns_eq_firsts hcolumns).1 hapart
  have hshared : ¬(orders ++ items).NamesApart := by
    unfold Columns.NamesApart
    decide
  obtain ⟨-, -, hwithAlias⟩ := (Origin.columns_eq_firsts hknown).1 ⟨trivial, trivial⟩
  refine ⟨hapart, hcolumns, hunique, hfirsts.symm, ?_, fun h => hshared ?_⟩
  · rw [Origin.columns, hknown]
    rfl
  · exact (hwithAlias "w").1 h

end ColumnSample
end TableMill
