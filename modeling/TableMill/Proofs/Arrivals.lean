import Mathlib.Data.List.Perm.Basic
import TableMill.Batch.Lookup
import TableMill.Proofs.Bindings

/-!
# Right rows that arrive at left rows

The left rows of a page share the right rows that arrive, one after the other. What becomes of
a left row depends only on itself and on the right rows that arrive at it.
-/

namespace TableMill

/-- A right row that arrives at the left rows at some places. -/
structure Arrival where
  places : List Nat
  vars : Bindings
  rowid : Int64

namespace Join

def outcomeItems : Except RowError (Option Item) → List Item
  | .ok item => item.toList
  | .error _ => []

def outcomeErrors : Except RowError (Option Item) → List RowError
  | .ok _ => []
  | .error e => [e]

variable (j : Join)

/-- What a single left row makes of a right row that arrives at it. -/
def meet (row : LeftRow) (a : Arrival) : LeftRow × List Item :=
  match j.lookup.passes j.now a.vars with
  | .error _ => ({ row with failed := true }, [])
  | .ok false => (row, [])
  | .ok true => ((j.pair row a.vars a.rowid).1, outcomeItems (j.pair row a.vars a.rowid).2)

def meetAll (row : LeftRow) : List Arrival → LeftRow × List Item
  | [] => (row, [])
  | a :: rest =>
    let (row, items) := j.meet row a
    let (row, more) := meetAll row rest
    (row, items ++ more)

def arriveAll (p : JoinPage) : List Arrival → JoinPage × List Item
  | [] => (p, [])
  | a :: rest =>
    let (p, items) := j.rightRow a.places a.vars a.rowid p
    let (p, more) := arriveAll p rest
    (p, items ++ more)

def arrivalsAt (i : Nat) (as : List Arrival) : List Arrival :=
  as.filter fun a => a.places.contains i

variable {j} {p : JoinPage}

theorem arriveAll_cons (a : Arrival) (rest : List Arrival) :
    j.arriveAll p (a :: rest) =
      let q := j.rightRow a.places a.vars a.rowid p
      ((j.arriveAll q.1 rest).1, q.2 ++ (j.arriveAll q.1 rest).2) := rfl

theorem meetAll_cons (row : LeftRow) (a : Arrival) (rest : List Arrival) :
    j.meetAll row (a :: rest) =
      let met := j.meet row a
      ((j.meetAll met.1 rest).1, met.2 ++ (j.meetAll met.1 rest).2) := rfl

theorem arriveAll_append (as bs : List Arrival) :
    j.arriveAll p (as ++ bs) =
      ((j.arriveAll (j.arriveAll p as).1 bs).1,
        (j.arriveAll p as).2 ++ (j.arriveAll (j.arriveAll p as).1 bs).2) := by
  induction as generalizing p with
  | nil => rfl
  | cons a rest ih => simp only [List.cons_append, arriveAll_cons, ih, List.append_assoc]

/-! ## One arrival -/

theorem put_rows (i : Nat) (row : LeftRow) (outcome : Except RowError (Option Item)) :
    (put p i row outcome).1.rows = p.rows.set i row := by
  cases outcome <;> rfl

theorem put_items (i : Nat) (row : LeftRow) (outcome : Except RowError (Option Item)) :
    (put p i row outcome).2 = outcomeItems outcome := by
  cases outcome <;> rfl

theorem put_errors (i : Nat) (row : LeftRow) (outcome : Except RowError (Option Item)) :
    (put p i row outcome).1.errors = p.errors ++ outcomeErrors outcome := by
  cases outcome with
  | ok item => exact (List.append_nil _).symm
  | error e => rfl

theorem fail_rows (places : List Nat) (e : RowError) (i : Nat) :
    (fail places p e).rows[i]? =
      if i ∈ places then p.rows[i]?.map fun row => { row with failed := true } else p.rows[i]? := by
  simp only [fail]
  generalize p.rows = rows
  induction places generalizing rows with
  | nil => simp
  | cons k rest ih =>
    rw [List.foldl_cons, ih, List.getElem?_modify]
    by_cases hk : k = i
    · subst hk
      cases rows[k]? with
      | none => simp
      | some row => simp
    · have hk' : ¬ i = k := fun h => hk h.symm
      simp [hk, hk']

theorem fail_length (places : List Nat) (e : RowError) :
    (fail places p e).rows.length = p.rows.length := by
  simp only [fail]
  generalize p.rows = rows
  induction places generalizing rows with
  | nil => rfl
  | cons k rest ih => rw [List.foldl_cons, ih, List.length_modify]

/-- One step of the left rows at some places. -/
theorem pairAll_cons (right : Bindings) (rowid : Int64) {i : Nat} {row : LeftRow} (rest : List Nat)
    (h : p.rows[i]? = some row) :
    j.pairAll right rowid (i :: rest) p =
      let q := put p i (j.pair row right rowid).1 (j.pair row right rowid).2
      ((j.pairAll right rowid rest q.1).1, q.2 ++ (j.pairAll right rowid rest q.1).2) := by
  simp only [pairAll, h]

theorem pairAll_cons_none (right : Bindings) (rowid : Int64) {i : Nat} (rest : List Nat)
    (h : p.rows[i]? = none) :
    j.pairAll right rowid (i :: rest) p = j.pairAll right rowid rest p := by
  simp only [pairAll, h]

variable {places : List Nat} {right : Bindings} {rowid : Int64}

theorem pairAll_rows (hnodup : places.Nodup) (i : Nat) :
    (j.pairAll right rowid places p).1.rows[i]? =
      if i ∈ places then p.rows[i]?.map fun row => (j.pair row right rowid).1 else p.rows[i]? := by
  induction places generalizing p with
  | nil => simp [pairAll]
  | cons k rest ih =>
    obtain ⟨hk, hrest⟩ := List.nodup_cons.1 hnodup
    cases hrow : p.rows[k]? with
    | none =>
      rw [pairAll_cons_none right rowid rest hrow, ih hrest]
      by_cases hi : i = k
      · subst hi
        simp [hk, hrow]
      · simp [hi]
    | some row =>
      have hlt : k < p.rows.length := (List.getElem?_eq_some_iff.1 hrow).1
      simp only [pairAll_cons right rowid rest hrow, ih hrest, put_rows, List.getElem?_set]
      by_cases hi : i = k
      · subst hi
        obtain ⟨_, hget⟩ := List.getElem?_eq_some_iff.1 hrow
        simp [hk, hlt, hget]
      · have hi' : ¬ k = i := fun h => hi h.symm
        simp [hi, hi']

/-- What the left row at a place hands over when a right row arrives. -/
def madeAt (j : Join) (p : JoinPage) (a : Arrival) (i : Nat) : List Item :=
  p.rows[i]?.toList.flatMap fun row => (j.meet row a).2

theorem pairAll_items (hnodup : places.Nodup) :
    (j.pairAll right rowid places p).2 =
      places.flatMap fun i => p.rows[i]?.toList.flatMap fun row =>
        outcomeItems (j.pair row right rowid).2 := by
  induction places generalizing p with
  | nil => rfl
  | cons k rest ih =>
    obtain ⟨hk, hrest⟩ := List.nodup_cons.1 hnodup
    rw [List.flatMap_cons]
    cases hrow : p.rows[k]? with
    | none => rw [pairAll_cons_none right rowid rest hrow, ih hrest]; rfl
    | some row =>
      simp only [pairAll_cons right rowid rest hrow, ih hrest, put_items, put_rows,
        Option.toList_some, List.flatMap_singleton]
      congr 1
      apply List.flatMap_congr
      intro i hi
      have hki : ¬ k = i := fun h => hk (h ▸ hi)
      rw [List.getElem?_set, if_neg hki]

theorem pairAll_errors (hnodup : places.Nodup) :
    (j.pairAll right rowid places p).1.errors = p.errors ++
      places.flatMap fun i => p.rows[i]?.toList.flatMap fun row =>
        outcomeErrors (j.pair row right rowid).2 := by
  induction places generalizing p with
  | nil => simp [pairAll]
  | cons k rest ih =>
    obtain ⟨hk, hrest⟩ := List.nodup_cons.1 hnodup
    rw [List.flatMap_cons]
    cases hrow : p.rows[k]? with
    | none => rw [pairAll_cons_none right rowid rest hrow, ih hrest]; rfl
    | some row =>
      simp only [pairAll_cons right rowid rest hrow, ih hrest, put_errors, put_rows,
        Option.toList_some, List.flatMap_singleton, List.append_assoc]
      congr 2
      apply List.flatMap_congr
      intro i hi
      have hki : ¬ k = i := fun h => hk (h ▸ hi)
      rw [List.getElem?_set, if_neg hki]

/-- An arrival changes the left rows at its places only, each one on its own. -/
theorem rightRow_rows {a : Arrival} (hnodup : a.places.Nodup) (i : Nat) :
    (j.rightRow a.places a.vars a.rowid p).1.rows[i]? =
      if i ∈ a.places then p.rows[i]?.map fun row => (j.meet row a).1 else p.rows[i]? := by
  unfold rightRow meet
  cases j.lookup.passes j.now a.vars with
  | error e => exact fail_rows _ _ i
  | ok passes =>
    cases passes with
    | false => simp
    | true => exact pairAll_rows hnodup i

theorem rightRow_length (a : Arrival) (hnodup : a.places.Nodup) :
    (j.rightRow a.places a.vars a.rowid p).1.rows.length = p.rows.length := by
  apply Nat.le_antisymm
  · apply List.getElem?_eq_none_iff.1
    rw [rightRow_rows hnodup, List.getElem?_eq_none (Nat.le_refl _)]
    simp
  · apply List.getElem?_eq_none_iff.1
    have h := rightRow_rows (j := j) (p := p) hnodup
      (j.rightRow a.places a.vars a.rowid p).1.rows.length
    rw [List.getElem?_eq_none (Nat.le_refl _)] at h
    split at h
    · exact Option.map_eq_none_iff.1 h.symm
    · exact h.symm

theorem rightRow_items {a : Arrival} (hnodup : a.places.Nodup) :
    (j.rightRow a.places a.vars a.rowid p).2 = a.places.flatMap (j.madeAt p a) := by
  unfold rightRow madeAt meet
  cases j.lookup.passes j.now a.vars with
  | error e => simp
  | ok passes =>
    cases passes with
    | false => simp
    | true => exact pairAll_items hnodup

/-! ## All arrivals -/

/-- Arrivals at existing places, without repetition. -/
def Placed (count : Nat) (as : List Arrival) : Prop :=
  ∀ a ∈ as, a.places.Nodup ∧ ∀ i ∈ a.places, i < count

theorem arrivalsAt_cons (i : Nat) (a : Arrival) (rest : List Arrival) :
    arrivalsAt i (a :: rest) =
      if i ∈ a.places then a :: arrivalsAt i rest else arrivalsAt i rest := by
  simp only [arrivalsAt, List.filter_cons, List.contains_iff_mem]

theorem arrivalsAt_append (i : Nat) (as bs : List Arrival) :
    arrivalsAt i (as ++ bs) = arrivalsAt i as ++ arrivalsAt i bs :=
  List.filter_append _ _

/-- Every left row ends as if the right rows that arrive at it arrived at it alone. -/
theorem arriveAll_rows {as : List Arrival} (h : Placed p.rows.length as) (i : Nat) :
    (j.arriveAll p as).1.rows[i]? =
      p.rows[i]?.map fun row => (j.meetAll row (arrivalsAt i as)).1 := by
  induction as generalizing p with
  | nil => simp [arriveAll, arrivalsAt, meetAll]
  | cons a rest ih =>
    have hnodup := (h a List.mem_cons_self).1
    have hrest : Placed (j.rightRow a.places a.vars a.rowid p).1.rows.length rest := by
      rw [rightRow_length a hnodup]
      exact fun b hb => h b (List.mem_cons_of_mem _ hb)
    simp only [arriveAll_cons, ih hrest, rightRow_rows hnodup, arrivalsAt_cons]
    by_cases hi : i ∈ a.places
    · simp [hi, meetAll_cons, Function.comp_def]
    · simp [hi]

/-- What all left rows hand over, each on its own. -/
def ownItems (j : Join) (p : JoinPage) (as : List Arrival) (i : Nat) : List Item :=
  p.rows[i]?.toList.flatMap fun row => (j.meetAll row (arrivalsAt i as)).2

theorem flatMap_places_perm {β : Type} {places : List Nat} {count : Nat} (hnodup : places.Nodup)
    (hlt : ∀ i ∈ places, i < count) (made : Nat → List β) :
    (places.flatMap made).Perm
      ((List.range count).flatMap fun i => if i ∈ places then made i else []) := by
  have hperm : ((List.range count).filter (· ∈ places)).Perm places := by
    refine (List.perm_ext_iff_of_nodup (List.nodup_range.filter _) hnodup).2 fun i => ?_
    simp only [List.mem_filter, List.mem_range, decide_eq_true_eq]
    exact ⟨fun h => h.2, fun h => ⟨hlt i h, h⟩⟩
  have hfilter : ∀ is : List Nat, (is.filter (· ∈ places)).flatMap made =
      is.flatMap fun i => if i ∈ places then made i else [] := by
    intro is
    induction is with
    | nil => rfl
    | cons i rest ih =>
      by_cases hi : i ∈ places
      · simp [hi, ih]
      · simp [hi, ih]
  rw [← hfilter]
  exact hperm.symm.flatMap_right made

/-- Together, the left rows hand over what each of them hands over alone. -/
theorem arriveAll_items {as : List Arrival} (h : Placed p.rows.length as) :
    (j.arriveAll p as).2.Perm ((List.range p.rows.length).flatMap (j.ownItems p as)) := by
  induction as generalizing p with
  | nil =>
    have hnone : j.ownItems p [] = fun _ => [] := by
      funext i
      simp [ownItems, arrivalsAt, meetAll]
    simp [arriveAll, hnone]
  | cons a rest ih =>
    obtain ⟨hnodup, hlt⟩ := h a List.mem_cons_self
    have hlength := rightRow_length (j := j) (p := p) a hnodup
    have hrest : Placed (j.rightRow a.places a.vars a.rowid p).1.rows.length rest := by
      rw [hlength]
      exact fun b hb => h b (List.mem_cons_of_mem _ hb)
    simp only [arriveAll_cons, rightRow_items hnodup]
    refine ((flatMap_places_perm hnodup hlt (j.madeAt p a)).append (ih hrest)).trans ?_
    rw [hlength]
    refine (List.flatMap_append_perm _ _ _).trans (List.Perm.of_eq (List.flatMap_congr ?_))
    intro i _
    simp only [ownItems, madeAt, rightRow_rows hnodup, arrivalsAt_cons]
    by_cases hi : i ∈ a.places
    · cases p.rows[i]? with
      | none => simp [hi]
      | some row => simp [hi, meetAll_cons]
    · simp [hi]

/-! ## Errors -/

/-- There are errors if and only if some left row failed. -/
def Sound (p : JoinPage) : Prop :=
  p.errors = [] ↔ ∀ (i : Nat) (row : LeftRow), p.rows[i]? = some row → row.failed = false

theorem Sound.errors_eq_nil (h : Sound p) :
    p.errors = [] ↔ ∀ row ∈ p.rows, row.failed = false := by
  refine Iff.trans h ⟨fun hall row hrow => ?_, fun hall i row hrow => ?_⟩
  · obtain ⟨i, hi⟩ := List.mem_iff_getElem?.1 hrow
    exact hall i row hi
  · exact hall row (List.mem_of_getElem? hrow)

theorem pair_failed (row : LeftRow) (right : Bindings) (rowid : Int64) :
    (j.pair row right rowid).1.failed = false ↔
      row.failed = false ∧ outcomeErrors (j.pair row right rowid).2 = [] := by
  unfold pair
  cases hf : row.failed with
  | true => simp [hf]
  | false =>
    simp only [Bool.false_eq_true, if_false, true_and]
    cases row.group with
    | some g =>
      cases hfed : j.feedFields (Assoc.merge row.vars right) j.node.output.fields g.states with
      | ok fed => simp [outcomeErrors, hfed]
      | error e => simp [outcomeErrors, hfed]
    | none =>
      cases hrecord : j.node.output.record j.now (Assoc.merge row.vars right) with
      | error e => simp [outcomeErrors]
      | ok record =>
        cases hitem : j.item row.context record with
        | ok item => simp [outcomeErrors, hitem]
        | error e => simp [outcomeErrors, hitem]

theorem sound_fail (places : List Nat) (e : RowError)
    (hplaces : ∃ i ∈ places, i < p.rows.length) : Sound (fail places p e) := by
  obtain ⟨i, hi, hlt⟩ := hplaces
  have herrors : (fail places p e).errors ≠ [] := by simp [fail]
  refine iff_of_false herrors fun h => ?_
  have hrow : (fail places p e).rows[i]? = some { p.rows[i] with failed := true } := by
    rw [fail_rows, if_pos hi, List.getElem?_eq_getElem hlt, Option.map_some]
  simpa using h i _ hrow

theorem sound_rightRow {a : Arrival} (h : Sound p) (hnodup : a.places.Nodup)
    (hplaces : ∃ i ∈ a.places, i < p.rows.length) :
    Sound (j.rightRow a.places a.vars a.rowid p).1 := by
  have hrows := rightRow_rows (j := j) (p := p) hnodup
  unfold rightRow at *
  cases hpass : j.lookup.passes j.now a.vars with
  | error e => exact sound_fail _ _ hplaces
  | ok passes =>
    cases passes with
    | false => exact h
    | true =>
      simp only [hpass, meet] at hrows
      have herrors : (j.pairAll a.vars a.rowid a.places p).1.errors = _ := pairAll_errors hnodup
      unfold Sound at *
      simp only [herrors, hrows, List.append_eq_nil_iff, h, List.flatMap_eq_nil_iff]
      constructor
      · rintro ⟨hold, hnew⟩ i row hrow
        split at hrow
        · next hi =>
          obtain ⟨old, hget, rfl⟩ := Option.map_eq_some_iff.1 hrow
          exact (pair_failed old _ _).2 ⟨hold i old hget, hnew i hi old (by simp [hget])⟩
        · exact hold i row hrow
      · intro hall
        refine ⟨fun i row hget => ?_, fun i hi row hmem => ?_⟩
        · have hi := hall i
          rw [hget] at hi
          by_cases hp : i ∈ a.places
          · simp only [hp, if_true, Option.map_some, Option.some.injEq, forall_eq'] at hi
            exact ((pair_failed row _ _).1 hi).1
          · simp only [hp, if_false, Option.some.injEq, forall_eq'] at hi
            exact hi
        · have hget : p.rows[i]? = some row := Option.mem_toList.1 hmem
          have hrow := hall i
          rw [hget] at hrow
          simp only [hi, if_true, Option.map_some, Option.some.injEq, forall_eq'] at hrow
          exact ((pair_failed row _ _).1 hrow).2

theorem sound_arriveAll {as : List Arrival} (hp : Sound p) (h : Placed p.rows.length as)
    (hsome : ∀ a ∈ as, a.places ≠ []) : Sound (j.arriveAll p as).1 := by
  induction as generalizing p with
  | nil => exact hp
  | cons a rest ih =>
    obtain ⟨hnodup, hlt⟩ := h a List.mem_cons_self
    obtain ⟨i, hi⟩ := List.exists_mem_of_ne_nil _ (hsome a List.mem_cons_self)
    have hlength := rightRow_length (j := j) (p := p) a hnodup
    have hrest : Placed (j.rightRow a.places a.vars a.rowid p).1.rows.length rest := by
      rw [hlength]
      exact fun b hb => h b (List.mem_cons_of_mem _ hb)
    have hsound := sound_rightRow (j := j) hp hnodup ⟨i, hi, hlt i hi⟩
    exact ih hsound hrest fun b hb => hsome b (List.mem_cons_of_mem _ hb)

end Join
end TableMill
