import TableMill.Proofs.TypedPages
import TableMill.Table.SlotPage

/-!
# Slots of a page

A page of slots behaves as the page that is seen of it. What the slots beyond the rows hold is
never seen, and a change that fails leaves all slots as they are.
-/

namespace TableMill

inductive PageStep
  | init (capacity : Nat)
  | reset
  | append (values : List Value)
  | setRow (i : Nat) (values : List Value)
  | setValue (i : Nat) (table name : String) (v : Value)
  deriving DecidableEq

namespace PageStep

def onPage (page : RowPage) : PageStep → TableResult RowPage
  | init capacity => .ok (page.init capacity)
  | reset => .ok page.reset
  | append values => page.append values
  | setRow i values => page.setRow i values
  | setValue i table name v => page.setValue i table name v

/-- What a change that succeeds answers: the number of the row if one is appended. -/
def answer (page : RowPage) : PageStep → Option Nat
  | append _ => some page.rowCount
  | init _ | reset | setRow _ _ | setValue _ _ _ _ => none

/-- The page after a change. One that fails does nothing. -/
def next (page : RowPage) (step : PageStep) : RowPage :=
  match step.onPage page with
  | .ok page' => page'
  | .error _ => page

def onSlots : PageStep → SlotPage.Change (Option Nat)
  | init capacity => do
    SlotPage.init capacity
    return none
  | reset => do
    SlotPage.reset
    return none
  | append values => do
    let i ← SlotPage.append values
    return some i
  | setRow i values => do
    SlotPage.setRow i values
    return none
  | setValue i table name v => do
    SlotPage.setValue i table name v
    return none

end PageStep

namespace RowPage

def run (page : RowPage) (steps : List PageStep) : RowPage :=
  steps.foldl PageStep.next page

theorem run_append (page : RowPage) (steps more : List PageStep) :
    page.run (steps ++ more) = (page.run steps).run more :=
  List.foldl_append

theorem Built.next {columns : Columns} {page : RowPage} (h : Built columns page)
    (step : PageStep) : Built columns (step.next page) := by
  unfold PageStep.next
  split
  · next page' hpage =>
    cases step with
    | init capacity => exact Except.ok.inj hpage ▸ h.init capacity
    | reset => exact Except.ok.inj hpage ▸ h.reset
    | append values => exact h.append hpage
    | setRow i values => exact h.setRow hpage
    | setValue i table name v => exact h.setValue hpage
  · exact h

theorem Built.run {columns : Columns} {page : RowPage} (h : Built columns page)
    (steps : List PageStep) : Built columns (page.run steps) := by
  induction steps generalizing page with
  | nil => exact h
  | cons step rest ih => exact ih (h.next step)

end RowPage

namespace SlotPage

def run (s : SlotPage) (steps : List PageStep) : SlotPage :=
  steps.foldl (fun s step => (step.onSlots.run.run s).2) s

/-- A page of slots as its changes keep it. -/
structure Laid (columns : Columns) (s : SlotPage) : Prop where
  columns_eq : s.columns = columns
  places_eq : s.places = (ofColumns columns).places
  count_le : s.count ≤ s.slots.length

variable {columns : Columns} {s : SlotPage} {α β : Type}

theorem laid_ofColumns (columns : Columns) : (ofColumns columns).Laid columns :=
  ⟨rfl, rfl, Nat.le_refl 0⟩

/-! ## Reading -/

namespace Laid

theorem rowCount_view (h : s.Laid columns) : s.view.rowCount = s.count :=
  List.length_take_of_le h.count_le

theorem row_eq (h : s.Laid columns) (i : Nat) : s.row i = s.view.row i := by
  have hcount := h.count_le
  unfold row RowPage.row
  by_cases hi : i < s.count
  · have hslot : i < s.slots.length := by omega
    simp [hi, view, hslot]
  · have hnone : s.view.rows[i]? = none := by
      simp only [view, List.getElem?_eq_none_iff, List.length_take]
      omega
    rw [if_neg hi, hnone, h.rowCount_view]

end Laid

theorem get?_merge_places (path : String) (columns : Columns) (k : Nat) (m : Assoc Nat) :
    (Assoc.merge m ((columns.zipIdx k).map fun p => (p.1.path, p.2))).get? path =
      match RowPage.placeOf path columns with
      | some n => some (n + k)
      | none => m.get? path := by
  induction columns generalizing k m with
  | nil => rfl
  | cons c cs ih =>
    have hrest := ih (k + 1) (m.set c.path k)
    rw [Assoc.get?_set] at hrest
    simp only [List.zipIdx_cons, List.map_cons, Assoc.merge, List.foldl_cons] at hrest ⊢
    rw [hrest, RowPage.placeOf]
    cases RowPage.placeOf path cs with
    | some n => exact congrArg some (by omega)
    | none =>
      by_cases hpath : c.path = path
      · simp [hpath]
      · simp [hpath]

theorem get?_places (columns : Columns) (path : String) :
    (ofColumns columns).places.get? path = RowPage.placeOf path columns := by
  have hmerge := get?_merge_places path columns 0 []
  rw [ofColumns, Assoc.ofList, hmerge]
  cases RowPage.placeOf path columns <;> rfl

namespace Laid

theorem place?_view (h : s.Laid columns) (table name : String) :
    s.view.place? table name = s.places.get? (table ++ "." ++ name) := by
  rw [h.places_eq, get?_places, ← h.columns_eq]
  rfl

theorem columnAt_eq (h : s.Laid columns) (table name : String) :
    (∃ n c, s.place table name = .ok n ∧ s.columns[n]? = some c ∧
        s.view.columnAt table name = .ok (n, c)) ∨
      s.place table name = .error (.unknownField (table ++ "." ++ name)) ∧
        s.view.columnAt table name = .error (.unknownField (table ++ "." ++ name)) := by
  unfold place RowPage.columnAt
  rw [← h.place?_view]
  cases hplace : s.view.place? table name with
  | none => exact Or.inr ⟨rfl, rfl⟩
  | some n =>
    obtain ⟨c, hc, -⟩ := RowPage.placeOf_spec hplace
    have hcolumn : s.columns[n]? = some c := hc
    exact Or.inl ⟨n, c, rfl, hcolumn, by simp [hc]⟩

theorem value_eq (h : s.Laid columns) (htyped : s.view.Typed columns) (i : Nat)
    (table name : String) : s.value i table name = s.view.value i table name := by
  unfold value RowPage.value
  rw [h.row_eq]
  cases hrow : s.view.row i with
  | error e => rfl
  | ok values =>
    rcases h.columnAt_eq table name with ⟨n, c, hplace, hc, hcolumn⟩ | ⟨hplace, hcolumn⟩
    · have hvalues := htyped.rows values (RowPage.mem_of_row hrow)
      rw [h.columns_eq] at hc
      obtain ⟨v, hv, -⟩ := RowPage.getElem?_of_forall₂ hvalues hc
      rw [hplace, hcolumn]
      simp [bind, Except.bind, List.getD_eq_getElem?_getD, hv, List.getElem!_of_getElem? hv]
    · rw [hplace, hcolumn]
      rfl

theorem bindRow_eq (h : s.Laid columns) (i : Nat) (vars : Bindings) (table : Option String) :
    s.bindRow i vars table = s.view.bindRow i vars table := by
  rw [bindRow, RowPage.bindRow, h.row_eq]
  rfl

end Laid

/-! ## Changes -/

/-- A change of a page of slots ends as a change of the page that is seen, and answers something.
If it fails, it leaves all slots as they are. -/
def Mirrors (columns : Columns) (s : SlotPage) (change : Change α) (answer : α) :
    TableResult RowPage → Prop
  | .ok page => ∃ s', change.run.run s = (.ok answer, s') ∧ s'.view = page ∧ s'.Laid columns
  | .error e => change.run.run s = (.error e, s)

namespace Mirrors

theorem lift {x : TableResult α} {f : α → Change β} {g : α → TableResult RowPage} {answer : β}
    (h : ∀ a, x = .ok a → s.Mirrors columns (f a) answer (g a)) :
    s.Mirrors columns ((liftM x : Change α) >>= f) answer (x >>= g) := by
  cases x with
  | error e => exact rfl
  | ok a => exact h a rfl

theorem map {change : Change α} {answer : α} {result : TableResult RowPage}
    (h : s.Mirrors columns change answer result) (f : α → β) :
    s.Mirrors columns (do let a ← change; return f a) (f answer) result := by
  have hrun : (do let a ← change; return f a : Change β).run.run s = match change.run.run s with
      | (.ok a, s') => (.ok (f a), s')
      | (.error e, s') => (.error e, s') := by
    rw [ExceptT.run_bind, StateT.run_bind]
    rcases change.run.run s with ⟨e | a, s'⟩
    · rfl
    · rfl
  cases result with
  | error e =>
    have hfails : change.run.run s = (.error e, s) := h
    rw [hfails] at hrun
    exact hrun
  | ok page =>
    obtain ⟨s', hok, hview, hlaid⟩ := h
    rw [hok] at hrun
    exact ⟨s', hrun, hview, hlaid⟩

end Mirrors

namespace Laid

theorem mirrors_init (h : s.Laid columns) (capacity : Nat) :
    s.Mirrors columns (init capacity) () (.ok (s.view.init capacity)) := by
  refine ⟨_, rfl, ?_, h.columns_eq, h.places_eq, Nat.zero_le _⟩
  simp [view, RowPage.init]

theorem mirrors_reset (h : s.Laid columns) : s.Mirrors columns reset () (.ok s.view.reset) :=
  ⟨_, rfl, rfl, h.columns_eq, h.places_eq, Nat.zero_le _⟩

/-- What the next slot held before is not seen. -/
theorem mirrors_append (h : s.Laid columns) (values : List Value) :
    s.Mirrors columns (append values) s.view.rowCount (s.view.append values) := by
  rw [h.rowCount_view]
  refine Mirrors.lift fun _ _ => ?_
  rw [h.rowCount_view]
  show s.Mirrors columns _ _ (if s.count < s.slots.length then _ else _)
  by_cases hroom : s.count < s.slots.length
  · rw [if_pos hroom, if_pos hroom]
    refine ⟨_, rfl, ?_, h.columns_eq, h.places_eq, ?_⟩
    · have htake : (s.slots.set s.count values).take (s.count + 1) =
          s.slots.take s.count ++ [values] := by
        rw [List.take_succ_eq_append_getElem (by simpa using hroom),
          List.take_set_of_le (Nat.le_refl _), List.getElem_set_self]
      simp only [view, htake, List.length_set]
    · simpa using Nat.succ_le_of_lt hroom
  · rw [if_neg hroom, if_neg hroom]
    exact rfl

theorem mirrors_replace (h : s.Laid columns) (i : Nat) (values : List Value) :
    s.Mirrors columns (set { s with slots := s.slots.set i values }) ()
      (.ok { s.view with rows := s.view.rows.set i values }) := by
  refine ⟨_, rfl, ?_, h.columns_eq, h.places_eq, ?_⟩
  · simp only [view, List.take_set, List.length_set]
  · simpa using h.count_le

theorem mirrors_setRow (h : s.Laid columns) (i : Nat) (values : List Value) :
    s.Mirrors columns (setRow i values) () (s.view.setRow i values) := by
  unfold RowPage.setRow
  rw [← h.row_eq]
  exact Mirrors.lift fun _ _ => Mirrors.lift fun _ _ => h.mirrors_replace i values

theorem mirrors_setValue (h : s.Laid columns) (i : Nat) (table name : String) (v : Value) :
    s.Mirrors columns (setValue i table name v) () (s.view.setValue i table name v) := by
  unfold RowPage.setValue
  rw [← h.row_eq]
  refine Mirrors.lift fun values _ => ?_
  rcases h.columnAt_eq table name with ⟨n, c, hplace, hc, hcolumn⟩ | ⟨hplace, hcolumn⟩
  · have hpure : (liftM (.ok n : TableResult Nat) : Change Nat) = pure n := rfl
    rw [hplace, hcolumn, hpure, pure_bind, hc]
    exact Mirrors.lift fun _ _ => h.mirrors_replace i (values.set n v)
  · rw [hplace, hcolumn]
    exact rfl

theorem mirrors_step (h : s.Laid columns) (step : PageStep) :
    s.Mirrors columns step.onSlots (step.answer s.view) (step.onPage s.view) := by
  cases step with
  | init capacity => exact (h.mirrors_init capacity).map fun _ => none
  | reset => exact h.mirrors_reset.map fun _ => none
  | append values => exact (h.mirrors_append values).map some
  | setRow i values => exact (h.mirrors_setRow i values).map fun _ => none
  | setValue i table name v => exact (h.mirrors_setValue i table name v).map fun _ => none

theorem view_step (h : s.Laid columns) (step : PageStep) :
    (step.onSlots.run.run s).2.view = step.next s.view ∧
      (step.onSlots.run.run s).2.Laid columns := by
  have hstep := h.mirrors_step step
  unfold PageStep.next
  cases hpage : step.onPage s.view with
  | error e =>
    rw [hpage] at hstep
    have hrun : step.onSlots.run.run s = (.error e, s) := hstep
    rw [hrun]
    exact ⟨rfl, h⟩
  | ok page =>
    rw [hpage] at hstep
    obtain ⟨s', hrun, hview, hlaid⟩ := hstep
    rw [hrun]
    exact ⟨hview, hlaid⟩

/-- After any changes, what they make of the page that was seen is seen. -/
theorem view_run (h : s.Laid columns) (steps : List PageStep) :
    (s.run steps).view = s.view.run steps ∧ (s.run steps).Laid columns := by
  induction steps generalizing s with
  | nil => exact ⟨rfl, h⟩
  | cons step rest ih =>
    obtain ⟨hview, hlaid⟩ := h.view_step step
    obtain ⟨hrest, hlaid'⟩ := ih hlaid
    rw [hview] at hrest
    exact ⟨hrest, hlaid'⟩

end Laid
end SlotPage
end TableMill
