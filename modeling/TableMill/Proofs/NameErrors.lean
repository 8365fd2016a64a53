import TableMill.Batch.Run
import TableMill.Proofs.JoinKeys
import TableMill.Proofs.Reading

/-!
# Errors by names

Some errors come from the way that definitions are written: from a name that nothing answers to, a
wrong count of arguments, or an aggregate in the wrong place. Pages, keys and defaults fail in
other ways only.
-/

namespace TableMill

/-- The errors that come from a name, a count of arguments or the use of aggregates. -/
def EvalError.ofNames : EvalError → Bool
  | .unknownIdentifier _ | .unknownAlias _ _ | .unknownField _ _ | .unknownFunction _
  | .arity _ _ _ | .aggregateDisabled _ | .multipleAggregates _ _
  | .aggregateTypeChange _ _ _ _ => true
  | .parse _ | .function _ _ | .type _ | .intDivideByZero | .decimalDivideByZero
  | .overflow _ => false

theorem EvalError.ofNames_of_ofValues {e : EvalError} (h : e.OfValues) : e.ofNames = false := by
  cases e <;> first | rfl | exact h.elim

def ConfigFault.ofNames : ConfigFault → Bool
  | .unparsedField _ e | .unparsedHaving _ e | .unparsedFilter _ e | .havingFailed e
  | .filterFailed e => e.ofNames
  | _ => false

namespace TableError

mutual

def ofNames : TableError → Bool
  | eval e | fieldEval _ e => e.ofNames
  | config fault => fault.ofNames
  | index _ (.unparsed e) => e.ofNames
  | unknownField _ => true
  | inside _ e => e.ofNames
  | several errors => anyOfNames errors
  | malformed | index _ _ | missingKeyField _ _ | keyKind _ _ | noKey _ | pageFull _ | noRow _ _
  | fieldKind _ _ _ => false

def anyOfNames : List TableError → Bool
  | [] => false
  | e :: es => e.ofNames || anyOfNames es

end

theorem anyOfNames_eq_false {errors : List TableError} :
    anyOfNames errors = false ↔ ∀ e ∈ errors, e.ofNames = false := by
  induction errors with
  | nil => simp [anyOfNames]
  | cons e es ih => simp [anyOfNames, ih]

end TableError

def BatchError.rowErrors : BatchError → List RowError
  | .table e => [⟨none, e⟩]
  | .eval e => [⟨none, .eval e⟩]
  | .row e => [e]
  | .rows errors => errors
  | .store _ | .settings _ | .wrongNode _ _ _ | .noLookup _ | .write _ => []

/-! ## How computations end -/

section Ends

variable {ε α β : Type} {E : ε → Prop} {P : α → Prop} {Q : β → Prop}

/-- Whether a computation gives a result of one sort or an error of another. -/
def Ends (E : ε → Prop) (P : α → Prop) : Except ε α → Prop
  | .ok a => P a
  | .error e => E e

namespace Ends

theorem imp {E' : ε → Prop} {P' : α → Prop} {x : Except ε α} (h : Ends E P x)
    (hE : ∀ e, E e → E' e) (hP : ∀ a, P a → P' a) : Ends E' P' x := by
  cases x with
  | ok a => exact hP a h
  | error e => exact hE e h

/-- How the errors look and how the results look can be shown apart. -/
theorem of_ok {x : Except ε α} (h : Ends E (fun _ => True) x) (hP : ∀ a, x = .ok a → P a) :
    Ends E P x := by
  cases x with
  | ok a => exact hP a rfl
  | error e => exact h

theorem bind {x : Except ε α} {f : α → Except ε β} (hx : Ends E P x)
    (hf : ∀ a, P a → Ends E Q (f a)) : Ends E Q (x >>= f) := by
  cases x with
  | ok a => exact hf a hx
  | error e => exact hx

theorem mapM {R : α → β → Prop} {f : α → Except ε β} {xs : List α}
    (h : ∀ x ∈ xs, Ends E (R x) (f x)) : Ends E (List.Forall₂ R xs) (xs.mapM f) := by
  induction xs with
  | nil => exact .nil
  | cons x xs ih =>
    obtain ⟨hx, hxs⟩ := List.forall_mem_cons.1 h
    rw [List.mapM_cons]
    exact hx.bind fun y hy => (ih hxs).bind fun ys hys => .cons hy hys

theorem foldlM {f : β → α → Except ε β} {xs : List α} {b : β}
    (hstep : ∀ b x, Q b → Ends E Q (f b x)) (hb : Q b) : Ends E Q (xs.foldlM f b) := by
  induction xs generalizing b with
  | nil => exact hb
  | cons x xs ih =>
    rw [List.foldlM_cons]
    exact (hstep b x hb).bind fun c hc => ih hc

end Ends

end Ends

/-- Whether a use of a definition gives a result of one sort, or fails but not by a name. -/
abbrev Nameless {α : Type} (P : α → Prop) (x : TableResult α) : Prop :=
  Ends (fun e => e.ofNames = false) P x

theorem nameless_noErrors {errors : List TableError} (h : ∀ e ∈ errors, e.ofNames = false) :
    Nameless (fun _ => errors = []) (noErrors errors) := by
  unfold noErrors
  split
  · next hempty => exact List.isEmpty_iff.1 hempty
  · exact TableError.anyOfNames_eq_false.2 h

namespace ReadM

variable {σ α β : Type} {E : BatchError → Prop} {P : α → Prop} {Q : β → Prop}

/-- Whether a reading step, whatever the storage answers, gives a result of one sort or an error
of another. -/
def Always (E : BatchError → Prop) (P : α → Prop) (m : ReadM σ α) : Prop :=
  ∀ r : Reading σ, Ends E P (m.run.run r).1

namespace Always

theorem pure {a : α} (h : P a) : Always E P (Pure.pure a : ReadM σ α) := fun _ => h

theorem throw {e : BatchError} (h : E e) : Always E P (MonadExcept.throw e : ReadM σ α) :=
  fun _ => h

theorem lift {x : BatchResult α} (h : Ends E P x) : Always E P (liftM x : ReadM σ α) := by
  intro r
  cases x <;> exact h

theorem bind {m : ReadM σ α} {f : α → ReadM σ β} (hm : Always E P m)
    (hf : ∀ a, P a → Always E Q (f a)) : Always E Q (m >>= f) := by
  intro r
  have hr := hm r
  rw [run_bind]
  rcases hrun : m.run.run r with ⟨e | a, s⟩
  · rw [hrun] at hr
    exact hr
  · rw [hrun] at hr
    exact hf a hr s

theorem call (hE : ∀ e, E (.store e)) (f : σ → StoreResult α × σ) :
    Always E (fun _ => True) (ReadM.call f) := by
  intro r
  rw [run_call]
  rcases f r.storage with ⟨e | a, s⟩
  · exact hE e
  · trivial

theorem hand (items : List Item) : Always E (fun _ => True) (ReadM.hand items : ReadM σ Unit) :=
  fun _ => trivial

theorem peek (f : σ → α) : Always E (fun _ => True) (ReadM.peek f) :=
  fun _ => trivial

theorem foldlM {f : β → α → ReadM σ β} {xs : List α} {b : β}
    (hstep : ∀ b x, Q b → Always E Q (f b x)) (hb : Q b) : Always E Q (xs.foldlM f b) := by
  induction xs generalizing b with
  | nil => exact .pure hb
  | cons x xs ih =>
    rw [List.foldlM_cons]
    exact (hstep b x hb).bind fun c hc => ih hc

end Always
end ReadM

/-! ## What does not fail by a name -/

theorem Component.nameless_encode (c : Component) (v : Value) :
    Nameless (fun _ => True) (c.encode v) := by
  cases h : c.encode v with
  | ok s => trivial
  | error e =>
    by_cases hkind : v.kind = c.kind
    · obtain ⟨fault, rfl⟩ := noKey_of_encode hkind h
      rfl
    · unfold encode at h
      rw [if_pos hkind] at h
      obtain rfl := Except.error.inj h
      rfl

theorem Component.nameless_chunk (c : Component) (row : Record) :
    Nameless (fun _ => True) (c.chunk row) := by
  unfold chunk
  split
  · rfl
  · exact (c.nameless_encode _).bind fun _ _ => trivial

theorem Index.nameless_key (ix : Index) (row : Record) :
    Nameless (fun _ => True) (ix.key row) := by
  have hchunks := Ends.mapM (E := fun e : TableError => e.ofNames = false)
    fun c (_ : c ∈ ix.components) => c.nameless_chunk row
  exact hchunks.bind fun _ _ => trivial

theorem Writer.nameless_keys (w : Writer) (record : Record) :
    Nameless (fun _ => True) (w.keys record) := by
  have hkeys : Nameless (List.Forall₂ (fun _ _ => True) w.indexes) (w.keys record) :=
    Ends.mapM fun e _ => (e.2.nameless_key record).bind fun _ _ => trivial
  exact hkeys.imp (fun _ he => he) fun _ _ => trivial

theorem Field.kind_readDefault {kind : Kind} {raw : String} {v : Value}
    (h : readDefault kind raw = .ok v) : v.kind = kind := by
  cases kind with
  | text =>
    obtain rfl := Except.ok.inj h
    rfl
  | _ =>
    simp only [readDefault] at h
    split at h
    · obtain rfl := Except.ok.inj h
      rfl
    · cases h

theorem Field.nameless_defaultValue (f : Field) :
    Nameless (fun v => v.kind = f.kind) f.defaultValue := by
  unfold defaultValue
  split
  · exact f.kind.kind_zero
  · split
    · next v hv => exact kind_readDefault hv
    · rfl

namespace RowPage

variable {columns : Columns} {page : RowPage}

theorem nameless_checkKinds (cs : Columns) (values : List Value) :
    Nameless (fun _ => True) (checkKinds cs values) := by
  induction cs generalizing values with
  | nil => trivial
  | cons c cs ih =>
    cases values with
    | nil => trivial
    | cons v vs =>
      have hkind : Nameless (fun _ => True) (checkKind c v) := by
        unfold checkKind
        split
        · trivial
        · rfl
      exact hkind.bind fun _ _ => ih vs

theorem nameless_append (h : page.Typed columns) (values : List Value) :
    Nameless (Typed columns) (page.append values) := by
  have hrow : Nameless (fun _ => True) (page.checkRow values) := by
    unfold checkRow
    split
    · rfl
    · exact nameless_checkKinds _ _
  have happend : Nameless (fun _ => True) (page.append values) := by
    refine hrow.bind fun _ _ => ?_
    split
    · trivial
    · rfl
  exact happend.of_ok fun _ hpage => h.append hpage

theorem nameless_fill (h : page.Typed columns) (rows : List Row) :
    Nameless (Typed columns) (page.fill rows) :=
  Ends.foldlM (fun _ r h => nameless_append h (r.valuesFor _)) h

theorem nameless_row (page : RowPage) (i : Nat) : Nameless (fun _ => True) (page.row i) := by
  unfold row
  split
  · trivial
  · rfl

theorem nameless_bindRow (h : page.Typed columns) (hdistinct : columns.Distinct) (i : Nat) :
    Nameless (fun vars => vars.Covers columns) (page.bindRow i [] none) := by
  have hrow : Nameless (fun _ => True) (page.bindRow i [] none) :=
    (page.nameless_row i).bind fun _ _ => trivial
  exact hrow.of_ok fun _ hvars => h.bindRow_covers hdistinct hvars

theorem nameless_rowid (h : page.Typed columns) {table : String} (hrowid : .rowid table ∈ columns)
    (i : Nat) : Nameless (fun _ => True) (page.rowid i) := by
  cases he : page.rowid i with
  | ok rowid => trivial
  | error e => obtain ⟨_, rfl⟩ | ⟨_, rfl⟩ := h.rowid_error hrowid he <;> rfl

end RowPage

namespace Lookup

variable {page : RowPage} {i : Nat}

theorem nameless_keyRecord {ls : Columns} (ks : List Component)
    (hvalues : ∀ c ∈ ls, ∃ v, page.value i c.table c.name = .ok v) :
    Nameless (fun _ => True) (keyRecord page i ls ks) := by
  induction ls generalizing ks with
  | nil => trivial
  | cons c ls ih =>
    cases ks with
    | nil => trivial
    | cons k ks =>
      obtain ⟨⟨v, hv⟩, hrest⟩ := List.forall_mem_cons.1 hvalues
      have hvalue : Nameless (fun _ => True) (page.value i c.table c.name) := hv ▸ trivial
      exact hvalue.bind fun _ _ => (ih ks hrest).bind fun _ _ => trivial

theorem nameless_key (l : Lookup)
    (hvalues : ∀ c ∈ l.leftColumns, ∃ v, page.value i c.table c.name = .ok v) :
    Nameless (fun _ => True) (l.key page i) :=
  (nameless_keyRecord _ hvalues).bind fun row _ => l.index.nameless_key (Assoc.ofList row)

end Lookup
end TableMill
