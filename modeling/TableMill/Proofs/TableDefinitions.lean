import TableMill.Proofs.Bindings
import TableMill.Proofs.ColumnLists

/-!
# Checked table definitions

A table definition that is accepted has one field of every name, defaults that can be read, and
indexes whose components are fields of the table, with the types of these.
-/

namespace TableMill

theorem mem_toOption {ε α β : Type} {f : α → Except ε β} {xs : List α} {b : β} :
    b ∈ (xs.map f).filterMap Except.toOption ↔ ∃ x ∈ xs, f x = .ok b := by
  have hok (x : α) : (f x).toOption = some b ↔ f x = .ok b := by
    cases f x <;> simp [Except.toOption]
  simp only [List.mem_filterMap, List.mem_map, exists_exists_and_eq_and, hok]

theorem map_eq_of_forall₂ {α β γ : Type} {f : α → γ} {g : β → γ} {xs : List α} {ys : List β}
    (h : List.Forall₂ (fun x y => g y = f x) xs ys) : ys.map g = xs.map f := by
  induction h with
  | nil => rfl
  | cons hhead _ ih => rw [List.map_cons, List.map_cons, hhead, ih]

namespace Index

variable {fields : Columns} {ix : Index} {c c' : Component}

def OfColumns (fields : Columns) (c : Component) : Prop :=
  ∃ column, fields.named? c.field = some column ∧ column.kind = c.kind

theorem modify_eq_ok {caseNamed caseNamed' : Bool} {m : Expr}
    (h : modify c caseNamed m = .ok (c', caseNamed')) : c'.field = c.field ∧ c'.kind = c.kind := by
  have hsame {d : Component} {b : Bool}
      (h : Except.ok (d, b) = (Except.ok (c', caseNamed') : Except ComponentFault _))
      (hd : d.field = c.field ∧ d.kind = c.kind) : c'.field = c.field ∧ c'.kind = c.kind :=
    (Prod.mk.inj (Except.ok.inj h)).1 ▸ hd
  unfold modify at h
  split at h
  · exact hsame h ⟨rfl, rfl⟩
  · exact hsame h ⟨rfl, rfl⟩
  · exact hsame h ⟨rfl, rfl⟩
  · exact hsame h ⟨rfl, rfl⟩
  · cases h
  · split at h
    · cases h
    · split at h
      · cases h
      · exact hsame h ⟨rfl, rfl⟩
  · cases h

/-- Modifiers change neither the field of a component nor its type. -/
theorem modifyAll_eq_ok {caseNamed caseNamed' : Bool} {ms : List Expr}
    (h : modifyAll c caseNamed ms = .ok (c', caseNamed')) :
    c'.field = c.field ∧ c'.kind = c.kind := by
  induction ms generalizing c caseNamed with
  | nil =>
    obtain ⟨rfl, -⟩ := Prod.mk.inj (Except.ok.inj h)
    exact ⟨rfl, rfl⟩
  | cons m ms ih =>
    obtain ⟨⟨d, b⟩, hm, hms⟩ := bind_eq_ok.1 h
    obtain ⟨hfield, hkind⟩ := modify_eq_ok hm
    obtain ⟨hfield', hkind'⟩ := ih hms
    exact ⟨hfield'.trans hfield, hkind'.trans hkind⟩

theorem component_eq_ok {name : String} {modifiers : List Expr}
    (h : component fields name modifiers = .ok c) : OfColumns fields c := by
  unfold component at h
  split at h
  · cases h
  · next column hcolumn =>
    obtain ⟨⟨d, caseNamed⟩, hmodified, h⟩ := bind_eq_ok.1 h
    obtain ⟨hfield, hkind⟩ := modifyAll_eq_ok hmodified
    dsimp only at h
    split at h
    · cases h
    · obtain rfl := Except.ok.inj h
      exact ⟨column, hfield ▸ hcolumn, hkind.symm⟩

theorem readComponent_eq_ok {e : Expr} (h : readComponent fields e = .ok c) :
    OfColumns fields c := by
  unfold readComponent at h
  split at h
  · exact component_eq_ok h
  · split at h
    · cases h
    · exact component_eq_ok h
  · cases h

theorem ofExpr_eq_ok {e : Expr} (h : ofExpr fields e = .ok ix) :
    ∀ c ∈ ix.components, OfColumns fields c := by
  unfold ofExpr at h
  split at h
  · next name args =>
    have hread (unique : Bool) : ∀ c ∈ (⟨unique, (args.map (readComponent fields)).filterMap
        Except.toOption⟩ : Index).components, OfColumns fields c := by
      intro c hc
      obtain ⟨arg, -, hc⟩ := mem_toOption.1 hc
      exact readComponent_eq_ok hc
    dsimp only [bind, Except.bind] at h
    split at h
    · split at h
      · cases h
      · split at h
        · exact Except.ok.inj h ▸ hread true
        · cases h
    · split at h
      · cases h
      · split at h
        · exact Except.ok.inj h ▸ hread false
        · cases h
    · cases h
  · cases h

theorem parse_eq_ok {source : String} (h : parse fields source = .ok ix) :
    ∀ c ∈ ix.components, OfColumns fields c := by
  unfold parse at h
  split at h
  · cases h
  · split at h
    · cases h
    · next hread =>
      obtain rfl := Except.ok.inj h
      exact ofExpr_eq_ok hread

theorem parseAll_eq_ok {sources : Assoc String} {indexes : Assoc Index}
    (h : parseAll fields sources = .ok indexes) {e : String × Index} (he : e ∈ indexes)
    {c : Component} (hc : c ∈ e.2.components) : OfColumns fields c := by
  obtain ⟨_, -, h⟩ := bind_eq_ok.1 h
  obtain rfl := Except.ok.inj h
  obtain ⟨source, -, he⟩ := mem_toOption.1 he
  unfold parseNamed at he
  split at he
  · split at he
    · next ix hparse =>
      obtain rfl := Except.ok.inj he
      exact parse_eq_ok hparse c hc
    · cases he
  · cases he

end Index

namespace Table

variable {s : Source} {t : Table}

theorem name_of_readField {entry : String × FieldSource} {f : Field}
    (h : readField entry = .ok f) : f.name = entry.1 := by
  unfold readField at h
  split at h
  · obtain rfl := Except.ok.inj h
    rfl
  · cases h

/-- What the check of a definition establishes: one field of every name, defaults that can be
read, and indexes over fields of the table. -/
structure Sound (t : Table) : Prop where
  names : (t.fields.map Field.name).Nodup
  default {f : Field} (hf : f ∈ t.fields) : ∃ v, f.defaultValue = .ok v
  index {e : String × Index} (he : e ∈ t.indexes) {c : Component} (hc : c ∈ e.2.components) :
    ∃ f ∈ t.fields, f.name = c.field ∧ f.kind = c.kind

theorem field_of_named? {table name : String} {column : Column}
    (h : (t.columnsAs table).named? name = some column) :
    ∃ f ∈ t.fields, f.name = name ∧ f.kind = column.kind := by
  have hname : column.name = name := by simpa using List.find?_some h
  obtain ⟨f, hf, rfl⟩ := List.mem_map.1 (Columns.mem_ofList (List.mem_of_find?_eq_some h))
  exact ⟨f, hf, hname, rfl⟩

theorem sound_of_ofSource (h : ofSource s = .ok t) (hkeyed : Assoc.Keyed s.fields) : t.Sound := by
  obtain ⟨_, -, h⟩ := bind_eq_ok.1 h
  obtain ⟨having, -, h⟩ := bind_eq_ok.1 h
  obtain ⟨fields, hfields, h⟩ := bind_eq_ok.1 h
  obtain ⟨indexes, hindexes, h⟩ := bind_eq_ok.1 h
  obtain ⟨_, hnone, h⟩ := bind_eq_ok.1 h
  obtain rfl := Except.ok.inj h
  have herrors := noErrors_eq_ok.1 hnone
  rw [List.append_eq_nil_iff, List.flatMap_eq_nil_iff] at herrors
  refine ⟨?_, fun {f} hf => failures_eq_nil.1 (herrors.1 f hf), fun {e} he {c} hc => ?_⟩
  · have hnames : fields.map Field.name = s.fields.map Prod.fst :=
      map_eq_of_forall₂ ((mapM_eq_ok.1 hfields).imp fun _ _ hfield => name_of_readField hfield)
    show (fields.map Field.name).Nodup
    rw [hnames]
    exact hkeyed
  · obtain ⟨column, hcolumn, hkind⟩ := Index.parseAll_eq_ok hindexes he hc
    obtain ⟨f, hf, hname, hf'⟩ := field_of_named? hcolumn
    exact ⟨f, hf, hname, hf'.trans hkind⟩

end Table
end TableMill
