import TableMill.Proofs.ParsedNames
import TableMill.Proofs.Printing
import TableMill.Proofs.TableDefinitions

/-!
# Index definitions

An index that a definition is read as fits the fields it is read over: its components are of
the first fields of their names, and only texts have a length and a letter case of their own.
The index can be written in one form that names its sort and all modifiers, and over the same
fields that form is read as the same index.
-/

namespace TableMill

namespace Component

def direction (c : Component) : String :=
  if c.descending then "desc" else "asc"

def letterCase (c : Component) : String :=
  if c.ignoreCase then "ignore_case" else "case_sensitive"

/-- A component as a definition writes it, with all modifiers of its type. -/
def render (c : Component) : String :=
  let modifiers :=
    if c.kind = .text then [c.direction, c.letterCase, toString c.length] else [c.direction]
  c.field ++ "(" ++ ", ".intercalate modifiers ++ ")"

/-- A component fits columns: its name and type are of the first column of that name, and
modifiers for texts have changed it only if it is one. -/
structure Fits (fields : Columns) (c : Component) : Prop where
  first : ∃ before column after, fields = before ++ column :: after ∧
    (∀ d ∈ before, d.name ≠ c.field) ∧ column.name = c.field ∧ column.kind = c.kind
  text : c.kind = .text → 16 ≤ c.length ∧ c.length ≤ 1024
  other : c.kind ≠ .text → c.length = 64 ∧ c.ignoreCase = false

end Component

namespace Index

def render (ix : Index) : String :=
  sortName ix.unique ++ "(" ++ ", ".intercalate (ix.components.map Component.render) ++ ")"

variable {fields : Columns} {ix : Index} {c c' : Component} {e : Expr}

/-! ## What is read -/

/-- A component between its modifiers: its length is right for its type, and its letter case
is only ignored if the letter case was named. -/
structure Modified (c : Component) (caseNamed : Bool) : Prop where
  text : c.kind = .text → 16 ≤ c.length ∧ c.length ≤ 1024
  other : c.kind ≠ .text → c.length = 64
  named : c.ignoreCase = true → caseNamed = true

theorem modified_plain (field : String) (kind : Kind) : Modified (.plain field kind) false :=
  ⟨fun _ => by simp [Component.plain, textKeyLengthDefault], fun _ => rfl, nofun⟩

theorem Modified.modify {caseNamed caseNamed' : Bool} {m : Expr} (hc : Modified c caseNamed)
    (h : modify c caseNamed m = .ok (c', caseNamed')) : Modified c' caseNamed' := by
  unfold Index.modify at h
  split at h
  case h_1 | h_2 =>
    obtain ⟨rfl, rfl⟩ := Prod.mk.inj (Except.ok.inj h)
    exact ⟨hc.text, hc.other, hc.named⟩
  case h_3 | h_4 =>
    obtain ⟨rfl, rfl⟩ := Prod.mk.inj (Except.ok.inj h)
    exact ⟨hc.text, hc.other, fun _ => rfl⟩
  case h_6 n =>
    split at h
    · cases h
    · next hkind =>
      split at h
      · cases h
      · next hlength =>
        obtain ⟨rfl, rfl⟩ := Prod.mk.inj (Except.ok.inj h)
        refine ⟨fun _ => ?_, fun hother => absurd hother hkind, hc.named⟩
        simp only [textKeyLengthMin, textKeyLengthMax] at hlength ⊢
        omega
  all_goals cases h

theorem Modified.modifyAll {caseNamed caseNamed' : Bool} {ms : List Expr}
    (hc : Modified c caseNamed) (h : modifyAll c caseNamed ms = .ok (c', caseNamed')) :
    Modified c' caseNamed' := by
  induction ms generalizing c caseNamed with
  | nil =>
    obtain ⟨rfl, rfl⟩ := Prod.mk.inj (Except.ok.inj h)
    exact hc
  | cons m ms ih =>
    obtain ⟨⟨d, b⟩, hm, hms⟩ := bind_eq_ok.1 h
    exact ih (hc.modify hm) hms

theorem component_fits {name : String} {modifiers : List Expr}
    (h : component fields name modifiers = .ok c) : c.field = name ∧ c.Fits fields := by
  unfold component at h
  split at h
  · cases h
  · next column hcolumn =>
    obtain ⟨⟨d, caseNamed⟩, hall, h⟩ := bind_eq_ok.1 h
    have hsame := modifyAll_eq_ok hall
    have hmodified := (modified_plain name column.kind).modifyAll hall
    obtain ⟨hname, before, after, hfields, hbefore⟩ := List.find?_eq_some_iff_append.1 hcolumn
    dsimp only at h
    split at h
    · cases h
    · next hcase =>
      obtain rfl := Except.ok.inj h
      have hfield : d.field = name := hsame.1
      have hkind : d.kind = column.kind := hsame.2
      refine ⟨hfield, ⟨before, column, after, hfields, ?_, ?_, hkind.symm⟩, hmodified.text, ?_⟩
      · simpa [hfield] using hbefore
      · simpa [hfield] using hname
      · intro hother
        have hignored : d.ignoreCase ≠ true := fun h => hcase ⟨hmodified.named h, hother⟩
        exact ⟨hmodified.other hother, by simpa using hignored⟩

theorem readComponent_fits (h : readComponent fields e = .ok c) :
    e.plainName? = some c.field ∧ c.Fits fields := by
  unfold readComponent at h
  split at h
  · have hc := component_fits h
    exact ⟨congrArg some hc.1.symm, hc.2⟩
  · split at h
    · cases h
    · next hdot =>
      have hc := component_fits h
      have hname : '.' ∉ c.field.toList := by simpa [hc.1] using hdot
      exact ⟨by simp [Expr.plainName?, ← hc.1, hname], hc.2⟩
  · cases h

theorem collected_iff {outcomes : List (Except ComponentFault Component)} {cs : List Component} :
    outcomes = cs.map .ok ↔
      (faults outcomes).isEmpty = true ∧ outcomes.filterMap Except.toOption = cs := by
  induction outcomes generalizing cs with
  | nil => cases cs <;> simp [faults]
  | cons outcome outcomes ih =>
    cases outcome with
    | error f => cases cs <;> simp [faults]
    | ok c =>
      have hcons : faults (.ok c :: outcomes) = faults outcomes := rfl
      cases cs with
      | nil => simp [Except.toOption]
      | cons d cs => simp [hcons, Except.toOption, ih, and_left_comm]

/-- An index is read from a call that names its sort, one component from each argument. -/
theorem ofExpr_eq_ok_iff : ofExpr fields e = .ok ix ↔
    ∃ site args, e = .call site (sortName ix.unique) args ∧ args ≠ [] ∧
      args.map (readComponent fields) = ix.components.map .ok := by
  constructor
  · intro h
    unfold ofExpr at h
    split at h
    · next site name args =>
      have hread {unique : Bool}
          (h : (if (faults (args.map (readComponent fields))).isEmpty then
              .ok ⟨unique, (args.map (readComponent fields)).filterMap Except.toOption⟩
            else .error (.components (faults (args.map (readComponent fields))))) =
              (.ok ix : Except IndexFault Index)) :
          unique = ix.unique ∧ args.map (readComponent fields) = ix.components.map .ok := by
        split at h
        · next hnone =>
          obtain rfl := Except.ok.inj h
          exact ⟨rfl, collected_iff.2 ⟨hnone, rfl⟩⟩
        · cases h
      dsimp only [bind, Except.bind] at h
      split at h
      · split at h
        · cases h
        · next hne =>
          obtain ⟨hunique, hargs⟩ := hread h
          exact ⟨site, args, by rw [← hunique]; rfl, by simpa using hne, hargs⟩
      · split at h
        · cases h
        · next hne =>
          obtain ⟨hunique, hargs⟩ := hread h
          exact ⟨site, args, by rw [← hunique]; rfl, by simpa using hne, hargs⟩
      · cases h
    · cases h
  · rintro ⟨site, args, rfl, hne, hargs⟩
    obtain ⟨hnone, hcs⟩ := collected_iff.1 hargs
    obtain ⟨unique, components⟩ := ix
    cases unique <;> simp_all [ofExpr, sortName, bind, Except.bind]

theorem parse_eq_ok_iff {source : String} :
    parse fields source = .ok ix ↔ ∃ e, Expr.parse source = .ok e ∧ ofExpr fields e = .ok ix := by
  unfold parse
  cases Expr.parse source with
  | error f => simp
  | ok e => cases h : ofExpr fields e <;> simp [h]

/-- The components of an index that is read fit its fields, and their names are names. -/
theorem fits_of_parse {source : String} (h : parse fields source = .ok ix) :
    ix.components ≠ [] ∧ ∀ c ∈ ix.components, c.Fits fields ∧ Token.isName c.field = true := by
  obtain ⟨e, hparse, hread⟩ := parse_eq_ok_iff.1 h
  obtain ⟨site, args, rfl, hne, hargs⟩ := ofExpr_eq_ok_iff.1 hread
  refine ⟨?_, fun c hc => ?_⟩
  · intro hnil
    rw [hnil] at hargs
    exact hne (List.map_eq_nil_iff.1 hargs)
  · have hmem : Except.ok c ∈ args.map (readComponent fields) := by
      rw [hargs]
      exact List.mem_map_of_mem hc
    obtain ⟨a, ha, hac⟩ := List.mem_map.1 hmem
    obtain ⟨hname, hfits⟩ := readComponent_fits hac
    exact ⟨hfits, Expr.isName_of_parse hparse ha hname⟩

/-! ## Sites do not matter -/

theorem modify_unsited (c : Component) (caseNamed : Bool) (m : Expr) :
    modify c caseNamed m.unsited = modify c caseNamed m := by
  cases m <;> rfl

theorem modifyAll_unsited (c : Component) (caseNamed : Bool) (ms : List Expr) :
    modifyAll c caseNamed (ms.map Expr.unsited) = modifyAll c caseNamed ms := by
  induction ms generalizing c caseNamed with
  | nil => rfl
  | cons m ms ih => simp [modifyAll, modify_unsited, ih]

theorem readComponent_unsited (fields : Columns) (e : Expr) :
    readComponent fields e.unsited = readComponent fields e := by
  cases e <;> simp [Expr.unsited, readComponent, component, modifyAll_unsited]

/-- Trees that differ in the sites of their calls are read as the same index. -/
theorem ofExpr_of_unsited {e' : Expr} (he : e'.unsited = e.unsited)
    (h : ofExpr fields e = .ok ix) : ofExpr fields e' = .ok ix := by
  obtain ⟨site, args, rfl, hne, hargs⟩ := ofExpr_eq_ok_iff.1 h
  cases e' <;> simp only [Expr.unsited, reduceCtorEq] at he
  next site' name' args' =>
    obtain ⟨-, rfl, hall⟩ := Expr.call.inj he
    rw [Expr.unsitedAll_eq, Expr.unsitedAll_eq] at hall
    have hread (es : List Expr) :
        (es.map Expr.unsited).map (readComponent fields) = es.map (readComponent fields) := by
      simp [readComponent_unsited]
    refine ofExpr_eq_ok_iff.2 ⟨site', args', rfl, ?_, ?_⟩
    · rintro rfl
      exact hne (by simpa using hall.symm)
    · rw [← hread, hall, hread, hargs]

end Index

/-! ## What is written -/

namespace Expr

theorem charsAll_eq (pad : List Char) (es : List Expr) :
    charsAll pad es = (',' :: pad).intercalate (es.map (chars pad 0)) := by
  induction es with
  | nil => rfl
  | cons e es ih =>
    cases es with
    | nil => simp [charsAll]
    | cons e' es => simp [charsAll, ih, List.intercalate_cons_cons]

theorem parse_of_readsBack {pad : String} {e : Expr} (h : ReadsBack pad.toList 0 e) :
    ∃ e', Expr.parse (e.print pad) = .ok e' ∧ e'.unsited = e.unsited := by
  obtain ⟨ts, hderives, hspells⟩ := h
  have hlexes : Token.Lexes (e.print pad) (e.print pad).toList ts := by
    have hnil : Token.Lexes (e.print pad) [] [] := Token.Lexes.nil
    have hwhole := hspells.lexes Token.endsOperand_nil hnil
    simpa [print] using hwhole
  rw [Expr.parse, Expr.parseAs, Token.scan_eq_of_lexes hlexes]
  exact Parser.parseTokens_complete 0 hderives

theorem print_call (pad : String) (site : CallSite) (name : String) (args : List Expr) :
    (call site name args).print pad =
      name ++ "(" ++ ("," ++ pad).intercalate (args.map (print pad)) ++ ")" := by
  have hargs : (args.map (print pad)).map String.toList = args.map (chars pad.toList 0) := by
    simp [print]
  apply String.toList_inj.1
  simp [print, chars, charsAll_eq, String.toList_intercalate, hargs]

end Expr

namespace Component

variable {fields : Columns} {c : Component}

def modifiers (c : Component) : List Expr :=
  .ident c.direction ::
    if c.kind = .text then [.ident c.letterCase, .int (Int64.ofNat c.length)] else []

def toExpr (c : Component) : Expr := .call ⟨0, 0⟩ c.field c.modifiers

theorem toInt_length (h : c.length ≤ 1024) : (Int64.ofNat c.length).toInt = c.length := by
  rw [Int64.toInt_ofNat_of_lt (by omega)]

theorem print_toExpr (h : c.Fits fields) : c.toExpr.print " " = c.render := by
  have hident (name : String) : (Expr.ident name).print " " = name := by
    simp [Expr.print, Expr.chars]
  rw [toExpr, Expr.print_call, render, modifiers]
  by_cases hkind : c.kind = .text
  · have hlength := toInt_length (h.text hkind).2
    have hdigits : (Expr.int (Int64.ofNat c.length)).print " " = toString c.length := by
      rw [Expr.print, Expr.chars, hlength, String.ofList_toList]
      rfl
    simp [hkind, hdigits, hident]
  · simp [hkind, hident]

theorem printable_toExpr (h : c.Fits fields) (hname : Token.isName c.field = true) :
    c.toExpr.Printable := by
  have hdirection : Token.isName c.direction = true := by
    unfold direction
    cases c.descending <;> decide
  have hletters : Token.isName c.letterCase = true := by
    unfold letterCase
    cases c.ignoreCase <;> decide
  by_cases hkind : c.kind = .text
  · have hlength : 0 ≤ (Int64.ofNat c.length).toInt := by
      rw [toInt_length (h.text hkind).2]
      exact Int.natCast_nonneg _
    simp only [toExpr, modifiers, if_pos hkind, Expr.Printable, Expr.PrintableAll, Expr.IsCallee]
    exact ⟨.inl hname, hdirection, hletters, hlength, trivial⟩
  · simp only [toExpr, modifiers, if_neg hkind, Expr.Printable, Expr.PrintableAll, Expr.IsCallee]
    exact ⟨.inl hname, hdirection, trivial⟩

theorem not_dot_of_isName {name : String} (h : Token.isName name = true) :
    '.' ∉ name.toList := by
  obtain ⟨d, ds, hchars, hd, hds⟩ := Token.exists_of_isName h
  rw [hchars, List.mem_cons]
  rintro (rfl | hmem)
  · exact absurd hd (by decide)
  · exact absurd (hds _ hmem) (by decide)

theorem modify_direction (c d : Component) (caseNamed : Bool) :
    Index.modify d caseNamed (.ident c.direction) =
      .ok ({ d with descending := c.descending }, caseNamed) := by
  unfold direction
  cases c.descending <;> rfl

theorem modify_letterCase (c d : Component) (caseNamed : Bool) :
    Index.modify d caseNamed (.ident c.letterCase) =
      .ok ({ d with ignoreCase := c.ignoreCase }, true) := by
  unfold letterCase
  cases c.ignoreCase <;> rfl

theorem modify_length {d : Component} (h : c.Fits fields) (hkind : c.kind = .text)
    (hd : d.kind = .text) (caseNamed : Bool) :
    Index.modify d caseNamed (.int (Int64.ofNat c.length)) =
      .ok ({ d with length := c.length }, caseNamed) := by
  obtain ⟨hmin, hmax⟩ := h.text hkind
  have hlength := toInt_length hmax
  have hshort : ¬(textKeyLengthMax : Int) < c.length := by
    simp only [textKeyLengthMax]
    omega
  have hlong : max textKeyLengthMin c.length = c.length := Nat.max_eq_right hmin
  simp [Index.modify, hd, hlength, hshort, hlong]

theorem modifyAll_modifiers (h : c.Fits fields) :
    Index.modifyAll (.plain c.field c.kind) false c.modifiers =
      .ok (c, decide (c.kind = .text)) := by
  by_cases htext : c.kind = .text
  · have hlength {d : Component} (hd : d.kind = .text) := modify_length h htext hd true
    have hall : (⟨c.field, .text, c.descending, c.ignoreCase, c.length⟩ : Component) = c := by
      rw [← htext]
    simp [modifiers, htext, Index.modifyAll, plain, modify_direction, modify_letterCase, hlength,
      hall, bind, Except.bind]
  · obtain ⟨hlength, hletters⟩ := h.other htext
    have hall : (⟨c.field, c.kind, c.descending, false, textKeyLengthDefault⟩ : Component) = c := by
      rw [← hletters, textKeyLengthDefault, ← hlength]
    simp [modifiers, htext, Index.modifyAll, plain, modify_direction, hall, bind, Except.bind]

theorem readComponent_toExpr (h : c.Fits fields) (hname : Token.isName c.field = true) :
    Index.readComponent fields c.toExpr = .ok c := by
  obtain ⟨before, column, after, hfields, hbefore, hcolumn, hkind⟩ := h.first
  have hfirst : fields.named? c.field = some column :=
    List.find?_eq_some_iff_append.2
      ⟨by simpa using hcolumn, before, after, hfields, by simpa using hbefore⟩
  have hdot := not_dot_of_isName hname
  simp [toExpr, Index.readComponent, hdot, Index.component, hfirst, hkind, modifyAll_modifiers h,
    bind, Except.bind]

end Component

namespace Index

variable {fields : Columns} {ix : Index}

def toExpr (ix : Index) : Expr :=
  .call ⟨0, 0⟩ (sortName ix.unique) (ix.components.map Component.toExpr)

theorem print_toExpr (h : ∀ c ∈ ix.components, c.Fits fields) :
    ix.toExpr.print " " = ix.render := by
  have hcomponents : ix.components.map (fun c => c.toExpr.print " ") =
      ix.components.map Component.render :=
    List.map_congr_left fun c hc => Component.print_toExpr (h c hc)
  have hcomma : "," ++ " " = ", " := rfl
  rw [toExpr, Expr.print_call, render, List.map_map, hcomma, ← hcomponents]
  rfl

theorem printable_toExpr
    (h : ∀ c ∈ ix.components, c.Fits fields ∧ Token.isName c.field = true) :
    ix.toExpr.Printable := by
  have hsort : Token.isName (sortName ix.unique) = true := by
    cases ix.unique <;> decide
  have hall (cs : List Component) (hcs : ∀ c ∈ cs, c ∈ ix.components) :
      Expr.PrintableAll (cs.map Component.toExpr) := by
    induction cs with
    | nil => trivial
    | cons c cs ih =>
      obtain ⟨hc, hrest⟩ := List.forall_mem_cons.1 hcs
      exact ⟨Component.printable_toExpr (h c hc).1 (h c hc).2, ih hrest⟩
  exact ⟨.inl hsort, hall _ fun _ hc => hc⟩

theorem ofExpr_toExpr (hne : ix.components ≠ [])
    (h : ∀ c ∈ ix.components, c.Fits fields ∧ Token.isName c.field = true) :
    ofExpr fields ix.toExpr = .ok ix := by
  have hread : (ix.components.map Component.toExpr).map (readComponent fields) =
      ix.components.map .ok := by
    rw [List.map_map]
    exact List.map_congr_left fun c hc => Component.readComponent_toExpr (h c hc).1 (h c hc).2
  exact ofExpr_eq_ok_iff.2 ⟨⟨0, 0⟩, _, rfl, by simpa using hne, hread⟩

/-- An index that is read has a component, its components fit the fields, and the one form in
which it is written is read as the same index over the same fields. -/
theorem parse_render {source : String} (h : parse fields source = .ok ix) :
    ix.components ≠ [] ∧ (∀ c ∈ ix.components, c.Fits fields) ∧
      parse fields ix.render = .ok ix := by
  obtain ⟨hne, hfits⟩ := fits_of_parse h
  have hblank : ∀ c ∈ " ".toList, Text.isBlank c = true := List.forall_mem_singleton.2 rfl
  have hback := readsBack hblank ix.toExpr 0 (Nat.zero_le _) (printable_toExpr hfits)
  obtain ⟨e, hparse, he⟩ := Expr.parse_of_readsBack hback
  rw [print_toExpr fun c hc => (hfits c hc).1] at hparse
  have hread := ofExpr_of_unsited he (ofExpr_toExpr hne hfits)
  exact ⟨hne, fun c hc => (hfits c hc).1, parse_eq_ok_iff.2 ⟨e, hparse, hread⟩⟩

end Index

namespace StockSample

/-! Later modifiers count, a short length is filled up, and a name is that of its first field. -/

def fields : Columns := [⟨"w", "name", .text⟩, ⟨"w", "qty", .int⟩, ⟨"r", "name", .int⟩]

def source : String := "unique ( qty(desc,asc , desc), name( 32, ignore_case,3) )"

def index : Index := ⟨true, [⟨"qty", .int, true, false, 64⟩, ⟨"name", .text, false, true, 16⟩]⟩

def tokens : List Token :=
  [.ident "unique", .openParen, .ident "qty", .openParen, .ident "desc", .comma, .ident "asc",
    .comma, .ident "desc", .closeParen, .comma, .ident "name", .openParen, .int 32, .comma,
    .ident "ignore_case", .comma, .int 3, .closeParen, .closeParen]

theorem scan_source : Token.scan source = ⟨tokens, none⟩ := by
  have htokens : (Token.scan source).tokens = tokens := by decide +kernel
  have hfault : (Token.scan source).fault = none := by decide +kernel
  rw [← htokens, ← hfault]

theorem parse_render_stock :
    Index.parse fields source = .ok index ∧ index.components ≠ [] ∧
      (∀ c ∈ index.components, c.Fits fields) ∧
      index.render = "unique(qty(desc), name(asc, ignore_case, 16))" ∧
      Index.parse fields index.render = .ok index := by
  have hparse : Index.parse fields source = .ok index := by
    rw [Index.parse, Expr.parse, Expr.parseAs, scan_source]
    rfl
  obtain ⟨hne, hfits, hrender⟩ := Index.parse_render hparse
  exact ⟨hparse, hne, hfits, by decide +kernel, hrender⟩

end StockSample
end TableMill
