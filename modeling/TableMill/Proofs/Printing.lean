import TableMill.Proofs.Lexing
import TableMill.Proofs.Parsing

/-!
# Parsing undoes printing

An expression is printed with the brackets that the levels of its operators and their
association to the left call for, and with no other. What is printed is derived by the
grammar, and the lexer reads it as the tokens of the derivation.
-/

namespace TableMill

open Grammar Token

namespace Expr

def bracketed (needed : Bool) (cs : List Char) : List Char :=
  if needed then '(' :: (cs ++ [')']) else cs

mutual

/-- An expression as an operand of operators that bind as tightly as `level`, with the
blanks `pad` round its binary operators and after its commas. -/
def chars (pad : List Char) (level : Nat) : Expr → List Char
  | int v => (toString v.toInt).toList
  | float v => (Number.floatToken v).toList
  | text s => '"' :: (s.toList.flatMap escaped ++ ['"'])
  | ident name => name.toList
  | selector table field => table.toList ++ '.' :: field.toList
  | call _ name args => name.toList ++ '(' :: (charsAll pad args ++ [')'])
  | unary op e => op.symbol.toList ++ chars pad Parser.unaryLevel e
  | binary op l r => bracketed (op.level < level)
      (chars pad op.level l ++ pad ++ op.symbol.toList ++ pad ++ chars pad (op.level + 1) r)

def charsAll (pad : List Char) : List Expr → List Char
  | [] => []
  | [e] => chars pad 0 e
  | e :: e' :: es => chars pad 0 e ++ ',' :: (pad ++ charsAll pad (e' :: es))

end

def print (pad : String) (e : Expr) : String :=
  String.ofList (e.chars pad.toList 0)

def IsCallee (name : String) : Prop :=
  isName name = true ∨ ∃ package function, isName package = true ∧ isName function = true ∧
    name = package ++ "." ++ function

mutual

/-- An expression that a text can stand for: its numbers are integers without a sign, its
names are names to the lexer. Its texts are of any characters. -/
def Printable : Expr → Prop
  | int v => 0 ≤ v.toInt
  | float _ => False
  | text _ => True
  | ident name => isName name = true
  | selector table field => isName table = true ∧ isName field = true
  | call _ name args => IsCallee name ∧ PrintableAll args
  | unary _ e => e.Printable
  | binary _ l r => l.Printable ∧ r.Printable

def PrintableAll : List Expr → Prop
  | [] => True
  | e :: es => e.Printable ∧ PrintableAll es

end

end Expr

/-- The characters of an operand: an operator may come before them, and whatever ends an
operand may come after them. -/
structure Spells (cs : List Char) (ts : List Token) : Prop where
  starts : ∃ c ds, cs = c :: ds ∧ c ≠ '='
  lexes : ∀ {input : String} {rest : List Char} {us : List Token}, EndsOperand rest →
    Lexes input rest us → Lexes input (cs ++ rest) (ts ++ us)

namespace Spells

variable {cs ds pad : List Char} {ts us : List Token}

theorem head?_append (h : Spells cs ts) (rest : List Char) : (cs ++ rest).head? ≠ some '=' := by
  obtain ⟨c, ds, rfl, hc⟩ := h.starts
  simpa using hc

theorem int {v : Int64} (hv : 0 ≤ v.toInt) : Spells (toString v.toInt).toList [.int v] := by
  refine ⟨?_, fun hrest h => h.int hv hrest⟩
  rw [toList_toString hv]
  cases hds : Nat.toDigits 10 v.toInt.toNat with
  | nil => exact absurd hds Nat.toDigits_ne_nil
  | cons d ds =>
    refine ⟨d, ds, rfl, ?_⟩
    rintro rfl
    exact absurd (isDigit_of_mem_toDigits (hds ▸ List.mem_cons_self)) (by decide)

theorem text (s : String) : Spells ('"' :: (s.toList.flatMap escaped ++ ['"'])) [.text s] := by
  refine ⟨⟨'"', _, rfl, by decide⟩, fun _ h => ?_⟩
  simpa using h.quoted s

theorem starts_of_isName {s : String} (hs : isName s = true) (rest : List Char) :
    ∃ c ds, s.toList ++ rest = c :: ds ∧ c ≠ '=' := by
  obtain ⟨c, cs, hchars, hc, -⟩ := exists_of_isName hs
  refine ⟨c, cs ++ rest, by rw [hchars, List.cons_append], ?_⟩
  rintro rfl
  exact absurd hc (by decide)

theorem name {s : String} (hs : isName s = true) : Spells s.toList [.ident s] :=
  ⟨by simpa using starts_of_isName hs [], fun hrest h => h.name hs hrest.1⟩

theorem selector {table field : String} (htable : isName table = true)
    (hfield : isName field = true) :
    Spells (table.toList ++ '.' :: field.toList) [.ident table, .dot, .ident field] := by
  refine ⟨starts_of_isName htable _, fun hrest h => ?_⟩
  rw [List.append_assoc]
  exact (h.name hfield hrest.1).dot.name htable (endsName_cons (by decide) _)

theorem bracket (h : Spells cs ts) :
    Spells ('(' :: (cs ++ [')'])) (.openParen :: (ts ++ [.closeParen])) := by
  refine ⟨⟨'(', _, rfl, by decide⟩, fun _ hus => ?_⟩
  have hclose := endsOperand_cons (c := ')') (by decide) (by decide)
  simpa using (h.lexes (hclose _) hus.closeParen).openParen

theorem unary (op : UnaryOp) (h : Spells cs ts) :
    Spells (op.symbol.toList ++ cs) (op.token :: ts) := by
  refine ⟨?_, fun hrest hus => ?_⟩
  · cases op <;> exact ⟨_, _, rfl, by decide⟩
  · rw [List.append_assoc]
    exact (h.lexes hrest hus).unaryOp op (h.head?_append _)

theorem binary (op : BinaryOp) (hpad : ∀ c ∈ pad, Text.isBlank c = true) (hl : Spells cs ts)
    (hr : Spells ds us) :
    Spells (cs ++ pad ++ op.symbol.toList ++ pad ++ ds) (ts ++ op.token :: us) := by
  refine ⟨?_, fun {input rest vs} hrest hvs => ?_⟩
  · obtain ⟨c, cs, rfl, hc⟩ := hl.starts
    exact ⟨c, _, rfl, hc⟩
  · have hright := (hr.lexes hrest hvs).blanks hpad
    have hop := hright.binaryOp op (head?_blanks hpad (hr.head?_append rest))
    have hends := endsOperand_blanks hpad (endsOperand_symbol op (pad ++ (ds ++ rest)))
    simpa [List.append_assoc] using hl.lexes hends (hop.blanks hpad)

end Spells

/-! ## The characters of an expression -/

open TableMill.Expr

variable {pad : List Char} {level : Nat} {e l r : Expr}

/-- An expression printed as an operand is derived from the tokens that it is read as. -/
def ReadsBack (pad : List Char) (level : Nat) (e : Expr) : Prop :=
  ∃ ts, Derives (Layer.at level) ts e ∧ Spells (e.chars pad level) ts

def ReadsBackAll (pad : List Char) (es : List Expr) : Prop :=
  ∃ args : List (List Token × Expr), args.map Prod.snd = es ∧
    (∀ a ∈ args, Derives .or a.1 a.2) ∧
    ∀ {input rest us}, EndsOperand rest → Lexes input rest us →
      Lexes input (charsAll pad es ++ rest) (listed args ++ us)

/-- What the tightest layer derives, every layer derives. -/
theorem derives_at {ts : List Token} (h : Derives .primary ts e) (level : Nat) :
    Derives (Layer.at level) ts e :=
  Derives.loosen (Nat.le_add_right level 7) h

theorem readsBack_unary (op : UnaryOp) (hlevel : level ≤ Parser.unaryLevel)
    (h : ReadsBack pad Parser.unaryLevel e) : ReadsBack pad level (.unary op e) := by
  obtain ⟨ts, hderives, hspells⟩ := h
  have hunary : Derives (Layer.at Parser.unaryLevel) (op.token :: ts) (.unary op e) := by
    cases op with
    | not => exact .not hderives
    | negate => exact .negate hderives
  refine ⟨op.token :: ts, hunary.loosen hlevel, ?_⟩
  rw [chars]
  exact hspells.unary op

theorem binaryOp?_token (op : BinaryOp) : Parser.binaryOp? op.token = some op := by
  cases op <;> rfl

theorem readsBack_binary (op : BinaryOp) (hpad : ∀ c ∈ pad, Text.isBlank c = true)
    (hl : ReadsBack pad op.level l) (hr : ReadsBack pad (op.level + 1) r) :
    ReadsBack pad level (.binary op l r) := by
  obtain ⟨ts, hleft, hleftSpells⟩ := hl
  obtain ⟨us, hright, hrightSpells⟩ := hr
  have hbinary : Derives (Layer.at op.level) (ts ++ op.token :: us) (.binary op l r) := by
    refine .binary (Layer.binary?_at (binaryOp?_token op)) hleft ?_
    rw [Layer.below_at]
    exact hright
  have hspells := hleftSpells.binary op hpad hrightSpells
  rw [ReadsBack, chars, bracketed]
  by_cases hneeded : op.level < level
  · rw [if_pos (decide_eq_true hneeded)]
    have hwhole : Derives (Layer.at 0) (ts ++ op.token :: us) (.binary op l r) :=
      hbinary.loosen (Nat.zero_le _)
    exact ⟨_, derives_at (.bracket hwhole) level, hspells.bracket⟩
  · rw [if_neg (by simpa using hneeded)]
    exact ⟨_, hbinary.loosen (Nat.not_lt.1 hneeded), hspells⟩

theorem readsBack_call (site : CallSite) {name : String} {args : List Expr} (hname : IsCallee name)
    (hargs : ReadsBackAll pad args) : ReadsBack pad level (.call site name args) := by
  obtain ⟨pairs, rfl, hderives, hlexes⟩ := hargs
  have hclose := endsOperand_cons (c := ')') (by decide) (by decide)
  have hopen := endsName_cons (c := '(') (by decide)
  rw [ReadsBack, chars]
  rcases hname with hname | ⟨package, function, hpackage, hfunction, rfl⟩
  · refine ⟨_, derives_at (.call site (.plain name) hderives) level,
      Spells.starts_of_isName hname _, fun _ hus => ?_⟩
    have htail := (hlexes (hclose _) hus.closeParen).openParen
    simpa [List.append_assoc] using htail.name hname (hopen _)
  · refine ⟨_, derives_at (.call site (.dotted package function) hderives) level, ?_, fun _ hus => ?_⟩
    · simpa using Spells.starts_of_isName hpackage _
    · have htail := (hlexes (hclose _) hus.closeParen).openParen
      have hdot := (htail.name hfunction (hopen _)).dot
      simpa [List.append_assoc] using hdot.name hpackage (endsName_cons (by decide) _)

theorem readsBackAll_singleton (he : ReadsBack pad 0 e) : ReadsBackAll pad [e] := by
  obtain ⟨ts, hderives, hspells⟩ := he
  refine ⟨[(ts, e)], rfl, List.forall_mem_singleton.2 hderives, fun hrest hus => ?_⟩
  simpa [charsAll] using hspells.lexes hrest hus

theorem readsBackAll_cons {e' : Expr} {es : List Expr} (hpad : ∀ c ∈ pad, Text.isBlank c = true)
    (he : ReadsBack pad 0 e) (hes : ReadsBackAll pad (e' :: es)) :
    ReadsBackAll pad (e :: e' :: es) := by
  obtain ⟨ts, hderives, hspells⟩ := he
  obtain ⟨args, hargs, hall, hlexes⟩ := hes
  cases args with
  | nil => cases hargs
  | cons a args =>
    refine ⟨(ts, e) :: a :: args, by simpa using hargs, List.forall_mem_cons.2 ⟨hderives, hall⟩, ?_⟩
    intro input rest us hrest hus
    have hcomma := endsOperand_cons (c := ',') (by decide) (by decide)
    have htail := ((hlexes hrest hus).blanks hpad).comma
    simpa [charsAll] using hspells.lexes (hcomma _) htail

mutual

/-- Every expression that a text can stand for is read back from its characters. -/
theorem readsBack (hpad : ∀ c ∈ pad, Text.isBlank c = true) : ∀ (e : Expr) (level : Nat),
    level ≤ Parser.unaryLevel → e.Printable → ReadsBack pad level e
  | .int v, level, _, h => ⟨_, derives_at (.int v) level, .int (by simpa [Printable] using h)⟩
  | .float v, level, _, h => absurd h (by simp [Printable])
  | .text s, level, _, _ => ⟨_, derives_at (.text s) level, .text s⟩
  | .ident name, level, _, h =>
    ⟨_, derives_at (.ident name) level, .name (by simpa [Printable] using h)⟩
  | .selector table field, level, _, h => by
    rw [Printable] at h
    exact ⟨_, derives_at (.selector table field) level, .selector h.1 h.2⟩
  | .call site name args, level, _, h => by
    rw [Printable] at h
    exact readsBack_call site h.1 (readsBackAll hpad args h.2)
  | .unary op e, level, hlevel, h => by
    rw [Printable] at h
    exact readsBack_unary op hlevel (readsBack hpad e _ (Nat.le_refl _) h)
  | .binary op l r, level, hlevel, h => by
    rw [Printable] at h
    have hop : op.level + 1 ≤ Parser.unaryLevel := Nat.succ_le_succ (Parser.level_le_five op)
    have hl := readsBack hpad l op.level (Nat.le_of_succ_le hop) h.1
    have hr := readsBack hpad r (op.level + 1) hop h.2
    exact readsBack_binary op hpad hl hr

theorem readsBackAll (hpad : ∀ c ∈ pad, Text.isBlank c = true) : ∀ es : List Expr,
    PrintableAll es → ReadsBackAll pad es
  | [], _ => ⟨[], rfl, nofun, fun _ h => h⟩
  | [e], h => by
    rw [PrintableAll] at h
    exact readsBackAll_singleton (readsBack hpad e 0 (Nat.zero_le _) h.1)
  | e :: e' :: es, h => by
    rw [PrintableAll] at h
    have he := readsBack hpad e 0 (Nat.zero_le _) h.1
    exact readsBackAll_cons hpad he (readsBackAll hpad (e' :: es) h.2)

end

/-- An expression printed with any blanks between its parts parses to itself, up to the sites
of its calls. -/
theorem parseAs_print (source : Nat) {pad : String} (hpad : ∀ c ∈ pad.toList, Text.isBlank c = true)
    {e : Expr} (he : e.Printable) :
    ∃ e', Expr.parseAs source (e.print pad) = .ok e' ∧ e'.unsited = e.unsited := by
  obtain ⟨ts, hderives, hspells⟩ := readsBack hpad e 0 (Nat.zero_le _) he
  have hlexes : Lexes (e.print pad) (e.print pad).toList ts := by
    have h : Lexes (e.print pad) (e.chars pad.toList 0 ++ []) (ts ++ []) :=
      hspells.lexes endsOperand_nil .nil
    rw [List.append_nil, List.append_nil] at h
    rw [Expr.print, String.toList_ofList]
    exact h
  rw [Expr.parseAs, scan_eq_of_lexes hlexes]
  exact Parser.parseTokens_complete source hderives

namespace PrintingSample

/-- A tree whose printed form needs some of its brackets, and escapes. -/
def tree : Expr :=
  .binary .and
    (.binary .notEqual
      (.binary .multiply
        (.unary .negate (.binary .subtract (.ident "a") (.binary .subtract (.int 1) (.int 2))))
        (.unary .not (.ident "true")))
      (.text "\"\\\n"))
    (.call ⟨0, 0⟩ "f" [.selector "l" "x", .call ⟨0, 0⟩ "strings.Upper" []])

example : tree.print " " =
    "-(a - (1 - 2)) * !true != \"\\\"\\\\\\n\" && f(l.x, strings.Upper())" := by
  decide +kernel

theorem tree_printable : tree.Printable := by
  have hupper : IsCallee "strings.Upper" :=
    .inr ⟨"strings", "Upper", by decide, by decide, by decide⟩
  have hf : IsCallee "f" := .inl (by decide)
  simp only [tree, Printable, PrintableAll]
  exact ⟨⟨⟨⟨by decide, by decide, by decide⟩, by decide⟩, trivial⟩, hf, ⟨by decide, by decide⟩,
    ⟨hupper, trivial⟩, trivial⟩

theorem parseAs_print_tree : (∀ c ∈ " ".toList, Text.isBlank c = true) ∧ tree.Printable ∧
    ∃ e', Expr.parseAs 0 (tree.print " ") = .ok e' ∧ e'.unsited = tree.unsited :=
  have hblank : ∀ c ∈ " ".toList, Text.isBlank c = true := List.forall_mem_singleton.2 rfl
  ⟨hblank, tree_printable, parseAs_print 0 hblank tree_printable⟩

end PrintingSample
end TableMill
