import TableMill.Proofs.Lexing
import TableMill.Proofs.Parsing

/-!
# Names of parsed expressions

A fault behind the last token can only stop the parser: what is parsed in spite of it is parsed
without it. So the names in a parsed expression are names to the lexer.
-/

namespace TableMill

namespace Token

def Lexed : Token → Prop
  | ident name => isName name = true
  | eof => False
  | _ => True

variable {input : String} {c : Char} {cs rest : List Char} {t : Token}

theorem lexed_of_readExponent {lexeme : List Char}
    (h : readExponent lexeme cs = .ok (t, rest)) : t.Lexed := by
  unfold readExponent at h
  dsimp only at h
  split at h
  all_goals
    dsimp only at h
    split at h
    · cases h
    · obtain ⟨rfl, -⟩ := Prod.mk.inj (Except.ok.inj h)
      trivial

theorem lexed_of_readNumber (h : readNumber cs = .ok (t, rest)) : t.Lexed := by
  unfold readNumber at h
  dsimp only at h
  split at h
  · split at h
    · exact lexed_of_readExponent h
    · exact lexed_of_readExponent h
    · obtain ⟨rfl, -⟩ := Prod.mk.inj (Except.ok.inj h)
      trivial
  · exact lexed_of_readExponent h
  · exact lexed_of_readExponent h
  · split at h
    · obtain ⟨rfl, -⟩ := Prod.mk.inj (Except.ok.inj h)
      trivial
    · cases h

theorem isName_ofList {cs : List Char} (hc : isNameStart c = true) :
    isName (String.ofList (c :: cs.takeWhile isNamePart)) = true := by
  rw [isName, String.toList_ofList]
  simp [hc]

theorem lexed_of_read (h : read input c cs = .ok (t, rest)) : t.Lexed := by
  unfold read at h
  dsimp only at h
  split at h
  case h_10 | h_11 | h_12 => 
    split at h
    · split at h
      · exact (Prod.mk.inj (Except.ok.inj h)).1 ▸ trivial
      · exact (Prod.mk.inj (Except.ok.inj h)).1 ▸ trivial
    · exact (Prod.mk.inj (Except.ok.inj h)).1 ▸ trivial
  case h_13 | h_14 | h_15 =>
    split at h
    · exact (Prod.mk.inj (Except.ok.inj h)).1 ▸ trivial
    · cases h
  case h_16 | h_17 =>
    obtain ⟨r, -, hr⟩ := map_eq_ok.1 h
    exact (Prod.mk.inj hr).1 ▸ trivial
  case h_18 =>
    split at h
    · exact lexed_of_readNumber h
    · split at h
      · next hc => exact (Prod.mk.inj (Except.ok.inj h)).1 ▸ isName_ofList hc
      · cases h
  all_goals exact (Prod.mk.inj (Except.ok.inj h)).1 ▸ trivial
theorem lexed_of_scanFrom {fuel : Nat} (h : t ∈ (scanFrom input fuel cs).tokens) : t.Lexed := by
  induction fuel generalizing cs with
  | zero => cases h
  | succ fuel ih =>
    rw [scanFrom] at h
    split at h
    · cases h
    · split at h
      · cases h
      · next hread =>
        rcases List.mem_cons.1 h with rfl | h
        · exact lexed_of_read hread
        · exact ih h

theorem lexed_of_scan (h : t ∈ (scan input).tokens) : t.Lexed :=
  lexed_of_scanFrom h

end Token

namespace Parser

/-- A computation succeeds with whatever another one succeeds with. -/
def Allows {α : Type} (x y : Except ParseFault α) : Prop := ∀ a, x = .ok a → y = .ok a

namespace Allows

variable {α β : Type} {x y : Except ParseFault α}

theorem refl (x : Except ParseFault α) : Allows x x := fun _ h => h

theorem bind {f g : α → Except ParseFault β} (hxy : Allows x y) (hfg : ∀ a, Allows (f a) (g a)) :
    Allows (x >>= f) (y >>= g) := by
  intro b h
  obtain ⟨a, ha, hb⟩ := bind_eq_ok.1 h
  exact bind_eq_ok.2 ⟨a, hxy a ha, hfg a b hb⟩

end Allows

variable (source : Nat) (fault : Option ParseFault)

theorem advance_allows (ts : List Token) : Allows (advance fault ts) (advance none ts) := by
  match ts with
  | [] | _ :: _ :: _ => exact Allows.refl _
  | [_] => cases fault with
    | none => exact Allows.refl _
    | some f => exact nofun

theorem expect_allows (want : Token) (ts : List Token) :
    Allows (expect fault want ts) (expect none want ts) := by
  unfold expect
  by_cases h : look ts = want
  · rw [if_pos h, if_pos h]
    exact advance_allows fault ts
  · rw [if_neg h, if_neg h]
    exact Allows.refl _

mutual

theorem parseExpr_allows : ∀ (fuel level : Nat) (ts : List Token),
    Allows (parseExpr source fault fuel level ts) (parseExpr source none fuel level ts)
  | 0, _, _ => Allows.refl _
  | fuel + 1, level, ts => by
    rw [parseExpr, parseExpr]
    exact (parseOperand_allows fuel ts).bind fun r => parseRest_allows fuel level r.1 r.2

theorem parseRest_allows : ∀ (fuel level : Nat) (left : Expr) (ts : List Token),
    Allows (parseRest source fault fuel level left ts) (parseRest source none fuel level left ts)
  | 0, _, _, _ => Allows.refl _
  | fuel + 1, level, left, ts => by
    rw [parseRest, parseRest]
    cases binaryOp? (look ts) with
    | none => exact Allows.refl _
    | some op =>
      by_cases hlevel : op.level < level
      · simp only [if_pos hlevel]
        exact Allows.refl _
      · simp only [if_neg hlevel]
        exact (advance_allows fault ts).bind fun ts' =>
          (parseExpr_allows fuel _ ts').bind fun r => parseRest_allows fuel level _ r.2

theorem parseOperand_allows : ∀ (fuel : Nat) (ts : List Token),
    Allows (parseOperand source fault fuel ts) (parseOperand source none fuel ts)
  | 0, _ => Allows.refl _
  | fuel + 1, ts => by
    rw [parseOperand_eq, parseOperand_eq]
    cases look ts
    case minus | bang =>
      exact (advance_allows fault ts).bind fun ts' =>
        (parseExpr_allows fuel unaryLevel ts').bind fun _ => Allows.refl _
    case int | float | text => exact (advance_allows fault ts).bind fun _ => Allows.refl _
    case ident first =>
      refine (advance_allows fault ts).bind fun ts' => ?_
      cases look ts'
      case openParen => exact parseCall_allows fuel _ first ts'
      case dot =>
        refine (advance_allows fault ts').bind fun ts'' =>
          (advance_allows fault ts'').bind fun us => ?_
        cases look ts''
        case ident second =>
          cases look us
          case openParen => exact parseCall_allows fuel _ _ us
          all_goals exact Allows.refl _
        all_goals exact Allows.refl _
      all_goals exact Allows.refl _
    case openParen =>
      exact (advance_allows fault ts).bind fun ts' => (parseExpr_allows fuel 0 ts').bind fun r =>
        (expect_allows fault .closeParen r.2).bind fun _ => Allows.refl _
    all_goals exact Allows.refl _

theorem parseCall_allows : ∀ (fuel : Nat) (site : CallSite) (name : String) (ts : List Token),
    Allows (parseCall source fault fuel site name ts) (parseCall source none fuel site name ts)
  | 0, _, _, _ => Allows.refl _
  | fuel + 1, site, name, ts => by
    rw [parseCall, parseCall]
    refine (expect_allows fault .openParen ts).bind fun ts' => ?_
    by_cases hclose : look ts' = .closeParen
    · rw [if_pos hclose, if_pos hclose]
      exact (expect_allows fault .closeParen ts').bind fun _ => Allows.refl _
    · rw [if_neg hclose, if_neg hclose]
      exact (parseArgs_allows fuel ts').bind fun r =>
        (expect_allows fault .closeParen r.2).bind fun _ => Allows.refl _

theorem parseArgs_allows : ∀ (fuel : Nat) (ts : List Token),
    Allows (parseArgs source fault fuel ts) (parseArgs source none fuel ts)
  | 0, _ => Allows.refl _
  | fuel + 1, ts => by
    rw [parseArgs, parseArgs]
    refine (parseExpr_allows fuel 0 ts).bind fun r => ?_
    by_cases hcomma : look r.2 = .comma
    · simp only [if_pos hcomma]
      exact (advance_allows fault r.2).bind fun ts' =>
        (parseArgs_allows fuel ts').bind fun _ => Allows.refl _
    · simp only [if_neg hcomma]
      exact Allows.refl _

end

variable {source fault}

/-- What is parsed in spite of a fault is parsed without it. -/
theorem parseTokens_of_fault {ts : List Token} {e : Expr}
    (h : parseTokens source ⟨ts, fault⟩ = .ok e) : parseTokens source ⟨ts, none⟩ = .ok e := by
  have hallows : Allows (parseTokens source ⟨ts, fault⟩) (parseTokens source ⟨ts, none⟩) := by
    cases ts with
    | nil => cases fault with
      | none => exact Allows.refl _
      | some f => exact nofun
    | cons t ts => exact (parseExpr_allows source fault _ 0 _).bind fun _ => Allows.refl _
  exact hallows e h

end Parser

/-- The name that an expression is, or that it calls if that is a name of no package. -/
def Expr.plainName? : Expr → Option String
  | ident name => some name
  | call _ name _ => if '.' ∈ name.toList then none else some name
  | _ => none

namespace Grammar

variable {layer : Layer} {ts : List Token} {e : Expr}

theorem mem_listed {args : List (List Token × Expr)} {a : List Token × Expr} (ha : a ∈ args)
    {t : Token} (ht : t ∈ a.1) : t ∈ listed args := by
  induction args with
  | nil => cases ha
  | cons b args ih =>
    cases args with
    | nil =>
      obtain rfl := List.mem_singleton.1 ha
      rwa [listed_singleton]
    | cons b' args =>
      rw [listed_cons_cons, List.mem_append]
      rcases List.mem_cons.1 ha with rfl | ha
      · exact .inl ht
      · exact .inr (List.mem_cons_of_mem _ (ih ha))

/-- A name of no package is one token. -/
theorem Derives.name_mem (h : Derives layer ts e) {name : String}
    (hname : e.plainName? = some name) : Token.ident name ∈ ts := by
  induction h with
  | lift _ ih => exact ih hname
  | bracket _ ih => simp [ih hname]
  | ident n =>
    obtain rfl := Option.some.inj hname
    exact List.mem_singleton_self _
  | @call _ n _ _ hcallee =>
    cases hcallee with
    | plain =>
      have hn : '.' ∉ n.toList ∧ n = name := by simpa [Expr.plainName?] using hname
      simp [hn.2]
    | dotted package function => simp [Expr.plainName?] at hname
  | binary | negate | not | int | float | text | selector => cases hname

/-- The arguments of a call are derived from tokens of it. -/
theorem Derives.args (h : Derives layer ts e) {site : CallSite} {name : String}
    {args : List Expr} (he : e = .call site name args) {a : Expr} (ha : a ∈ args) :
    ∃ us, Derives .or us a ∧ us ⊆ ts := by
  induction h with
  | lift _ ih => exact ih he
  | bracket _ ih =>
    obtain ⟨us, hus, hsub⟩ := ih he
    exact ⟨us, hus, fun t ht => by simp [hsub ht]⟩
  | @call callee n pairs _ hcallee hpairs =>
    obtain ⟨-, -, rfl⟩ := Expr.call.inj he
    obtain ⟨p, hp, rfl⟩ := List.mem_map.1 ha
    exact ⟨p.1, hpairs p hp, fun t ht => by simp [mem_listed hp ht]⟩
  | binary | negate | not | int | float | text | ident | selector => cases he

end Grammar

theorem Expr.isName_of_parse {input name argument : String} {site : CallSite} {args : List Expr}
    {a : Expr} (h : Expr.parse input = .ok (.call site name args)) (ha : a ∈ args)
    (hname : a.plainName? = some argument) : Token.isName argument = true := by
  have heof : Token.eof ∉ (Token.scan input).tokens := fun hmem => Token.lexed_of_scan hmem
  have hcall := Parser.parseTokens_sound heof (Parser.parseTokens_of_fault h)
  obtain ⟨us, hus, hsub⟩ := hcall.args rfl ha
  exact Token.lexed_of_scan (hsub (hus.name_mem hname))

end TableMill
