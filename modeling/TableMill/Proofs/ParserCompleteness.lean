import TableMill.Proofs.ParserSoundness

/-!
# What the parser has to accept

Tokens that a layer derives are taken by the parser, whatever follows them that does not go on
with their last operand. The fuel that a whole text gets is enough for every text.
-/

namespace TableMill

open Grammar

namespace Parser

variable {source fuel level : Nat} {layer : Layer} {ts us rest : List Token} {t : Token}
  {e left : Expr}

@[simp] theorem look_cons (t : Token) (ts : List Token) : look (t :: ts) = t := rfl

@[simp] theorem expect_cons (want : Token) (ts : List Token) :
    expect none want (want :: ts) = .ok ts := by
  rw [expect, look_cons, if_pos rfl, advance_none, List.tail_cons]

/-- A token that may stand behind the tokens of a layer: no bracket and no dot, which would go
on with a name, and no operator that binds more tightly. -/
structure Follows (layer : Layer) (rest : List Token) : Prop where
  noBracket : look rest ≠ .openParen
  noDot : look rest ≠ .dot
  stops : Stops (layer.level + 1) rest

theorem Follows.below (h : Follows layer rest) : Follows layer.below rest where
  noBracket := h.noBracket
  noDot := h.noDot
  stops op hop := Nat.lt_of_lt_of_le (h.stops op hop) (Nat.succ_le_succ layer.level_le_below)

theorem follows_of_none (hop : binaryOp? (look rest) = none) (hbracket : look rest ≠ .openParen)
    (hdot : look rest ≠ .dot) : Follows layer rest where
  noBracket := hbracket
  noDot := hdot
  stops op h := by
    rw [hop] at h
    cases h

theorem follows_operator {op : BinaryOp} (hop : layer.binary? t = some op) (ts : List Token) :
    Follows layer (t :: ts) := by
  obtain ⟨hbinary, hlevel⟩ := Layer.binary?_eq_some_iff.1 hop
  refine ⟨?_, ?_, fun op' hop' => ?_⟩
  · rintro rfl
    cases hbinary
  · rintro rfl
    cases hbinary
  · obtain rfl := Option.some.inj (hbinary.symm.trans hop')
    exact Nat.lt_succ_of_le (Nat.le_of_eq hlevel)

theorem parseRest_of_stops (h : Stops level ts) :
    parseRest source none (fuel + 1) level e ts = .ok (e, ts) := by
  rw [parseRest]
  split
  · rfl
  · next op hop => rw [if_pos (h op hop)]

/-- Tokens are read as an expression up to the sites of its calls: the parser has it on the left
when it comes to what follows. -/
def Reads (source : Nat) (layer : Layer) (used : List Token) (e : Expr) : Prop :=
  ∀ rest, Follows layer rest → ∃ e', e'.unsited = e.unsited ∧ ∃ taken ≤ used.length,
    ∀ fuel level, level ≤ layer.level → 4 * used.length + 2 ≤ fuel →
      parseExpr source none fuel level (used ++ rest) =
        parseRest source none (fuel - taken) level e' rest

theorem Reads.parsed (h : Reads source layer ts e) (hrest : Follows layer rest) :
    ∃ e', e'.unsited = e.unsited ∧ ∀ fuel level, level ≤ layer.level → Stops level rest →
      4 * ts.length + 2 ≤ fuel →
      parseExpr source none fuel level (ts ++ rest) = .ok (e', rest) := by
  obtain ⟨e', he, taken, htaken, hparse⟩ := h rest hrest
  refine ⟨e', he, fun fuel level hlevel hstops hfuel => ?_⟩
  obtain ⟨left, hleft⟩ : ∃ left, fuel - taken = left + 1 :=
    Nat.exists_eq_succ_of_ne_zero (by omega)
  rw [hparse fuel level hlevel hfuel, hleft, parseRest_of_stops hstops]

/-- An operand is read if the parser takes it as one. -/
theorem reads_of_operand (hts : ts ≠ [])
    (h : ∀ rest, Follows layer rest → ∃ e', e'.unsited = e.unsited ∧
      ∀ fuel, 4 * ts.length ≤ fuel →
        parseOperand source none (fuel + 1) (ts ++ rest) = .ok (e', rest)) :
    Reads source layer ts e := by
  intro rest hrest
  obtain ⟨e', he, hparse⟩ := h rest hrest
  refine ⟨e', he, 1, List.length_pos_iff.2 hts, fun fuel level _ hfuel => ?_⟩
  obtain ⟨fuel, rfl⟩ := Nat.exists_eq_add_of_le' (Nat.le_trans (Nat.le_add_left 2 _) hfuel)
  rw [parseExpr, hparse fuel (by omega)]
  rfl

theorem Reads.binary {op : BinaryOp} {l r : Expr} (hop : layer.binary? t = some op)
    (hl : Reads source layer ts l) (hr : Reads source layer.below us r) :
    Reads source layer (ts ++ t :: us) (.binary op l r) := by
  intro rest hrest
  obtain ⟨hbinary, hlevel⟩ := Layer.binary?_eq_some_iff.1 hop
  obtain ⟨l', hl', taken, htaken, hleft⟩ := hl (t :: (us ++ rest)) (follows_operator hop _)
  obtain ⟨r', hr', hright⟩ := hr.parsed hrest.below
  refine ⟨.binary op l' r', by simp [Expr.unsited, hl', hr'], taken + 1, by simp; omega, ?_⟩
  intro fuel level hle hfuel
  rw [List.length_append, List.length_cons] at hfuel
  obtain ⟨more, hmore⟩ : ∃ more, fuel - taken = more + 1 :=
    Nat.exists_eq_succ_of_ne_zero (by omega)
  have hback : fuel - (taken + 1) = more := by omega
  rw [List.append_assoc, List.cons_append, hleft fuel level hle (by omega), hmore, parseRest,
    hback]
  simp only [look_cons, hbinary, advance_bind, List.tail_cons]
  rw [if_neg (by omega), hright more (op.level + 1) ?_ ?_ (by omega)]
  · rfl
  · exact Nat.le_of_eq (by rw [Layer.level_below hop, hlevel])
  · rw [hlevel]
    exact hrest.stops

theorem Reads.unary {op : UnaryOp} (ht : t = .minus ∧ op = .negate ∨ t = .bang ∧ op = .not)
    (h : Reads source .unary ts e) : Reads source .unary (t :: ts) (.unary op e) := by
  refine reads_of_operand nofun fun rest hrest => ?_
  obtain ⟨e', he, hparse⟩ := h.parsed hrest
  refine ⟨.unary op e', by simp [Expr.unsited, he], fun fuel hfuel => ?_⟩
  rw [List.length_cons] at hfuel
  have hoperand := hparse fuel unaryLevel (Nat.le_refl _) (stops_of_unary (Nat.le_refl _) _)
    (by omega)
  rcases ht with ⟨rfl, rfl⟩ | ⟨rfl, rfl⟩
  · simp [parseOperand_succ, hoperand]
  · simp [parseOperand_succ, hoperand]

theorem reads_literal
    (h : ∀ fuel rest, parseOperand source none (fuel + 1) (t :: rest) = .ok (e, rest)) :
    Reads source .primary [t] e :=
  reads_of_operand nofun fun rest _ => ⟨e, rfl, fun fuel _ => h fuel rest⟩

theorem reads_ident (name : String) : Reads source .primary [.ident name] (.ident name) := by
  refine reads_of_operand nofun fun rest hrest => ⟨.ident name, rfl, fun fuel _ => ?_⟩
  simp only [List.cons_append, List.nil_append, parseOperand_succ, parseName, look_cons,
    List.tail_cons]
  split
  · next h => exact absurd h hrest.noBracket
  · next h => exact absurd h hrest.noDot
  · rfl

theorem reads_selector (table field : String) :
    Reads source .primary [.ident table, .dot, .ident field] (.selector table field) := by
  refine reads_of_operand nofun fun rest hrest =>
    ⟨.selector table field, rfl, fun fuel _ => ?_⟩
  simp only [List.cons_append, List.nil_append, parseOperand_succ, parseName, look_cons,
    List.tail_cons]
  split
  · next h => exact absurd h hrest.noBracket
  · next h => exact absurd h hrest.noDot
  · rfl

theorem follows_closeParen (layer : Layer) (ts : List Token) : Follows layer (.closeParen :: ts) :=
  follows_of_none rfl nofun nofun

theorem follows_comma (layer : Layer) (ts : List Token) : Follows layer (.comma :: ts) :=
  follows_of_none rfl nofun nofun

theorem stops_of_none (h : binaryOp? (look ts) = none) : Stops level ts := by
  intro op hop
  rw [h] at hop
  cases hop

theorem reads_bracket (h : Reads source .or ts e) :
    Reads source .primary (.openParen :: (ts ++ [.closeParen])) e := by
  refine reads_of_operand nofun fun rest _ => ?_
  obtain ⟨e', he, hparse⟩ := h.parsed (follows_closeParen .or rest)
  refine ⟨e', he, fun fuel hfuel => ?_⟩
  simp only [List.length_cons, List.length_append, List.length_nil] at hfuel
  have hinner := hparse fuel 0 (Nat.zero_le _) (stops_of_none rfl) (by omega)
  simp only [List.cons_append, List.append_assoc, List.nil_append, parseOperand_succ, look_cons,
    List.tail_cons, hinner, ok_bind, expect_cons]

theorem parseArgs_complete {args : List (List Token × Expr)} (hne : args ≠ [])
    (h : ∀ a ∈ args, Reads source .or a.1 a.2) (rest : List Token) :
    ∃ es, es.map Expr.unsited = args.map (fun a => a.2.unsited) ∧
      ∀ fuel, 4 * (listed args).length + 3 ≤ fuel →
        parseArgs source none fuel (listed args ++ .closeParen :: rest) =
          .ok (es, .closeParen :: rest) := by
  induction args with
  | nil => exact absurd rfl hne
  | cons a args ih =>
    cases args with
    | nil =>
      obtain ⟨e', he, hparse⟩ :=
        (h a List.mem_cons_self).parsed (follows_closeParen .or rest)
      refine ⟨[e'], by simp [he], fun fuel hfuel => ?_⟩
      rw [listed_singleton] at hfuel ⊢
      obtain ⟨fuel, rfl⟩ := Nat.exists_eq_add_of_le' (Nat.le_trans (Nat.le_add_left 1 _) hfuel)
      have hlast := hparse fuel 0 (Nat.zero_le _) (stops_of_none rfl) (by omega)
      simp [parseArgs, hlast]
    | cons b args =>
      obtain ⟨es, hes, hargs⟩ := ih nofun fun x hx => h x (List.mem_cons_of_mem _ hx)
      obtain ⟨e', he, hparse⟩ := (h a List.mem_cons_self).parsed
        (follows_comma .or (listed (b :: args) ++ .closeParen :: rest))
      refine ⟨e' :: es, by simpa [he] using hes, fun fuel hfuel => ?_⟩
      rw [listed_cons_cons, List.length_append, List.length_cons] at hfuel
      obtain ⟨fuel, rfl⟩ := Nat.exists_eq_add_of_le' (Nat.le_trans (Nat.le_add_left 1 _) hfuel)
      have hfirst := hparse fuel 0 (Nat.zero_le _) (stops_of_none rfl) (by omega)
      rw [listed_cons_cons, List.append_assoc, List.cons_append, parseArgs, hfirst]
      simp [hargs fuel (by omega)]

/-- The arguments of a call are read with their brackets. -/
theorem parseCall_complete {args : List (List Token × Expr)}
    (h : ∀ a ∈ args, Reads source .or a.1 a.2)
    (hstarts : ∀ a ∈ args, ∃ t us, a.1 = t :: us ∧ t ≠ .closeParen) (rest : List Token) :
    ∃ es, es.map Expr.unsited = args.map (fun a => a.2.unsited) ∧
      ∀ fuel site name, 4 * (listed args).length + 4 ≤ fuel →
        parseCall source none fuel site name
            (.openParen :: (listed args ++ .closeParen :: rest)) =
          .ok (.call site name es, rest) := by
  cases args with
  | nil =>
    refine ⟨[], rfl, fun fuel site name hfuel => ?_⟩
    obtain ⟨fuel, rfl⟩ := Nat.exists_eq_add_of_le' (Nat.le_trans (Nat.le_add_left 1 _) hfuel)
    simp [parseCall]
  | cons a args =>
    obtain ⟨es, hes, hargs⟩ := parseArgs_complete (List.cons_ne_nil a args) h rest
    refine ⟨es, hes, fun fuel site name hfuel => ?_⟩
    obtain ⟨fuel, rfl⟩ := Nat.exists_eq_add_of_le' (Nat.le_trans (Nat.le_add_left 1 _) hfuel)
    have hopen : look (listed (a :: args) ++ .closeParen :: rest) ≠ .closeParen := by
      obtain ⟨t, us, ht, hclose⟩ := hstarts a List.mem_cons_self
      cases args with
      | nil => simpa [ht] using hclose
      | cons b args => simpa [ht] using hclose
    simp [parseCall, hopen, hargs fuel (by omega)]

theorem reads_call {args : List (List Token × Expr)} {name : String} (site : CallSite)
    (hname : Callee ts name) (h : ∀ a ∈ args, Reads source .or a.1 a.2)
    (hstarts : ∀ a ∈ args, ∃ t us, a.1 = t :: us ∧ t ≠ .closeParen) :
    Reads source .primary (ts ++ .openParen :: (listed args ++ [.closeParen]))
      (.call site name (args.map Prod.snd)) := by
  refine reads_of_operand (by simp) fun rest _ => ?_
  obtain ⟨es, hes, hcall⟩ := parseCall_complete h hstarts rest
  have hunsited (here : CallSite) :
      (Expr.call here name es).unsited = (Expr.call site name (args.map Prod.snd)).unsited := by
    simp [Expr.unsited, hes, Function.comp_def]
  refine ⟨_, hunsited
    ⟨source, (ts ++ Token.openParen :: (listed args ++ [.closeParen]) ++ rest).length⟩,
    fun fuel hfuel => ?_⟩
  simp only [List.length_cons, List.length_append, List.length_nil] at hfuel
  cases hname with
  | plain name =>
    simp only [List.cons_append, List.append_assoc, List.nil_append, parseOperand_succ, parseName,
      look_cons, List.tail_cons]
    exact hcall fuel _ _ (by simp at hfuel; omega)
  | dotted package name =>
    simp only [List.cons_append, List.append_assoc, List.nil_append, parseOperand_succ, parseName,
      look_cons, List.tail_cons]
    exact hcall fuel _ _ (by simp at hfuel; omega)

/-- What a layer derives is read. -/
theorem reads_of_derives (h : Derives layer ts e) : Reads source layer ts e := by
  induction h with
  | @lift layer ts e _ ih =>
    intro rest hrest
    obtain ⟨e', he, taken, htaken, hparse⟩ := ih rest hrest.below
    exact ⟨e', he, taken, htaken, fun fuel level hlevel =>
      hparse fuel level (Nat.le_trans hlevel layer.level_le_below)⟩
  | binary hop _ _ hl hr => exact .binary hop hl hr
  | negate _ ih => exact .unary (.inl ⟨rfl, rfl⟩) ih
  | not _ ih => exact .unary (.inr ⟨rfl, rfl⟩) ih
  | int v => exact reads_literal fun _ _ => by simp [parseOperand_succ]
  | float v => exact reads_literal fun _ _ => by simp [parseOperand_succ]
  | text s => exact reads_literal fun _ _ => by simp [parseOperand_succ]
  | ident name => exact reads_ident name
  | selector table field => exact reads_selector table field
  | call site hname hargs ih => exact reads_call site hname ih fun a ha => (hargs a ha).starts
  | bracket _ ih => exact reads_bracket ih

end Parser
end TableMill
