import TableMill.Proofs.Grammar
import TableMill.Proofs.Outcome

/-!
# What the parser accepts

Tokens that the parser takes are derived by the layer of its level, and it stops only before a
token that does not go on at that level. Without a fault behind the last token, moving on by a
token always succeeds.
-/

namespace TableMill
namespace Parser

open Grammar

variable {source fuel level : Nat} {ts rest : List Token} {t : Token} {e : Expr}

theorem advance_none (ts : List Token) : advance none ts = .ok ts.tail := by
  match ts with
  | [] | [_] | _ :: _ :: _ => rfl

@[simp] theorem ok_bind {α β : Type} (a : α) (f : α → Except ParseFault β) :
    (Except.ok a >>= f) = f a := rfl

@[simp] theorem advance_bind {α : Type} (ts : List Token) (f : List Token → Except ParseFault α) :
    (advance none ts >>= f) = f ts.tail := by
  rw [advance_none]
  rfl

theorem eq_cons_of_look (h : look ts = t) (ht : t ≠ .eof) : ts = t :: ts.tail := by
  cases ts with
  | nil => exact absurd h.symm ht
  | cons t' ts => rw [← h]; rfl

theorem expect_eq_ok {want : Token} (hwant : want ≠ .eof) :
    expect none want ts = .ok rest ↔ ts = want :: rest := by
  unfold expect
  split
  · next h =>
    rw [advance_none, eq_cons_of_look h hwant]
    simp
  · next h =>
    simp only [reduceCtorEq, false_iff]
    rintro rfl
    exact h rfl

/-- What the first part of a name is read as with the tokens behind it, none of which stands before
a fault. -/
def parseName (source fuel : Nat) (site : CallSite) (first : String) (ts : List Token) :
    Except ParseFault (Expr × List Token) :=
  match look ts with
  | .openParen => parseCall source none fuel site first ts
  | .dot =>
    match look ts.tail with
    | .ident second =>
      match look ts.tail.tail with
      | .openParen => parseCall source none fuel site (first ++ "." ++ second) ts.tail.tail
      | .dot => .error (.longSelector first second)
      | _ => .ok (.selector first second, ts.tail.tail)
    | found => .error (.noField first found)
  | _ => .ok (.ident first, ts)

@[simp] theorem parseOperand_zero (source : Nat) (ts : List Token) :
    parseOperand source none 0 ts = .error .exhausted := rfl

/-- An operand, by the token that it starts with. -/
theorem parseOperand_eq (source : Nat) (fault : Option ParseFault) (fuel : Nat) (ts : List Token) :
    parseOperand source fault (fuel + 1) ts =
      match look ts with
      | .minus => do
        let ts ← advance fault ts
        let (e, ts) ← parseExpr source fault fuel unaryLevel ts
        .ok (.unary .negate e, ts)
      | .bang => do
        let ts ← advance fault ts
        let (e, ts) ← parseExpr source fault fuel unaryLevel ts
        .ok (.unary .not e, ts)
      | .int v => do
        let ts ← advance fault ts
        .ok (.int v, ts)
      | .float v => do
        let ts ← advance fault ts
        .ok (.float v, ts)
      | .text s => do
        let ts ← advance fault ts
        .ok (.text s, ts)
      | .ident first => do
        let ts' ← advance fault ts
        match look ts' with
        | .openParen => parseCall source fault fuel ⟨source, ts.length⟩ first ts'
        | .dot => do
          let ts'' ← advance fault ts'
          let us ← advance fault ts''
          match look ts'' with
          | .ident second =>
            match look us with
            | .openParen =>
              parseCall source fault fuel ⟨source, ts.length⟩ (first ++ "." ++ second) us
            | .dot => .error (.longSelector first second)
            | _ => .ok (.selector first second, us)
          | _ => .error (.noField first (look ts''))
        | _ => .ok (.ident first, ts')
      | .openParen => do
        let ts ← advance fault ts
        let (e, ts) ← parseExpr source fault fuel 0 ts
        let ts ← expect fault .closeParen ts
        .ok (e, ts)
      | other => .error (.noOperand other) := rfl

/-- An operand without a fault behind the last token: moving on only drops a token. -/
theorem parseOperand_succ (source fuel : Nat) (ts : List Token) :
    parseOperand source none (fuel + 1) ts =
      match look ts with
      | .minus => do
        let (e, rest) ← parseExpr source none fuel unaryLevel ts.tail
        .ok (.unary .negate e, rest)
      | .bang => do
        let (e, rest) ← parseExpr source none fuel unaryLevel ts.tail
        .ok (.unary .not e, rest)
      | .int v => .ok (.int v, ts.tail)
      | .float v => .ok (.float v, ts.tail)
      | .text s => .ok (.text s, ts.tail)
      | .ident first => parseName source fuel ⟨source, ts.length⟩ first ts.tail
      | .openParen => do
        let (e, rest) ← parseExpr source none fuel 0 ts.tail
        let rest ← expect none .closeParen rest
        .ok (e, rest)
      | other => .error (.noOperand other) := by
  -- A selector looks at no more than four tokens.
  match ts with
  | [] => rfl
  | [t] => cases t <;> rfl
  | t :: t' :: rest =>
    cases t <;> try rfl
    cases t' <;> try rfl
    match rest with
    | [] => rfl
    | [t] => cases t <;> rfl
    | t :: _ :: _ => cases t <;> rfl

/-- A name is taken by itself or as a selector, or it calls a function. -/
theorem parseName_eq_ok {site : CallSite} {first : String}
    (h : parseName source fuel site first ts = .ok (e, rest)) :
    (∃ used, ts = used ++ rest ∧ Derives .primary (.ident first :: used) e) ∨
      ∃ dotted name ts', ts = dotted ++ ts' ∧ Callee (.ident first :: dotted) name ∧
        parseCall source none fuel site name ts' = .ok (e, rest) := by
  unfold parseName at h
  split at h
  · exact .inr ⟨[], first, ts, rfl, .plain first, h⟩
  · next hdot =>
    have hts := eq_cons_of_look hdot (by decide)
    split at h
    · next second hsecond =>
      have htail := eq_cons_of_look hsecond nofun
      have hdotted : ts = [.dot, .ident second] ++ ts.tail.tail := by
        rw [htail] at hts
        exact hts
      split at h
      · exact .inr ⟨_, _, _, hdotted, .dotted first second, h⟩
      · cases h
      · obtain ⟨rfl, rfl⟩ := Prod.mk.inj (Except.ok.inj h)
        exact .inl ⟨_, hdotted, .selector first second⟩
    · cases h
  · obtain ⟨rfl, rfl⟩ := Prod.mk.inj (Except.ok.inj h)
    exact .inl ⟨[], rfl, .ident first⟩

/-- The next token is no operator that binds as tightly as a level. -/
def Stops (level : Nat) (ts : List Token) : Prop :=
  ∀ op, binaryOp? (look ts) = some op → op.level < level

theorem binaryOp?_ne_eof {op : BinaryOp} (h : binaryOp? t = some op) : t ≠ .eof := by
  rintro rfl
  cases h

theorem level_le_five (op : BinaryOp) : op.level ≤ 5 := by
  cases op <;> decide

theorem stops_of_unary (h : unaryLevel ≤ level) (ts : List Token) : Stops level ts :=
  fun op _ => Nat.lt_of_lt_of_le (Nat.lt_succ_of_le (level_le_five op)) h

mutual

theorem parseExpr_sound : ∀ (fuel : Nat) {level : Nat} {ts rest : List Token} {e : Expr},
    level ≤ unaryLevel → parseExpr source none fuel level ts = .ok (e, rest) →
    ∃ used, ts = used ++ rest ∧ Derives (Layer.at level) used e ∧ Stops level rest
  | 0, _, _, _, _, _, h => by simp [parseExpr] at h
  | fuel + 1, level, ts, rest, e, hlevel, h => by
    rw [parseExpr] at h
    obtain ⟨⟨left, ts'⟩, hleft, hrest⟩ := bind_eq_ok.1 h
    obtain ⟨operand, rfl, hoperand⟩ := parseOperand_sound fuel hleft
    obtain ⟨used, rfl, hused, hstops⟩ := parseRest_sound fuel (j := unaryLevel) hlevel hoperand
      (stops_of_unary (Nat.le_succ _) _) hrest
    exact ⟨operand ++ used, (List.append_assoc ..).symm, hused, hstops⟩

/-- The expression on the left comes from a layer that the next operator does not bind more
tightly than. -/
theorem parseRest_sound : ∀ (fuel : Nat) {level j : Nat} {left : Expr} {front ts rest : List Token}
    {e : Expr}, level ≤ j → Derives (Layer.at j) front left → Stops (j + 1) ts →
    parseRest source none fuel level left ts = .ok (e, rest) →
    ∃ used, ts = used ++ rest ∧ Derives (Layer.at level) (front ++ used) e ∧ Stops level rest
  | 0, _, _, _, _, _, _, _, _, _, _, h => by simp [parseRest] at h
  | fuel + 1, level, j, left, front, ts, rest, e, hlevel, hleft, hstops, h => by
    rw [parseRest] at h
    split at h
    · next hnone =>
      obtain ⟨rfl, rfl⟩ := Prod.mk.inj (Except.ok.inj h)
      refine ⟨[], rfl, ?_, fun op hop => ?_⟩
      · rw [List.append_nil]
        exact hleft.loosen hlevel
      · rw [hnone] at hop
        cases hop
    · next op hop =>
      split at h
      · next hlt =>
        obtain ⟨rfl, rfl⟩ := Prod.mk.inj (Except.ok.inj h)
        refine ⟨[], rfl, ?_, fun op' hop' => ?_⟩
        · rw [List.append_nil]
          exact hleft.loosen hlevel
        · obtain rfl := Option.some.inj (hop.symm.trans hop')
          exact hlt
      · next hge =>
        have hts := eq_cons_of_look rfl (binaryOp?_ne_eof hop)
        rw [advance_bind] at h
        obtain ⟨⟨right, ts'⟩, hright, hrest⟩ := bind_eq_ok.1 h
        obtain ⟨us, hus, hr, hnext⟩ :=
          parseExpr_sound fuel (Nat.succ_le_succ (level_le_five op)) hright
        -- The operator binds no more tightly than the left side, so its layer takes that in.
        have hj : op.level ≤ j := Nat.le_of_lt_succ (hstops op hop)
        have hboth : Derives (Layer.at op.level) (front ++ look ts :: us) (.binary op left right) :=
          .binary (Layer.binary?_at hop) (hleft.loosen hj) (Layer.below_at op ▸ hr)
        obtain ⟨used, rfl, hused, hlast⟩ :=
          parseRest_sound fuel (Nat.le_of_not_lt hge) hboth hnext hrest
        refine ⟨look ts :: (us ++ used), ?_, by simpa using hused, hlast⟩
        calc ts = look ts :: ts.tail := hts
          _ = look ts :: (us ++ used) ++ rest := by rw [hus]; simp

theorem parseOperand_sound : ∀ (fuel : Nat) {ts rest : List Token} {e : Expr},
    parseOperand source none fuel ts = .ok (e, rest) →
    ∃ used, ts = used ++ rest ∧ Derives .unary used e
  | 0, _, _, _, h => by simp at h
  | fuel + 1, ts, rest, e, h => by
    rw [parseOperand_succ] at h
    cases hlook : look ts <;> rw [hlook] at h
    case minus =>
      obtain ⟨⟨operand, ts'⟩, hoperand, h⟩ := bind_eq_ok.1 h
      obtain ⟨rfl, rfl⟩ := Prod.mk.inj (Except.ok.inj h)
      obtain ⟨used, hused, hderives, -⟩ := parseExpr_sound fuel (Nat.le_refl _) hoperand
      refine ⟨.minus :: used, ?_, .negate hderives⟩
      rw [eq_cons_of_look hlook (by decide), hused]
      rfl
    case bang =>
      obtain ⟨⟨operand, ts'⟩, hoperand, h⟩ := bind_eq_ok.1 h
      obtain ⟨rfl, rfl⟩ := Prod.mk.inj (Except.ok.inj h)
      obtain ⟨used, hused, hderives, -⟩ := parseExpr_sound fuel (Nat.le_refl _) hoperand
      refine ⟨.bang :: used, ?_, .not hderives⟩
      rw [eq_cons_of_look hlook (by decide), hused]
      rfl
    case int v =>
      obtain ⟨rfl, rfl⟩ := Prod.mk.inj (Except.ok.inj h)
      exact ⟨[.int v], eq_cons_of_look hlook nofun, .lift (.int v)⟩
    case float v =>
      obtain ⟨rfl, rfl⟩ := Prod.mk.inj (Except.ok.inj h)
      exact ⟨[.float v], eq_cons_of_look hlook nofun, .lift (.float v)⟩
    case text s =>
      obtain ⟨rfl, rfl⟩ := Prod.mk.inj (Except.ok.inj h)
      exact ⟨[.text s], eq_cons_of_look hlook nofun, .lift (.text s)⟩
    case ident first =>
      have hts := eq_cons_of_look hlook nofun
      rcases parseName_eq_ok h with
        ⟨used, hused, hderives⟩ | ⟨dotted, name, ts', hused, hname, hcall⟩
      · exact ⟨.ident first :: used, by rw [hts, hused]; rfl, .lift hderives⟩
      · obtain ⟨used, rfl, hderives⟩ := parseCall_sound fuel hname hcall
        refine ⟨.ident first :: (dotted ++ used), ?_, .lift hderives⟩
        rw [hts, hused]
        simp
    case openParen =>
      obtain ⟨⟨inner, ts'⟩, hinner, h⟩ := bind_eq_ok.1 h
      obtain ⟨ts'', hclose, h⟩ := bind_eq_ok.1 h
      obtain ⟨rfl, rfl⟩ := Prod.mk.inj (Except.ok.inj h)
      obtain rfl := (expect_eq_ok (by decide)).1 hclose
      obtain ⟨used, hused, hderives, -⟩ := parseExpr_sound fuel (Nat.zero_le _) hinner
      refine ⟨_, ?_, .lift (.bracket hderives)⟩
      rw [eq_cons_of_look hlook (by decide), hused]
      simp
    all_goals cases h

theorem parseCall_sound : ∀ (fuel : Nat) {site : CallSite} {name : String}
    {callee ts rest : List Token} {e : Expr}, Callee callee name →
    parseCall source none fuel site name ts = .ok (e, rest) →
    ∃ used, ts = used ++ rest ∧ Derives .primary (callee ++ used) e
  | 0, _, _, _, _, _, _, _, h => by simp [parseCall] at h
  | fuel + 1, site, name, callee, ts, rest, e, hcallee, h => by
    rw [parseCall] at h
    obtain ⟨ts', hopen, hrest⟩ := bind_eq_ok.1 h
    obtain rfl := (expect_eq_ok (by decide)).1 hopen
    split at hrest
    · obtain ⟨ts'', hclose, hend⟩ := bind_eq_ok.1 hrest
      obtain ⟨rfl, rfl⟩ := Prod.mk.inj (Except.ok.inj hend)
      obtain rfl := (expect_eq_ok (by decide)).1 hclose
      exact ⟨[.openParen, .closeParen], rfl, @Derives.call callee name [] site hcallee nofun⟩
    · obtain ⟨⟨es, ts''⟩, hargs, hafter⟩ := bind_eq_ok.1 hrest
      obtain ⟨ts₃, hclose, hend⟩ := bind_eq_ok.1 hafter
      obtain ⟨rfl, rfl⟩ := Prod.mk.inj (Except.ok.inj hend)
      obtain rfl := (expect_eq_ok (by decide)).1 hclose
      obtain ⟨args, rfl, -, rfl, hderives⟩ := parseArgs_sound fuel hargs
      exact ⟨.openParen :: (listed args ++ [.closeParen]), by simp, .call site hcallee hderives⟩

theorem parseArgs_sound : ∀ (fuel : Nat) {ts rest : List Token} {es : List Expr},
    parseArgs source none fuel ts = .ok (es, rest) →
    ∃ args, args.map Prod.snd = es ∧ args ≠ [] ∧ ts = listed args ++ rest ∧
      ∀ a ∈ args, Derives .or a.1 a.2
  | 0, _, _, _, h => by simp [parseArgs] at h
  | fuel + 1, ts, rest, es, h => by
    rw [parseArgs] at h
    obtain ⟨⟨e, ts'⟩, he, hrest⟩ := bind_eq_ok.1 h
    obtain ⟨used, rfl, hderives, -⟩ := parseExpr_sound fuel (Nat.zero_le _) he
    dsimp only at hrest
    split at hrest
    · next hcomma =>
      rw [advance_bind] at hrest
      obtain ⟨⟨more, ts''⟩, hmore, hend⟩ := bind_eq_ok.1 hrest
      obtain ⟨rfl, rfl⟩ := Prod.mk.inj (Except.ok.inj hend)
      obtain ⟨args, rfl, hne, htail, hargs⟩ := parseArgs_sound fuel hmore
      obtain ⟨a, args, rfl⟩ := List.exists_cons_of_ne_nil hne
      refine ⟨(used, e) :: a :: args, rfl, nofun, ?_, List.forall_mem_cons.2 ⟨hderives, hargs⟩⟩
      rw [listed_cons_cons, eq_cons_of_look hcomma (by decide), htail]
      simp
    · obtain ⟨rfl, rfl⟩ := Prod.mk.inj (Except.ok.inj hrest)
      exact ⟨[(used, e)], rfl, nofun, by simp, List.forall_mem_singleton.2 hderives⟩

end

end Parser
end TableMill
