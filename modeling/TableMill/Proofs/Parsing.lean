import TableMill.Proofs.ParserCompleteness

/-!
# Parsing is what the grammar says

On tokens without a lexical fault the parser ends, and it succeeds exactly on the tokens that
the grammar derives, with the tree of the derivation.
-/

namespace TableMill

open Grammar

namespace Parser

variable {source : Nat}

theorem bind_eq_error {ε α β : Type} {x : Except ε α} {f : α → Except ε β} {fault : ε} :
    x >>= f = .error fault ↔ x = .error fault ∨ ∃ a, x = .ok a ∧ f a = .error fault := by
  cases x with
  | error e => simp [bind, Except.bind]
  | ok a => simp [bind, Except.bind]

theorem expect_ne_exhausted (want : Token) (ts : List Token) :
    expect none want ts ≠ .error .exhausted := by
  unfold expect
  split
  · rw [advance_none]
    nofun
  · nofun

theorem length_of_operand {fuel : Nat} {ts rest : List Token} {e : Expr}
    (h : parseOperand source none fuel ts = .ok (e, rest)) : rest.length + 1 ≤ ts.length := by
  obtain ⟨used, rfl, hused⟩ := parseOperand_sound fuel h
  obtain ⟨t, us, rfl, -⟩ := hused.starts
  simp

theorem length_of_expr {fuel level : Nat} {ts rest : List Token} {e : Expr}
    (h : parseExpr source none fuel level ts = .ok (e, rest)) (hlevel : level ≤ unaryLevel) :
    rest.length ≤ ts.length := by
  obtain ⟨used, rfl, -⟩ := parseExpr_sound fuel hlevel h
  simp

/-- A name comes to no end only if the call that it makes does. -/
theorem parseName_eq_exhausted {fuel : Nat} {site : CallSite} {first : String} {ts : List Token}
    (h : parseName source fuel site first ts = .error .exhausted) :
    ∃ name ts', ts'.length ≤ ts.length ∧
      parseCall source none fuel site name ts' = .error .exhausted := by
  unfold parseName at h
  split at h
  · exact ⟨_, _, Nat.le_refl _, h⟩
  · split at h
    · split at h
      · exact ⟨_, _, by simp only [List.length_tail]; omega, h⟩
      · cases h
      · cases h
    · cases h
  · cases h

mutual

/-- The fuel lasts as long as there are tokens: at most four calls are made for each of them. -/
theorem parseExpr_ends : ∀ (fuel level : Nat) (ts : List Token), 4 * ts.length + 2 ≤ fuel →
    parseExpr source none fuel level ts ≠ .error .exhausted
  | fuel + 1, level, ts, hfuel, h => by
    rw [parseExpr] at h
    rcases bind_eq_error.1 h with h | ⟨⟨left, rest⟩, hleft, h⟩
    · exact parseOperand_ends fuel ts (by omega) h
    · have hlength := length_of_operand hleft
      exact parseRest_ends fuel level left rest (by omega) h

theorem parseRest_ends : ∀ (fuel level : Nat) (left : Expr) (ts : List Token),
    4 * ts.length + 1 ≤ fuel → parseRest source none fuel level left ts ≠ .error .exhausted
  | fuel + 1, level, left, ts, hfuel, h => by
    rw [parseRest] at h
    split at h
    · cases h
    · next op hop =>
      split at h
      · cases h
      · have hts := congrArg List.length (eq_cons_of_look rfl (binaryOp?_ne_eof hop))
        rw [List.length_cons] at hts
        rw [advance_bind] at h
        rcases bind_eq_error.1 h with h | ⟨⟨right, rest⟩, hright, h⟩
        · exact parseExpr_ends fuel _ ts.tail (by omega) h
        · have hlength := length_of_expr hright (Nat.succ_le_succ (level_le_five op))
          exact parseRest_ends fuel level _ rest (by omega) h

theorem parseOperand_ends : ∀ (fuel : Nat) (ts : List Token), 4 * ts.length + 1 ≤ fuel →
    parseOperand source none fuel ts ≠ .error .exhausted
  | fuel + 1, ts, hfuel, h => by
    have htail {t : Token} (ht : look ts = t) (hne : t ≠ .eof) :
        ts.length = ts.tail.length + 1 := congrArg List.length (eq_cons_of_look ht hne)
    rw [parseOperand_succ] at h
    cases hlook : look ts <;> rw [hlook] at h
    case minus | bang =>
      have hts := htail hlook nofun
      rcases bind_eq_error.1 h with h | ⟨⟨operand, rest⟩, -, h⟩
      · exact parseExpr_ends fuel unaryLevel ts.tail (by omega) h
      · cases h
    case ident first =>
      have hts := htail hlook nofun
      obtain ⟨name, ts', hlength, hcall⟩ := parseName_eq_exhausted h
      exact parseCall_ends fuel _ name ts' (by omega) hcall
    case openParen =>
      have hts := htail hlook nofun
      rcases bind_eq_error.1 h with h | ⟨⟨inner, rest⟩, -, h⟩
      · exact parseExpr_ends fuel 0 ts.tail (by omega) h
      · rcases bind_eq_error.1 h with h | ⟨rest', -, h⟩
        · exact expect_ne_exhausted _ _ h
        · cases h
    all_goals cases h

theorem parseCall_ends : ∀ (fuel : Nat) (site : CallSite) (name : String) (ts : List Token),
    4 * ts.length + 1 ≤ fuel → parseCall source none fuel site name ts ≠ .error .exhausted
  | fuel + 1, site, name, ts, hfuel, h => by
    rw [parseCall] at h
    rcases bind_eq_error.1 h with h | ⟨ts', hopen, h⟩
    · exact expect_ne_exhausted _ _ h
    · rw [expect_eq_ok (by decide)] at hopen
      rw [hopen, List.length_cons] at hfuel
      split at h
      · rcases bind_eq_error.1 h with h | ⟨rest, -, h⟩
        · exact expect_ne_exhausted _ _ h
        · cases h
      · rcases bind_eq_error.1 h with h | ⟨⟨es, rest⟩, -, h⟩
        · exact parseArgs_ends fuel ts' (by omega) h
        · rcases bind_eq_error.1 h with h | ⟨rest, -, h⟩
          · exact expect_ne_exhausted _ _ h
          · cases h

theorem parseArgs_ends : ∀ (fuel : Nat) (ts : List Token), 4 * ts.length + 3 ≤ fuel →
    parseArgs source none fuel ts ≠ .error .exhausted
  | fuel + 1, ts, hfuel, h => by
    rw [parseArgs] at h
    rcases bind_eq_error.1 h with h | ⟨⟨e, rest⟩, he, h⟩
    · exact parseExpr_ends fuel 0 ts (by omega) h
    · have hlength := length_of_expr he (Nat.zero_le _)
      dsimp only at h
      split at h
      · next hcomma =>
        have hrest := congrArg List.length (eq_cons_of_look hcomma (by decide))
        rw [List.length_cons] at hrest
        rw [advance_bind] at h
        rcases bind_eq_error.1 h with h | ⟨⟨es, rest'⟩, -, h⟩
        · exact parseArgs_ends fuel rest.tail (by omega) h
        · cases h
      · cases h

end

/-! ## Whole texts -/

variable {ts : List Token} {e : Expr}

theorem parseTokens_eq (source : Nat) (ts : List Token) :
    parseTokens source ⟨ts, none⟩ =
      (parseExpr source none (4 * ts.length + 4) 0 ts >>= fun r =>
        if look r.2 = .eof then .ok r.1 else .error (.trailing (look r.2))) := by
  cases ts <;> rfl

theorem parseTokens_ne_exhausted (source : Nat) (ts : List Token) :
    parseTokens source ⟨ts, none⟩ ≠ .error .exhausted := by
  intro h
  rw [parseTokens_eq] at h
  rcases bind_eq_error.1 h with h | ⟨r, -, h⟩
  · exact parseExpr_ends _ 0 ts (by omega) h
  · split at h <;> cases h

theorem parseTokens_sound (heof : Token.eof ∉ ts) (h : parseTokens source ⟨ts, none⟩ = .ok e) :
    Derives .or ts e := by
  rw [parseTokens_eq] at h
  obtain ⟨⟨e', rest⟩, he, hlast⟩ := bind_eq_ok.1 h
  obtain ⟨used, rfl, hderives, -⟩ := parseExpr_sound _ (Nat.zero_le _) he
  split at hlast
  · next hend =>
    obtain rfl := Except.ok.inj hlast
    cases rest with
    | nil =>
      rw [List.append_nil]
      exact hderives
    | cons t rest =>
      obtain rfl : t = .eof := hend
      exact absurd (by simp) heof
  · cases hlast

theorem parseTokens_complete (source : Nat) (h : Derives .or ts e) :
    ∃ e', parseTokens source ⟨ts, none⟩ = .ok e' ∧ e'.unsited = e.unsited := by
  have hreads : Reads source .or ts e := reads_of_derives h
  have hfollows : Follows .or [] := follows_of_none rfl nofun nofun
  obtain ⟨e', he, hparse⟩ := hreads.parsed hfollows
  have hread := hparse (4 * ts.length + 4) 0 (Nat.zero_le _) (stops_of_none rfl) (by omega)
  rw [List.append_nil] at hread
  refine ⟨e', ?_, he⟩
  rw [parseTokens_eq, hread]
  rfl

/-- The parser accepts exactly what the grammar derives and builds the tree of the derivation,
up to the sites of calls. Tokens that are not derived are a fault of theirs. -/
theorem parseTokens_iff_derives (source : Nat) {ts : List Token} (heof : Token.eof ∉ ts) :
    (∀ e, (∃ e', parseTokens source ⟨ts, none⟩ = .ok e' ∧ e'.unsited = e.unsited) ↔
      Derives .or ts e) ∧
    ((∀ e, ¬ Derives .or ts e) →
      ∃ fault, fault ≠ .exhausted ∧ parseTokens source ⟨ts, none⟩ = .error fault) := by
  refine ⟨fun e => ⟨?_, parseTokens_complete source⟩, fun hnone => ?_⟩
  · rintro ⟨e', h, he⟩
    exact (parseTokens_sound heof h).of_unsited he.symm
  · cases h : parseTokens source ⟨ts, none⟩ with
    | ok e => exact absurd (parseTokens_sound heof h) (hnone e)
    | error fault =>
      refine ⟨fault, ?_, rfl⟩
      rintro rfl
      exact parseTokens_ne_exhausted source ts h

end Parser

namespace ParsingSample

/-! The condition `!a.ok && 10 - 3 - 2 < f(x, y.z)`. -/

def tokens : List Token :=
  [.bang, .ident "a", .dot, .ident "ok", .and, .int 10, .minus, .int 3, .minus, .int 2, .less,
    .ident "f", .openParen, .ident "x", .comma, .ident "y", .dot, .ident "z", .closeParen]

def tree : Expr :=
  .binary .and (.unary .not (.selector "a" "ok"))
    (.binary .less (.binary .subtract (.binary .subtract (.int 10) (.int 3)) (.int 2))
      (.call ⟨0, 0⟩ "f" [.ident "x", .selector "y" "z"]))

theorem parseTokens_iff_derives_condition : Token.eof ∉ tokens ∧ Derives .or tokens tree := by
  have heof : Token.eof ∉ tokens := by decide
  exact ⟨heof, ((Parser.parseTokens_iff_derives 1 heof).1 tree).1 ⟨_, rfl, rfl⟩⟩

end ParsingSample
end TableMill
