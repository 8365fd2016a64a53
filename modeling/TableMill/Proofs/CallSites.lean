import TableMill.Eval.Basic
import TableMill.Proofs.ParserSoundness

/-!
# Calls and their sites

The calls in an expression, and where they stand. In a parsed expression no two calls have one
site: the places of its calls fall from left to right, an outer call before those in its arguments.
-/

namespace TableMill

structure Call where
  site : CallSite
  name : String
  args : List Expr

namespace Call

def aggregate? (c : Call) : Option Aggregate := Aggregate.ofName? c.name

def toExpr (c : Call) : Expr := .call c.site c.name c.args

end Call

namespace Expr

mutual

/-- Every call in an expression, an outer call before those in its arguments. -/
def calls : Expr → List Call
  | int _ | float _ | text _ | ident _ | selector _ _ => []
  | call site name args => ⟨site, name, args⟩ :: callsAll args
  | unary _ e => e.calls
  | binary _ l r => l.calls ++ r.calls

def callsAll : List Expr → List Call
  | [] => []
  | e :: es => e.calls ++ callsAll es

end

theorem callsAll_eq (es : List Expr) : callsAll es = es.flatMap calls := by
  induction es with
  | nil => rfl
  | cons e es ih => rw [callsAll, ih, List.flatMap_cons]

def sites (e : Expr) : List CallSite := e.calls.map Call.site

end Expr

/-- Whether call sites stand at falling places of a text, after one place and up to another. -/
structure SitedIn (source hi lo : Nat) (sites : List CallSite) : Prop where
  le : lo ≤ hi
  falling : sites.Pairwise fun p q => q.place < p.place
  within : ∀ p ∈ sites, p.source = source ∧ lo < p.place ∧ p.place ≤ hi

namespace SitedIn

variable {source hi mid lo : Nat} {p : CallSite} {sites sites' : List CallSite}

theorem nil (h : lo ≤ hi) : SitedIn source hi lo [] := ⟨h, .nil, nofun⟩

theorem append (h : SitedIn source hi mid sites) (h' : SitedIn source mid lo sites') :
    SitedIn source hi lo (sites ++ sites') := by
  refine ⟨Nat.le_trans h'.le h.le,
    List.pairwise_append.2 ⟨h.falling, h'.falling, fun p hp q hq => ?_⟩, fun p hp => ?_⟩
  · exact Nat.lt_of_le_of_lt (h'.within q hq).2.2 (h.within p hp).2.1
  · rcases List.mem_append.1 hp with hp | hp
    · obtain ⟨hsource, hlo, hhi⟩ := h.within p hp
      exact ⟨hsource, Nat.lt_of_le_of_lt h'.le hlo, hhi⟩
    · obtain ⟨hsource, hlo, hhi⟩ := h'.within p hp
      exact ⟨hsource, hlo, Nat.le_trans hhi h.le⟩

theorem after (h : SitedIn source mid lo sites) (hle : mid ≤ hi) : SitedIn source hi lo sites :=
  (nil hle).append h

theorem before (h : SitedIn source hi mid sites) (hle : lo ≤ mid) : SitedIn source hi lo sites := by
  have hall := h.append (nil hle)
  rwa [List.append_nil] at hall

theorem cons (h : SitedIn source mid lo sites) (hlt : mid < hi) :
    SitedIn source hi lo (⟨source, hi⟩ :: sites) := by
  have hhead : SitedIn source hi mid [⟨source, hi⟩] :=
    ⟨Nat.le_of_lt hlt, List.pairwise_singleton _ _, by simpa using hlt⟩
  exact hhead.append h

theorem nodup (h : SitedIn source hi lo sites) : sites.Nodup :=
  h.falling.imp fun hlt heq => absurd (heq ▸ hlt) (Nat.lt_irrefl _)

end SitedIn

namespace Parser

variable {source : Nat} {fault : Option ParseFault}

theorem length_of_advance {ts rest : List Token} (h : advance fault ts = .ok rest) :
    rest.length = ts.length - 1 := by
  unfold advance at h
  split at h
  · cases h
    rfl
  · split at h
    · cases h
    · cases h
      rfl
  · cases h
    rfl

theorem length_of_expect {want : Token} {ts rest : List Token}
    (h : expect fault want ts = .ok rest) : rest.length ≤ ts.length := by
  unfold expect at h
  split at h
  · have hlength := length_of_advance h
    omega
  · cases h

theorem length_pos_of_look {ts : List Token} {t : Token} (h : look ts = t) (ht : t ≠ .eof) :
    0 < ts.length := by
  cases ts with
  | nil => exact absurd h.symm ht
  | cons t' ts => exact Nat.succ_pos _

mutual

theorem parseExpr_sites : ∀ (fuel : Nat) {level : Nat} {ts rest : List Token} {e : Expr},
    parseExpr source fault fuel level ts = .ok (e, rest) →
    SitedIn source ts.length rest.length e.sites
  | 0, _, _, _, _, h => by simp [parseExpr] at h
  | fuel + 1, level, ts, rest, e, h => by
    rw [parseExpr] at h
    obtain ⟨⟨left, ts'⟩, hleft, hrest⟩ := bind_eq_ok.1 h
    exact parseRest_sites fuel (parseOperand_sites fuel hleft) hrest

theorem parseRest_sites : ∀ (fuel : Nat) {level hi : Nat} {left : Expr} {ts rest : List Token}
    {e : Expr}, SitedIn source hi ts.length left.sites →
    parseRest source fault fuel level left ts = .ok (e, rest) →
    SitedIn source hi rest.length e.sites
  | 0, _, _, _, _, _, _, _, h => by simp [parseRest] at h
  | fuel + 1, level, hi, left, ts, rest, e, hleft, h => by
    rw [parseRest] at h
    split at h
    · obtain ⟨rfl, rfl⟩ := Prod.mk.inj (Except.ok.inj h)
      exact hleft
    · split at h
      · obtain ⟨rfl, rfl⟩ := Prod.mk.inj (Except.ok.inj h)
        exact hleft
      · obtain ⟨ts', hadvance, h⟩ := bind_eq_ok.1 h
        obtain ⟨⟨right, ts''⟩, hright, hrest⟩ := bind_eq_ok.1 h
        have hlength := length_of_advance hadvance
        have hboth := hleft.append ((parseExpr_sites fuel hright).after (by omega))
        refine parseRest_sites fuel ?_ hrest
        simpa [Expr.sites, Expr.calls] using hboth

theorem parseOperand_sites : ∀ (fuel : Nat) {ts rest : List Token} {e : Expr},
    parseOperand source fault fuel ts = .ok (e, rest) →
    SitedIn source ts.length rest.length e.sites
  | 0, _, _, _, h => nomatch h
  | fuel + 1, ts, rest, e, h => by
    rw [parseOperand_eq] at h
    cases hlook : look ts <;> rw [hlook] at h
    case minus | bang =>
      obtain ⟨ts', hadvance, h⟩ := bind_eq_ok.1 h
      obtain ⟨⟨operand, ts''⟩, hoperand, h⟩ := bind_eq_ok.1 h
      obtain ⟨rfl, rfl⟩ := Prod.mk.inj (Except.ok.inj h)
      have hlength := length_of_advance hadvance
      exact (parseExpr_sites fuel hoperand).after (by omega)
    case int | float | text =>
      obtain ⟨ts', hadvance, h⟩ := bind_eq_ok.1 h
      obtain ⟨rfl, rfl⟩ := Prod.mk.inj (Except.ok.inj h)
      have hlength := length_of_advance hadvance
      exact .nil (by omega)
    case ident first =>
      have hpos := length_pos_of_look hlook nofun
      obtain ⟨ts', hadvance, h⟩ := bind_eq_ok.1 h
      have hlength := length_of_advance hadvance
      split at h
      · obtain ⟨sites, hsites, hcall⟩ := parseCall_sites fuel h
        rw [hsites]
        exact hcall.cons (by omega)
      · obtain ⟨ts'', hdot, h⟩ := bind_eq_ok.1 h
        obtain ⟨ts₃, hsecond, h⟩ := bind_eq_ok.1 h
        have hdotted := length_of_advance hdot
        have hnamed := length_of_advance hsecond
        split at h
        · split at h
          · obtain ⟨sites, hsites, hcall⟩ := parseCall_sites fuel h
            rw [hsites]
            exact hcall.cons (by omega)
          · cases h
          · obtain ⟨rfl, rfl⟩ := Prod.mk.inj (Except.ok.inj h)
            exact .nil (by omega)
        · cases h
      · obtain ⟨rfl, rfl⟩ := Prod.mk.inj (Except.ok.inj h)
        exact .nil (by omega)
    case openParen =>
      obtain ⟨ts', hadvance, h⟩ := bind_eq_ok.1 h
      obtain ⟨⟨inner, ts''⟩, hinner, h⟩ := bind_eq_ok.1 h
      obtain ⟨ts₃, hclose, h⟩ := bind_eq_ok.1 h
      obtain ⟨rfl, rfl⟩ := Prod.mk.inj (Except.ok.inj h)
      have hlength := length_of_advance hadvance
      have hclosed := length_of_expect hclose
      exact ((parseExpr_sites fuel hinner).before hclosed).after (by omega)
    all_goals cases h

theorem parseCall_sites : ∀ (fuel : Nat) {site : CallSite} {name : String}
    {ts rest : List Token} {e : Expr},
    parseCall source fault fuel site name ts = .ok (e, rest) →
    ∃ sites, e.sites = site :: sites ∧ SitedIn source ts.length rest.length sites
  | 0, _, _, _, _, _, h => by simp [parseCall] at h
  | fuel + 1, site, name, ts, rest, e, h => by
    rw [parseCall] at h
    obtain ⟨ts', hopen, h⟩ := bind_eq_ok.1 h
    have hopened := length_of_expect hopen
    split at h
    · obtain ⟨ts'', hclose, h⟩ := bind_eq_ok.1 h
      obtain ⟨rfl, rfl⟩ := Prod.mk.inj (Except.ok.inj h)
      have hclosed := length_of_expect hclose
      exact ⟨[], rfl, .nil (by omega)⟩
    · obtain ⟨⟨args, ts''⟩, hargs, h⟩ := bind_eq_ok.1 h
      obtain ⟨ts₃, hclose, h⟩ := bind_eq_ok.1 h
      obtain ⟨rfl, rfl⟩ := Prod.mk.inj (Except.ok.inj h)
      have hclosed := length_of_expect hclose
      exact ⟨_, rfl, ((parseArgs_sites fuel hargs).before hclosed).after hopened⟩

theorem parseArgs_sites : ∀ (fuel : Nat) {ts rest : List Token} {es : List Expr},
    parseArgs source fault fuel ts = .ok (es, rest) →
    SitedIn source ts.length rest.length ((Expr.callsAll es).map Call.site)
  | 0, _, _, _, h => by simp [parseArgs] at h
  | fuel + 1, ts, rest, es, h => by
    rw [parseArgs] at h
    obtain ⟨⟨e, ts'⟩, he, h⟩ := bind_eq_ok.1 h
    have hfirst := parseExpr_sites fuel he
    dsimp only at h
    split at h
    · obtain ⟨ts'', hadvance, h⟩ := bind_eq_ok.1 h
      obtain ⟨⟨more, ts₃⟩, hmore, h⟩ := bind_eq_ok.1 h
      obtain ⟨rfl, rfl⟩ := Prod.mk.inj (Except.ok.inj h)
      have hlength := length_of_advance hadvance
      have hall := hfirst.append ((parseArgs_sites fuel hmore).after (by omega))
      simpa [Expr.sites, Expr.callsAll] using hall
    · obtain ⟨rfl, rfl⟩ := Prod.mk.inj (Except.ok.inj h)
      simpa [Expr.sites, Expr.callsAll] using hfirst

end

end Parser

/-- In an expression that was parsed no two calls have one site, and the source of every site is the
number of the expression. -/
theorem Expr.sites_of_parseAs {source : Nat} {input : String} {e : Expr}
    (h : Expr.parseAs source input = .ok e) :
    e.sites.Nodup ∧ ∀ p ∈ e.sites, p.source = source := by
  unfold parseAs Parser.parseTokens at h
  split at h
  · cases h
  · obtain ⟨⟨e', rest⟩, he, h⟩ := bind_eq_ok.1 h
    dsimp only at h
    split at h
    · obtain rfl := Except.ok.inj h
      have hsited := Parser.parseExpr_sites _ he
      exact ⟨hsited.nodup, fun p hp => (hsited.within p hp).1⟩
    · cases h

end TableMill
