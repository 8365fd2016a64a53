import TableMill.Proofs.CallParts

/-!
# Probing an expression

An evaluation of an expression that succeeds foretells every evaluation of the expression
under bindings that hold values of the same kinds.
-/

namespace TableMill

namespace Expr

theorem growing : Eval.Stepwise fun _ m => Eval.Growing m where
  lift := .lift
  bind := .bind
  bound _ _ := .step fun _ _ ht => (Aggregation.bind_ok ht).2.2
  counted _ := .step fun s t ht => by
    cases ht
    exact ⟨fun _ hc => hc, fun _ hk => hk⟩
  locked _ _ := .step fun _ _ ht => (Aggregation.lock_ok ht).2.2
  taken f v separator := .step fun s t ht => by
    have hs := s.foreseen_accumulate f v separator
    rw [ht] at hs
    exact ⟨fun _ hc => hs.1.trans hc, fun _ hk => hs.2.trans hk⟩
  result := .current

/-- An evaluation unsettles nothing. -/
theorem growing_evalM {now : DateTime} {vars : Bindings} (e : Expr) :
    Eval.Growing (evalM now vars e) := stepwise_evalM growing e

theorem growing_included {now : DateTime} {vars : Bindings} {args : List Expr} (f : Aggregate)
    (n : Nat) : Eval.Growing (included now vars f args n) :=
  sequential_included growing.toSequential (fun e _ => growing_evalM e) f n

variable (now : DateTime) (vars : Bindings)

/-- Once a value was taken into the total, its kind is settled. -/
theorem kind?_of_totalCall {f : Aggregate} {args : List Expr} {s : Option Aggregation}
    {t : Aggregation} {u : Unit}
    (h : (totalCall now vars f args).run.run s = (.ok u, some t)) : t.kind?.isSome := by
  obtain ⟨v, s₁, -, h⟩ := Eval.of_bind_ok h
  obtain ⟨separator, s₂, -, h⟩ := Eval.of_bind_ok h
  obtain ⟨_, s₃, hlock, htake⟩ := Eval.of_bind_ok h
  obtain ⟨a, b, rfl, rfl, hb⟩ := Eval.of_step_ok hlock
  have hgrow : Eval.Growing (takeValue now vars f args v separator) :=
    stepwise_takeValue growing (fun e _ => growing_evalM e) f v separator
  have hbt : b.Within t := hgrow.of_run htake
  rw [hbt.kind v.kind (Aggregation.lock_ok hb).2.1]
  rfl

section Foretells

variable {now vars} {now' : DateTime} {vars' : Bindings} {args : List Expr}

/-- Whether evaluations of an expression foretell those at another time under other bindings. -/
def Foretold (now : DateTime) (vars : Bindings) (now' : DateTime) (vars' : Bindings)
    (e : Expr) : Prop :=
  ∀ c s, Foretells c s (fun v w => w.kind = v.kind) (evalM now vars e) (evalM now' vars' e)

variable (h : ∀ e ∈ args, Foretold now vars now' vars' e) {c s : Option Aggregation}
include h

theorem foretells_evalAll :
    Foretells c s (fun vs ws => ws.length = vs.length) (evalAll now vars args)
      (evalAll now' vars' args) := by
  induction args generalizing c s with
  | nil =>
    simp only [evalAll]
    exact .pure rfl
  | cons e es ih =>
    obtain ⟨he, hes⟩ := List.forall_mem_cons.1 h
    simp only [evalAll]
    refine (he c s).bind (fun v => ?_) fun v w d t _ _ hvw => ?_
    · exact Eval.Growing.bind
        (sequential_evalAll growing.toSequential fun e _ => growing_evalM e) fun vs => .pure _
    · refine (ih hes).bind (fun vs => .pure _) fun vs ws _ _ _ _ hvs => ?_
      exact .pure (congrArg Nat.succ hvs)

theorem foretells_evalNth (n : Nat) :
    Foretells c s (fun v w => w.kind = v.kind) (evalNth now vars args n)
      (evalNth now' vars' args n) := by
  induction args generalizing n with
  | nil =>
    simp only [evalNth]
    exact .pure rfl
  | cons e es ih =>
    obtain ⟨he, hes⟩ := List.forall_mem_cons.1 h
    cases n with
    | zero =>
      simp only [evalNth]
      exact he c s
    | succ n =>
      simp only [evalNth]
      exact ih hes n

theorem foretells_evalCondition (f : Aggregate) (n : Nat) :
    Foretells c s (fun _ _ => True) (evalCondition now vars f args n)
      (evalCondition now' vars' f args n) := by
  induction args generalizing n with
  | nil =>
    simp only [evalCondition]
    exact .pure trivial
  | cons e es ih =>
    obtain ⟨he, hes⟩ := List.forall_mem_cons.1 h
    cases n with
    | zero =>
      simp only [evalCondition]
      refine (he c s).bind (fun v => ?_) fun v w d t _ _ hvw => ?_
      · cases v with
        | bool b => exact .pure b
        | _ => exact .throw _
      · cases v with
        | bool b =>
          cases w <;> cases hvw
          exact .pure trivial
        | _ => exact .throw _ _
    | succ n =>
      simp only [evalCondition]
      exact ih hes n

theorem foretells_included (f : Aggregate) (n : Nat) :
    Foretells c s (fun _ _ => True) (included now vars f args n)
      (included now' vars' f args n) := by
  unfold included
  cases f.conditional with
  | false => exact .pure trivial
  | true => exact foretells_evalCondition h f n

theorem foretells_countCall (f : Aggregate) {a : Aggregation} :
    Foretells (some a) s (fun _ _ => True) (countCall now vars f args)
      (countCall now' vars' f args) := by
  refine (foretells_included h f 0).bind (stepwise_count growing f) fun b b' d t hd _ _ => ?_
  obtain ⟨d, rfl, -⟩ := ((growing_included f 0).of_run hd).some_left
  exact .step_or_skip (stepwise_count growing f b) b' fun s => ⟨rfl, rfl⟩

theorem foretells_takeValue (f : Aggregate) {a : Aggregation} (v w : Value) (separator : String) :
    Foretells (some a) s (fun _ _ => True) (takeValue now vars f args v separator)
      (takeValue now' vars' f args w separator) := by
  refine (foretells_included h f _).bind (stepwise_accumulate growing f v separator)
    fun b b' d t hd _ _ => ?_
  obtain ⟨d, rfl, -⟩ := ((growing_included f _).of_run hd).some_left
  exact .step_or_skip (stepwise_accumulate growing f v separator b) b' fun s =>
    s.foreseen_accumulate f w separator

theorem foretells_totalCall (f : Aggregate) {a : Aggregation} :
    Foretells (some a) s (fun _ _ => True) (totalCall now vars f args)
      (totalCall now' vars' f args) := by
  have htake : ∀ v separator, Eval.Growing (takeValue now vars f args v separator) :=
    stepwise_takeValue growing (fun e _ => growing_evalM e) f
  have hlock : ∀ v, Eval.Growing (Eval.step f fun s => s.lock f v) :=
    growing.locked f
  refine (foretells_evalNth h 0).bind (fun v => ?_) fun v w d t _ _ hvw => ?_
  · exact (Eval.Growing.lift _).bind fun separator => (hlock v).bind fun _ => htake v separator
  refine (Foretells.lift (R := Eq) fun separator hs => ?_).bind
    (fun separator => (hlock v).bind fun _ => htake v separator)
    fun separator separator' d t _ _ hsep => ?_
  · rw [hs]
    exact rfl
  subst hsep
  refine (Foretells.step fun a b hb s z hbz hsz => ?_).bind (fun _ => htake v separator)
    fun _ _ d t hd _ _ => ?_
  · obtain ⟨hstart, hkind, -⟩ := Aggregation.lock_ok hb
    rw [Total.start_congr hvw.symm] at hstart
    have hz : z.kind? = some w.kind := by rw [hvw]; exact hbz.kind _ hkind
    obtain ⟨t, ht, htz⟩ := Aggregation.lock_within hstart hz hsz
    rw [ht]
    exact htz
  · obtain ⟨_, b, -, rfl, -⟩ := Eval.of_step_ok hd
    exact foretells_takeValue h f v w separator

theorem foretells_tally (f : Aggregate) {a : Aggregation} :
    Foretells (some a) s (fun _ _ => True) (tally now vars f args) (tally now' vars' f args) := by
  unfold tally
  by_cases hcount : f.base = .count
  · rw [if_pos hcount, if_pos hcount]
    exact foretells_countCall h f
  · rw [if_neg hcount, if_neg hcount]
    exact foretells_totalCall h f

theorem foretells_aggregateCall (site : CallSite) (f : Aggregate) :
    Foretells c s (fun v w => w.kind = v.kind) (aggregateCall now vars site f args)
      (aggregateCall now' vars' site f args) := by
  have htally : Eval.Growing (tally now vars f args) :=
    stepwise_tally growing (fun e _ => growing_evalM e) f
  refine (Foretells.step fun a b hb s z hbz hsz => ?_).bind
    (fun _ => (Eval.Growing.lift _).bind fun _ => htally.bind fun _ => .current f)
    fun _ _ d t hd _ _ => ?_
  · have hz := hbz.site site (Aggregation.bind_ok hb).1
    obtain ⟨t, ht, htz⟩ := Aggregation.bind_within hz hsz
    rw [ht]
    exact htz
  obtain ⟨_, b, -, rfl, -⟩ := Eval.of_step_ok hd
  refine (Foretells.lift (R := fun _ _ => True) fun _ hx => ?_).bind
    (fun _ => htally.bind fun _ => .current f) fun _ _ d t hd _ _ => ?_
  · rw [hx]
    exact trivial
  rw [Eval.run_lift] at hd
  obtain ⟨-, rfl⟩ := Prod.mk.inj hd
  refine (foretells_tally h f).bind (fun _ => .current f) fun _ _ d t hd ht _ => .current ?_
  by_cases hcount : f.base = .count
  · exact Or.inl hcount
  · unfold tally at hd ht
    rw [if_neg hcount] at hd ht
    right
    constructor
    · rintro a rfl
      exact kind?_of_totalCall now vars hd
    · rintro a rfl
      exact kind?_of_totalCall now' vars' ht

end Foretells

end Expr

/-- Whether every name that the first bindings answer has a value of the same kind under the
second. -/
def Bindings.SameKinds (vars vars' : Bindings) : Prop :=
  ∀ table field v, select vars table field = .ok v →
    ∃ w, select vars' table field = .ok w ∧ w.kind = v.kind

namespace Expr

variable {now now' : DateTime} {vars vars' : Bindings}

/-- What an expression comes to under some bindings, and to which aggregates it commits an
aggregation, is the same for all bindings to values of the same kinds. -/
theorem foretold (h : Bindings.SameKinds vars vars') (e : Expr) :
    Foretold now vars now' vars' e := by
  induction e using induct with
  | int v | float v | text t =>
    intro c s
    simp only [evalM]
    exact .pure rfl
  | ident name =>
    intro c s
    simp only [evalM]
    refine .lift fun v hv => ?_
    rw [hv]
    exact rfl
  | selector table field =>
    intro c s
    simp only [evalM]
    refine .lift fun v hv => ?_
    obtain ⟨w, hw, hkind⟩ := h table field v hv
    rw [hw]
    exact hkind
  | unary op e ih =>
    intro c s
    simp only [evalM]
    refine (ih c s).bind (fun v => .lift _) fun v w _ _ _ _ hvw => .lift fun a ha => ?_
    have hkind := UnaryOp.resultKind?_of_ok ha
    exact UnaryOp.ofKind_apply (hvw ▸ hkind)
  | binary op l r hl hr =>
    intro c s
    simp only [evalM]
    refine (hl c s).bind (fun a => (growing_evalM r).bind fun b => .lift _)
      fun a a' d t _ _ ha => ?_
    refine (hr d t).bind (fun b => .lift _) fun b b' _ _ _ _ hb => .lift fun v hv => ?_
    have hkind := BinaryOp.resultKind?_of_ok hv
    exact BinaryOp.ofKind_apply (ha ▸ hb ▸ hkind)
  | call site name args ih =>
    intro c s
    cases hf : Aggregate.ofName? name with
    | some f =>
      rw [evalM_aggregate now vars hf, evalM_aggregate now' vars' hf]
      exact foretells_aggregateCall ih site f
    | none =>
      simp only [evalM, hf]
      cases Builtin.ofName? name with
      | none => exact .throw _ _
      | some f =>
        refine (foretells_evalAll ih).bind (fun vs => .lift _)
          fun vs ws _ _ _ _ hlen => .lift fun v hv => ?_
        obtain ⟨harity, hkind⟩ := f.of_apply_ok now hv
        rw [hkind]
        exact f.ofKind_apply now' fun n hn => hlen.trans (harity n hn)

end Expr
end TableMill
