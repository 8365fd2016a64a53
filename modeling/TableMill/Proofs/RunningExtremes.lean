import TableMill.Proofs.AggregateSteps

/-!
# Running extremes

The evaluations of a minimum or a maximum over integers or decimals, and of a maximum over texts,
give the least or the greatest of the values that were included so far. Before the first one they
give the value that no other one is beyond.
-/

namespace TableMill

namespace Value

/-- The order of integers, of decimals and of texts. Values of different kinds have none. -/
def Le : Value → Value → Prop
  | int a, int b => a.toInt ≤ b.toInt
  | decimal a, decimal b => a.cents.toInt ≤ b.cents.toInt
  | text a, text b => a ≤ b
  | _, _ => False

def InDecimals : Value → Prop
  | decimal d => (decimal .least).Le (decimal d) ∧ (decimal d).Le (decimal .greatest)
  | _ => True

variable {a b c : Value}

theorem Le.trans (hab : a.Le b) (hbc : b.Le c) : a.Le c := by
  cases a <;> cases b <;> first | exact hab.elim | skip
  case int.int | decimal.decimal =>
    cases c <;> first | exact hbc.elim | exact Int.le_trans hab hbc
  case text.text =>
    cases c <;> first | exact hbc.elim | exact String.le_trans hab hbc

theorem Le.antisymm (hab : a.Le b) (hba : b.Le a) : a = b := by
  cases a <;> cases b <;> first | exact hab.elim | skip
  case int.int a b => exact congrArg int (Int64.toInt_inj.1 (Int.le_antisymm hab hba))
  case decimal.decimal a b =>
    have hcents : a.cents = b.cents := Int64.toInt_inj.1 (Int.le_antisymm hab hba)
    exact congrArg (fun w => decimal ⟨w⟩) hcents
  case text.text a b => exact congrArg text (String.le_antisymm hab hba)

theorem Le.refl (h : a.kind = .int ∨ a.kind = .decimal ∨ a.kind = .text) : a.Le a := by
  cases a <;> first | exact Int.le_refl _ | exact String.le_refl _ | simp [kind] at h

end Value

namespace Aggregate

/-- Whether a minimum or a maximum does not give up a value for another one. -/
def Keeps (f : Aggregate) (a b : Value) : Prop :=
  if f.base = .min then a.Le b else b.Le a

def preset (f : Aggregate) : Kind → Value
  | .int => .int (if f.base = .min then Int64.maxValue else Int64.minValue)
  | .decimal => .decimal (if f.base = .min then .greatest else .least)
  | _ => .text ""

def IsExtreme (f : Aggregate) (k : Kind) (values : List Value) (v : Value) : Prop :=
  if values = [] then v = f.preset k else v ∈ values ∧ ∀ x ∈ values, f.Keeps v x

/-- Whether an aggregate has true extremes of a kind: an empty text stands for no text yet, so a
minimum has none of texts. -/
def Ranks (f : Aggregate) (k : Kind) : Prop :=
  (f.base = .min ∨ f.base = .max) ∧ (k = .int ∨ k = .decimal ∨ k = .text ∧ f.base = .max)

variable {f : Aggregate} {k : Kind} {a b c : Value}

theorem Keeps.trans (hab : f.Keeps a b) (hbc : f.Keeps b c) : f.Keeps a c := by
  unfold Keeps at *
  split at hab
  · next h =>
    rw [if_pos h] at *
    exact Value.Le.trans hab hbc
  · next h =>
    rw [if_neg h] at *
    exact Value.Le.trans hbc hab

theorem Keeps.antisymm (hab : f.Keeps a b) (hba : f.Keeps b a) : a = b := by
  unfold Keeps at *
  split at hab
  · next h =>
    rw [if_pos h] at hba
    exact hab.antisymm hba
  · next h =>
    rw [if_neg h] at hba
    exact hba.antisymm hab

theorem Ranks.keeps_self (h : f.Ranks k) (ha : a.kind = k) : f.Keeps a a := by
  have hkind : a.kind = .int ∨ a.kind = .decimal ∨ a.kind = .text := by
    rw [ha]
    exact h.2.imp_right fun h => h.imp_right And.left
  have hrefl := Value.Le.refl hkind
  unfold Keeps
  split
  · exact hrefl
  · exact hrefl

/-- No value of the kind is given up for the preset one. -/
theorem Ranks.keeps_preset (h : f.Ranks k) (ha : a.kind = k) (hdecimals : a.InDecimals) :
    f.Keeps a (f.preset k) := by
  obtain ⟨hbase, rfl | rfl | ⟨rfl, hmax⟩⟩ := h
  · cases a <;> cases ha
    rename_i w
    have hl := w.le_toInt
    have hu := w.toInt_lt
    rcases hbase with hbase | hbase
    · simp only [Keeps, preset, hbase, if_true, Value.Le, Int64.toInt_maxValue]
      omega
    · simp only [Keeps, preset, hbase, reduceCtorEq, if_false, Value.Le, Int64.toInt_minValue]
      omega
  · cases a <;> cases ha
    rcases hbase with hbase | hbase
    · simpa only [Keeps, preset, hbase, if_true] using hdecimals.2
    · simpa only [Keeps, preset, hbase, reduceCtorEq, if_false] using hdecimals.1
  · cases a <;> cases ha
    rename_i s
    have hempty : "" ≤ s := String.not_lt.1 (List.not_lt_nil s.toList)
    simp only [Keeps, preset, hmax, reduceCtorEq, if_false]
    exact hempty

end Aggregate

namespace Total

variable {t : Total} {v : Value} {f : Aggregate} {k : Kind}

def pick (f : Aggregate) (t : Total) (v : Value) : Total :=
  if f.base = .min then t.least v else t.greatest v

theorem lt_cases (a b : Int64) :
    a < b ∧ a.toInt ≤ b.toInt ∨ ¬a < b ∧ b.toInt ≤ a.toInt := by
  rw [Int64.lt_iff_toInt_lt]
  omega

theorem least_cases (hk : k = .int ∨ k = .decimal) (ht : t.kind = k) (hv : v.kind = k) :
    (t.least v).toValue = t.toValue ∧ t.toValue.Le v ∨
      (t.least v).toValue = v ∧ v.Le t.toValue := by
  rcases hk with rfl | rfl
  · cases t <;> cases ht
    cases v <;> cases hv
    rename_i a b
    rcases lt_cases b a with ⟨hlt, hle⟩ | ⟨hlt, hle⟩
    · rw [least, if_pos hlt]
      exact .inr ⟨rfl, hle⟩
    · rw [least, if_neg hlt]
      exact .inl ⟨rfl, hle⟩
  · cases t <;> cases ht
    cases v <;> cases hv
    rename_i a b
    rcases lt_cases b.cents a.cents with ⟨hlt, hle⟩ | ⟨hlt, hle⟩
    · rw [least, if_pos hlt]
      exact .inr ⟨rfl, hle⟩
    · rw [least, if_neg hlt]
      exact .inl ⟨rfl, hle⟩

theorem greatest_cases (hk : k = .int ∨ k = .decimal ∨ k = .text) (ht : t.kind = k)
    (hv : v.kind = k) :
    (t.greatest v).toValue = t.toValue ∧ v.Le t.toValue ∨
      (t.greatest v).toValue = v ∧ t.toValue.Le v := by
  rcases hk with rfl | rfl | rfl
  · cases t <;> cases ht
    cases v <;> cases hv
    rename_i a b
    rcases lt_cases a b with ⟨hlt, hle⟩ | ⟨hlt, hle⟩
    · rw [greatest, if_pos hlt]
      exact .inr ⟨rfl, hle⟩
    · rw [greatest, if_neg hlt]
      exact .inl ⟨rfl, hle⟩
  · cases t <;> cases ht
    cases v <;> cases hv
    rename_i a b
    rcases lt_cases a.cents b.cents with ⟨hlt, hle⟩ | ⟨hlt, hle⟩
    · rw [greatest, if_pos hlt]
      exact .inr ⟨rfl, hle⟩
    · rw [greatest, if_neg hlt]
      exact .inl ⟨rfl, hle⟩
  · cases t <;> cases ht
    cases v <;> cases hv
    rename_i a b
    by_cases hlt : a < b
    · rw [greatest, if_pos hlt]
      exact .inr ⟨rfl, Std.le_of_lt hlt⟩
    · rw [greatest, if_neg hlt]
      exact .inl ⟨rfl, String.not_lt.1 hlt⟩

/-- What is picked is the total or the value, whichever is kept for the other. -/
theorem pick_cases (h : f.Ranks k) (ht : t.kind = k) (hv : v.kind = k) :
    (pick f t v).toValue = t.toValue ∧ f.Keeps t.toValue v ∨
      (pick f t v).toValue = v ∧ f.Keeps v t.toValue := by
  unfold pick Aggregate.Keeps
  by_cases hmin : f.base = .min
  · have hk : k = .int ∨ k = .decimal := by
      have hne : f.base ≠ .max := by simp [hmin]
      have hkinds := h.2
      tauto
    simpa only [if_pos hmin] using least_cases hk ht hv
  · have hk : k = .int ∨ k = .decimal ∨ k = .text := h.2.imp_right fun h => h.imp_right And.left
    simpa only [if_neg hmin] using greatest_cases hk ht hv

def preset (f : Aggregate) : Kind → Total
  | .int => int (if f.base = .min then Int64.maxValue else Int64.minValue)
  | .decimal => decimal (if f.base = .min then .greatest else .least)
  | _ => text ""

theorem start_preset (h : f.Ranks k) (hv : v.kind = k) : start f.base v = some (preset f k) := by
  obtain ⟨hbase, hk⟩ := h
  rcases hk with rfl | rfl | ⟨rfl, hmax⟩
  · cases v <;> cases hv
    rcases hbase with hbase | hbase <;> simp [start, preset, hbase]
  · cases v <;> cases hv
    rcases hbase with hbase | hbase <;> simp [start, preset, hbase]
  · cases v <;> cases hv
    simp [start, preset, hmax]

theorem toValue_preset (h : f.Ranks k) : (preset f k).toValue = f.preset k := by
  rcases h.2 with rfl | rfl | ⟨rfl, -⟩ <;> rfl

theorem kind_pick (f : Aggregate) (t : Total) (v : Value) : (pick f t v).kind = t.kind := by
  unfold pick
  split
  · exact kind_least t v
  · exact kind_greatest t v

/-- One more value: what is picked is the extreme one of all. -/
theorem isExtreme_pick {values : List Value} (h : f.Ranks k)
    (ht : f.IsExtreme k values t.toValue) (hkind : t.kind = k) (hv : v.kind = k)
    (hdecimals : v.InDecimals) : f.IsExtreme k (values ++ [v]) (pick f t v).toValue := by
  rw [Aggregate.IsExtreme, if_neg (by simp)]
  by_cases hnone : values = []
  · rw [Aggregate.IsExtreme, if_pos hnone] at ht
    have hpick : (pick f t v).toValue = v := by
      rcases pick_cases h hkind hv with ⟨hpick, hkeeps⟩ | ⟨hpick, -⟩
      · rw [hpick]
        exact hkeeps.antisymm (ht ▸ h.keeps_preset hv hdecimals)
      · exact hpick
    have hself := h.keeps_self hv
    simpa [hpick, hnone] using hself
  · rw [Aggregate.IsExtreme, if_neg hnone] at ht
    obtain ⟨hmem, hkept⟩ := ht
    simp only [List.mem_append, List.mem_singleton]
    rcases pick_cases h hkind hv with ⟨hpick, hkeeps⟩ | ⟨hpick, hkeeps⟩
    · rw [hpick]
      refine ⟨.inl hmem, fun x hx => ?_⟩
      rcases hx with hx | rfl
      · exact hkept x hx
      · exact hkeeps
    · rw [hpick]
      refine ⟨.inr rfl, fun x hx => ?_⟩
      rcases hx with hx | rfl
      · exact hkeeps.trans (hkept x hx)
      · exact h.keeps_self hv

end Total

def Input.taken (inputs : List Input) : List Value :=
  (inputs.filter Input.included).map Input.value

namespace Aggregation

variable {s : Aggregation} {site : CallSite} {f : Aggregate} {k : Kind} {before : List Input}
  {u : Input}

structure Extremes (s : Aggregation) (site : CallSite) (f : Aggregate) (k : Kind)
    (before : List Input) : Prop extends s.Awaits site f k where
  extreme : f.IsExtreme k (Input.taken before) (s.total.getD (Total.preset f k)).toValue

theorem extremes_fresh {site : CallSite} (h : f.Ranks k) : fresh.Extremes site f k [] := by
  refine ⟨⟨.inl rfl, fun _ ht => nomatch ht⟩, ?_⟩
  have hnone : Input.taken [] = [] := rfl
  rw [Aggregate.IsExtreme, if_pos hnone]
  exact Total.toValue_preset h

theorem current_extreme (hf : f.Ranks k) {t : Total} (ht : s.total = some t) :
    s.current f = .ok t.toValue := by
  rcases hf.1 with hbase | hbase <;> simp [current, hbase, ht]

theorem accumulate_pick (hf : f.Ranks k) {t : Total} (ht : s.total = some t) (v : Value) :
    s.accumulate f v "" = .ok { s with total := some (Total.pick f t v) } := by
  rcases hf.1 with hbase | hbase <;> simp [accumulate, Total.pick, hbase, ht]

theorem Extremes.step (h : s.Extremes site f k before) (hf : f.Ranks k) (hv : u.value.kind = k)
    (hdecimals : u.value.InDecimals) :
    ∃ out t, s.Steps site f "" u out t ∧ t.Extremes site f k (before ++ [u]) ∧
      ∃ v, out = .ok v ∧ v.kind = k ∧ f.IsExtreme k (Input.taken (before ++ [u])) v := by
  have hstart := Total.start_preset hf hv
  have hne : f.base ≠ .count := by
    rcases hf.1 with hbase | hbase <;> simp [hbase]
  have hkind : (s.total.getD (Total.preset f k)).kind = k := by
    cases htotal : s.total with
    | none => exact (Total.kind_start hstart).trans hv
    | some t => exact h.kind t htotal
  have hresult {w : Aggregation} {t : Total} (hbound : w.bound = some (site, f))
      (htotal : w.total = some t) (ht : t.kind = k)
      (hextreme : f.IsExtreme k (Input.taken (before ++ [u])) t.toValue) :
      w.Extremes site f k (before ++ [u]) ∧ ∃ v, w.current f = .ok v ∧ v.kind = k ∧
        f.IsExtreme k (Input.taken (before ++ [u])) v := by
    have hvalue := current_extreme hf htotal
    refine ⟨⟨⟨.inr hbound, fun t' ht' => ?_⟩, ?_⟩, t.toValue, hvalue, ?_, hextreme⟩
    · rw [htotal] at ht'
      exact Option.some.inj ht' ▸ ht
    · rw [htotal]
      exact hextreme
    · rw [Total.kind_toValue, ht]
  cases hu : u.included with
  | false =>
    have hsame : Input.taken (before ++ [u]) = Input.taken before := by simp [Input.taken, hu]
    exact ⟨_, _, h.skip hne hv hstart hu, hresult rfl rfl hkind (hsame ▸ h.extreme)⟩
  | true =>
    have hmore : Input.taken (before ++ [u]) = Input.taken before ++ [u.value] := by
      simp [Input.taken, hu]
    have htake := accumulate_pick (s := s.started site f (Total.preset f k)) hf rfl u.value
    have hpick := Total.isExtreme_pick hf h.extreme hkind hv hdecimals
    have hpicked := (Total.kind_pick f _ u.value).trans hkind
    exact ⟨_, _, h.take hne hv hstart hu htake, hresult rfl rfl hpicked (hmore ▸ hpick)⟩

end Aggregation

/-- The evaluations of a minimum or a maximum, one after another on one aggregation, never fail.
They give the extreme one of the values included so far, and before the first one the greatest
number for a minimum and the least one or the empty text for a maximum. -/
theorem Expr.outcomes_extreme {f : Aggregate} {args : List Expr} {site : CallSite} {k : Kind}
    {runs : List (DateTime × Bindings)} {inputs : List Input} (hf : f.Ranks k)
    (hfeeds : List.Forall₂ (f.Feeds args) runs inputs)
    (hvalues : ∀ u ∈ inputs, u.value.kind = k ∧ u.value.InDecimals) {i : Nat}
    (hi : i < inputs.length) :
    ∃ v, ((Expr.call site f.name args).outcomes (some .fresh) runs)[i]? = some (.ok v) ∧
      v.kind = k ∧ f.IsExtreme k (Input.taken (inputs.take (i + 1))) v := by
  have hsep : (if f.base = .join then f.separator args else .ok "") = .ok "" :=
    if_neg (by rcases hf.1 with hbase | hbase <;> simp [hbase])
  have hstep (before : List Input) (u : Input) (s : Aggregation) (h : before ++ [u] <+: inputs)
      (hs : s.Extremes site f k before) :=
    have hu := hvalues u (h.subset (by simp))
    hs.step hf hu.1 hu.2
  have hget : inputs[i]? = some inputs[i] := List.getElem?_eq_getElem hi
  obtain ⟨out, hout, v, rfl, hkind, hextreme⟩ :=
    outcomes_of_steps hfeeds hsep hstep (Aggregation.extremes_fresh hf) hget
  have htake : inputs.take (i + 1) = inputs.take i ++ [inputs[i]] := by
    rw [List.take_add_one, hget]
    rfl
  exact ⟨v, hout, hkind, htake ▸ hextreme⟩

namespace CheapestSample

/-! The least price of open orders. The first order is not open. -/

def least : Aggregate := ⟨.min, true⟩

def args : List Expr := [.selector "o" "price", .selector "o" "open"]

def order (price : Int64) (isOpen : Bool) : DateTime × Bindings :=
  (.unset, [("o", [("price", .int price), ("open", .bool isOpen)])])

def orders : List (DateTime × Bindings) :=
  [order 3 false, order Int64.maxValue true, order (-2) true, order 5 true]

def prices : List Input :=
  [⟨.int 3, false⟩, ⟨.int Int64.maxValue, true⟩, ⟨.int (-2), true⟩, ⟨.int 5, true⟩]

theorem feeds_order (price : Int64) (isOpen : Bool) :
    least.Feeds args (order price isOpen) ⟨.int price, isOpen⟩ where
  arity := rfl
  value _ := ⟨_, rfl, rfl⟩
  condition _ := ⟨_, rfl, rfl⟩
  plain h := nomatch h

theorem outcomes_extreme_orders :
    least.Ranks .int ∧ List.Forall₂ (least.Feeds args) orders prices ∧
      (∀ u ∈ prices, u.value.kind = .int ∧ u.value.InDecimals) ∧ 3 < prices.length ∧
      (∃ v, ((Expr.call ⟨0, 0⟩ least.name args).outcomes (some .fresh) orders)[3]? =
          some (.ok v) ∧
        v.kind = .int ∧ least.IsExtreme .int (Input.taken (prices.take 4)) v) ∧
      (Expr.call ⟨0, 0⟩ least.name args).outcomes (some .fresh) orders =
        [.ok (.int Int64.maxValue), .ok (.int Int64.maxValue), .ok (.int (-2)),
          .ok (.int (-2))] := by
  have hranks : least.Ranks .int := ⟨.inl rfl, .inl rfl⟩
  have hfeeds : List.Forall₂ (least.Feeds args) orders prices :=
    .cons (feeds_order _ _) (.cons (feeds_order _ _) (.cons (feeds_order _ _)
      (.cons (feeds_order _ _) .nil)))
  have hvalues : ∀ u ∈ prices, u.value.kind = .int ∧ u.value.InDecimals := by
    simp [prices, Value.kind, Value.InDecimals]
  exact ⟨hranks, hfeeds, hvalues, by decide,
    Expr.outcomes_extreme hranks hfeeds hvalues (by decide), by decide +kernel⟩

end CheapestSample
end TableMill
