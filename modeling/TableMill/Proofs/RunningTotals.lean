import TableMill.Proofs.AggregateSteps
import TableMill.Proofs.ExactArithmetic

/-!
# Running totals

The evaluations of a sum, a mean or a count over integers or decimals give what exact arithmetic
gives of the values that were included so far. A value that would take the total out of the words
is refused, and everything goes on as if it had not been there.
-/

namespace TableMill

open Number

def InWords (n : ℤ) : Prop := wordMin ≤ n ∧ n ≤ wordMax

instance (n : ℤ) : Decidable (InWords n) := inferInstanceAs (Decidable (_ ∧ _))

/-- How many units an integer or a decimal has: ones or hundredths. -/
def Value.units : Value → ℤ
  | int n => n.toInt
  | decimal d => d.cents.toInt
  | _ => 0

def exactTotal (values : List Value) : ℤ := (values.map Value.units).sum

/-- The exact mean of values in units: zero of none, for integers cut toward zero, for decimals
rounded to a hundredth, halves away from zero. -/
def exactMean (k : Kind) (values : List Value) : ℤ :=
  if values = [] then 0
  else if k = .int then cutToZero ((exactTotal values : ℚ) / values.length)
  else halfAway ((exactTotal values : ℚ) / values.length)

namespace Input

def Overflows (u : Input) (values : List Value) : Prop :=
  u.included = true ∧ ¬InWords (exactTotal values + u.value.units)

instance (u : Input) (values : List Value) : Decidable (u.Overflows values) :=
  inferInstanceAs (Decidable (_ ∧ _))

def addTo (values : List Value) (u : Input) : List Value :=
  if u.included = true ∧ ¬u.Overflows values then values ++ [u.value] else values

/-- The values in a total after some inputs: the included ones, but for those that were refused. -/
def summed (inputs : List Input) : List Value := inputs.foldl addTo []

@[simp] theorem summed_append (before : List Input) (u : Input) :
    summed (before ++ [u]) = addTo (summed before) u := by
  rw [summed, List.foldl_append]
  rfl

theorem summed_skip {before : List Input} {u : Input}
    (h : u.included = false ∨ u.Overflows (summed before)) :
    summed (before ++ [u]) = summed before := by
  rw [summed_append, addTo, if_neg]
  rintro ⟨hincluded, hfits⟩
  rcases h with h | h
  · rw [h] at hincluded
    cases hincluded
  · exact hfits h

theorem length_summed_le (inputs : List Input) :
    (summed inputs).length ≤ inputs.countP Input.included := by
  induction inputs using List.reverseRecOn with
  | nil => exact Nat.zero_le _
  | append_singleton before u ih =>
    rw [summed_append, addTo, List.countP_append]
    split
    · next h => simpa [h.1] using ih
    · exact ih.trans (Nat.le_add_right _ _)

end Input

namespace Aggregate

/-- What a sum, a mean or a count over values of a kind comes to after some inputs, in units. -/
def resultUnits (f : Aggregate) (k : Kind) (inputs : List Input) : ℤ :=
  match f.base with
  | .count => inputs.countP Input.included
  | .avg => exactMean k (Input.summed inputs)
  | _ => exactTotal (Input.summed inputs)

/-- Whether the number of included values is a word. A sum does not count. -/
def Countable (f : Aggregate) (inputs : List Input) : Prop :=
  f.base = .sum ∨ (inputs.countP Input.included : ℤ) ≤ wordMax

/-- What an evaluation of a sum, a mean or a count gives for an input, after some others: it fails
if the value overflows, and else it gives the result over all inputs, this one included. -/
def Follows (f : Aggregate) (k : Kind) (before : List Input) (u : Input)
    (out : Except EvalError Value) : Prop :=
  if f.base ≠ .count ∧ u.Overflows (Input.summed before) then
    out = .error (.overflow (.accumulator f.name))
  else ∃ v, out = .ok v ∧ v.kind = (if f.base = .count then .int else k) ∧
    v.units = f.resultUnits k (before ++ [u])

end Aggregate

section Units

variable {k : Kind} {w : Int64} {v : Value} {n : ℤ}

theorem inWords_toInt (w : Int64) : InWords w.toInt := by
  have hl := w.le_toInt
  have hu := w.toInt_lt
  simp only [InWords, wordMin, wordMax]
  omega

theorem toInt_ofInt (h : InWords n) : (Int64.ofInt n).toInt = n := by
  simp only [InWords, wordMin, wordMax] at h
  exact Int64.toInt_ofInt_of_le (by omega) (by omega)

theorem narrow?_of_inWords (h : InWords n) : narrow? n = some (Int64.ofInt n) := if_pos h

theorem narrow?_of_not_inWords (h : ¬InWords n) : narrow? n = none := if_neg h

theorem inWords_of_between (h : InWords n) {m : ℤ} (hm : min 0 n ≤ m ∧ m ≤ max 0 n) :
    InWords m := by
  simp only [InWords, wordMin, wordMax] at *
  omega

theorem Kind.kind_ofUnits (hk : k = .int ∨ k = .decimal) (w : Int64) : (k.ofUnits w).kind = k :=
  (Kind.rational?_ofUnits hk w).2

theorem Kind.units_ofUnits (k : Kind) (w : Int64) : (k.ofUnits w).units = w.toInt := by
  cases k <;> rfl

theorem Value.exists_ofUnits (hk : k = .int ∨ k = .decimal) (hv : v.kind = k) :
    ∃ w, v = k.ofUnits w := by
  rcases hk with rfl | rfl
  · cases v <;> cases hv
    exact ⟨_, rfl⟩
  · cases v <;> cases hv
    exact ⟨_, rfl⟩

def Total.ofUnits : Kind → Int64 → Total
  | .decimal, w => decimal ⟨w⟩
  | _, w => int w

namespace Total

theorem kind_ofUnits (hk : k = .int ∨ k = .decimal) (w : Int64) : (ofUnits k w).kind = k := by
  rcases hk with rfl | rfl <;> rfl

theorem toValue_ofUnits (k : Kind) (w : Int64) : (ofUnits k w).toValue = k.ofUnits w := by
  cases k <;> rfl

theorem start_ofUnits {f : Aggregate} (hbase : f.base = .sum ∨ f.base = .avg)
    (hk : k = .int ∨ k = .decimal) (w : Int64) :
    start f.base (k.ofUnits w) = some (ofUnits k 0) := by
  rcases hbase with hbase | hbase <;> rcases hk with rfl | rfl <;> rw [hbase] <;> rfl

theorem add?_ofUnits (hk : k = .int ∨ k = .decimal) (a b : Int64) :
    (ofUnits k a).add? (k.ofUnits b) = (narrow? (a.toInt + b.toInt)).map (ofUnits k) := by
  rcases hk with rfl | rfl
  · rfl
  · show ((narrow? (a.toInt + b.toInt)).map Decimal.mk).map Total.decimal = _
    rw [Option.map_map]
    rfl

/-- The mean of a total is exact, and never out of the words. -/
theorem mean?_ofUnits (hk : k = .int ∨ k = .decimal) (a : Int64) {count : Nat}
    (hcount : (count : ℤ) ≤ wordMax) :
    ∃ w, (ofUnits k a).mean? count = some (k.ofUnits w) ∧ w.toInt =
      if count = 0 then 0
      else if k = .int then cutToZero ((a.toInt : ℚ) / count)
      else halfAway ((a.toInt : ℚ) / count) := by
  by_cases hzero : count = 0
  · refine ⟨0, ?_, by rw [if_pos hzero]; rfl⟩
    rcases hk with rfl | rfl <;> simp [mean?, ofUnits, Kind.ofUnits, hzero, Decimal.zero]
  · have hd : (1 : ℤ) ≤ count := by omega
    have hne : (count : ℤ) ≠ 0 := by omega
    simp only [if_neg hzero]
    rcases hk with rfl | rfl
    · have hcut : cutToZero ((a.toInt : ℚ) / count) = a.toInt.tdiv count := cutToZero_div hne
      have hwords : InWords (a.toInt.tdiv count) :=
        hcut ▸ inWords_of_between (inWords_toInt a) (cutToZero_div_bounds hd)
      refine ⟨Int64.ofInt (a.toInt.tdiv count), ?_, ?_⟩
      · simp [mean?, ofUnits, Kind.ofUnits, hzero]
      · rw [if_pos rfl, hcut, toInt_ofInt hwords]
    · have hround : halfAway ((a.toInt : ℚ) / count) = divRound a.toInt count := halfAway_div hne
      have hwords : InWords (divRound a.toInt count) :=
        hround ▸ inWords_of_between (inWords_toInt a) (halfAway_div_bounds hd)
      have hword : (Int64.ofNat count).toInt = count :=
        Int64.toInt_ofNat_of_lt (by simp only [wordMax] at hcount; omega)
      have hword0 : Int64.ofNat count ≠ 0 := fun h => by
        rw [h] at hword
        exact hne hword.symm
      refine ⟨Int64.ofInt (divRound a.toInt count), ?_, ?_⟩
      · simp only [mean?, ofUnits, if_neg hzero, Decimal.divCount?, if_neg hword0, hword,
          Decimal.ofCents?, narrow?_of_inWords hwords]
        rfl
      · rw [if_neg (by decide), hround, toInt_ofInt hwords]

end Total
end Units

namespace Aggregation

variable {s t : Aggregation} {site : CallSite} {f : Aggregate} {k : Kind} {before : List Input}
  {u : Input}

structure Counts (s : Aggregation) (site : CallSite) (f : Aggregate) (k : Kind)
    (before : List Input) : Prop extends s.Awaits site f k where
  count : s.count = before.countP Input.included

/-- An aggregation with the exact total of the values that were not refused. -/
structure Sums (s : Aggregation) (site : CallSite) (f : Aggregate) (k : Kind)
    (before : List Input) : Prop extends s.Awaits site f k where
  count : s.count = (Input.summed before).length
  units : ∃ w, s.total.getD (Total.ofUnits k 0) = Total.ofUnits k w ∧
    w.toInt = exactTotal (Input.summed before)

theorem counts_fresh (site : CallSite) (f : Aggregate) (k : Kind) : fresh.Counts site f k [] :=
  ⟨⟨.inl rfl, fun _ ht => nomatch ht⟩, rfl⟩

theorem sums_fresh (site : CallSite) (f : Aggregate) (k : Kind) : fresh.Sums site f k [] :=
  ⟨⟨.inl rfl, fun _ ht => nomatch ht⟩, rfl, 0, rfl, rfl⟩

theorem Counts.step (h : s.Counts site f k before) (hbase : f.base = .count) :
    ∃ out t, s.Steps site f "" u out t ∧ t.Counts site f k (before ++ [u]) ∧
      (f.Countable (before ++ [u]) → f.Follows k before u out) := by
  have hnext : s.count + u.included.toNat = (before ++ [u]).countP Input.included := by
    rw [List.countP_append, h.count]
    cases hu : u.included <;> simp [hu]
  refine ⟨_, _, .count hbase h.bind, ⟨⟨.inr rfl, h.kind⟩, hnext⟩, fun hcountable => ?_⟩
  have hcount := hcountable.resolve_left (by simp [hbase])
  have hword : (Int64.ofNat (s.count + u.included.toNat)).toInt =
      (before ++ [u]).countP Input.included := by
    rw [hnext]
    exact Int64.toInt_ofNat_of_lt (by simp only [wordMax] at hcount; omega)
  rw [Aggregate.Follows, if_neg (by simp [hbase])]
  refine ⟨.int (Int64.ofNat (s.count + u.included.toNat)), ?_, ?_, ?_⟩
  · simp [current, hbase]
  · rw [if_pos hbase]
    rfl
  · rw [Aggregate.resultUnits, hbase]
    exact hword

/-- Once a total is started, the aggregation amounts to the exact result. -/
theorem Sums.current (h : s.Sums site f k before) (hbase : f.base = .sum ∨ f.base = .avg)
    (hk : k = .int ∨ k = .decimal) {t : Total} (ht : s.total = some t)
    (hcount : f.base = .sum ∨ (s.count : ℤ) ≤ wordMax) :
    ∃ v, s.current f = .ok v ∧ v.kind = (if f.base = .count then .int else k) ∧
      v.units = f.resultUnits k before := by
  obtain ⟨w, hw, hunits⟩ := h.units
  obtain rfl : t = Total.ofUnits k w := by rwa [ht] at hw
  have hkind : (if f.base = .count then .int else k) = k := by
    rcases hbase with hbase | hbase <;> simp [hbase]
  rw [hkind]
  cases hbase with
  | inl hbase =>
    refine ⟨k.ofUnits w, ?_, Kind.kind_ofUnits hk w, ?_⟩
    · simp [Aggregation.current, hbase, ht, Total.toValue_ofUnits]
    · rw [Kind.units_ofUnits, hunits, Aggregate.resultUnits, hbase]
  | inr hbase =>
    have hfits : (s.count : ℤ) ≤ wordMax := hcount.resolve_left (by simp [hbase])
    obtain ⟨m, hmean, hm⟩ := Total.mean?_ofUnits hk w hfits
    refine ⟨k.ofUnits m, ?_, Kind.kind_ofUnits hk m, ?_⟩
    · simp [Aggregation.current, hbase, ht, hmean]
    · rw [Kind.units_ofUnits, hm, Aggregate.resultUnits, hbase, hunits, h.count]
      simp [exactMean]

theorem Sums.leave (h : s.Sums site f k before) (hk : k = .int ∨ k = .decimal)
    (hu : u.included = false ∨ u.Overflows (Input.summed before)) :
    (s.started site f (Total.ofUnits k 0)).Sums site f k (before ++ [u]) := by
  obtain ⟨w, hw, hunits⟩ := h.units
  have hsame := Input.summed_skip hu
  refine ⟨⟨.inr rfl, ?_⟩, ?_, w, hw, ?_⟩
  · intro t ht
    obtain rfl : Total.ofUnits k w = t := by simpa [started, hw] using ht
    exact Total.kind_ofUnits hk w
  · rw [hsame]
    exact h.count
  · rw [hsame, hunits]

theorem Sums.add (h : s.Sums site f k before) (hbase : f.base = .sum ∨ f.base = .avg)
    (hk : k = .int ∨ k = .decimal) (hv : u.value.kind = k) (hu : u.included = true)
    (hfits : InWords (exactTotal (Input.summed before) + u.value.units)) :
    ∃ t, (s.started site f (Total.ofUnits k 0)).accumulate f u.value "" = .ok t ∧
      t.total.isSome ∧ t.Sums site f k (before ++ [u]) := by
  obtain ⟨w, hw, hunits⟩ := h.units
  obtain ⟨x, hx⟩ := Value.exists_ofUnits hk hv
  rw [hx, Kind.units_ofUnits, ← hunits] at hfits
  have hsum : Input.summed (before ++ [u]) = Input.summed before ++ [u.value] := by
    rw [Input.summed_append, Input.addTo, if_pos]
    refine ⟨hu, fun hover => hover.2 ?_⟩
    rwa [hx, Kind.units_ofUnits, ← hunits]
  refine ⟨⟨some (site, f), some (Total.ofUnits k (Int64.ofInt (w.toInt + x.toInt))),
    s.count + 1⟩, ?_, rfl, ⟨.inr rfl, ?_⟩, ?_, _, rfl, ?_⟩
  · have hadd := Total.add?_ofUnits hk w x
    rw [narrow?_of_inWords hfits] at hadd
    rcases hbase with hbase | hbase <;> simp [accumulate, started, hw, hx, hbase, hadd]
  · intro t ht
    obtain rfl := Option.some.inj ht
    exact Total.kind_ofUnits hk _
  · rw [hsum, List.length_append, ← h.count]
    rfl
  · rw [hsum, toInt_ofInt hfits, hx]
    simp [exactTotal, hunits, Kind.units_ofUnits]

/-- A value that does not fit is refused. -/
theorem Sums.refuse (h : s.Sums site f k before) (hbase : f.base = .sum ∨ f.base = .avg)
    (hk : k = .int ∨ k = .decimal) (hv : u.value.kind = k)
    (hfits : ¬InWords (exactTotal (Input.summed before) + u.value.units)) :
    (s.started site f (Total.ofUnits k 0)).accumulate f u.value "" =
      .error (.overflow (.accumulator f.name)) := by
  obtain ⟨w, hw, hunits⟩ := h.units
  obtain ⟨x, hx⟩ := Value.exists_ofUnits hk hv
  rw [hx, Kind.units_ofUnits, ← hunits] at hfits
  have hadd := Total.add?_ofUnits hk w x
  rw [narrow?_of_not_inWords hfits] at hadd
  rcases hbase with hbase | hbase <;> simp [accumulate, started, hw, hx, hbase, hadd]

theorem Sums.step (h : s.Sums site f k before) (hbase : f.base = .sum ∨ f.base = .avg)
    (hk : k = .int ∨ k = .decimal) (hv : u.value.kind = k) :
    ∃ out t, s.Steps site f "" u out t ∧ t.Sums site f k (before ++ [u]) ∧
      (f.Countable (before ++ [u]) → f.Follows k before u out) := by
  obtain ⟨x, hx⟩ := Value.exists_ofUnits hk hv
  have hstart : Total.start f.base u.value = some (Total.ofUnits k 0) :=
    hx ▸ Total.start_ofUnits hbase hk x
  have hne : f.base ≠ .count := by
    rcases hbase with hbase | hbase <;> simp [hbase]
  have hresult {t : Aggregation} (ht : t.Sums site f k (before ++ [u]))
      (hsome : t.total.isSome) (hfollows : ¬u.Overflows (Input.summed before))
      (hcount : f.Countable (before ++ [u])) : f.Follows k before u (t.current f) := by
    obtain ⟨total, htotal⟩ := Option.isSome_iff_exists.1 hsome
    have hfits : f.base = .sum ∨ (t.count : ℤ) ≤ wordMax := by
      have hle := Input.length_summed_le (before ++ [u])
      refine hcount.imp_right fun hcount => ?_
      rw [ht.count]
      omega
    rw [Aggregate.Follows, if_neg fun h => hfollows h.2]
    exact ht.current hbase hk htotal hfits
  by_cases hu : u.included = true
  · by_cases hfits : InWords (exactTotal (Input.summed before) + u.value.units)
    · obtain ⟨t, htake, hsome, ht⟩ := h.add hbase hk hv hu hfits
      exact ⟨_, t, h.take hne hv hstart hu htake, ht, hresult ht hsome fun hover => hover.2 hfits⟩
    · have hover : u.Overflows (Input.summed before) := ⟨hu, hfits⟩
      refine ⟨_, _, h.fail hne hv hstart hu (h.refuse hbase hk hv hfits), h.leave hk (.inr hover),
        fun _ => ?_⟩
      rw [Aggregate.Follows, if_pos ⟨hne, hover⟩]
  · have hu' : u.included = false := by simpa using hu
    have ht := h.leave hk (u := u) (.inl hu')
    exact ⟨_, _, h.skip hne hv hstart hu', ht, hresult ht rfl fun hover => hu hover.1⟩

end Aggregation

/-- The evaluations of a sum, a mean or a count, one after another on one aggregation, give the
exact results of the inputs so far. They fail where the exact total would overflow, and there
only. -/
theorem Expr.outcomes_follow {f : Aggregate} {args : List Expr} {site : CallSite} {k : Kind}
    {runs : List (DateTime × Bindings)} {inputs : List Input}
    (hbase : f.base = .sum ∨ f.base = .avg ∨ f.base = .count) (hk : k = .int ∨ k = .decimal)
    (hfeeds : List.Forall₂ (f.Feeds args) runs inputs)
    (hvalues : f.base ≠ .count → ∀ u ∈ inputs, u.value.kind = k) {i : Nat} {u : Input}
    (hu : inputs[i]? = some u) (hcount : f.Countable (inputs.take (i + 1))) :
    ∃ out, ((Expr.call site f.name args).outcomes (some .fresh) runs)[i]? = some out ∧
      f.Follows k (inputs.take i) u out := by
  have hsep : (if f.base = .join then f.separator args else .ok "") = .ok "" :=
    if_neg (by rcases hbase with hbase | hbase | hbase <;> simp [hbase])
  have hrun : ∃ out, ((Expr.call site f.name args).outcomes (some .fresh) runs)[i]? = some out ∧
      (f.Countable (inputs.take i ++ [u]) → f.Follows k (inputs.take i) u out) := by
    by_cases hcounts : f.base = .count
    · have hstep (before : List Input) (u : Input) (s : Aggregation) (_ : before ++ [u] <+: inputs)
          (hs : s.Counts site f k before) := hs.step (u := u) hcounts
      exact outcomes_of_steps hfeeds hsep hstep (Aggregation.counts_fresh site f k) hu
    · have hsums : f.base = .sum ∨ f.base = .avg := by tauto
      have hstep (before : List Input) (u : Input) (s : Aggregation) (h : before ++ [u] <+: inputs)
          (hs : s.Sums site f k before) :=
        hs.step hsums hk (hvalues hcounts u (h.subset (by simp)))
      exact outcomes_of_steps hfeeds hsep hstep (Aggregation.sums_fresh site f k) hu
  obtain ⟨out, hout, hfollows⟩ := hrun
  have htake : inputs.take (i + 1) = inputs.take i ++ [u] := by
    rw [List.take_add_one, hu]
    rfl
  exact ⟨out, hout, hfollows (htake ▸ hcount)⟩

namespace MeanSample

/-! The mean of the prices of open orders. One price is left out, and one is too high. -/

def mean : Aggregate := ⟨.avg, true⟩

def args : List Expr := [.selector "o" "price", .selector "o" "open"]

def order (price : Int64) (isOpen : Bool) : DateTime × Bindings :=
  (.unset, [("o", [("price", .decimal ⟨price⟩), ("open", .bool isOpen)])])

def price (cents : Int64) (isOpen : Bool) : Input := ⟨.decimal ⟨cents⟩, isOpen⟩

def orders : List (DateTime × Bindings) :=
  [order (-1) true, order 500 false, order Int64.minValue true, order (-2) true]

def prices : List Input :=
  [price (-1) true, price 500 false, price Int64.minValue true, price (-2) true]

theorem feeds_order (cents : Int64) (isOpen : Bool) :
    mean.Feeds args (order cents isOpen) (price cents isOpen) where
  arity := rfl
  value _ := ⟨_, rfl, rfl⟩
  condition _ := ⟨_, rfl, rfl⟩
  plain h := nomatch h

theorem outcomes_follow_orders :
    List.Forall₂ (mean.Feeds args) orders prices ∧ (∀ u ∈ prices, u.value.kind = .decimal) ∧
      prices[3]? = some (price (-2) true) ∧ mean.Countable (prices.take 4) ∧
      (∃ out, ((Expr.call ⟨0, 0⟩ mean.name args).outcomes (some .fresh) orders)[3]? = some out ∧
        mean.Follows .decimal (prices.take 3) (price (-2) true) out) ∧
      (Expr.call ⟨0, 0⟩ mean.name args).outcomes (some .fresh) orders =
        [.ok (.decimal ⟨-1⟩), .ok (.decimal ⟨-1⟩), .error (.overflow (.accumulator "avg_if")),
          .ok (.decimal ⟨-2⟩)] := by
  have hfeeds : List.Forall₂ (mean.Feeds args) orders prices :=
    .cons (feeds_order _ _) (.cons (feeds_order _ _) (.cons (feeds_order _ _)
      (.cons (feeds_order _ _) .nil)))
  have hkinds : ∀ u ∈ prices, u.value.kind = .decimal := by simp [prices, price, Value.kind]
  have hcount : mean.Countable (prices.take 4) := .inr (by decide)
  exact ⟨hfeeds, hkinds, rfl, hcount,
    Expr.outcomes_follow (.inr (.inl rfl)) (.inr rfl) hfeeds (fun _ => hkinds) rfl hcount,
    by decide +kernel⟩

end MeanSample
end TableMill
