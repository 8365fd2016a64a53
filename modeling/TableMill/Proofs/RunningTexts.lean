import Mathlib.Data.List.DropRight
import TableMill.Proofs.RunningExtremes

/-!
# Running texts

A minimum and a join of texts fold the texts that were included so far. An empty total stands for
no text yet. So an empty text makes a minimum start anew, and a join has no separators after the
empty texts that come first.
-/

namespace TableMill

def Input.texts (inputs : List Input) : List String := (Input.taken inputs).map Value.toText

@[simp] theorem Input.texts_append (before after : List Input) :
    texts (before ++ after) = texts before ++ texts after := by
  simp [texts, taken]

theorem Input.texts_skip {u : Input} (hu : u.included = false) : texts [u] = [] := by
  simp [texts, taken, hu]

theorem Input.texts_take {u : Input} (hu : u.included = true) :
    texts [u] = [u.value.toText] := by
  simp [texts, taken, hu]

def IsLeastText (texts : List String) (v : String) : Prop :=
  if texts = [] then v = "" else v ∈ texts ∧ ∀ x ∈ texts, v ≤ x

instance (texts : List String) (v : String) : Decidable (IsLeastText texts v) :=
  inferInstanceAs (Decidable (if texts = [] then v = "" else v ∈ texts ∧ ∀ x ∈ texts, v ≤ x))

/-- The least text so far after one more text. An empty one stands for none. -/
def lesserText (a v : String) : String := if a = "" ∨ v < a then v else a

def joinText (separator a v : String) : String := if a = "" then v else a ++ separator ++ v

section Texts

variable {texts : List String} {separator a v : String}

theorem empty_le (v : String) : "" ≤ v := String.not_lt.1 (List.not_lt_nil v.toList)

theorem lesserText_empty (a : String) : lesserText a "" = "" := by
  by_cases ha : a = ""
  · rw [lesserText, if_pos (.inl ha)]
  · exact if_pos (.inr (Std.lt_of_le_of_ne (empty_le a) (Ne.symm ha)))

theorem isLeastText_lesserText (ha : IsLeastText texts a) (hset : "" ∉ texts) :
    IsLeastText (texts ++ [v]) (lesserText a v) := by
  rw [IsLeastText, if_neg (by simp)]
  by_cases hnone : texts = []
  · rw [IsLeastText, if_pos hnone] at ha
    rw [lesserText, if_pos (.inl ha), hnone]
    simp
  · rw [IsLeastText, if_neg hnone] at ha
    obtain ⟨hmem, hle⟩ := ha
    have hne : a ≠ "" := fun h => hset (h ▸ hmem)
    simp only [lesserText, hne, false_or, List.mem_append, List.mem_singleton]
    split
    · next hlt =>
      refine ⟨.inr rfl, fun x hx => ?_⟩
      rcases hx with hx | rfl
      · exact String.le_trans (Std.le_of_lt hlt) (hle x hx)
      · exact String.le_refl x
    · next hlt =>
      refine ⟨.inl hmem, fun x hx => ?_⟩
      rcases hx with hx | rfl
      · exact hle x hx
      · exact String.not_lt.1 hlt

/-- The fold of a minimum is the least of the texts since the last empty one. -/
theorem isLeastText_foldl (texts : List String) :
    IsLeastText (texts.rtakeWhile (· ≠ "")) (texts.foldl lesserText "") := by
  induction texts using List.reverseRecOn with
  | nil =>
    rw [List.rtakeWhile_nil, IsLeastText, if_pos rfl, List.foldl_nil]
  | append_singleton texts v ih =>
    rw [List.foldl_append]
    by_cases hv : v = ""
    · rw [List.rtakeWhile_concat_neg _ _ _ (by simpa using hv), hv]
      exact lesserText_empty _
    · rw [List.rtakeWhile_concat_pos _ _ _ (by simpa using hv)]
      refine isLeastText_lesserText ih fun hmem => ?_
      simpa using List.mem_rtakeWhile_imp hmem

theorem rtakeWhile_eq_filter (h : texts.Pairwise fun x y => y = "" → x = "") :
    texts.rtakeWhile (· ≠ "") = texts.filter (· ≠ "") := by
  induction texts using List.reverseRecOn with
  | nil => rfl
  | append_singleton texts v ih =>
    obtain ⟨htexts, -, hlast⟩ := List.pairwise_append.1 h
    by_cases hv : v = ""
    · have hnone : ∀ x ∈ texts, x = "" := fun x hx => hlast x hx v (by simp) hv
      rw [List.rtakeWhile_concat_neg _ _ _ (by simpa using hv), List.filter_append, hv]
      simpa using hnone
    · rw [List.rtakeWhile_concat_pos _ _ _ (by simpa using hv), ih htexts, List.filter_append]
      simp [hv]

theorem foldl_joinText (ha : a ≠ "") (separator : String) (texts : List String) :
    texts.foldl (joinText separator) a = separator.intercalate (a :: texts) := by
  induction texts generalizing a with
  | nil => simp
  | cons v texts ih =>
    have hne : a ++ separator ++ v ≠ "" := by simp [ha]
    rw [List.foldl_cons, joinText, if_neg ha, ih hne, String.intercalate_cons_append,
      String.intercalate_cons_cons]

theorem foldl_joinText_empty (separator : String) (texts : List String) :
    texts.foldl (joinText separator) "" = separator.intercalate (texts.dropWhile (· = "")) := by
  induction texts with
  | nil => simp
  | cons v texts ih =>
    rw [List.foldl_cons, joinText, if_pos rfl]
    by_cases hv : v = ""
    · rw [List.dropWhile_cons_of_pos (by simpa using hv), hv]
      exact ih
    · rw [List.dropWhile_cons_of_neg (by simpa using hv)]
      exact foldl_joinText hv separator texts

theorem intercalate_empty_cons (separator : String) (h : texts ≠ []) :
    separator.intercalate ("" :: texts) = separator ++ separator.intercalate texts := by
  rw [String.intercalate_cons_of_ne_nil h, String.empty_append]

theorem length_dropWhile_le (separator : String) (texts : List String) :
    (separator.intercalate (texts.dropWhile (· = ""))).length ≤
      (separator.intercalate texts).length := by
  induction texts with
  | nil => exact Nat.le_refl _
  | cons v texts ih =>
    by_cases hv : v = ""
    · rw [List.dropWhile_cons_of_pos (by simpa using hv), hv]
      by_cases hnone : texts = []
      · simp [hnone]
      · rw [intercalate_empty_cons separator hnone, String.length_append]
        omega
    · rw [List.dropWhile_cons_of_neg (by simpa using hv)]

/-- Without a separator empty texts do not count. -/
theorem intercalate_empty_dropWhile (texts : List String) :
    "".intercalate (texts.dropWhile (· = "")) = "".intercalate texts := by
  induction texts with
  | nil => rfl
  | cons v texts ih =>
    by_cases hv : v = ""
    · rw [List.dropWhile_cons_of_pos (by simpa using hv), hv]
      by_cases hnone : texts = []
      · simp [hnone]
      · rw [ih, intercalate_empty_cons "" hnone, String.empty_append]
    · rw [List.dropWhile_cons_of_neg (by simpa using hv)]

/-- Leaving out the empty texts that come first changes a join, unless there are none, or no
separator goes with them. -/
theorem intercalate_dropWhile_eq_iff :
    separator.intercalate (texts.dropWhile (· = "")) = separator.intercalate texts ↔
      separator = "" ∨ texts.head? ≠ some "" ∨ texts = [""] := by
  cases texts with
  | nil => simp
  | cons v texts =>
    by_cases hv : v = ""
    · subst hv
      by_cases hnone : texts = []
      · simp [hnone]
      · have hle := length_dropWhile_le separator texts
        have hcases : (separator = "" ∨ ("" :: texts).head? ≠ some "" ∨ "" :: texts = [""]) ↔
            separator = "" := by simp [hnone]
        rw [hcases]
        constructor
        · intro heq
          rw [List.dropWhile_cons_of_pos (by simp), intercalate_empty_cons separator hnone] at heq
          have hlength := congrArg String.length heq
          rw [String.length_append] at hlength
          exact String.length_eq_zero_iff.1 (by omega)
        · rintro rfl
          exact intercalate_empty_dropWhile _
    · rw [List.dropWhile_cons_of_neg (by simpa using hv)]
      simp [hv]

end Texts

/-- Whether an aggregate folds texts: it starts with the empty one, takes every included one into
the total, and amounts to the total. -/
structure Aggregate.Folds (f : Aggregate) (separator : String) (merge : String → String → String) :
    Prop where
  base : f.base = .min ∨ f.base = .max ∨ f.base = .join
  accumulate (s : Aggregation) (a v : String) (h : s.total = some (.text a)) :
    s.accumulate f (.text v) separator = .ok { s with total := some (.text (merge a v)) }

theorem Aggregate.folds_least {f : Aggregate} (hbase : f.base = .min) : f.Folds "" lesserText where
  base := .inl hbase
  accumulate s a v h := by
    rw [Aggregation.accumulate, h, hbase]
    rfl

theorem Aggregate.folds_join {f : Aggregate} (hbase : f.base = .join) (separator : String) :
    f.Folds separator (joinText separator) where
  base := .inr (.inr hbase)
  accumulate s a v h := by
    rw [Aggregation.accumulate, h, hbase]
    rfl

namespace Aggregation

variable {s t : Aggregation} {site : CallSite} {f : Aggregate} {separator : String}
  {merge : String → String → String} {before : List Input} {u : Input}

structure Folded (s : Aggregation) (site : CallSite) (f : Aggregate)
    (merge : String → String → String) (before : List Input) : Prop
    extends s.Awaits site f .text where
  total : s.total.getD (.text "") = .text ((Input.texts before).foldl merge "")

theorem folded_fresh (site : CallSite) (f : Aggregate) (merge : String → String → String) :
    fresh.Folded site f merge [] :=
  ⟨⟨.inl rfl, fun _ ht => nomatch ht⟩, rfl⟩

theorem folded_of_total (hbound : t.bound = some (site, f))
    (htotal : t.total = some (.text ((Input.texts before).foldl merge ""))) :
    t.Folded site f merge before := by
  refine ⟨⟨.inr hbound, fun t' ht' => ?_⟩, ?_⟩
  · rw [htotal] at ht'
    exact Option.some.inj ht' ▸ rfl
  · rw [htotal]
    rfl

theorem current_text (hf : f.Folds separator merge) {a : String}
    (ht : t.total = some (.text a)) : t.current f = .ok (.text a) := by
  rcases hf.base with hbase | hbase | hbase <;> simp [current, hbase, ht, Total.toValue]

theorem Folded.step (h : s.Folded site f merge before) (hf : f.Folds separator merge)
    (hv : u.value.kind = .text) :
    ∃ out t, s.Steps site f separator u out t ∧ t.Folded site f merge (before ++ [u]) ∧
      out = .ok (.text ((Input.texts (before ++ [u])).foldl merge "")) := by
  obtain ⟨v, hvalue⟩ : ∃ v, u.value = .text v := by
    cases hu : u.value <;> rw [hu] at hv <;> cases hv
    exact ⟨_, rfl⟩
  have hne : f.base ≠ .count := by
    rcases hf.base with hbase | hbase | hbase <;> simp [hbase]
  have hstart : Total.start f.base u.value = some (.text "") := by
    rcases hf.base with hbase | hbase | hbase <;> rw [hbase, hvalue] <;> rfl
  have htotal : (s.started site f (.text "")).total =
      some (.text ((Input.texts before).foldl merge "")) := congrArg some h.total
  cases hu : u.included with
  | false =>
    have hsame : Input.texts (before ++ [u]) = Input.texts before := by
      rw [Input.texts_append, Input.texts_skip hu, List.append_nil]
    rw [hsame]
    refine ⟨_, _, h.skip hne hv hstart hu, ?_, current_text hf htotal⟩
    exact folded_of_total rfl (hsame ▸ htotal)
  | true =>
    have hmore : (Input.texts (before ++ [u])).foldl merge "" =
        merge ((Input.texts before).foldl merge "") v := by
      rw [Input.texts_append, Input.texts_take hu, hvalue, List.foldl_append]
      rfl
    rw [hmore]
    have htake := hf.accumulate (s.started site f (.text "")) _ v htotal
    rw [← hvalue] at htake
    refine ⟨_, _, h.take hne hv hstart hu htake, ?_, current_text hf rfl⟩
    exact folded_of_total rfl (hmore ▸ rfl)

end Aggregation

/-- The evaluations of an aggregate of texts, one after another on one aggregation, give the folds
of the texts included so far. -/
theorem Expr.outcomes_fold {f : Aggregate} {args : List Expr} (site : CallSite)
    {separator : String} {merge : String → String → String} {runs : List (DateTime × Bindings)}
    {inputs : List Input} (hf : f.Folds separator merge)
    (hsep : (if f.base = .join then f.separator args else .ok "") = .ok separator)
    (hfeeds : List.Forall₂ (f.Feeds args) runs inputs)
    (hvalues : ∀ u ∈ inputs, u.value.kind = .text) {i : Nat} (hi : i < inputs.length) :
    ((Expr.call site f.name args).outcomes (some .fresh) runs)[i]? =
      some (.ok (.text ((Input.texts (inputs.take (i + 1))).foldl merge ""))) := by
  have hstep (before : List Input) (u : Input) (s : Aggregation) (h : before ++ [u] <+: inputs)
      (hs : s.Folded site f merge before) :=
    hs.step hf (hvalues u (h.subset (by simp)))
  have hget : inputs[i]? = some inputs[i] := List.getElem?_eq_getElem hi
  obtain ⟨out, hout, rfl⟩ :=
    outcomes_of_steps hfeeds hsep hstep (Aggregation.folded_fresh site f merge) hget
  have htake : inputs.take (i + 1) = inputs.take i ++ [inputs[i]] := by
    rw [List.take_add_one, hget]
    rfl
  rw [htake]
  exact hout

/-- If the fold is the least text that is not empty after every input, then empty texts come first
only. -/
theorem Input.pairwise_of_least {inputs : List Input}
    (h : ∀ before, before <+: inputs →
      IsLeastText ((texts before).filter (· ≠ "")) ((texts before).foldl lesserText "")) :
    (texts inputs).Pairwise fun x y => y = "" → x = "" := by
  induction inputs using List.reverseRecOn with
  | nil => exact .nil
  | append_singleton inputs u ih =>
    have hbefore := ih fun before hb => h before (hb.trans (List.prefix_append _ _))
    cases hu : u.included with
    | false => rwa [texts_append, texts_skip hu, List.append_nil]
    | true =>
      rw [texts_append, texts_take hu]
      refine List.pairwise_append.2 ⟨hbefore, List.pairwise_singleton _ _, ?_⟩
      intro x hx y hy hempty
      obtain rfl := List.mem_singleton.1 hy
      -- the fold is empty now, and the least of texts that are not empty is not
      have hleast := h _ (List.prefix_refl _)
      rw [texts_append, texts_take hu, hempty, List.foldl_append, List.foldl_cons, List.foldl_nil,
        lesserText_empty, IsLeastText] at hleast
      split at hleast
      · next hnone => simpa using List.filter_eq_nil_iff.1 hnone x (by simp [hx])
      · simp at hleast

/-- The evaluations of a minimum of texts, one after another on one aggregation, never fail. They
give the least of the texts included since the last empty one. So they all give the least text that
is not empty if and only if no empty text is included after one that is not. -/
theorem Expr.outcomes_least {f : Aggregate} {args : List Expr} {site : CallSite}
    {runs : List (DateTime × Bindings)} {inputs : List Input} (hbase : f.base = .min)
    (hfeeds : List.Forall₂ (f.Feeds args) runs inputs)
    (hvalues : ∀ u ∈ inputs, u.value.kind = .text) :
    (∀ i < inputs.length, ∃ v,
      ((Expr.call site f.name args).outcomes (some .fresh) runs)[i]? = some (.ok (.text v)) ∧
        IsLeastText ((Input.texts (inputs.take (i + 1))).rtakeWhile (· ≠ "")) v) ∧
    ((∀ i < inputs.length, ∃ v,
        ((Expr.call site f.name args).outcomes (some .fresh) runs)[i]? = some (.ok (.text v)) ∧
          IsLeastText ((Input.texts (inputs.take (i + 1))).filter (· ≠ "")) v) ↔
      (Input.texts inputs).Pairwise fun x y => y = "" → x = "") := by
  have hsep : (if f.base = .join then f.separator args else .ok "") = .ok "" :=
    if_neg (by simp [hbase])
  have hfold (i : Nat) (hi : i < inputs.length) :=
    outcomes_fold site (Aggregate.folds_least hbase) hsep hfeeds hvalues hi
  have hsince (i : Nat) (hi : i < inputs.length) :=
    And.intro (hfold i hi) (isLeastText_foldl (Input.texts (inputs.take (i + 1))))
  refine ⟨fun i hi => ⟨_, hsince i hi⟩, fun h => ?_, fun h i hi => ⟨_, hfold i hi, ?_⟩⟩
  · refine Input.pairwise_of_least fun before hbefore => ?_
    by_cases hnone : before = []
    · rw [hnone]
      exact isLeastText_foldl []
    · have hlength := List.length_pos_of_ne_nil hnone
      have hle := hbefore.length_le
      obtain ⟨v, hv, hleast⟩ := h (before.length - 1) (by omega)
      rw [hfold _ (by omega)] at hv
      obtain rfl := Value.text.inj (Except.ok.inj (Option.some.inj hv))
      rwa [Nat.sub_add_cancel hlength, ← List.prefix_iff_eq_take.1 hbefore] at hleast
  · have hsub : (Input.texts (inputs.take (i + 1))).Sublist (Input.texts inputs) :=
      ((List.take_sublist _ _).filter _ |>.map _).map _
    rw [← rtakeWhile_eq_filter (h.sublist hsub)]
    exact (hsince i hi).2

namespace LabelSample

/-! The first label of open orders by their order. The second open order has no label yet. -/

def first : Aggregate := ⟨.min, true⟩

def args : List Expr := [.selector "o" "label", .selector "o" "open"]

def order (label : String) (isOpen : Bool) : DateTime × Bindings :=
  (.unset, [("o", [("label", .text label), ("open", .bool isOpen)])])

def label (label : String) (isOpen : Bool) : Input := ⟨.text label, isOpen⟩

def orders : List (DateTime × Bindings) :=
  [order "b" true, order "" false, order "" true, order "c" true]

def labels : List Input := [label "b" true, label "" false, label "" true, label "c" true]

theorem feeds_order (text : String) (isOpen : Bool) :
    first.Feeds args (order text isOpen) (label text isOpen) where
  arity := rfl
  value _ := ⟨_, rfl, rfl⟩
  condition _ := ⟨_, rfl, rfl⟩
  plain h := nomatch h

theorem outcomes_least_labels :
    first.base = .min ∧ List.Forall₂ (first.Feeds args) orders labels ∧
      (∀ u ∈ labels, u.value.kind = .text) ∧
      (∃ v, ((Expr.call ⟨0, 0⟩ first.name args).outcomes (some .fresh) orders)[3]? =
          some (.ok (.text v)) ∧
        IsLeastText ((Input.texts (labels.take 4)).rtakeWhile (· ≠ "")) v) ∧
      (¬∀ i < labels.length, ∃ v,
        ((Expr.call ⟨0, 0⟩ first.name args).outcomes (some .fresh) orders)[i]? =
            some (.ok (.text v)) ∧
          IsLeastText ((Input.texts (labels.take (i + 1))).filter (· ≠ "")) v) ∧
      (Expr.call ⟨0, 0⟩ first.name args).outcomes (some .fresh) orders =
        [.ok (.text "b"), .ok (.text "b"), .ok (.text ""), .ok (.text "c")] := by
  have hfeeds : List.Forall₂ (first.Feeds args) orders labels :=
    .cons (feeds_order _ _) (.cons (feeds_order _ _) (.cons (feeds_order _ _)
      (.cons (feeds_order _ _) .nil)))
  have hvalues : ∀ u ∈ labels, u.value.kind = .text := by simp [labels, label, Value.kind]
  obtain ⟨hsince, hall⟩ := Expr.outcomes_least (f := first) rfl hfeeds hvalues
  have hempty : ¬(Input.texts labels).Pairwise fun x y => y = "" → x = "" := by decide
  exact ⟨rfl, hfeeds, hvalues, hsince 3 (by decide), fun h => hempty (hall.1 h),
    by decide +kernel⟩

end LabelSample

/-- The evaluations of a join, one after another on one aggregation, never fail. They give the join
of the texts included so far, but for the empty ones that come first. That is the join of all of
them if and only if there is no separator, or the first text is not empty, or it is the only one. -/
theorem Expr.outcomes_joined {f : Aggregate} {args : List Expr} {site : CallSite}
    {separator : String} {runs : List (DateTime × Bindings)} {inputs : List Input}
    (hbase : f.base = .join) (hsep : f.separator args = .ok separator)
    (hfeeds : List.Forall₂ (f.Feeds args) runs inputs)
    (hvalues : ∀ u ∈ inputs, u.value.kind = .text) {i : Nat} (hi : i < inputs.length) :
    ∃ v, ((Expr.call site f.name args).outcomes (some .fresh) runs)[i]? = some (.ok (.text v)) ∧
      v = separator.intercalate ((Input.texts (inputs.take (i + 1))).dropWhile (· = "")) ∧
      (v = separator.intercalate (Input.texts (inputs.take (i + 1))) ↔
        separator = "" ∨ (Input.texts (inputs.take (i + 1))).head? ≠ some "" ∨
          Input.texts (inputs.take (i + 1)) = [""]) := by
  have hjoin : (if f.base = .join then f.separator args else .ok "") = .ok separator := by
    rw [if_pos hbase, hsep]
  have hfold := outcomes_fold site (Aggregate.folds_join hbase separator) hjoin hfeeds
    hvalues hi
  rw [foldl_joinText_empty] at hfold
  exact ⟨_, hfold, rfl, intercalate_dropWhile_eq_iff⟩

namespace RemarkSample

/-! The remarks on orders, in one text. There is none on the first order and on the third. -/

def joined : Aggregate := ⟨.join, false⟩

def args : List Expr := [.selector "o" "remark", .text ", "]

def order (remark : String) : DateTime × Bindings := (.unset, [("o", [("remark", .text remark)])])

def orders : List (DateTime × Bindings) := [order "", order "late", order "", order "paid"]

def remarks : List Input :=
  [⟨.text "", true⟩, ⟨.text "late", true⟩, ⟨.text "", true⟩, ⟨.text "paid", true⟩]

theorem feeds_order (remark : String) :
    joined.Feeds args (order remark) ⟨.text remark, true⟩ where
  arity := rfl
  value _ := ⟨_, rfl, rfl⟩
  condition h := nomatch h
  plain _ := rfl

theorem outcomes_joined_remarks :
    joined.base = .join ∧ joined.separator args = .ok ", " ∧
      List.Forall₂ (joined.Feeds args) orders remarks ∧
      (∀ u ∈ remarks, u.value.kind = .text) ∧ 3 < remarks.length ∧
      (∃ v, ((Expr.call ⟨0, 0⟩ joined.name args).outcomes (some .fresh) orders)[3]? =
          some (.ok (.text v)) ∧
        v = String.intercalate ", " ((Input.texts (remarks.take 4)).dropWhile (· = "")) ∧
        (v = String.intercalate ", " (Input.texts (remarks.take 4)) ↔
          ", " = "" ∨ (Input.texts (remarks.take 4)).head? ≠ some "" ∨
            Input.texts (remarks.take 4) = [""])) ∧
      (Expr.call ⟨0, 0⟩ joined.name args).outcomes (some .fresh) orders =
        [.ok (.text ""), .ok (.text "late"), .ok (.text "late, "), .ok (.text "late, , paid")] := by
  have hfeeds : List.Forall₂ (joined.Feeds args) orders remarks :=
    .cons (feeds_order _) (.cons (feeds_order _) (.cons (feeds_order _)
      (.cons (feeds_order _) .nil)))
  have hvalues : ∀ u ∈ remarks, u.value.kind = .text := by simp [remarks, Value.kind]
  exact ⟨rfl, rfl, hfeeds, hvalues, by decide,
    Expr.outcomes_joined (f := joined) rfl rfl hfeeds hvalues (by decide), by decide +kernel⟩

end RemarkSample
end TableMill
