import TableMill.Proofs.NumberKeys

/-!
# The order of instants in keys

A key counts the microseconds of a date-time from 0001-01-01T00:00:00Z. A leap second belongs to
the second before it, and its microseconds are counted beyond that second, over those of the next
one. Apart from that, keys of date-times come in the order of the evaluator.
-/

namespace TableMill

open Number

namespace DateTime

def yearOne : DateTime := ⟨-62135596800, 0, 0⟩

def Before (a b : DateTime) : Prop :=
  BinaryOp.less.apply (.datetime a) (.datetime b) = .ok (.bool true)

/-- The nanoseconds from a date-time to a later one. A leap second in which the first one lies
lasts a second of its own. -/
def elapsed (a b : DateTime) : Int :=
  if a.seconds = b.seconds then b.nanos - a.nanos
  else (b.seconds - a.seconds) * nanosPerSecond + b.nanos - a.nanos +
    if nanosPerSecond ≤ a.nanos then nanosPerSecond else 0

/-- Whether `a` lies in a leap second and `b` in the next second, no more microseconds after its
start. -/
def Overtakes (a b : DateTime) : Prop :=
  b.seconds = a.seconds + 1 ∧ nanosPerSecond + b.nanos / 1000 * 1000 ≤ a.nanos

variable {a b : DateTime}

theorem before_iff :
    a.Before b ↔ a.seconds < b.seconds ∨ a.seconds = b.seconds ∧ a.nanos < b.nanos := by
  simp [Before, BinaryOp.apply, BinaryOp.comparison, BinaryOp.holds, cmp, Except.map,
    Ordering.then_eq_lt, Int.compare_eq_lt, Nat.compare_eq_lt]

/-- Microseconds are counted in the order of date-times, unless the earlier one overtakes. -/
theorem micros_follow_iff (ha : a.Valid) (h : a.Before b) :
    (a.micros ≤ b.micros ∧ (1000 ≤ a.elapsed b → a.micros < b.micros)) ↔ ¬a.Overtakes b := by
  have hnanos : a.nanos < 2 * nanosPerSecond := ha.nanos_lt
  have hsecond : nanosPerSecond = 1000000000 := rfl
  simp only [micros, elapsed, Overtakes, hsecond] at *
  rcases before_iff.1 h with hless | ⟨hsame, hless⟩
  · rw [if_neg (by omega)]
    split <;> omega
  · rw [if_pos hsame]
    omega

theorem micros_neg_iff (ha : a.Valid) :
    a.micros + Component.microsBefore1970 < 0 ↔ a.Before yearOne ∧ ¬a.Overtakes yearOne := by
  have hnanos : a.nanos < 2 * nanosPerSecond := ha.nanos_lt
  have hsecond : nanosPerSecond = 1000000000 := rfl
  simp only [before_iff, micros, Overtakes, yearOne, Component.microsBefore1970, hsecond] at *
  omega

theorem micros_bounds (ha : a.Valid) :
    wordMin ≤ a.micros ∧ a.micros + Component.microsBefore1970 ≤ wordMax := by
  have hmin : -8334601228800 ≤ a.seconds := ha.seconds_ge
  have hmax : a.seconds ≤ 8210266876799 := ha.seconds_le
  have hnanos : a.nanos < 2 * 1000000000 := ha.nanos_lt
  simp only [micros, Component.microsBefore1970, wordMin, wordMax]
  omega

theorem micros_words (ha : a.Valid) :
    ∃ m n : Int64, m.toInt = a.micros ∧ n.toInt = a.micros + Component.microsBefore1970 := by
  obtain ⟨hmin, hmax⟩ := micros_bounds ha
  have hepoch : 0 ≤ Component.microsBefore1970 := by decide
  exact ⟨_, _, toInt_of_narrow? (if_pos ⟨by omega, by omega⟩),
    toInt_of_narrow? (if_pos ⟨by omega, by omega⟩)⟩

end DateTime

namespace Component

theorem encodeTime_eq_error {t : DateTime} :
    (∃ e, encodeTime t = .error e) ↔ t.micros + microsBefore1970 < 0 := by
  unfold encodeTime
  dsimp only
  split <;> simp <;> omega

/-- Chunks of date-times compare like the microseconds. -/
theorem encodeTime_order {a b : DateTime} (ha : a.Valid) (hb : b.Valid) {s t : String}
    (hs : encodeTime a = .ok s) (ht : encodeTime b = .ok t) :
    (s ≤ t ↔ a.micros ≤ b.micros) ∧ (s < t ↔ a.micros < b.micros) := by
  obtain ⟨hstart, rfl⟩ := encodeTime_eq_ok.1 hs
  obtain ⟨hstart', rfl⟩ := encodeTime_eq_ok.1 ht
  have hwidth : 0 < timeDigits := by decide
  have hmono := strictMonoOn_padded hwidth
  rw [hmono.le_iff_le (micros_lt ha) (micros_lt hb), hmono.lt_iff_lt (micros_lt ha) (micros_lt hb)]
  omega

/-- A date-time has a chunk unless it is earlier than 0001-01-01, and its microseconds are words. Of
two date-times, the earlier one has the lesser chunk, or the same one if less than a microsecond
lies between them. Only a leap second is counted over the next second: the chunks do not come in
this order if and only if the earlier date-time overtakes the later one. -/
theorem instant_chunks {c : Component} (hc : c.kind = .datetime) {a b : DateTime} (ha : a.Valid)
    (hb : b.Valid) :
    ((∃ e, c.encode (.datetime a) = .error e) ↔
      a.Before .yearOne ∧ ¬a.Overtakes .yearOne) ∧
    (∃ m n : Int64, m.toInt = a.micros ∧ n.toInt = a.micros + microsBefore1970) ∧
    ∀ s t, c.encode (.datetime a) = .ok s → c.encode (.datetime b) = .ok t → a.Before b →
      ((s ≤ t ∧ (1000 ≤ a.elapsed b → s < t)) ↔ ¬a.Overtakes b) := by
  have hencode (d : DateTime) : c.encode (.datetime d) = encodeTime d := by
    simp [encode, Value.kind, hc]
  simp only [hencode]
  refine ⟨?_, DateTime.micros_words ha, fun s t hs ht hbefore => ?_⟩
  · rw [encodeTime_eq_error, DateTime.micros_neg_iff ha]
  · obtain ⟨hle, hlt⟩ := encodeTime_order ha hb hs ht
    rw [hle, hlt]
    exact DateTime.micros_follow_iff ha hbefore

end Component

namespace LeapSample

/-- The middle of the leap second at the end of 2016, and a quarter of a second after it. -/
def leap : DateTime := ⟨1483228799, 1500000000, 0⟩
def next : DateTime := ⟨1483228800, 250000000, 3600⟩

def component : Component := .plain "at" .datetime

theorem valid_leap : leap.Valid := by
  constructor <;> decide

theorem valid_next : next.Valid := by
  constructor <;> decide

theorem instant_chunks_leap :
    leap.Valid ∧ next.Valid ∧ leap.Before next ∧
      component.encode (.datetime leap) = .ok "00063618825600500000" ∧
      component.encode (.datetime next) = .ok "00063618825600250000" ∧
      ¬("00063618825600500000" ≤ "00063618825600250000" ∧
        (1000 ≤ leap.elapsed next → "00063618825600500000" < "00063618825600250000")) := by
  have hbefore : leap.Before next := rfl
  have hovertakes : leap.Overtakes next := ⟨rfl, by decide⟩
  obtain ⟨-, -, horder⟩ := Component.instant_chunks (c := component) rfl valid_leap valid_next
  exact ⟨valid_leap, valid_next, hbefore, rfl, rfl,
    fun h => (horder _ _ rfl rfl hbefore).1 h hovertakes⟩

end LeapSample
end TableMill
