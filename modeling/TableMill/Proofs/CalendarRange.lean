import Mathlib.Order.Monotone.Basic
import Mathlib.Tactic.Linarith
import TableMill.Value.DateTime

/-!
# The days of the calendar

The days of a year stand between its first day and that of the next year, however they are given.
So a date and a time of day in UTC are an instant of the calendar.
-/

namespace TableMill
namespace Date

/-! ## Years -/

theorem daysBeforeYear_succ (year : Int) :
    daysBeforeYear (year + 1) = daysBeforeYear year + daysInYear year := by
  unfold daysBeforeYear daysInYear isLeap
  by_cases h4 : year % 4 = 0 <;> by_cases h100 : year % 100 = 0 <;>
    by_cases h400 : year % 400 = 0 <;> simp [h4, h100, h400] <;> omega

theorem daysBeforeYear_le {first last : Int} (h : first ≤ last) :
    daysBeforeYear first ≤ daysBeforeYear last := by
  have hmono : Monotone daysBeforeYear := monotone_int_of_le_succ fun year => by
    rw [daysBeforeYear_succ]
    omega
  exact hmono h

/-! ## Months -/

theorem daysBeforeMonth_succ (year : Int) (month : Nat) :
    daysBeforeMonth year (month + 2) =
      daysBeforeMonth year (month + 1) + daysInMonth year (month + 1) := by
  unfold daysBeforeMonth
  rw [Nat.add_sub_cancel, show month + 2 - 1 = month + 1 from rfl, List.range_succ,
    List.foldl_append]
  rfl

theorem daysBeforeMonth_all (year : Int) : daysBeforeMonth year 13 = daysInYear year := by
  unfold daysInYear
  cases h : isLeap year <;> simp [daysBeforeMonth, daysInMonth, List.range_succ, h]

theorem daysBeforeMonth_le (year : Int) {month : Nat} (hmonth : 1 ≤ month) (hlast : month ≤ 12) :
    daysBeforeMonth year month + daysInMonth year month ≤ daysInYear year := by
  obtain ⟨m, rfl⟩ := Nat.exists_eq_add_of_le' hmonth
  rw [← daysBeforeMonth_succ, ← daysBeforeMonth_all]
  have hmono : Monotone fun m => daysBeforeMonth year (m + 1) := monotone_nat_of_le_succ fun m => by
    rw [daysBeforeMonth_succ]
    omega
  exact hmono (show m + 1 ≤ 12 by omega)

theorem ordinal_ofOrdinalFrom (year : Int) (more month left : Nat) :
    (ofOrdinalFrom year more (month + 1) left).ordinal = daysBeforeMonth year (month + 1) + left := by
  induction more generalizing month left with
  | zero => rfl
  | succ more ih =>
    rw [ofOrdinalFrom]
    split
    · rfl
    · rw [ih, daysBeforeMonth_succ]
      omega

theorem year_ofOrdinalFrom (year : Int) (more month left : Nat) :
    (ofOrdinalFrom year more month left).year = year := by
  induction more generalizing month left with
  | zero => rfl
  | succ more ih =>
    rw [ofOrdinalFrom]
    split
    · rfl
    · exact ih _ _

/-! ## Dates -/

structure InCalendar (d : Date) : Prop where
  year_ge : yearMin ≤ d.year
  year_le : d.year ≤ yearMax
  ordinal_pos : 1 ≤ d.ordinal
  ordinal_le : d.ordinal ≤ daysInYear d.year

variable {d : Date} {year : Int}

theorem inCalendar_of? {month day : Nat} (h : of? year month day = some d) : d.InCalendar := by
  unfold of? at h
  split at h
  · next hrange =>
    obtain ⟨hmin, hmax, hmonth, hlast, hday, hdays⟩ := hrange
    obtain rfl := Option.some.inj h
    have hfits := daysBeforeMonth_le year hmonth hlast
    refine ⟨hmin, hmax, ?_, ?_⟩
    · show 1 ≤ daysBeforeMonth year month + day
      omega
    · show daysBeforeMonth year month + day ≤ daysInYear year
      omega
  · cases h

theorem inCalendar_ofOrdinal? {n : Nat} (h : ofOrdinal? year n = some d) : d.InCalendar := by
  unfold ofOrdinal? at h
  split at h
  · next hrange =>
    have hd := Option.some.inj h
    have hyear : d.year = year := hd ▸ year_ofOrdinalFrom year 11 1 n
    have hordinal : d.ordinal = n :=
      hd ▸ (ordinal_ofOrdinalFrom year 11 0 n).trans (Nat.zero_add n)
    rw [← hyear, ← hordinal] at hrange
    exact ⟨hrange.1, hrange.2.1, hrange.2.2.1, hrange.2.2.2⟩
  · cases h

theorem InCalendar.dayNumber_bounds (h : d.InCalendar) :
    daysBeforeYear yearMin ≤ d.dayNumber ∧ d.dayNumber < daysBeforeYear (yearMax + 1) := by
  have hfirst := daysBeforeYear_le h.year_ge
  have hlast := daysBeforeYear_le (Int.add_le_add_right h.year_le 1)
  rw [daysBeforeYear_succ] at hlast
  have hpos := h.ordinal_pos
  have hle := h.ordinal_le
  unfold dayNumber
  omega

end Date

def Date.utc (d : Date) (second nanos : Nat) : DateTime := ⟨d.dayNumber * 86400 + second, nanos, 0⟩

theorem DateTime.ofLocal?_utc {d : Date} (h : d.InCalendar) {second : Nat} (hsecond : second < 86400)
    (nanos : Nat) : ofLocal? d.dayNumber second nanos 0 = some (d.utc second nanos) := by
  obtain ⟨hfirst, hlast⟩ := h.dayNumber_bounds
  have hmin : secondsMin = Date.daysBeforeYear Date.yearMin * 86400 := by decide
  have hmax : secondsMax + 1 = Date.daysBeforeYear (Date.yearMax + 1) * 86400 := by decide
  have hrange : secondsMin ≤ d.dayNumber * 86400 + second - 0 ∧
      d.dayNumber * 86400 + second - 0 ≤ secondsMax := by
    omega
  rw [ofLocal?, if_pos hrange, Int.sub_zero]
  rfl

end TableMill
