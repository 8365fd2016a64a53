import TableMill.Proofs.FloatWidth
import TableMill.Proofs.Outcome

/-!
# The width of chunks

Every ascending chunk of a component has the component's width, counted in letters,
whatever the value.
-/

namespace TableMill

def Value.Valid : Value → Prop
  | .datetime t => t.Valid
  | _ => True

/-- Every value of a record can occur. -/
def Record.Valid (row : Record) : Prop :=
  ∀ e ∈ row, e.2.Valid

theorem Record.Valid.get? {row : Record} (h : row.Valid) {name : String} {v : Value}
    (hv : Assoc.get? row name = some v) : v.Valid := by
  induction row with
  | nil => cases hv
  | cons e row ih =>
    obtain ⟨key, w⟩ := e
    rw [Assoc.get?_cons] at hv
    split at hv
    · cases hv
      exact h _ List.mem_cons_self
    · exact ih (fun e he => h e (List.mem_cons_of_mem _ he)) hv

namespace Component

theorem length_padded {width n : Nat} (hwidth : 0 < width) (h : n < 10 ^ width) :
    (Number.padded width n).length = width := by
  have hdigits := (Nat.length_toDigits_le_iff (by decide) hwidth).2 h
  simp only [Number.padded, String.length_ofList, List.length_append, List.length_replicate]
  omega

theorem length_zeroFilled {width : Nat} {s : String} (h : s.length ≤ width) :
    (zeroFilled width s).length = width := by
  simp only [zeroFilled, String.length_ofList, List.length_append, List.length_replicate,
    String.length_toList]
  omega

theorem length_signed (negative : Bool) (digits : String) :
    (signed negative digits).length = digits.length + 1 := by
  cases negative
  · simp only [signed, Bool.false_eq_true, if_false, String.length_ofList, List.length_cons,
      String.length_toList]
  · simp only [signed, if_true, String.length_ofList, List.length_cons, complementDigits,
      List.length_map, String.length_toList]

theorem length_fixedMagnitude (d : Decimal) :
    (d.fixedMagnitude numberPlaces).length ≤ numberWidth := by
  have hmin := d.cents.le_toInt
  have hmax := d.cents.toInt_lt
  have hwhole : (Nat.toDigits 10 (d.cents.toInt.natAbs / 100)).length ≤ 17 :=
    (Nat.length_toDigits_le_iff (by decide) (by decide)).2 (by omega)
  have hcents : (Number.padded 2 (d.cents.toInt.natAbs % 100)).length = 2 :=
    length_padded (by decide) (by omega)
  simp only [Decimal.fixedMagnitude, String.length_append, hcents, String.length_ofList,
    List.length_replicate, Nat.toString_eq_ofList_toDigits, numberPlaces, numberWidth]
  change _ + 1 + 2 + 30 ≤ 66
  omega

theorem encodeInt_eq_ok {v : Int64} {s : String} :
    encodeInt v = .ok s ↔ v.toInt.natAbs < intLimit ∧
      signed (v.toInt < 0) (Number.padded intDigits v.toInt.natAbs) = s := by
  simp only [encodeInt, guarded_eq_ok, Nat.not_le, Except.ok.injEq, Int64.lt_iff_toInt_lt,
    Int64.toInt_zero]

theorem length_encodeInt {v : Int64} {s : String} (h : encodeInt v = .ok s) :
    s.length = intDigits + 1 := by
  obtain ⟨hsmall, rfl⟩ := encodeInt_eq_ok.1 h
  rw [length_signed, length_padded (by decide) hsmall]

theorem length_encodeFloat {x : Float} {s : String} (h : encodeFloat x = .ok s) :
    s.length = numberWidth + 1 := by
  obtain ⟨-, hsmall, hs⟩ := by simpa only [encodeFloat, guarded_eq_ok] using h
  cases hs
  rw [length_signed, length_zeroFilled (Number.length_fixedText hsmall)]

theorem length_encodeDecimal (d : Decimal) : (encodeDecimal d).length = numberWidth + 1 := by
  rw [encodeDecimal, length_signed, length_zeroFilled (length_fixedMagnitude d)]

theorem length_encodeText (ignoreCase : Bool) (width : Nat) (s : String) :
    (encodeText ignoreCase width s).length = width := by
  simp only [encodeText, String.length_ofList, List.length_append, List.length_replicate,
    List.length_take]
  omega

theorem micros_lt {t : DateTime} (ht : t.Valid) :
    (t.micros + microsBefore1970).toNat < 10 ^ timeDigits := by
  have hseconds : t.seconds ≤ 8210266876799 := ht.seconds_le
  have hnanos : t.nanos < 2 * 1000000000 := ht.nanos_lt
  simp only [DateTime.micros, microsBefore1970, timeDigits]
  omega

theorem encodeTime_eq_ok {t : DateTime} {s : String} :
    encodeTime t = .ok s ↔ 0 ≤ t.micros + microsBefore1970 ∧
      Number.padded timeDigits (t.micros + microsBefore1970).toNat = s := by
  simp only [encodeTime, guarded_eq_ok, Int.not_lt, Except.ok.injEq]

theorem length_encodeTime {t : DateTime} {s : String} (ht : t.Valid) (h : encodeTime t = .ok s) :
    s.length = timeDigits := by
  obtain ⟨-, rfl⟩ := encodeTime_eq_ok.1 h
  exact length_padded (by decide) (micros_lt ht)

theorem length_encode {c : Component} {v : Value} {s : String} (hv : v.Valid)
    (h : c.encode v = .ok s) : s.length = c.width := by
  unfold encode at h
  split at h
  · cases h
  · rename_i hkind
    have hc : c.kind = v.kind := (Decidable.not_not.1 hkind).symm
    unfold width
    rw [hc]
    cases v with
    | int v => exact length_encodeInt h
    | float x => exact length_encodeFloat h
    | decimal d =>
      cases h
      exact length_encodeDecimal d
    | text t =>
      cases h
      exact length_encodeText _ _ t
    | bool b =>
      cases h
      cases b <;> rfl
    | datetime t => exact length_encodeTime hv h

end Component
end TableMill
