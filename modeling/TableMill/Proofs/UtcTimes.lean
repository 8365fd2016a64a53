import TableMill.Proofs.CalendarRange
import TableMill.Proofs.LayoutOffsets

/-!
# Date-times without an offset

A layout without an offset gives a date-time in UTC: the date and the time of day that are read, or
the beginning of the day if there is no time of day. A layout that spells out the code of an offset
without having one gives nothing at all.
-/

namespace TableMill
namespace Layout

namespace Parts

variable {p q : Parts} {n : Int}

structure OnClock (p : Parts) : Prop where
  half : ∀ n ∈ p.half, 0 ≤ n ∧ n ≤ 1
  hourOfHalf : ∀ n ∈ p.hourOfHalf, 0 ≤ n ∧ n ≤ 11
  minute : ∀ n ∈ p.minute, 0 ≤ n ∧ n ≤ 59
  second : ∀ n ∈ p.second, 0 ≤ n ∧ n ≤ 60

theorem onClock_empty : OnClock {} := by
  constructor <;> simp

/-- What is read may add to the date and the time of day, but gives no offset. -/
structure Keeps (p q : Parts) : Prop where
  onClock : p.OnClock → q.OnClock
  offset_eq : q.offset = p.offset

theorem Keeps.refl (p : Parts) : Keeps p p := ⟨id, rfl⟩

theorem Keeps.trans {r : Parts} (h : Keeps p q) (h' : Keeps q r) : Keeps p r :=
  ⟨h'.onClock ∘ h.onClock, h'.offset_eq.trans h.offset_eq⟩

/-! ## Setting a part -/

theorem of_agree {old : Option Int} {make : Option Int → Parts}
    (h : ((agree old n).bind fun v => some (make v)) = some q) : q = make (some n) := by
  obtain ⟨v, hv, hq⟩ := Option.bind_eq_some_iff.1 h
  unfold agree at hv
  split at hv
  · exact Option.some.inj hv ▸ (Option.some.inj hq).symm
  · split at hv
    · next heq => exact heq ▸ Option.some.inj hv ▸ (Option.some.inj hq).symm
    · cases hv

theorem of_within {lo hi : Int} {set : Int → Option Parts}
    (h : (within lo hi n).bind set = some q) : (lo ≤ n ∧ n ≤ hi) ∧ set n = some q := by
  obtain ⟨m, hm, hq⟩ := Option.bind_eq_some_iff.1 h
  unfold within at hm
  split at hm
  · next hrange => exact ⟨hrange, Option.some.inj hm ▸ hq⟩
  · cases hm

theorem keeps_of_agree {old : Option Int} {make : Option Int → Parts}
    (h : ((agree old n).bind fun v => some (make v)) = some q)
    (hsame : ∀ v, (make v).half = p.half ∧ (make v).hourOfHalf = p.hourOfHalf ∧
      (make v).minute = p.minute ∧ (make v).second = p.second ∧ (make v).offset = p.offset) :
    Keeps p q := by
  obtain rfl := of_agree h
  obtain ⟨hhalf, hhour, hminute, hsecond, hoffset⟩ := hsame (some n)
  exact ⟨fun hp => ⟨hhalf ▸ hp.half, hhour ▸ hp.hourOfHalf, hminute ▸ hp.minute,
    hsecond ▸ hp.second⟩, hoffset⟩

theorem keeps_setHalf (hn : 0 ≤ n ∧ n ≤ 1) (h : p.setHalf n = some q) : Keeps p q := by
  obtain rfl := of_agree h
  exact ⟨fun hp => ⟨by simpa using hn, hp.hourOfHalf, hp.minute, hp.second⟩, rfl⟩

theorem keeps_setHourOfHalf (hn : 0 ≤ n ∧ n ≤ 11) (h : p.setHourOfHalf n = some q) :
    Keeps p q := by
  obtain rfl := of_agree h
  exact ⟨fun hp => ⟨hp.half, by simpa using hn, hp.minute, hp.second⟩, rfl⟩

theorem keeps_setHour (h : p.setHour n = some q) : Keeps p q := by
  obtain ⟨hrange, h⟩ := of_within h
  obtain ⟨r, hr, hq⟩ := Option.bind_eq_some_iff.1 h
  exact (keeps_setHalf (by omega) hr).trans (keeps_setHourOfHalf (by omega) hq)

theorem keeps_setHour12 (h : p.setHour12 n = some q) : Keeps p q := by
  obtain ⟨hrange, h⟩ := of_within h
  exact keeps_setHourOfHalf (by omega) h

theorem keeps_setMinute (h : p.setMinute n = some q) : Keeps p q := by
  obtain ⟨hrange, h⟩ := of_within h
  obtain rfl := of_agree h
  exact ⟨fun hp => ⟨hp.half, hp.hourOfHalf, by simpa using hrange, hp.second⟩, rfl⟩

theorem keeps_setSecond (h : p.setSecond n = some q) : Keeps p q := by
  obtain ⟨hrange, h⟩ := of_within h
  obtain rfl := of_agree h
  exact ⟨fun hp => ⟨hp.half, hp.hourOfHalf, hp.minute, by simpa using hrange⟩, rfl⟩

end Parts

/-! ## Reading the parts -/

open Parts (Keeps)

variable {p q : Parts} {cs rest : List Char}

theorem keeps_of_set (reader : Reader) (set : Parts → Int → Option Parts)
    (hset : ∀ n rest, reader cs = some (n, rest) → set p n = some q → Keeps p q)
    (h : (do
      let (n, rest) ← reader cs
      let q ← set p n
      pure (q, rest)) = some (q, rest)) : Keeps p q := by
  obtain ⟨⟨n, left⟩, hread, h⟩ := Option.bind_eq_some_iff.1 h
  obtain ⟨r, hr, hq⟩ := Option.bind_eq_some_iff.1 h
  obtain ⟨rfl, -⟩ := Prod.mk.inj (Option.some.inj hq)
  exact hset n left hread hr

theorem readHalf_range {n : Int} (h : readHalf cs = some (n, rest)) : 0 ≤ n ∧ n ≤ 1 := by
  unfold readHalf at h
  split at h
  · obtain ⟨rfl, -⟩ := Prod.mk.inj (Option.some.inj h)
    decide
  · split at h
    · obtain ⟨rfl, -⟩ := Prod.mk.inj (Option.some.inj h)
      decide
    · cases h

/-- No part but an offset gives an offset, and parts of the time of day are those of a clock. -/
theorem Item.read_keeps {i : Item} (hi : ∀ colon, i ≠ .offset colon)
    (h : i.read p cs = some (q, rest)) : Keeps p q := by
  cases i with
  | year | month | day | dayOfYear =>
    refine keeps_of_set _ _ (fun n _ _ hset => ?_) h
    exact Parts.keeps_of_agree (Parts.of_within hset).2 fun _ => ⟨rfl, rfl, rfl, rfl, rfl⟩
  | monthName =>
    refine keeps_of_set _ (fun p n => p.setMonth (n + 1)) (fun n _ _ hset => ?_) h
    exact Parts.keeps_of_agree (Parts.of_within hset).2 fun _ => ⟨rfl, rfl, rfl, rfl, rfl⟩
  | yearOfCentury | weekdayName =>
    refine keeps_of_set _ _ (fun n _ _ hset => ?_) h
    exact Parts.keeps_of_agree hset fun _ => ⟨rfl, rfl, rfl, rfl, rfl⟩
  | hour => exact keeps_of_set _ _ (fun _ _ _ => Parts.keeps_setHour) h
  | hour12 => exact keeps_of_set _ _ (fun _ _ _ => Parts.keeps_setHour12) h
  | minute => exact keeps_of_set _ _ (fun _ _ _ => Parts.keeps_setMinute) h
  | second => exact keeps_of_set _ _ (fun _ _ _ => Parts.keeps_setSecond) h
  | fraction digits =>
    simp only [Item.read] at h
    split at h
    · refine keeps_of_set _ (fun p n => p.setNanos (n * Nat.pow 10 (9 - digits)))
        (fun n _ _ hset => ?_) h
      exact Parts.keeps_of_agree hset fun _ => ⟨rfl, rfl, rfl, rfl, rfl⟩
    · obtain ⟨rfl, -⟩ := Prod.mk.inj (Option.some.inj h)
      exact .refl _
  | halfDay =>
    exact keeps_of_set _ _ (fun _ _ hread => Parts.keeps_setHalf (readHalf_range hread)) h
  | zoneName =>
    obtain ⟨rfl, -⟩ := Prod.mk.inj (Option.some.inj h)
    exact .refl _
  | offset colon => exact absurd rfl (hi colon)

theorem readPieces_keeps {pieces : List Piece}
    (hpieces : ∀ colon, Piece.item (.offset colon) ∉ pieces)
    (h : readPieces pieces p cs = some (q, rest)) : Keeps p q := by
  induction pieces generalizing p cs with
  | nil =>
    obtain ⟨rfl, -⟩ := Prod.mk.inj (Option.some.inj h)
    exact .refl _
  | cons piece more ih =>
    have hmore : ∀ colon, Piece.item (.offset colon) ∉ more := fun colon hmem =>
      hpieces colon (List.mem_cons_of_mem _ hmem)
    cases piece with
    | item i =>
      have hi : ∀ colon, i ≠ .offset colon := by
        rintro colon rfl
        exact hpieces colon List.mem_cons_self
      rw [readPieces] at h
      split at h
      · cases h
      · next r left hread => exact (Item.read_keeps hi hread).trans (ih hmore h)
    | char c =>
      unfold readPieces at h
      split at h
      · exact ih hmore h
      · split at h
        · cases h
        · split at h
          · exact ih hmore h
          · cases h

/-- What is read in a layout that takes no offset. -/
theorem keeps_of_readParts {layout value : String} (hlayout : ¬TakesOffset layout)
    (h : readParts layout value = some p) : p.OnClock ∧ p.offset = none := by
  rw [takesOffset_iff_mem_pieces, not_exists] at hlayout
  unfold readParts at h
  split at h
  · next q hread =>
    obtain rfl := Option.some.inj h
    have hkeeps := readPieces_keeps hlayout hread
    exact ⟨hkeeps.onClock Parts.onClock_empty, hkeeps.offset_eq⟩
  · cases h

namespace Parts

variable {d : Date} {second nanos : Nat}

theorem inCalendar_date (h : p.date = some d) : d.InCalendar := by
  obtain ⟨year, -, h⟩ := Option.bind_eq_some_iff.1 h
  split at h
  · obtain ⟨e, he, h⟩ := Option.bind_eq_some_iff.1 h
    split at h
    · exact Option.some.inj h ▸ Date.inCalendar_of? he
    · cases h
  · obtain ⟨e, he, h⟩ := Option.bind_eq_some_iff.1 h
    split at h
    · exact Option.some.inj h ▸ Date.inCalendar_ofOrdinal? he
    · cases h
  · cases h

theorem exists_of_time (h : p.time = some (second, nanos)) :
    ∃ half ∈ p.half, ∃ hour ∈ p.hourOfHalf, ∃ minute ∈ p.minute,
      second = ((half * 12 + hour) * 3600 + minute * 60 +
        if p.second = some 60 then 59 else p.second.getD 0).toNat := by
  simp only [time, Option.bind_eq_bind, Option.bind_eq_some_iff] at h
  obtain ⟨half, hhalf, hour, hhour, minute, hminute, h⟩ := h
  refine ⟨half, hhalf, hour, hhour, minute, hminute, ?_⟩
  split at h <;>
  · obtain ⟨n, -, h⟩ := Option.bind_eq_some_iff.1 h
    rw [← (Prod.mk.inj (Option.some.inj h)).1]
    split <;> rfl

theorem OnClock.second_lt (hp : p.OnClock) (h : p.time = some (second, nanos)) :
    second < 86400 := by
  obtain ⟨half, hhalf, hour, hhour, minute, hminute, rfl⟩ := exists_of_time h
  have hhalf := hp.half half hhalf
  have hhour := hp.hourOfHalf hour hhour
  have hminute := hp.minute minute hminute
  have hsecond : (if p.second = some 60 then 59 else p.second.getD 0) ≤ 59 := by
    split
    · decide
    · next hleap =>
      cases hs : p.second with
      | none => decide
      | some n =>
        have hrange := hp.second n hs
        have hne : n ≠ 60 := fun heq => hleap (heq ▸ hs)
        rw [Option.getD_some]
        omega
  omega

end Parts

/-! ## Layouts without an offset -/

/-- The date and the time of day that a text gives in a layout. -/
def naiveDateTime? (layout value : String) : Option (Date × Nat × Nat) := do
  let p ← readParts layout value
  let date ← p.date
  let (second, nanos) ← p.time
  pure (date, second, nanos)

/-- The date that a text gives in a layout, whether or not it gives a time of day. -/
def naiveDate? (layout value : String) : Option Date := do
  let p ← readParts layout value
  p.date

theorem Parts.dateTimeAt_zero (hp : p.OnClock) : p.dateTimeAt 0 =
    p.date.bind fun d => p.time.map fun t => d.utc t.1 t.2 := by
  unfold dateTimeAt
  cases hd : p.date with
  | none => rfl
  | some d =>
    cases ht : p.time with
    | none => rfl
    | some t =>
      have hoffset : -DateTime.offsetLimit < 0 ∧ 0 < DateTime.offsetLimit := by decide
      simp only [Option.bind_eq_bind, Option.bind_some, Option.map_some, if_pos hoffset]
      exact DateTime.ofLocal?_utc (inCalendar_date hd) (hp.second_lt ht) t.2

/-- A layout in which an offset is looked for but not taken reads no text. -/
theorem read_of_hasOffset {layout : String} (hlayout : ¬TakesOffset layout)
    (hoffset : hasOffset layout = true) (value : String) : read layout value = none := by
  rw [read, if_pos hoffset]
  cases hread : readParts layout (spellOutZulu layout value) with
  | none => rfl
  | some p => simp [(keeps_of_readParts hlayout hread).2]

theorem read_of_not_hasOffset {layout : String} (hlayout : ¬TakesOffset layout)
    (hoffset : hasOffset layout ≠ true) (value : String) :
    read layout value =
      match naiveDateTime? layout value with
      | some (d, second, nanos) => some (d.utc second nanos)
      | none => (naiveDate? layout value).map fun d => d.utc 0 0 := by
  rw [read, if_neg hoffset, naiveDateTime?, naiveDate?]
  cases hread : readParts layout value with
  | none => rfl
  | some p =>
    have hclock := (keeps_of_readParts hlayout hread).1
    simp only [Option.bind_eq_bind, Option.bind_some, Parts.dateTimeAt_zero hclock]
    cases hd : p.date with
    | none => rfl
    | some d =>
      cases ht : p.time with
      | none => exact DateTime.ofLocal?_utc (Parts.inCalendar_date hd) (by decide) 0
      | some t => rfl

/-- An offset is looked for if and only if one of its tokens was taken or the layout spells its
code out. Where no token of an offset was taken, a layout reads every date-time, and else every
date from its midnight, in UTC, unless it spells out the code of an offset. If it does, it reads
nothing. -/
theorem read_utc (layout : String) :
    (hasOffset layout = true ↔ TakesOffset layout ∨ SpellsOffset layout) ∧
      (¬TakesOffset layout → ∀ value,
        (SpellsOffset layout → read layout value = none) ∧
        (¬SpellsOffset layout → read layout value =
          match naiveDateTime? layout value with
          | some (d, second, nanos) => some (d.utc second nanos)
          | none => (naiveDate? layout value).map fun d => d.utc 0 0)) := by
  refine ⟨hasOffset_iff layout, fun hlayout value => ⟨fun hspells => ?_, fun hspells => ?_⟩⟩
  · exact read_of_hasOffset hlayout ((hasOffset_iff layout).2 (.inr hspells)) value
  · refine read_of_not_hasOffset hlayout (fun hoffset => ?_) value
    exact ((hasOffset_iff layout).1 hoffset).elim hlayout hspells

/-- A layout reads its date whatever letters it has, but for those of the code of an offset. -/
theorem read_utc_percent :
    ¬TakesOffset "2006-01-02 %Z" ∧ ¬SpellsOffset "2006-01-02 %Z" ∧
      read "2006-01-02 %Z" "2024-03-05 %Z" = some ⟨1709596800, 0, 0⟩ ∧
    ¬TakesOffset "2006-01-02 %z" ∧ SpellsOffset "2006-01-02 %z" ∧
      (naiveDate? "2006-01-02 %z" "2024-03-05 %z").isSome ∧
      read "2006-01-02 %z" "2024-03-05 %z" = none := by
  have hupper : ¬TakesOffset "2006-01-02 %Z" :=
    (takesOffset_iff_mem_pieces _).not.2 (by decide +kernel)
  have hlower : ¬TakesOffset "2006-01-02 %z" :=
    (takesOffset_iff_mem_pieces _).not.2 (by decide +kernel)
  have hfree : ¬SpellsOffset "2006-01-02 %Z" := by
    unfold SpellsOffset
    decide +kernel
  have hspells : SpellsOffset "2006-01-02 %z" := ⟨false, "2006-01-02 ".toList, [], rfl⟩
  refine ⟨hupper, hfree, ?_, hlower, hspells, by decide +kernel, ?_⟩
  · rw [((read_utc _).2 hupper _).2 hfree]
    decide +kernel
  · exact ((read_utc _).2 hlower _).1 hspells

end Layout
end TableMill
