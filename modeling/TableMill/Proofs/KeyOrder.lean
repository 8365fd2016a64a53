import TableMill.Proofs.ChunkWidth
import TableMill.Proofs.DescendingText
import TableMill.Proofs.Outcome

/-!
# The order of keys

Keys of one index compare as texts like their rows compare chunk by chunk, a descending
component the other way round. Chunks stand in a key without separators; that no two rows
meet across the border of two chunks is due to the width of ascending chunks and to the
first differences of descending ones.
-/

namespace TableMill

def Component.written (c : Component) (s : String) : String :=
  if c.descending then descend s else s

/-- The order of two ascending chunks of a component, turned around if it descends. -/
def Component.order (c : Component) (s t : String) : Ordering :=
  if c.descending then (compare s t).swap else compare s t

def Index.Chunks (ix : Index) (row : Record) (chunks : List String) : Prop :=
  List.Forall₂ (fun c s => ∃ v, Assoc.get? row c.field = some v ∧ c.encode v = .ok s)
    ix.components chunks

/-- The order of two rows by their chunks: the first component that differs decides. -/
def Index.order : List Component → List String → List String → Ordering
  | c :: cs, s :: ss, t :: ts => (c.order s t).then (order cs ss ts)
  | _, _, _ => .eq

def Index.joined (cs : List Component) (chunks : List String) : String :=
  String.join (List.zipWith Component.written cs chunks)

namespace Component

theorem order_swap (c : Component) (s t : String) : c.order t s = (c.order s t).swap := by
  unfold order
  rw [Std.OrientedOrd.eq_swap (a := t) (b := s)]
  split <;> rfl

theorem order_eq_eq {c : Component} {s t : String} : c.order s t = .eq ↔ s = t := by
  unfold order
  split <;> simp [Ordering.swap_eq_eq]

/-- Of two ascending chunks of one width, the one that comes first is written below. -/
theorem written_below {c : Component} {s t : String} (hlen : s.length = t.length)
    (h : c.order s t = .lt) : Below (c.written s).toList (c.written t).toList := by
  unfold order at h
  unfold written
  split
  · rename_i hdesc
    rw [if_pos hdesc, ← Std.OrientedOrd.eq_swap] at h
    exact descend_below (below_of_compare hlen.symm h)
  · rename_i hasc
    rw [if_neg hasc] at h
    exact below_of_compare hlen h

theorem chunk_eq_ok {c : Component} {row : Record} {s : String} :
    c.chunk row = .ok s ↔
      ∃ v t, Assoc.get? row c.field = some v ∧ c.encode v = .ok t ∧ c.written t = s := by
  unfold chunk
  cases hget : Assoc.get? row c.field with
  | none => simp
  | some v =>
    dsimp only
    rw [bind_eq_ok]
    constructor
    · rintro ⟨t, ht, h⟩
      exact ⟨v, t, rfl, ht, Except.ok.inj h⟩
    · rintro ⟨w, t, hw, ht, h⟩
      cases hw
      exact ⟨t, ht, congrArg Except.ok h⟩

end Component

namespace Index

theorem forall_chunk {row : Record} {cs : List Component} {texts : List String} :
    List.Forall₂ (fun c s => c.chunk row = .ok s) cs texts ↔
      ∃ chunks, List.Forall₂
          (fun c s => ∃ v, Assoc.get? row c.field = some v ∧ c.encode v = .ok s) cs chunks ∧
        List.zipWith Component.written cs chunks = texts := by
  induction cs generalizing texts with
  | nil =>
    simp only [List.forall₂_nil_left_iff]
    exact ⟨fun h => ⟨[], rfl, h.symm⟩, fun ⟨_, _, h⟩ => h.symm⟩
  | cons c cs ih =>
    simp only [List.forall₂_cons_left_iff, ih]
    constructor
    · rintro ⟨s, _, hs, ⟨chunks, hchunks, rfl⟩, rfl⟩
      obtain ⟨v, t, hv, ht, rfl⟩ := Component.chunk_eq_ok.1 hs
      exact ⟨t :: chunks, ⟨t, chunks, ⟨v, hv, ht⟩, hchunks, rfl⟩, rfl⟩
    · rintro ⟨_, ⟨t, chunks, ⟨v, hv, ht⟩, hchunks, rfl⟩, rfl⟩
      exact ⟨_, _, Component.chunk_eq_ok.2 ⟨v, t, hv, ht, rfl⟩, ⟨chunks, hchunks, rfl⟩, rfl⟩

theorem key_eq_ok {ix : Index} {row : Record} {k : String} :
    ix.key row = .ok k ↔ ∃ chunks, ix.Chunks row chunks ∧ joined ix.components chunks = k := by
  unfold key
  simp only [bind_eq_ok, mapM_eq_ok, forall_chunk]
  constructor
  · rintro ⟨_, ⟨chunks, hchunks, rfl⟩, h⟩
    exact ⟨chunks, hchunks, Except.ok.inj h⟩
  · rintro ⟨chunks, hchunks, rfl⟩
    exact ⟨_, ⟨chunks, hchunks, rfl⟩, rfl⟩

theorem order_swap (cs : List Component) (ss ts : List String) :
    order cs ts ss = (order cs ss ts).swap := by
  induction cs generalizing ss ts with
  | nil => rfl
  | cons c cs ih =>
    cases ss with
    | nil => cases ts <;> rfl
    | cons s ss =>
      cases ts with
      | nil => rfl
      | cons t ts => simp only [order, Ordering.swap_then, ih ss ts, c.order_swap s t]

variable {cs : List Component} {ss ts : List String}

def Fits (cs : List Component) (chunks : List String) : Prop :=
  List.Forall₂ (fun c s => s.length = c.width) cs chunks

theorem order_eq_eq (hs : Fits cs ss) (ht : Fits cs ts) : order cs ss ts = .eq ↔ ss = ts := by
  induction hs generalizing ts with
  | nil =>
    cases ht
    simp [order]
  | cons _ _ ih =>
    cases ht with
    | cons _ ht => simp [order, Ordering.then_eq_eq, Component.order_eq_eq, ih ht]

theorem joined_below (hs : Fits cs ss) (ht : Fits cs ts) (h : order cs ss ts = .lt) :
    Below (joined cs ss).toList (joined cs ts).toList := by
  induction hs generalizing ts with
  | nil =>
    cases ht
    simp [order] at h
  | @cons c s cs ss hlen hs ih =>
    cases ht with
    | @cons _ t _ ts hlen' ht =>
      simp only [joined, List.zipWith_cons_cons, String.join_cons, String.toList_append]
      rcases Ordering.then_eq_lt.1 h with hlt | ⟨heq, hrest⟩
      · exact (Component.written_below (hlen.trans hlen'.symm) hlt).append _ _
      · rw [Component.order_eq_eq.1 heq]
        exact (ih ht hrest).prepend _

/-- Joined chunks compare like the rows. -/
theorem compare_joined (hs : Fits cs ss) (ht : Fits cs ts) :
    compare (joined cs ss) (joined cs ts) = order cs ss ts := by
  cases h : order cs ss ts with
  | lt => exact (joined_below hs ht h).compare_eq
  | eq => rw [(order_eq_eq hs ht).1 h, Std.ReflOrd.compare_self]
  | gt =>
    have hswap : order cs ts ss = .lt := by rw [order_swap, h]; rfl
    rw [Std.OrientedOrd.eq_swap, (joined_below ht hs hswap).compare_eq]
    rfl

theorem Chunks.fits {ix : Index} {row : Record} {chunks : List String} (hrow : row.Valid)
    (h : ix.Chunks row chunks) : Fits ix.components chunks := by
  refine List.Forall₂.imp ?_ h
  rintro c s ⟨v, hv, hs⟩
  exact Component.length_encode (hrow.get? hv) hs

/-- Keys of one index compare as texts like the rows compare by their chunks, and they are
equal only if all chunks are. -/
theorem compare_key {ix : Index} {row row' : Record} (hrow : row.Valid) (hrow' : row'.Valid)
    {k k' : String} (h : ix.key row = .ok k) (h' : ix.key row' = .ok k') :
    ∃ chunks chunks', ix.Chunks row chunks ∧ ix.Chunks row' chunks' ∧
      compare k k' = order ix.components chunks chunks' ∧ (k = k' ↔ chunks = chunks') := by
  obtain ⟨ss, hs, rfl⟩ := key_eq_ok.1 h
  obtain ⟨ts, ht, rfl⟩ := key_eq_ok.1 h'
  have hcompare := compare_joined (hs.fits hrow) (ht.fits hrow')
  refine ⟨ss, ts, hs, ht, hcompare, ?_⟩
  rw [← Std.compare_eq_iff_eq, hcompare, order_eq_eq (hs.fits hrow) (ht.fits hrow')]

end Index

namespace KeySample

/-- Two syllables of three bytes that differ in the last one, before a number. -/
def index : Index :=
  ⟨true, [⟨"name", .text, true, false, 2⟩, ⟨"at", .datetime, false, false, 64⟩,
    ⟨"n", .int, false, false, 64⟩]⟩

def early : Record := [("name", .text "가"), ("at", .datetime ⟨0, 0, 0⟩), ("n", .int (-5))]
def late : Record := [("name", .text "각"), ("at", .datetime ⟨0, 0, 0⟩), ("n", .int 3)]

theorem valid_epoch : DateTime.Valid ⟨0, 0, 0⟩ := by
  constructor <;> decide

theorem early_valid : early.Valid := by
  simp [early, Record.Valid, Value.Valid, valid_epoch]

theorem late_valid : late.Valid := by
  simp [late, Record.Valid, Value.Valid, valid_epoch]

theorem descend_early : Component.descend "가 " = "154f7fdf" := by
  rw [Component.descend, toUTF8_toList]
  decide +kernel

theorem descend_late : Component.descend "각 " = "154f7edf" := by
  rw [Component.descend, toUTF8_toList]
  decide +kernel

theorem key_early :
    index.key early = .ok "154f7fdf00062135596800000000-999999999999999994" := by
  refine Index.key_eq_ok.2 ⟨["가 ", "00062135596800000000", "-999999999999999994"], ?_, ?_⟩
  · refine .cons ⟨_, rfl, congrArg Except.ok ?_⟩ (.cons ⟨_, rfl, rfl⟩ (.cons ⟨_, rfl, rfl⟩ .nil))
    decide +kernel
  · simp [Index.joined, Component.written, index, descend_early]

theorem key_late :
    index.key late = .ok "154f7edf000621355968000000000000000000000000003" := by
  refine Index.key_eq_ok.2 ⟨["각 ", "00062135596800000000", "0000000000000000003"], ?_, ?_⟩
  · refine .cons ⟨_, rfl, congrArg Except.ok ?_⟩ (.cons ⟨_, rfl, rfl⟩ (.cons ⟨_, rfl, rfl⟩ .nil))
    decide +kernel
  · simp [Index.joined, Component.written, index, descend_late]

theorem compare_key_syllables :
    early.Valid ∧ late.Valid ∧ ∃ k k', index.key early = .ok k ∧ index.key late = .ok k' ∧
      ∃ chunks chunks', index.Chunks early chunks ∧ index.Chunks late chunks' ∧
        compare k k' = Index.order index.components chunks chunks' ∧
        (k = k' ↔ chunks = chunks') :=
  ⟨early_valid, late_valid, _, _, key_early, key_late,
    Index.compare_key early_valid late_valid key_early key_late⟩

end KeySample
end TableMill
