import Mathlib.Algebra.GroupWithZero.Nat
import TableMill.Proofs.KeyOrder

/-!
# The width of keys

A key is made of one part for every component. An ascending part is the chunk, in the width of the
component; a descending one has two hexadecimal digits for every byte of it. So the keys of an
index without descending components are equally long.
-/

namespace TableMill

namespace Component

def lackDigits (b : UInt8) : List Char :=
  [((255 - b.toNat) / 16).digitChar, ((255 - b.toNat) % 16).digitChar]

theorem descend_toList (s : String) :
    (descend s).toList = s.toUTF8.toList.flatMap lackDigits := by
  rw [descend, String.toList_ofList]
  congr 1
  funext b
  rw [hexByte_eq, toNat_lack, lackDigits]

theorem length_toUTF8 (s : String) : s.toUTF8.toList.length = s.utf8ByteSize := by
  rw [byteArray_toList, Array.length_toList]
  rfl

theorem length_descend (s : String) : (descend s).length = 2 * s.utf8ByteSize := by
  rw [← String.length_toList, descend_toList, List.length_flatMap, ← length_toUTF8]
  simp [lackDigits, Nat.mul_comm]

/-- A chunk of a row and the part of the key that stands for it. -/
structure Contributes (c : Component) (row : Record) (chunk part : String) : Prop where
  of_row : ∃ v, Assoc.get? row c.field = some v ∧ c.encode v = .ok chunk
  width : chunk.length = c.width
  ascending : c.descending = false → part = chunk
  descending : c.descending = true →
    part.toList = chunk.toUTF8.toList.flatMap lackDigits ∧ part.length = 2 * chunk.utf8ByteSize

theorem contributes_written {c : Component} {row : Record} (hrow : row.Valid) {chunk : String}
    (h : ∃ v, Assoc.get? row c.field = some v ∧ c.encode v = .ok chunk) :
    c.Contributes row chunk (c.written chunk) where
  of_row := h
  width := by
    obtain ⟨v, hv, hchunk⟩ := h
    exact length_encode (hrow.get? hv) hchunk
  ascending hc := by simp [written, hc]
  descending hc := by
    rw [written, if_pos hc]
    exact ⟨descend_toList chunk, length_descend chunk⟩

end Component

namespace Index

variable {row : Record} {cs : List Component}

def Parts (cs : List Component) (row : Record) (parts : List (String × String)) : Prop :=
  List.Forall₂ (fun c p => c.Contributes row p.1 p.2) cs parts

/-- Joined chunks are made of one part for every component. -/
theorem parts_of_chunks (hrow : row.Valid) {chunks : List String}
    (h : List.Forall₂ (fun c s => ∃ v, Assoc.get? row c.field = some v ∧ c.encode v = .ok s)
      cs chunks) :
    ∃ parts, Parts cs row parts ∧ joined cs chunks = String.join (parts.map Prod.snd) := by
  induction h with
  | nil => exact ⟨[], .nil, rfl⟩
  | @cons c s cs chunks hs _ ih =>
    obtain ⟨parts, hparts, hjoin⟩ := ih
    refine ⟨(s, c.written s) :: parts, .cons (Component.contributes_written hrow hs) hparts, ?_⟩
    rw [joined, List.zipWith_cons_cons, String.join_cons, ← joined, hjoin, List.map_cons,
      String.join_cons]

theorem Parts.length_join {parts : List (String × String)} (h : Parts cs row parts)
    (hasc : ∀ c ∈ cs, c.descending = false) :
    (String.join (parts.map Prod.snd)).length = (cs.map Component.width).sum := by
  induction h with
  | nil => rfl
  | @cons c p cs parts hp _ ih =>
    have hpart : p.2.length = c.width := by
      rw [hp.ascending (hasc c List.mem_cons_self), hp.width]
    simp only [List.map_cons, String.join_cons, String.length_append, List.sum_cons, hpart,
      ih fun c hc => hasc c (List.mem_cons_of_mem _ hc)]

/-- Chunks have the width of their component, and a key is made of one part for every chunk. If no
component is descending, then the width of the key is the sum of theirs. -/
theorem key_widths :
    (∀ (c : Component) (v : Value) (s : String), v.Valid → c.encode v = .ok s →
      s.length = c.width) ∧
    ∀ (ix : Index) (row : Record) (key : String), row.Valid → ix.key row = .ok key →
      (∃ parts, Parts ix.components row parts ∧ key = String.join (parts.map Prod.snd)) ∧
      ((∀ c ∈ ix.components, c.descending = false) →
        key.length = (ix.components.map Component.width).sum) := by
  refine ⟨fun c v s => Component.length_encode, fun ix row key hrow h => ?_⟩
  obtain ⟨chunks, hchunks, rfl⟩ := key_eq_ok.1 h
  obtain ⟨parts, hparts, hjoin⟩ := parts_of_chunks hrow hchunks
  refine ⟨⟨parts, hparts, hjoin⟩, fun hasc => ?_⟩
  rw [hjoin]
  exact hparts.length_join hasc

end Index

namespace CitySample

def index : Index where
  unique := false
  components := [⟨"city", .text, false, false, 2⟩, ⟨"founded", .int, false, false, 64⟩]

def row : Record := [("city", .text "서울시"), ("founded", .int (-18))]

theorem valid_row : row.Valid := by
  simp [row, Record.Valid, Value.Valid]

theorem key_row : index.key row = .ok "서울-999999999999999981" := by
  refine Index.key_eq_ok.2 ⟨["서울", "-999999999999999981"], ?_, rfl⟩
  refine .cons ⟨_, rfl, congrArg Except.ok ?_⟩ (.cons ⟨_, rfl, rfl⟩ .nil)
  decide +kernel

theorem key_widths_cities :
    row.Valid ∧ index.key row = .ok "서울-999999999999999981" ∧
      (∃ parts, Index.Parts index.components row parts ∧
        "서울-999999999999999981" = String.join (parts.map Prod.snd)) ∧
      "서울-999999999999999981".length = (index.components.map Component.width).sum := by
  obtain ⟨hparts, hlength⟩ := Index.key_widths.2 index row _ valid_row key_row
  exact ⟨valid_row, key_row, hparts, hlength (by decide)⟩

end CitySample
end TableMill
