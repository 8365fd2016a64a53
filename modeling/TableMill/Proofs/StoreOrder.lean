import TableMill.Proofs.Bindings
import TableMill.Store.Basic

/-!
# Stores that can arise

A store is built by its own operations only. Whatever their order, the rows of a table stand
in rising order of their tokens and the row ids under a key in rising order.
-/

namespace TableMill

/-! ## Tokens tell row ids apart -/

theorem xorShift_cancel (w : BitVec 64) (k : Nat) (hk : 64 ≤ k + k + k) :
    (w ^^^ (w >>> k)) ^^^ ((w ^^^ (w >>> k)) >>> k) ^^^ ((w ^^^ (w >>> k)) >>> (k + k)) = w := by
  have h3 : w >>> (k + k + k) = 0#64 := BitVec.ushiftRight_eq_zero hk
  have hpairs : ∀ a b c : BitVec 64, (a ^^^ b) ^^^ (b ^^^ c) ^^^ c = a := by
    intro a b c
    rw [← BitVec.xor_assoc, BitVec.xor_assoc a b b, BitVec.xor_self, BitVec.xor_zero,
      BitVec.xor_assoc, BitVec.xor_self, BitVec.xor_zero]
  simp only [BitVec.ushiftRight_xor_distrib, ← BitVec.shiftRight_add, ← Nat.add_assoc, h3,
    BitVec.xor_zero]
  exact hpairs _ _ _

theorem xorShift_injective (k : UInt64) (hk : 64 ≤ 3 * (k.toNat % 64)) {v w : UInt64}
    (h : v ^^^ (v >>> k) = w ^^^ (w >>> k)) : v = w := by
  have hb : v.toBitVec ^^^ (v.toBitVec >>> (k.toNat % 64)) =
      w.toBitVec ^^^ (w.toBitVec >>> (k.toNat % 64)) := by
    simpa using congrArg UInt64.toBitVec h
  have hv := xorShift_cancel v.toBitVec (k.toNat % 64) (by omega)
  have hw := xorShift_cancel w.toBitVec (k.toNat % 64) (by omega)
  rw [hb, hw] at hv
  exact UInt64.toBitVec_inj.1 hv.symm

theorem factor_injective {c d : UInt64} (hc : c * d = 1) {v w : UInt64} (h : v * c = w * c) :
    v = w := by
  have hd := congrArg (· * d) h
  simpa only [UInt64.mul_assoc, hc, UInt64.mul_one] using hd

theorem mixBits_injective {v w : UInt64} (h : mixBits v = mixBits w) : v = w := by
  have h₁ := xorShift_injective 31 (by decide) h
  have h₂ := factor_injective (d := 0x319642b2d24d8ec3) (by decide) h₁
  have h₃ := xorShift_injective 27 (by decide) h₂
  have h₄ := factor_injective (d := 0x96de1b173f119089) (by decide) h₃
  exact xorShift_injective 30 (by decide) h₄

theorem tokenOf_injective {a b : Int64} (h : tokenOf a = tokenOf b) : a = b := by
  have h₁ : (mixBits a.toUInt64).toInt64 = (mixBits b.toUInt64).toInt64 := Int64.toInt_inj.1 h
  have h₂ : mixBits a.toUInt64 = mixBits b.toUInt64 := by
    simpa using congrArg Int64.toUInt64 h₁
  exact congrArg Int64.ofUInt64 (mixBits_injective h₂)

theorem tokenOf_le_wordMax (a : Int64) : tokenOf a ≤ Number.wordMax := by
  have h := ((mixBits a.toUInt64).toInt64).toInt_lt
  unfold tokenOf Number.wordMax
  omega

/-! ## Lists in order -/

namespace Assoc

variable {α : Type}

theorem get?_setSorted (m : Assoc α) (key name : String) (a : α) :
    (setSorted key a m).get? name = if key = name then some a else m.get? name := by
  induction m with
  | nil => simp [setSorted, get?_cons]
  | cons e rest ih =>
    obtain ⟨k, b⟩ := e
    simp only [setSorted]
    split
    · simp only [get?_cons]
    · split
      · next hk =>
        subst hk
        simp only [get?_cons]
        split <;> rfl
      · next hk =>
        simp only [get?_cons, ih]
        by_cases hn : k = name
        · simp [hn, show ¬ key = name from fun h => hk (h.trans hn.symm)]
        · simp [hn]

theorem get?_erase (m : Assoc α) (key name : String) :
    (erase m key).get? name = if key = name then none else m.get? name := by
  induction m with
  | nil => simp [erase]
  | cons e rest ih =>
    obtain ⟨k, b⟩ := e
    unfold erase at ih
    by_cases hk : k = key
    · subst hk
      simp only [erase, ne_eq, not_true_eq_false, decide_false, Bool.false_eq_true,
        not_false_eq_true, List.filter_cons_of_neg, get?_cons, ih]
      split <;> rfl
    · simp only [erase, ne_eq, hk, not_false_eq_true, decide_true, List.filter_cons_of_pos,
        get?_cons, ih]
      by_cases hn : k = name
      · simp [hn, show ¬ key = name from fun h => hk (hn.trans h.symm)]
      · simp [hn]

end Assoc

namespace StoredTable

theorem mem_insertRow {r x : Row} {rows : List Row} (h : x ∈ insertRow r rows) :
    x = r ∨ x ∈ rows := by
  induction rows with
  | nil => simpa [insertRow] using h
  | cons q rest ih =>
    simp only [insertRow] at h
    split at h
    · rcases List.mem_cons.1 h with h | h
      · exact Or.inl h
      · exact Or.inr (List.mem_cons_of_mem _ h)
    · split at h
      · exact List.mem_cons.1 h
      · rcases List.mem_cons.1 h with h | h
        · exact Or.inr (h ▸ List.mem_cons_self)
        · exact (ih h).imp_right (List.mem_cons_of_mem _)

def Rising (rows : List Row) : Prop := rows.Pairwise fun a b => a.token < b.token

theorem rising_insertRow {rows : List Row} (h : Rising rows) (r : Row) :
    Rising (insertRow r rows) := by
  unfold Rising at *
  induction rows with
  | nil => simp [insertRow]
  | cons q rest ih =>
    obtain ⟨hq, hrest⟩ := List.pairwise_cons.1 h
    simp only [insertRow]
    split
    · next hid =>
      have ht : r.token = q.token := by rw [Row.token, hid, Row.token]
      exact List.pairwise_cons.2 ⟨fun x hx => by rw [ht]; exact hq x hx, hrest⟩
    · next hid =>
      split
      · next hlt =>
        refine List.pairwise_cons.2 ⟨fun x hx => ?_, h⟩
        rcases List.mem_cons.1 hx with rfl | hx
        · exact hlt
        · exact Int.lt_trans hlt (hq x hx)
      · next hlt =>
        refine List.pairwise_cons.2 ⟨fun x hx => ?_, ih hrest⟩
        rcases mem_insertRow hx with rfl | hx
        · have hne : x.token ≠ q.token := fun he => hid (tokenOf_injective he)
          omega
        · exact hq x hx

end StoredTable

theorem mem_insertId {n x : Int64} {ids : List Int64} : x ∈ insertId n ids ↔ x = n ∨ x ∈ ids := by
  induction ids with
  | nil => simp [insertId]
  | cons m rest ih =>
    simp only [insertId]
    split
    · simp
    · split
      · next hm => simp [hm]
      · simp only [List.mem_cons, ih]
        tauto

theorem rising_insertId {ids : List Int64} (h : ids.Pairwise (· < ·)) (n : Int64) :
    (insertId n ids).Pairwise (· < ·) := by
  induction ids with
  | nil => simp [insertId]
  | cons m rest ih =>
    obtain ⟨hm, hrest⟩ := List.pairwise_cons.1 h
    simp only [insertId]
    split
    · next hlt =>
      refine List.pairwise_cons.2 ⟨fun x hx => ?_, h⟩
      rcases List.mem_cons.1 hx with rfl | hx
      · exact hlt
      · exact Int64.lt_trans hlt (hm x hx)
    · split
      · exact h
      · next hnlt hne =>
        refine List.pairwise_cons.2 ⟨fun x hx => ?_, ih hrest⟩
        rcases mem_insertId.1 hx with rfl | hx
        · rw [Int64.lt_iff_toInt_lt] at *
          have : x.toInt ≠ m.toInt := fun he => hne (Int64.toInt_inj.1 he)
          omega
        · exact hm x hx

namespace Store

/-- The stores that the operations can build from the empty one. -/
inductive Reachable : Store → Prop
  | empty : Reachable .empty
  | createTable {s : Store} (h : Reachable s) (name : String) : Reachable (s.createTable name)
  | createIndex {s : Store} (h : Reachable s) (name : String) : Reachable (s.createIndex name)
  | putRow {s : Store} (h : Reachable s) (name : String) (r : Row) : Reachable (s.putRow name r)
  | putKey {s : Store} (h : Reachable s) (name key : String) (rowid : Int64) :
      Reachable (s.putKey name key rowid)
  | failRows {s : Store} (h : Reachable s) (kinds : List FaultKind) : Reachable (s.failRows kinds)
  | failKeys {s : Store} (h : Reachable s) (kinds : List FaultKind) : Reachable (s.failKeys kinds)
  | collide {s : Store} (h : Reachable s) (count : Nat) : Reachable (s.collide count)
  | write {s : Store} (h : Reachable s) (c : WriteCall) : Reachable (s.write c).2

theorem Reachable.putRows {s : Store} (h : s.Reachable) (name : String) (rows : List Row) :
    (rows.foldl (fun s r => s.putRow name r) s).Reachable := by
  induction rows generalizing s with
  | nil => exact h
  | cons r rest ih => exact ih (h.putRow name r)

theorem get?_of_index {s : Store} {name : String} {ix : StoredIndex}
    (h : s.index name = .ok ix) : s.indexes.get? name = some ix := by
  simp only [Store.index] at h
  split at h
  · next hget => exact Except.ok.inj h ▸ hget
  · simp at h

theorem get?_of_table {s : Store} {name : String} {t : StoredTable}
    (h : s.table name = .ok t) : s.tables.get? name = some t := by
  simp only [Store.table] at h
  split at h
  · next hget => exact Except.ok.inj h ▸ hget
  · simp at h

structure Ordered (s : Store) : Prop where
  rows {name : String} {t : StoredTable} (h : s.tables.get? name = some t) :
    StoredTable.Rising t.rows
  ids {name key : String} {ix : StoredIndex} {ids : List Int64}
    (h : s.indexes.get? name = some ix) (hk : Assoc.get? ix key = some ids) :
    ids.Pairwise (· < ·)

variable {s : Store}

theorem Ordered.setTable (h : s.Ordered) (name : String) {t : StoredTable}
    (ht : StoredTable.Rising t.rows) (faults : Faults) :
    Ordered ⟨s.tables.set name t, s.indexes, faults⟩ where
  rows {n u} hu := by
    rw [Assoc.get?_set] at hu
    split at hu
    · exact Option.some.inj hu ▸ ht
    · exact h.rows hu
  ids := h.ids

theorem Ordered.setIndex (h : s.Ordered) (name : String) {ix : StoredIndex}
    (hix : ∀ key ids, Assoc.get? ix key = some ids → ids.Pairwise (· < ·)) :
    Ordered { s with indexes := s.indexes.set name ix } where
  rows := h.rows
  ids {n key jx ids} hj hk := by
    rw [Assoc.get?_set] at hj
    split at hj
    · exact hix key ids (Option.some.inj hj ▸ hk)
    · exact h.ids hj hk

theorem rising_addEntry {ix : StoredIndex}
    (h : ∀ key ids, Assoc.get? ix key = some ids → ids.Pairwise (· < ·)) (key : String)
    (rowid : Int64) (name : String) (ids : List Int64)
    (hn : Assoc.get? (addEntry ix key rowid) name = some ids) : ids.Pairwise (· < ·) := by
  rw [addEntry, Assoc.get?_setSorted] at hn
  split at hn
  · obtain rfl := Option.some.inj hn
    cases hk : Assoc.get? ix key with
    | none => simp [insertId]
    | some old => exact rising_insertId (h key old hk) rowid
  · exact h name ids hn

theorem Ordered.write (h : s.Ordered) (c : WriteCall) : (s.write c).2.Ordered := by
  cases c with
  | insertRow table rowid record =>
    simp only [Store.write, Store.insertRow]
    split
    · exact ⟨h.rows, h.ids⟩
    · split
      · exact h
      · next t ht =>
        have hrows : StoredTable.Rising t.rows := h.rows (get?_of_table ht)
        split
        · exact h
        · split
          · exact h.setTable table (t := { t with collided := insertId rowid t.collided }) hrows _
          · exact h.setTable table (StoredTable.rising_insertRow hrows _) _
  | insertKey index key rowid unique =>
    simp only [Store.write, Store.insertKey]
    split
    · exact ⟨h.rows, h.ids⟩
    · split
      · exact h
      · next ix hix =>
        split
        · exact h
        · exact h.setIndex index
            (rising_addEntry (fun _ _ hk => h.ids (get?_of_index hix) hk) key rowid)
  | deleteKey index key =>
    simp only [Store.write, Store.deleteKey]
    split
    · exact h
    · next ix hix =>
      refine h.setIndex index fun name ids hn => ?_
      rw [Assoc.get?_erase] at hn
      split at hn
      · simp at hn
      · exact h.ids (get?_of_index hix) hn

theorem Reachable.ordered (h : s.Reachable) : s.Ordered := by
  induction h with
  | empty => exact ⟨fun h => by simp [Store.empty] at h, fun h => by simp [Store.empty] at h⟩
  | createTable _ name ih =>
    simp only [Store.createTable]
    split
    · exact ih
    · exact ih.setTable name (t := .empty) List.Pairwise.nil _
  | createIndex _ name ih =>
    simp only [Store.createIndex]
    split
    · exact ih
    · exact ih.setIndex name fun key ids hk => by simp at hk
  | @putRow s _ name r ih =>
    refine ih.setTable name (StoredTable.rising_insertRow ?_ r) _
    cases ht : Assoc.get? s.tables name with
    | none => exact List.Pairwise.nil
    | some t => exact ih.rows ht
  | @putKey s _ name key rowid ih =>
    refine ih.setIndex name (rising_addEntry (fun k ids hk => ?_) key rowid)
    cases hi : Assoc.get? s.indexes name with
    | none => simp [hi] at hk
    | some ix => exact ih.ids hi (by simpa [hi] using hk)
  | failRows _ kinds ih => exact ⟨ih.rows, ih.ids⟩
  | failKeys _ kinds ih => exact ⟨ih.rows, ih.ids⟩
  | collide _ count ih => exact ⟨ih.rows, ih.ids⟩
  | write _ c ih => exact ih.write c

end Store
end TableMill
