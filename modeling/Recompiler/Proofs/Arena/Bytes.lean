import Mathlib.Tactic.Lemma
import Recompiler.CodeArena

/-! The bytes of an arena as one flat list. What has been handed out is the part below the cursor: an
allocation appends zeros to it, a write replaces a part of it, and a region is a part of it. -/

namespace Recompiler

def splice {α : Type} (old : List α) (start : Nat) (new : List α) : List α :=
  old.take start ++ new ++ old.drop (start + new.length)

lemma getElem?_splice {α : Type} {old new : List α} {start : Nat}
    (h : start + new.length ≤ old.length) (i : Nat) :
    (splice old start new)[i]? =
      if start ≤ i then (new[i - start]?).or old[i]? else old[i]? := by
  have htake : (old.take start ++ new).length = start + new.length := by
    rw [List.length_append, List.length_take, Nat.min_eq_left (by omega)]
  rw [splice, List.getElem?_append, htake]
  grind

namespace CodeArena

variable {a b : CodeArena} {e : Entry} {len : UInt32} {data : List UInt8}

def used (a : CodeArena) : List UInt8 := (List.range a.cursor.toNat).map a.byteAt

lemma length_used (a : CodeArena) : a.used.length = a.cursor.toNat := by
  rw [used, List.length_map, List.length_range]

lemma getElem?_used (a : CodeArena) (i : Nat) :
    a.used[i]? = if i < a.cursor.toNat then some (a.byteAt i) else none := by
  rw [used, List.getElem?_map]
  split
  · rename_i h
    rw [List.getElem?_range h]
    rfl
  · rename_i h
    rw [List.getElem?_eq_none (by simpa using h)]
    rfl

lemma used_of_allocate (h : a.allocate len = .ok (e, b))
    (hcursor : b.cursor.toNat = a.cursor.toNat + len.toNat) :
    b.used = a.used ++ List.replicate len.toNat 0 := by
  have hbytes : b.byteAt = a.byteAt := funext (byteAt_of_allocate a h)
  have hfree : (List.range len.toNat).map (fun i => a.byteAt (a.cursor.toNat + i)) =
      List.replicate len.toNat 0 := by
    refine List.eq_replicate_iff.mpr ⟨by simp, fun byte hbyte => ?_⟩
    obtain ⟨i, -, rfl⟩ := List.mem_map.mp hbyte
    exact a.byteAt_of_cursor_le (Nat.le_add_right _ i)
  rw [used, hcursor, hbytes, List.range_add, List.map_append, List.map_map, ← hfree]
  rfl

lemma allocate_of_le (h : len ≤ a.freeSpace) : ∃ b, a.allocate len = .ok (a.current, b) ∧
    b.capacity = a.capacity ∧ b.generation = a.generation ∧
    b.cursor.toNat = a.cursor.toNat + len.toNat ∧
    b.used = a.used ++ List.replicate len.toNat 0 := by
  have hcursor := a.toNat_cursor_add h
  cases ha : a.allocate len with
  | error _ =>
    rw [allocate, dif_pos h] at ha
    cases ha
  | ok r =>
    have hused := used_of_allocate (e := r.1) (b := r.2) ha
    rw [allocate, dif_pos h] at ha
    cases ha
    exact ⟨_, rfl, rfl, rfl, hcursor, hused hcursor⟩

lemma id_of_allocate (h : a.allocate len = .ok (e, b)) : b.id = a.id := by
  rw [allocate] at h
  split at h <;> cases h
  rfl

lemma writes_of_allocate (h : a.allocate len = .ok (e, b)) : b.writes = a.writes := by
  rw [allocate] at h
  split at h <;> cases h
  rfl

lemma allocate_of_lt (h : a.freeSpace < len) : a.allocate len = .error ⟨len, a.freeSpace⟩ := by
  rw [allocate, dif_neg (UInt32.not_le.mpr h)]

lemma allocate_zero (a : CodeArena) : a.allocate 0 = .ok (a.current, a) := by
  rw [allocate, dif_pos UInt32.zero_le]
  cases a
  simp only [UInt32.add_zero]

lemma isLive_current (a : CodeArena) : a.isLive a.current = false :=
  Bool.eq_false_iff.mpr fun hlive => Nat.lt_irrefl _ ((a.isLive_iff _).mp hlive).2

lemma used_of_write? (h : a.write? e len data = some b) (hcursor : b.cursor = a.cursor)
    (hholds : a.Holds e len) :
    b.used = splice a.used e.offset.toNat (data.take len.toNat) := by
  refine List.ext_getElem? fun i => ?_
  have hbound := hholds.2
  rw [getElem?_used, hcursor, byteAt_of_write? a h, getElem?_splice (by
    rw [length_used, List.length_take]
    omega), getElem?_used, Write.byteAt?]
  grind

lemma write?_of_holds (h : a.Holds e len) (data : List UInt8) : ∃ b, a.write? e len data = some b ∧
    b.capacity = a.capacity ∧ b.generation = a.generation ∧ b.cursor = a.cursor ∧
    b.used = splice a.used e.offset.toNat (data.take len.toNat) := by
  cases ha : a.write? e len data with
  | none =>
    rw [write?, dif_pos h] at ha
    cases ha
  | some b =>
    have hused := used_of_write? ha
    rw [write?, dif_pos h] at ha
    cases ha
    exact ⟨_, rfl, rfl, rfl, rfl, hused rfl h⟩

lemma region?_of_not_holds (h : ¬ a.Holds e len) : a.region? e len = none := by
  rw [region?, if_neg h]

lemma write?_of_not_holds (h : ¬ a.Holds e len) (data : List UInt8) :
    a.write? e len data = none := by
  rw [write?, dif_neg h]

lemma not_holds_of_generation (h : e.generation ≠ a.generation) (len : UInt32) : ¬ a.Holds e len :=
  fun hh => h (a.isLive_iff e |>.mp hh.1).1

end CodeArena

end Recompiler
