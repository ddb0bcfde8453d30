import Mathlib.Algebra.GroupWithZero.Nat
import Recompiler.Proofs.Arena.Bytes

/-! An arena as a store of units that have nothing to do with each other. `Contents` keeps the bytes of
every unit since the last reset and knows of no addresses; whatever is asked of the arena, the region
of a unit shows the bytes that `Contents` has for it. -/

namespace Recompiler.CodeArena

structure Reservation where
  entry : Entry
  size : UInt32
  deriving DecidableEq

inductive Request where
  | allocate (len : UInt32)
  | reset
  /-- Through the entry of a unit, which goes by its number since the last reset. -/
  | write (unit : Nat) (len : UInt32) (data : List UInt8)
  | writeStale (e : Entry) (len : UInt32) (data : List UInt8)

structure Tenancy where
  arena : CodeArena
  units : List Reservation := []

def Tenancy.created (supply : Supply) (capacity : UInt32) : Tenancy :=
  ⟨(supply.create capacity).1, []⟩

/-- A unit may be written up to its size; other writes are not made. -/
def Tenancy.serve (s : Tenancy) : Request → Tenancy
  | .allocate len =>
    match s.arena.allocate len with
    | .ok (entry, arena) => ⟨arena, s.units ++ [⟨entry, len⟩]⟩
    | .error _ => s
  | .reset => ⟨s.arena.reset, []⟩
  | .write k len data =>
    match s.units[k]? with
    | some unit =>
      if len ≤ unit.size then { s with arena := (s.arena.write? unit.entry len data).getD s.arena }
      else s
    | none => s
  | .writeStale e len data =>
    if e.generation = s.arena.generation then s
    else { s with arena := (s.arena.write? e len data).getD s.arena }

def overwrite (old new : List UInt8) : List UInt8 := new ++ old.drop new.length

lemma length_overwrite {old new : List UInt8} (h : new.length ≤ old.length) :
    (overwrite old new).length = old.length := by
  rw [overwrite, List.length_append, List.length_drop]
  omega

abbrev Contents := List (List UInt8)

def Contents.serve (capacity : Nat) (held : Contents) : Request → Contents
  | .allocate len =>
    if held.flatten.length + len.toNat ≤ capacity then held ++ [List.replicate len.toNat 0]
    else held
  | .reset => []
  | .write k len data => held.modify k fun old =>
    if len.toNat ≤ old.length then overwrite old (data.take len.toNat) else old
  | .writeStale _ _ _ => held

/-- The units stand for what the contents say, one behind the other from the start of the arena. -/
structure Tenancy.Stores (capacity : UInt32) (s : Tenancy) (held : Contents) : Prop where
  capacity : s.arena.capacity = capacity
  sizes : s.units.map (·.size.toNat) = held.map List.length
  placed {k : Nat} {unit : Reservation} : s.units[k]? = some unit →
    unit.entry.generation = s.arena.generation ∧
      unit.entry.offset.toNat = ((s.units.take k).map (·.size.toNat)).sum
  used : s.arena.used = held.flatten

namespace Contents

variable {held : Contents} {k : Nat} {old : List UInt8}

lemma flatten_modify (h : held[k]? = some old) (f : List UInt8 → List UInt8) :
    (held.modify k f).flatten = (held.take k).flatten ++ f old ++ (held.drop (k + 1)).flatten := by
  obtain ⟨hk, rfl⟩ := List.getElem?_eq_some_iff.mp h
  rw [List.modify_eq_take_cons_drop hk, List.flatten_append, List.flatten_cons, List.append_assoc]

lemma flatten_eq (h : held[k]? = some old) :
    held.flatten = (held.take k).flatten ++ old ++ (held.drop (k + 1)).flatten := by
  obtain ⟨hk, rfl⟩ := List.getElem?_eq_some_iff.mp h
  calc held.flatten = (held.take k ++ held.drop k).flatten := by rw [List.take_append_drop]
    _ = _ := by
      rw [List.drop_eq_getElem_cons hk, List.flatten_append, List.flatten_cons, List.append_assoc]

lemma splice_flatten (h : held[k]? = some old) {new : List UInt8} (hnew : new.length ≤ old.length) :
    splice held.flatten (held.take k).flatten.length new =
      (held.take k).flatten ++ overwrite old new ++ (held.drop (k + 1)).flatten := by
  rw [flatten_eq h, splice, overwrite]
  simp only [List.append_assoc, List.take_left, List.drop_length_add_append,
    List.drop_append_of_le_length hnew]

lemma modify_eq_self {f : List UInt8 → List UInt8}
    (h : ∀ old, held[k]? = some old → f old = old) : held.modify k f = held := by
  refine List.ext_getElem? fun i => ?_
  rw [List.getElem?_modify]
  cases hc : held[i]? with
  | none => rfl
  | some old =>
    refine congrArg some ?_
    dsimp only
    split
    · rename_i hi
      exact h old (hi ▸ hc)
    · rfl

lemma map_length_modify {f : List UInt8 → List UInt8} (h : ∀ old, (f old).length = old.length) :
    (held.modify k f).map List.length = held.map List.length := by
  refine List.ext_getElem? fun i => ?_
  rw [List.getElem?_map, List.getElem?_map, List.getElem?_modify]
  cases held[i]? with
  | none => rfl
  | some old =>
    refine congrArg some ?_
    dsimp only
    split
    · exact h old
    · rfl

end Contents

namespace Tenancy.Stores

variable {capacity : UInt32} {s : Tenancy} {held : Contents} {k : Nat} {unit : Reservation}
  (h : s.Stores capacity held)
include h

lemma size_eq (hunit : s.units[k]? = some unit) :
    ∃ bytes, held[k]? = some bytes ∧ bytes.length = unit.size.toNat := by
  have hk := congrArg (·[k]?) h.sizes
  simp only [List.getElem?_map, hunit, Option.map_some] at hk
  exact Option.map_eq_some_iff.mp hk.symm

lemma length_eq : s.units.length = held.length := by
  simpa using congrArg List.length h.sizes

lemma cursor_eq : s.arena.cursor.toNat = held.flatten.length := by
  rw [← length_used, h.used]

lemma sum_sizes : (s.units.map (·.size.toNat)).sum = s.arena.cursor.toNat := by
  rw [h.sizes, h.cursor_eq, List.length_flatten]

lemma offset_eq (hunit : s.units[k]? = some unit) :
    unit.entry.offset.toNat = (held.take k).flatten.length := by
  rw [(h.placed hunit).2, List.length_flatten, List.map_take, List.map_take, h.sizes]

lemma placed_within (hunit : s.units[k]? = some unit) :
    unit.entry.offset.toNat + unit.size.toNat ≤ s.arena.cursor.toNat := by
  obtain ⟨bytes, hbytes, hlen⟩ := h.size_eq hunit
  rw [h.offset_eq hunit, h.cursor_eq, Contents.flatten_eq hbytes]
  simp only [List.length_append]
  omega

lemma holds (hunit : s.units[k]? = some unit) (hpos : 0 < unit.size) {len : UInt32}
    (hlen : len ≤ unit.size) : s.arena.Holds unit.entry len := by
  have hwithin := h.placed_within hunit
  have hpos := UInt32.lt_iff_toNat_lt.mp hpos
  have hlen := UInt32.le_iff_toNat_le.mp hlen
  refine ⟨(s.arena.isLive_iff _).mpr ⟨(h.placed hunit).1, ?_⟩, ?_⟩
  · rw [UInt32.toNat_zero] at hpos
    omega
  · omega

lemma le_freeSpace_iff (len : UInt32) :
    len ≤ s.arena.freeSpace ↔ held.flatten.length + len.toNat ≤ capacity.toNat := by
  have hfree := s.arena.cursor_add_freeSpace
  rw [h.cursor_eq, h.capacity] at hfree
  rw [UInt32.le_iff_toNat_le]
  omega

lemma allocate (len : UInt32) :
    (s.serve (.allocate len)).Stores capacity (held.serve capacity.toNat (.allocate len)) := by
  by_cases hle : len ≤ s.arena.freeSpace
  · obtain ⟨b, hb, hcap, hgen, -, hused⟩ := allocate_of_le hle
    rw [Tenancy.serve, hb, Contents.serve, if_pos ((h.le_freeSpace_iff len).mp hle)]
    refine ⟨hcap.trans h.capacity, ?_, ?_, ?_⟩
    · simp only [List.map_append, h.sizes, List.map_cons, List.map_nil, List.length_replicate]
    · intro k unit hunit
      rcases Nat.lt_or_ge k s.units.length with hk | hk
      · rw [List.getElem?_append_left hk] at hunit
        rw [List.take_append_of_le_length (Nat.le_of_lt hk)]
        exact ⟨(h.placed hunit).1.trans hgen.symm, (h.placed hunit).2⟩
      · rw [List.getElem?_append_right hk] at hunit
        rw [List.getElem?_singleton, Option.ite_none_right_eq_some] at hunit
        obtain ⟨hlast, hunit⟩ := hunit
        cases hunit
        rw [List.take_append_of_le_length (Nat.le_of_sub_eq_zero hlast), List.take_of_length_le hk,
          h.sum_sizes]
        exact ⟨hgen.symm, rfl⟩
    · rw [hused, h.used, List.flatten_append, List.flatten_singleton]
  · have hlt := UInt32.not_le.mp hle
    rw [Tenancy.serve, allocate_of_lt hlt, Contents.serve,
      if_neg (mt (h.le_freeSpace_iff len).mpr hle)]
    exact h

lemma reset : (s.serve .reset).Stores capacity (held.serve capacity.toNat .reset) where
  capacity := h.capacity
  sizes := rfl
  placed hunit := by simp [Tenancy.serve] at hunit
  used := rfl

lemma spliced (hunit : s.units[k]? = some unit) {old new : List UInt8} (hold : held[k]? = some old)
    (hnew : new.length ≤ old.length) {f : List UInt8 → List UInt8} (hf : f old = overwrite old new)
    (hlength : ∀ old, (f old).length = old.length) {b : CodeArena}
    (hcap : b.capacity = s.arena.capacity) (hgen : b.generation = s.arena.generation)
    (hused : b.used = splice s.arena.used unit.entry.offset.toNat new) :
    Tenancy.Stores capacity { s with arena := b } (held.modify k f) where
  capacity := hcap.trans h.capacity
  sizes := h.sizes.trans (Contents.map_length_modify hlength).symm
  placed hu := ⟨(h.placed hu).1.trans hgen.symm, (h.placed hu).2⟩
  used := by
    rw [Contents.flatten_modify hold, hf, ← Contents.splice_flatten hold hnew, ← h.offset_eq hunit,
      ← h.used]
    exact hused

lemma write (k : Nat) (len : UInt32) (data : List UInt8) :
    (s.serve (.write k len data)).Stores capacity
      (held.serve capacity.toNat (.write k len data)) := by
  have hnew {old : List UInt8} (hle : len.toNat ≤ old.length) :
      (data.take len.toNat).length ≤ old.length := by
    rw [List.length_take]
    omega
  rw [Tenancy.serve, Contents.serve]
  cases hunit : s.units[k]? with
  | none =>
    have hc : held[k]? = none := by
      rw [List.getElem?_eq_none_iff] at hunit ⊢
      rwa [← h.length_eq]
    rw [Contents.modify_eq_self (by simp [hc])]
    exact h
  | some unit =>
    obtain ⟨old, hold, hlen⟩ := h.size_eq hunit
    dsimp only
    split
    · rename_i hle
      have hle' : len.toNat ≤ old.length := hlen ▸ UInt32.le_iff_toNat_le.mp hle
      by_cases hholds : s.arena.Holds unit.entry len
      · obtain ⟨b, hb, hcap, hgen, -, hused⟩ := write?_of_holds hholds data
        rw [hb]
        refine h.spliced hunit hold (hnew hle') ?_ (fun old => ?_) hcap hgen hused
        · exact if_pos hle'
        · split
          · rename_i hle
            exact length_overwrite (hnew hle)
          · rfl
      · -- Only a unit without bytes is not live.
        have hempty : unit.size ≤ 0 :=
          UInt32.not_lt.mp fun hpos => hholds (h.holds hunit hpos hle)
        have hsize : len.toNat = 0 :=
          Nat.le_zero.mp (UInt32.le_iff_toNat_le.mp (UInt32.le_trans hle hempty))
        rw [write?_of_not_holds hholds, Contents.modify_eq_self (by simp [hsize, overwrite])]
        exact h
    · rename_i hlt
      have hlt' : ¬ len.toNat ≤ old.length := hlen ▸ mt UInt32.le_iff_toNat_le.mpr hlt
      rw [Contents.modify_eq_self (by simp [hold, hlt'])]
      exact h

lemma writeStale (e : Entry) (len : UInt32) (data : List UInt8) :
    (s.serve (.writeStale e len data)).Stores capacity
      (held.serve capacity.toNat (.writeStale e len data)) := by
  rw [Tenancy.serve, Contents.serve]
  split
  · exact h
  · rename_i hgen
    rw [write?_of_not_holds (not_holds_of_generation hgen len)]
    exact h

lemma serve : ∀ r, (s.serve r).Stores capacity (held.serve capacity.toNat r)
  | .allocate len => h.allocate len
  | .reset => h.reset
  | .write k len data => h.write k len data
  | .writeStale e len data => h.writeStale e len data

lemma run (rs : List Request) :
    (rs.foldl Tenancy.serve s).Stores capacity (rs.foldl (Contents.serve capacity.toNat) held) := by
  induction rs generalizing s held with
  | nil => exact h
  | cons r rs ih => exact ih (h.serve r)

lemma disjoint : s.units.Pairwise fun u v =>
    u.entry.offset.toNat + u.size.toNat ≤ v.entry.offset.toNat := by
  refine List.pairwise_iff_getElem.mpr fun i j hi hj hij => ?_
  rw [(h.placed (List.getElem?_eq_getElem hi)).2, (h.placed (List.getElem?_eq_getElem hj)).2]
  calc ((s.units.take i).map (·.size.toNat)).sum + s.units[i].size.toNat
      = ((s.units.take (i + 1)).map (·.size.toNat)).sum := by
        rw [List.take_succ_eq_append_getElem hi, List.map_append, List.sum_append]
        simp
    _ = (((s.units.take j).take (i + 1)).map (·.size.toNat)).sum := by
        rw [List.take_take, Nat.min_eq_left hij]
    _ ≤ (((s.units.take j).take (i + 1)).map (·.size.toNat)).sum +
        (((s.units.take j).drop (i + 1)).map (·.size.toNat)).sum := Nat.le_add_right _ _
    _ = ((s.units.take j).map (·.size.toNat)).sum := by
        rw [← List.sum_append, ← List.map_append, List.take_append_drop]

end Tenancy.Stores

lemma stores_created (supply : Supply) (capacity : UInt32) :
    (Tenancy.created supply capacity).Stores capacity [] where
  capacity := rfl
  sizes := rfl
  placed hunit := by simp [Tenancy.created] at hunit
  used := rfl

end Recompiler.CodeArena
