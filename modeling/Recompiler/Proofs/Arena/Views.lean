import Mathlib.Data.List.SplitLengths
import Recompiler.Proofs.Arena.Units

/-! Views of a unit through its entry, of any length and behind any writes. The arena knows where its
cursor is and not where the unit ends, so a view is granted as far as there are units behind it. One
that stays in its unit changes no other one, and none changes an earlier one. -/

namespace Recompiler.CodeArena

inductive Step where
  | allocate (len : UInt32)
  | reset
  | write (e : Entry) (len : UInt32) (data : List UInt8)

variable {a b : CodeArena} {e : Entry} {len : UInt32} {data : List UInt8}

lemma isSome_region?_iff : (a.region? e len).isSome = true ↔ a.Holds e len := by
  rw [region?]
  split <;> simp [*]

lemma isSome_write?_iff : (a.write? e len data).isSome = true ↔ a.Holds e len := by
  rw [write?]
  split <;> simp [*]

lemma byteAt_of_write?_of_outside (h : a.write? e len data = some b) {i : Nat}
    (outside : i < e.offset.toNat ∨ e.offset.toNat + len.toNat ≤ i) : b.byteAt i = a.byteAt i := by
  have hnone : (Write.mk e.offset.toNat (data.take len.toNat).toArray).byteAt? i = none := by
    rcases outside with before | behind
    · exact if_neg (Nat.not_le.mpr before)
    · apply Write.byteAt?_eq_none
      simp only [Write.bound, List.size_toArray, List.length_take]
      omega
  rw [byteAt_of_write? a h, hnone, Option.getD_none]

lemma region?_congr (hgen : b.generation = a.generation) (hcursor : b.cursor = a.cursor)
    (hbytes : ∀ i, e.offset.toNat ≤ i → i < e.offset.toNat + len.toNat → b.byteAt i = a.byteAt i) :
    b.region? e len = a.region? e len := by
  have hholds : b.Holds e len ↔ a.Holds e len := by
    rw [Holds, Holds, isLive_iff, isLive_iff, hgen, hcursor]
  rw [region?, region?, if_congr hholds (congrArg some (List.map_congr_left ?_)) rfl]
  intro i hi
  exact hbytes _ (Nat.le_add_right _ _) (Nat.add_lt_add_left (List.mem_range.mp hi) _)

namespace Tenancy

def step (s : Tenancy) : Step → Tenancy
  | .allocate len => s.serve (.allocate len)
  | .reset => s.serve .reset
  | .write e len data => { s with arena := (s.arena.write? e len data).getD s.arena }

def behind (s : Tenancy) (k : Nat) : Nat := ((s.units.drop (k + 1)).map (·.size.toNat)).sum

namespace Stores

variable {capacity : UInt32} {s : Tenancy} {held : Contents} {j k : Nat} {unit other : Reservation}
  (h : s.Stores capacity held)
include h

-- A write may run over the ends of units, so what they hold is cut anew.
lemma exists_write (e : Entry) (len : UInt32) (data : List UInt8) :
    ∃ held', (s.step (.write e len data)).Stores capacity held' := by
  by_cases hholds : s.arena.Holds e len
  · obtain ⟨b, hb, hcap, hgen, hcursor, -⟩ := write?_of_holds hholds data
    have hlen : b.used.length = (s.units.map (·.size.toNat)).sum := by
      rw [length_used, hcursor, h.sum_sizes]
    rw [step, hb, Option.getD_some]
    refine ⟨(s.units.map (·.size.toNat)).splitLengths b.used, hcap.trans h.capacity, ?_, ?_, ?_⟩
    · exact (List.map_splitLengths_length _ _ (Nat.le_of_eq hlen.symm)).symm
    · intro k unit hunit
      exact ⟨(h.placed hunit).1.trans hgen.symm, (h.placed hunit).2⟩
    · exact (List.flatten_splitLengths _ _ (Nat.le_of_eq hlen)).symm
  · rw [step, write?_of_not_holds hholds, Option.getD_none]
    exact ⟨held, h⟩

lemma exists_step (step : Step) : ∃ held', (s.step step).Stores capacity held' := by
  cases step with
  | allocate len => exact ⟨_, h.allocate len⟩
  | reset => exact ⟨_, h.reset⟩
  | write e len data => exact h.exists_write e len data

lemma exists_foldl_step (steps : List Step) : ∃ held', (steps.foldl step s).Stores capacity held' := by
  induction steps generalizing s held with
  | nil => exact ⟨held, h⟩
  | cons step steps ih =>
    obtain ⟨held', h'⟩ := h.exists_step step
    exact ih h'

lemma cursor_eq_add (hunit : s.units[k]? = some unit) :
    s.arena.cursor.toNat = unit.entry.offset.toNat + (unit.size.toNat + s.behind k) := by
  obtain ⟨hk, hget⟩ := List.getElem?_eq_some_iff.mp hunit
  have hunits : s.units = s.units.take k ++ unit :: s.units.drop (k + 1) := by
    rw [← hget, ← List.drop_eq_getElem_cons hk, List.take_append_drop]
  have hsum := congrArg (fun units => (units.map (·.size.toNat)).sum) hunits
  simp only [List.map_append, List.sum_append, List.map_cons, List.sum_cons] at hsum
  rw [← h.sum_sizes, (h.placed hunit).2, hsum, behind]

lemma holds_iff (hunit : s.units[k]? = some unit) (hpos : 0 < unit.size) (len : UInt32) :
    s.arena.Holds unit.entry len ↔ len.toNat ≤ unit.size.toNat + s.behind k := by
  have hcursor := h.cursor_eq_add hunit
  have hlive := (h.holds hunit hpos (UInt32.le_refl _)).1
  constructor
  · intro hholds
    have hend := hholds.2
    omega
  · intro hle
    exact ⟨hlive, by omega⟩

lemma apart (hunit : s.units[k]? = some unit) (hother : s.units[j]? = some other) (hlt : j < k) :
    other.entry.offset.toNat + other.size.toNat ≤ unit.entry.offset.toNat := by
  obtain ⟨hk, rfl⟩ := List.getElem?_eq_some_iff.mp hunit
  obtain ⟨hj, rfl⟩ := List.getElem?_eq_some_iff.mp hother
  exact List.pairwise_iff_getElem.mp h.disjoint j k hj hk hlt

lemma region?_of_write? (hunit : s.units[k]? = some unit) (hother : s.units[j]? = some other)
    (spared : j < k ∨ len ≤ unit.size ∧ j ≠ k) (hb : s.arena.write? unit.entry len data = some b) :
    b.region? other.entry other.size = s.arena.region? other.entry other.size := by
  have hholds : s.arena.Holds unit.entry len := isSome_write?_iff.mp (Option.isSome_of_eq_some hb)
  obtain ⟨b', hb', -, hgen, hcursor, -⟩ := write?_of_holds hholds data
  cases hb.symm.trans hb'
  refine region?_congr hgen hcursor fun i hle hlt => byteAt_of_write?_of_outside hb ?_
  rcases Nat.lt_or_ge j k with before | behind
  · have hapart := h.apart hunit hother before
    omega
  · obtain ⟨hlen, hne⟩ := spared.resolve_left (Nat.not_lt.mpr behind)
    have hapart := h.apart hother hunit (Nat.lt_of_le_of_ne behind hne.symm)
    have hlen := UInt32.le_iff_toNat_le.mp hlen
    omega

end Stores

end Tenancy

/-- Whatever has been allocated, taken back and written, a view through the entry of a unit is
granted, to read as to write, as far as the cursor: over the unit itself and all units behind it. What
is written through it stays in the view, so that it changes no earlier unit, and no other unit at all
if the view is no longer than its own. -/
theorem views_reach_to_cursor (supply : Supply) (capacity : UInt32) (steps : List Step) :
    let s := steps.foldl Tenancy.step (.created supply capacity)
    ∀ (k : Nat) (unit : Reservation), s.units[k]? = some unit → 0 < unit.size →
      (∀ len,
        ((s.arena.region? unit.entry len).isSome = true ↔
          len.toNat ≤ unit.size.toNat + s.behind k) ∧
        ∀ data, (s.arena.write? unit.entry len data).isSome = true ↔
          len.toNat ≤ unit.size.toNat + s.behind k) ∧
      ∀ len data b, s.arena.write? unit.entry len data = some b →
        (∀ i, i < unit.entry.offset.toNat ∨ unit.entry.offset.toNat + len.toNat ≤ i →
          b.byteAt i = s.arena.byteAt i) ∧
        ∀ (j : Nat) (other : Reservation), s.units[j]? = some other →
          j < k ∨ len ≤ unit.size ∧ j ≠ k →
          b.region? other.entry other.size = s.arena.region? other.entry other.size := by
  intro s k unit hunit hpos
  obtain ⟨held, h⟩ := (stores_created supply capacity).exists_foldl_step steps
  refine ⟨fun len => ⟨?_, fun data => ?_⟩, fun len data b hb => ⟨fun i => ?_, ?_⟩⟩
  · exact isSome_region?_iff.trans (h.holds_iff hunit hpos len)
  · exact isSome_write?_iff.trans (h.holds_iff hunit hpos len)
  · exact byteAt_of_write?_of_outside hb
  · intro j other hother spared
    exact h.region?_of_write? hunit hother spared hb

theorem views_reach_to_cursor_three :
    let steps : List Step := [.allocate 4, .reset, .allocate 2, .allocate 0, .allocate 3,
      .write ⟨0, 1⟩ 4 [5, 6, 7, 8]]
    let s := steps.foldl Tenancy.step (.created {} 8)
    s.units = [⟨⟨0, 1⟩, 2⟩, ⟨⟨2, 1⟩, 0⟩, ⟨⟨2, 1⟩, 3⟩] ∧
      (s.arena.region? ⟨0, 1⟩ 5).isSome = true ∧ ¬ (s.arena.region? ⟨0, 1⟩ 6).isSome = true ∧
      ∃ b, s.arena.write? ⟨0, 1⟩ 2 [1, 1] = some b ∧
        b.region? ⟨2, 1⟩ 3 = s.arena.region? ⟨2, 1⟩ 3 := by
  intro steps s
  obtain ⟨hgrant, hwrite⟩ := views_reach_to_cursor {} 8 steps 0 ⟨⟨0, 1⟩, 2⟩ (by decide) (by decide)
  obtain ⟨b, hb⟩ := Option.isSome_iff_exists.mp (((hgrant 2).2 [1, 1]).mpr (by decide))
  refine ⟨by decide, (hgrant 5).1.mpr (by decide), mt (hgrant 6).1.mp (by decide), b, hb, ?_⟩
  exact (hwrite 2 [1, 1] b hb).2 2 ⟨⟨2, 1⟩, 3⟩ (by decide) (.inr (by decide))

theorem view_runs_over_next_unit :
    let s := [Step.allocate 2, .allocate 2].foldl Tenancy.step (.created {} 8)
    s.units = [⟨⟨0, 0⟩, 2⟩, ⟨⟨2, 0⟩, 2⟩] ∧
      ¬ (∀ len, (s.arena.region? ⟨0, 0⟩ len).isSome = true ↔ len ≤ 2) ∧
      ¬ (∀ len data, (s.arena.write? ⟨0, 0⟩ len data).isSome = true ↔ len ≤ 2) ∧
      ∃ b, s.arena.write? ⟨0, 0⟩ 3 [7, 7, 7] = some b ∧
        s.arena.region? ⟨2, 0⟩ 2 = some [0, 0] ∧ b.region? ⟨2, 0⟩ 2 = some [7, 0] := by
  intro s
  refine ⟨by decide, fun within => ?_, fun within => ?_, _, rfl, by decide, by decide⟩
  · exact absurd ((within 3).mp (by decide)) (by decide)
  · exact absurd ((within 3 [7, 7, 7]).mp (by decide)) (by decide)

end Recompiler.CodeArena
