import Recompiler.Proofs.Arena.Bytes

/-! Entries across resets. The generation of an arena is a word: it tells an entry from all later ones
until it has come round, 2 ^ 32 resets on. -/

namespace Recompiler.CodeArena

inductive Move where
  | allocate (len : UInt32)
  | current
  | reset
  deriving DecidableEq

def move (a : CodeArena) : Move → CodeArena
  | .allocate len =>
    match a.allocate len with
    | .ok (_, b) => b
    | .error _ => a
  | .current => a
  | .reset => a.reset

def handOut? (a : CodeArena) : Move → Option Entry
  | .allocate len =>
    match a.allocate len with
    | .ok (e, _) => some e
    | .error _ => none
  | .current => some a.current
  | .reset => none

def after (a : CodeArena) (ms : List Move) : CodeArena := ms.foldl move a

def resets (ms : List Move) : Nat := ms.count .reset

structure Dead (a : CodeArena) (e : Entry) : Prop where
  not_live : a.isLive e = false
  refused (len : UInt32) (data : List UInt8) :
    a.region? e len = none ∧ a.write? e len data = none
  not_handed (m : Move) : a.handOut? m ≠ some e

variable {a : CodeArena} {e : Entry} {m : Move} {ms : List Move}

lemma move_allocate_cases (a : CodeArena) (len : UInt32) :
    (∃ b, a.allocate len = .ok (a.current, b) ∧ a.move (.allocate len) = b ∧
      b.capacity = a.capacity ∧ b.generation = a.generation ∧
      b.cursor.toNat = a.cursor.toNat + len.toNat) ∨
    a.handOut? (.allocate len) = none ∧ a.move (.allocate len) = a := by
  by_cases h : len ≤ a.freeSpace
  · obtain ⟨b, hb, hcap, hgen, hcursor, -⟩ := allocate_of_le h
    exact Or.inl ⟨b, hb, by rw [move, hb], hcap, hgen, hcursor⟩
  · have hb := allocate_of_lt (UInt32.not_le.mp h)
    exact Or.inr ⟨by rw [handOut?, hb], by rw [move, hb]⟩

lemma eq_current_of_handOut? (h : a.handOut? m = some e) : e = a.current := by
  cases m with
  | allocate len =>
    rcases a.move_allocate_cases len with ⟨b, hb, -⟩ | ⟨hnone, -⟩
    · rw [handOut?, hb] at h
      cases h
      rfl
    · rw [hnone] at h
      cases h
  | current =>
    cases h
    rfl
  | reset => cases h

lemma generation_move_allocate (a : CodeArena) (len : UInt32) :
    (a.move (.allocate len)).generation = a.generation := by
  rcases a.move_allocate_cases len with ⟨b, -, hb, -, hgen, -⟩ | ⟨-, hb⟩
  · rw [hb, hgen]
  · rw [hb]

lemma toNat_generation_after (a : CodeArena) (ms : List Move) :
    (a.after ms).generation.toNat = (a.generation.toNat + resets ms) % UInt32.size := by
  induction ms generalizing a with
  | nil => exact (Nat.mod_eq_of_lt a.generation.toNat_lt).symm
  | cons m ms ih =>
    rw [after, List.foldl_cons, ← after, ih]
    cases m with
    | allocate len =>
      rw [generation_move_allocate]
      rfl
    | current => rfl
    | reset =>
      have hcount : resets (.reset :: ms) = resets ms + 1 := List.count_cons_self
      rw [hcount, move, generation_reset, UInt32.toNat_add, UInt32.toNat_one]
      simp only [UInt32.size]
      omega

lemma generation_after_eq_iff (a : CodeArena) (ms : List Move) :
    (a.after ms).generation = a.generation ↔ UInt32.size ∣ resets ms := by
  have hlt := a.generation.toNat_lt
  rw [← UInt32.toNat_inj, toNat_generation_after]
  simp only [UInt32.size]
  omega

lemma dead_of_generation (h : e.generation ≠ a.generation) : a.Dead e where
  not_live := Bool.eq_false_iff.mpr fun hlive => h ((a.isLive_iff e).mp hlive).1
  refused len data := by
    have hholds := not_holds_of_generation h len
    exact ⟨region?_of_not_holds hholds, write?_of_not_holds hholds data⟩
  not_handed m hm := h (congrArg Entry.generation (eq_current_of_handOut? hm))

lemma generation_move_of_handOut? (h : a.handOut? m = some e) :
    e.generation = (a.move m).generation := by
  rw [eq_current_of_handOut? h]
  cases m with
  | allocate len => exact (a.generation_move_allocate len).symm
  | current => rfl
  | reset => cases h

lemma after_append (a : CodeArena) (ms ms' : List Move) :
    a.after (ms ++ ms') = (a.after ms).after ms' := List.foldl_append

lemma after_resets (a : CodeArena) (n : Nat) :
    (a.after (List.replicate (n + 1) .reset)).cursor = 0 ∧
      (a.after (List.replicate (n + 1) .reset)).capacity = a.capacity := by
  induction n generalizing a with
  | zero => exact ⟨rfl, rfl⟩
  | succ n ih => exact ih a.reset

lemma isLive_iff_of_dvd (handed : a.handOut? m = some e) (hdvd : UInt32.size ∣ resets ms) :
    ((a.move m).after ms).isLive e = true ↔ e.offset < ((a.move m).after ms).cursor := by
  have hgen := (generation_after_eq_iff (a.move m) ms).mpr hdvd
  rw [isLive, hgen, generation_move_of_handOut? handed, beq_self_eq_true, Bool.true_and,
    decide_eq_true_iff]

lemma handOut?_current_iff_of_dvd (handed : a.handOut? m = some e)
    (hdvd : UInt32.size ∣ resets ms) :
    ((a.move m).after ms).handOut? .current = some e ↔
      ((a.move m).after ms).cursor = e.offset := by
  have hgen := (generation_after_eq_iff (a.move m) ms).mpr hdvd
  rw [handOut?, current, hgen, ← generation_move_of_handOut? handed, Option.some_inj]
  constructor
  · intro h
    exact congrArg Entry.offset h
  · intro h
    rw [h]

lemma offset_le_of_handOut? (handed : a.handOut? m = some e) : e.offset ≤ (a.move m).cursor := by
  rw [eq_current_of_handOut? handed]
  cases m with
  | allocate len =>
    rcases a.move_allocate_cases len with ⟨b, -, hb, -, -, hcursor⟩ | ⟨-, hb⟩
    · rw [hb, UInt32.le_iff_toNat_le, hcursor]
      exact Nat.le_add_right _ _
    · rw [hb]
      exact UInt32.le_refl _
  | current => exact UInt32.le_refl _
  | reset => cases handed

lemma capacity_move (a : CodeArena) (m : Move) : (a.move m).capacity = a.capacity := by
  cases m with
  | allocate len =>
    rcases a.move_allocate_cases len with ⟨b, -, hb, hcap, -⟩ | ⟨-, hb⟩
    · rw [hb, hcap]
    · rw [hb]
  | current => rfl
  | reset => rfl

def rewind (n : Nat) (offset : UInt32) : List Move :=
  List.replicate (n + 1) .reset ++ [.allocate offset]

lemma resets_rewind (n : Nat) (offset : UInt32) : resets (rewind n offset) = n + 1 := by
  simp [resets, rewind]

lemma cursor_rewind (n : Nat) {offset : UInt32} (h : offset ≤ a.capacity) :
    (a.after (rewind n offset)).cursor = offset := by
  obtain ⟨hcursor, hcap⟩ := a.after_resets n
  have hfree : (a.after (List.replicate (n + 1) .reset)).freeSpace = a.capacity := by
    rw [freeSpace, hcursor, hcap, UInt32.sub_zero]
  obtain ⟨b, hb, -, -, hnext, -⟩ := allocate_of_le (hfree ▸ h)
  have hmove : (a.after (List.replicate (n + 1) .reset)).move (.allocate offset) = b := by
    rw [move, hb]
  rw [rewind, after_append, after, List.foldl_cons, List.foldl_nil, hmove, ← UInt32.toNat_inj,
    hnext, hcursor, UInt32.toNat_zero, Nat.zero_add]

/-- An entry is dead after so many resets, whatever else is done, exactly if they do not bring the
generation round. If they do, it is live again once the cursor has passed it, and the arena hands it
out again where the cursor is at its offset. -/
theorem dead_iff_not_dvd (handed : a.handOut? m = some e) :
    (∀ r, (∀ ms, resets ms = r → ((a.move m).after ms).Dead e) ↔ ¬ UInt32.size ∣ r) ∧
    ∀ ms, UInt32.size ∣ resets ms →
      (((a.move m).after ms).isLive e = true ↔ e.offset < ((a.move m).after ms).cursor) ∧
      (((a.move m).after ms).handOut? .current = some e ↔
        ((a.move m).after ms).cursor = e.offset) := by
  refine ⟨fun r => ⟨fun dead hdvd => ?_, fun hdvd ms hr => ?_⟩, fun ms hdvd =>
    ⟨isLive_iff_of_dvd handed hdvd, handOut?_current_iff_of_dvd handed hdvd⟩⟩
  · cases r with
    | zero =>
      have h := dead [] rfl
      have hround : UInt32.size ∣ resets [] := hdvd
      have hcursor : (a.move m).cursor ≤ e.offset := UInt32.not_lt.mp fun hlt =>
        Bool.eq_false_iff.mp h.not_live ((isLive_iff_of_dvd handed hround).mpr hlt)
      have heq := UInt32.le_antisymm hcursor (offset_le_of_handOut? handed)
      exact h.not_handed .current ((handOut?_current_iff_of_dvd handed hround).mpr heq)
    | succ n =>
      have hr := resets_rewind n e.offset
      have hle : e.offset ≤ (a.move m).capacity := by
        rw [capacity_move, eq_current_of_handOut? handed, UInt32.le_iff_toNat_le]
        exact a.cursor_le
      exact (dead _ hr).not_handed .current
        ((handOut?_current_iff_of_dvd handed (hr ▸ hdvd)).mpr (cursor_rewind n hle))
  · refine dead_of_generation fun heq => hdvd ?_
    rw [← hr, ← generation_after_eq_iff (a.move m), ← heq, generation_move_of_handOut? handed]

theorem dead_iff_not_dvd_first :
    let a := (Supply.create {} 8).1.move (.allocate 4)
    (Supply.create {} 8).1.handOut? (.allocate 4) = some ⟨0, 0⟩ ∧
      (∀ ms, resets ms = 1 → (a.after ms).Dead ⟨0, 0⟩) ∧
      resets (rewind 4294967295 4) = UInt32.size ∧
      (a.after (rewind 4294967295 4)).isLive ⟨0, 0⟩ = true ∧
      resets (rewind 4294967295 0) = UInt32.size ∧
      (a.after (rewind 4294967295 0)).handOut? .current = some ⟨0, 0⟩ := by
  intro a
  obtain ⟨hdead, hround⟩ :=
    @dead_iff_not_dvd (Supply.create {} 8).1 ⟨0, 0⟩ (.allocate 4) (by decide)
  have hdvd (offset : UInt32) : UInt32.size ∣ resets (rewind 4294967295 offset) :=
    ⟨1, resets_rewind 4294967295 offset⟩
  refine ⟨by decide, (hdead 1).mpr (by decide), resets_rewind _ _, (hround _ (hdvd 4)).1.mpr ?_,
    resets_rewind _ _, (hround _ (hdvd 0)).2.mpr ?_⟩
  · rw [cursor_rewind 4294967295 (a := a) (by decide)]
    decide
  · exact cursor_rewind 4294967295 (a := a) (by decide)

end Recompiler.CodeArena
