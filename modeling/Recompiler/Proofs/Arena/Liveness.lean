import Recompiler.Proofs.Arena.Generation
import Recompiler.Proofs.Arena.Views

/-! Entries that are live. The arena compares an entry with its cursor and remembers no allocation.
An entry is handed out where the cursor stands, so that the cursor has passed it exactly if bytes
have been reserved there. -/

namespace Recompiler.CodeArena

/-- A move of the history has handed out the entry, and no reset has followed. -/
def Handed (a : CodeArena) (ms : List Move) (m : Move) (e : Entry) : Prop :=
  ∃ past later, ms = past ++ m :: later ∧ .reset ∉ later ∧ (a.after past).handOut? m = some e

/-- The entry shows the next `len` bytes, and what is written through it takes their place. -/
structure Opens (a : CodeArena) (e : Entry) (len : UInt32) : Prop where
  shown : a.region? e len =
    some ((List.range len.toNat).map fun i => a.byteAt (e.offset.toNat + i))
  written (data : List UInt8) : ∃ b, a.write? e len data = some b ∧ ∀ i, b.byteAt i =
    if e.offset.toNat ≤ i ∧ i < e.offset.toNat + len.toNat then
      data[i - e.offset.toNat]?.getD (a.byteAt i)
    else a.byteAt i

structure GrowsTo (a b : CodeArena) : Prop where
  generation : b.generation = a.generation
  cursor : a.cursor.toNat ≤ b.cursor.toNat

lemma GrowsTo.refl (a : CodeArena) : a.GrowsTo a := ⟨rfl, Nat.le_refl _⟩

lemma GrowsTo.trans {a b c : CodeArena} (hab : a.GrowsTo b) (hbc : b.GrowsTo c) : a.GrowsTo c :=
  ⟨hbc.generation.trans hab.generation, Nat.le_trans hab.cursor hbc.cursor⟩

variable {a b : CodeArena} {ms past : List Move} {m : Move} {e : Entry} {len : UInt32}

lemma opens_of_holds (h : a.Holds e len) : a.Opens e len := by
  constructor
  · exact if_pos h
  · intro data
    obtain ⟨b, hb, -⟩ := write?_of_holds h data
    refine ⟨b, hb, fun i => ?_⟩
    split
    · rename_i hi
      have hlt : i - e.offset.toNat < len.toNat := by omega
      rw [byteAt_of_write? a hb, Write.byteAt?, if_pos hi.1, List.getElem?_toArray,
        List.getElem?_take_of_lt hlt]
    · exact byteAt_of_write?_of_outside hb (by omega)

lemma move_eq_self_or_reserves (a : CodeArena) (other : m ≠ .reset) :
    a.move m = a ∨ ∃ len, m = .allocate len ∧ 0 < len ∧ a.handOut? m = some a.current ∧
      (a.move m).cursor.toNat = a.cursor.toNat + len.toNat := by
  cases m with
  | allocate len =>
    rcases a.move_allocate_cases len with ⟨b, hb, hmove, -, -, hcursor⟩ | ⟨-, hmove⟩
    · by_cases hlen : len = 0
      · rw [hlen, allocate_zero] at hb
        cases hb
        exact Or.inl hmove
      · have hpos : 0 < len := UInt32.pos_iff_ne_zero.mpr hlen
        exact Or.inr ⟨len, rfl, hpos, by rw [handOut?, hb], hmove ▸ hcursor⟩
    · exact Or.inl hmove
  | current => exact Or.inl rfl
  | reset => exact absurd rfl other

lemma growsTo_move (a : CodeArena) (other : m ≠ .reset) : a.GrowsTo (a.move m) := by
  rcases a.move_eq_self_or_reserves other with hself | ⟨len, rfl, -, -, hcursor⟩
  · rw [hself]
    exact .refl a
  · exact ⟨a.generation_move_allocate len, hcursor ▸ Nat.le_add_right _ _⟩

lemma growsTo_after (a : CodeArena) (quiet : .reset ∉ ms) : a.GrowsTo (a.after ms) := by
  induction ms generalizing a with
  | nil => exact .refl a
  | cons m ms ih =>
    obtain ⟨hm, hms⟩ := not_or.mp (mt List.mem_cons.mpr quiet)
    exact (a.growsTo_move (Ne.symm hm)).trans (ih _ hms)

lemma isLive_iff_of_handOut? (handed : a.handOut? m = some e) (grown : (a.move m).GrowsTo b) :
    b.isLive e = true ↔ e.offset.toNat < b.cursor.toNat := by
  rw [isLive_iff, generation_move_of_handOut? handed, grown.generation]
  exact and_iff_right rfl

lemma Handed.append (h : (a.after past).Handed ms m e) : a.Handed (past ++ ms) m e := by
  obtain ⟨before, later, rfl, quiet, handed⟩ := h
  refine ⟨past ++ before, later, (List.append_assoc ..).symm, quiet, ?_⟩
  rwa [after_append]

lemma cursor_of_handOut? (handed : a.handOut? (.allocate len) = some e) :
    (a.move (.allocate len)).cursor.toNat = e.offset.toNat + len.toNat := by
  rw [eq_current_of_handOut? handed]
  rcases a.move_allocate_cases len with ⟨b, -, hmove, -, -, hcursor⟩ | ⟨hnone, -⟩
  · rw [hmove, hcursor]
    rfl
  · cases hnone.symm.trans handed

lemma Handed.isLive (h : a.Handed ms (.allocate len) e) (pos : 0 < len) :
    (a.after ms).isLive e = true := by
  obtain ⟨past, later, rfl, quiet, handed⟩ := h
  have grown := ((a.after past).move (.allocate len)).growsTo_after quiet
  have hcursor := cursor_of_handOut? handed
  have hle := grown.cursor
  have hpos := UInt32.lt_iff_toNat_lt.mp pos
  rw [UInt32.toNat_zero] at hpos
  rw [after_append]
  refine (isLive_iff_of_handOut? handed grown).mpr ?_
  omega

lemma exists_handed_of_lt (quiet : .reset ∉ ms)
    (moved : a.cursor.toNat < (a.after ms).cursor.toNat) :
    ∃ len, 0 < len ∧ a.Handed ms (.allocate len) a.current := by
  induction ms generalizing a with
  | nil => exact absurd moved (Nat.lt_irrefl _)
  | cons m ms ih =>
    obtain ⟨hm, hms⟩ := not_or.mp (mt List.mem_cons.mpr quiet)
    rcases a.move_eq_self_or_reserves (Ne.symm hm) with hself | ⟨len, rfl, pos, handed, -⟩
    · have hafter : a.after [m] = a := hself
      have moved' : a.cursor.toNat < ((a.move m).after ms).cursor.toNat := moved
      rw [hself] at moved'
      obtain ⟨len, pos, handed⟩ := ih hms moved'
      have handed' : (a.after [m]).Handed ms (.allocate len) a.current := hafter.symm ▸ handed
      exact ⟨len, pos, handed'.append⟩
    · exact ⟨len, pos, [], ms, rfl, hms, handed⟩

/-- An entry that has been handed out since the last reset is live exactly if an allocation of bytes
since then has returned it. To read as to write it opens every range that starts at a live entry and
ends at the cursor or before it, and no other one. -/
theorem live_iff_reserved (handed : a.Handed ms m e) :
    let b := a.after ms
    (b.isLive e = true ↔ ∃ len, 0 < len ∧ a.Handed ms (.allocate len) e) ∧
    ∀ len,
      (b.isLive e = true ∧ e.offset.toNat + len.toNat ≤ b.cursor.toNat → b.Opens e len) ∧
      (¬ (b.isLive e = true ∧ e.offset.toNat + len.toNat ≤ b.cursor.toNat) →
        ∀ data, b.region? e len = none ∧ b.write? e len data = none) := by
  intro b
  refine ⟨⟨fun live => ?_, fun ⟨len, pos, reserved⟩ => reserved.isLive pos⟩,
    fun len => ⟨opens_of_holds, fun refused data => ?_⟩⟩
  · obtain ⟨past, later, rfl, quiet, handed⟩ := handed
    have hb : b = ((a.after past).move m).after later := a.after_append past (m :: later)
    rw [hb] at live
    have hlt := (isLive_iff_of_handOut? handed (growsTo_after _ quiet)).mp live
    have hcurrent := eq_current_of_handOut? handed
    have hquiet : .reset ∉ m :: later := by
      refine List.not_mem_cons_of_ne_of_not_mem ?_ quiet
      rintro rfl
      cases handed
    rw [hcurrent] at hlt ⊢
    obtain ⟨len, pos, reserved⟩ := exists_handed_of_lt hquiet hlt
    exact ⟨len, pos, reserved.append⟩
  · exact ⟨region?_of_not_holds refused, write?_of_not_holds refused data⟩

-- The entry at the start is taken before anything is reserved there.
theorem live_iff_reserved_current :
    let a := (Supply.create {} 8).1
    let ms : List Move :=
      [.allocate 4, .reset, .current, .allocate 0, .allocate 9, .allocate 3, .current]
    (a.Handed ms .current ⟨0, 1⟩ ∧ (a.after ms).isLive ⟨0, 1⟩ = true ∧
      ∃ len, 0 < len ∧ a.Handed ms (.allocate len) ⟨0, 1⟩) ∧
    (a.Handed ms .current ⟨3, 1⟩ ∧ (a.after ms).isLive ⟨3, 1⟩ = false ∧
      ¬ ∃ len, 0 < len ∧ a.Handed ms (.allocate len) ⟨3, 1⟩) ∧
    (a.after ms).region? ⟨0, 1⟩ 3 = some [0, 0, 0] ∧ (a.after ms).region? ⟨0, 1⟩ 4 = none := by
  intro a ms
  have first : a.Handed ms .current ⟨0, 1⟩ :=
    ⟨[.allocate 4, .reset], [.allocate 0, .allocate 9, .allocate 3, .current], rfl, by decide,
      by decide⟩
  have last : a.Handed ms .current ⟨3, 1⟩ :=
    ⟨[.allocate 4, .reset, .current, .allocate 0, .allocate 9, .allocate 3], [], rfl, by decide,
      by decide⟩
  obtain ⟨hfirst, hopens⟩ := live_iff_reserved first
  have hlive : (a.after ms).isLive ⟨0, 1⟩ = true := by decide
  have hdead : (a.after ms).isLive ⟨3, 1⟩ = false := by decide
  refine ⟨⟨first, hlive, hfirst.mp hlive⟩, ⟨last, hdead, ?_⟩, ?_, ?_⟩
  · rw [← (live_iff_reserved last).1, hdead]
    exact Bool.false_ne_true
  · exact ((hopens 3).1 ⟨hlive, by decide⟩).shown.trans (by decide)
  · exact ((hopens 4).2 (by decide) []).1

end Recompiler.CodeArena
