import Recompiler.Proofs.Arena.Generation
import Recompiler.Proofs.Session.Binding
import Recompiler.Proofs.Session.Compilation

/-! The units that an interpreter makes in the arena it is bound to, under any configuration and
between any allocations of its host, while nothing is taken back. The placeholders lie one behind the
other. They keep the units apart if they have any size; without one the units share their entries. -/

namespace Recompiler

variable {β : Type}

inductive Demand where
  | compile (block : Block)
  | allocate (len : UInt32)

structure Placed where
  units : List CodeUnit := []
  arena : CodeArena

namespace Interpreter

def meet (i : Interpreter β) (s : Placed) : Demand → Placed
  | .compile block =>
    let (unit?, arena, _) := (i.compile s.arena block).value
    ⟨s.units ++ unit?.toList, arena⟩
  | .allocate len => { s with arena := s.arena.move (.allocate len) }

def meetAll (i : Interpreter β) (a : CodeArena) (ds : List Demand) : Placed :=
  ds.foldl i.meet { arena := a }

end Interpreter

namespace Placed

structure Sits (i : Interpreter β) (a : CodeArena) (u : CodeUnit) : Prop where
  size : u.size = i.unitPlaceholderBytes
  generation : u.entry.generation = a.generation
  within : u.entry.offset.toNat + u.size.toNat ≤ a.cursor.toNat

structure InOrder (i : Interpreter β) (s : Placed) : Prop where
  binding : i.binding = some s.arena.id
  sits : ∀ u ∈ s.units, Sits i s.arena u
  pairwise : s.units.Pairwise fun u v =>
    u.entry.offset.toNat + u.size.toNat ≤ v.entry.offset.toNat

namespace InOrder

variable {i : Interpreter β} {s : Placed} (h : s.InOrder i)
include h

lemma advance {b : CodeArena} (hid : b.id = s.arena.id) (hgen : b.generation = s.arena.generation)
    (hcursor : s.arena.cursor.toNat ≤ b.cursor.toNat) :
    ({ s with arena := b } : Placed).InOrder i where
  binding := h.binding.trans (congrArg some hid.symm)
  sits u hu :=
    have hs := h.sits u hu
    ⟨hs.size, hs.generation.trans hgen.symm, Nat.le_trans hs.within hcursor⟩
  pairwise := h.pairwise

lemma push {b : CodeArena} (hid : b.id = s.arena.id) (hgen : b.generation = s.arena.generation)
    (hcursor : b.cursor.toNat = s.arena.cursor.toNat + i.unitPlaceholderBytes.toNat)
    (addr : UInt32) :
    (⟨s.units ++ [⟨s.arena.current, addr, i.unitPlaceholderBytes⟩], b⟩ : Placed).InOrder i := by
  have hnext := h.advance hid hgen (by omega)
  refine ⟨hnext.binding, List.forall_mem_append.mpr ⟨hnext.sits, ?_⟩, ?_⟩
  · exact List.forall_mem_singleton.mpr ⟨rfl, hgen.symm, Nat.le_of_eq hcursor.symm⟩
  · refine List.pairwise_append.mpr ⟨h.pairwise, List.pairwise_singleton _ _, ?_⟩
    intro u hu
    exact List.forall_mem_singleton.mpr (h.sits u hu).within

lemma meet (d : Demand) : (i.meet s d).InOrder i := by
  cases d with
  | compile block =>
    rw [Interpreter.meet]
    by_cases fits : i.unitPlaceholderBytes ≤ s.arena.freeSpace
    · obtain ⟨b, hb, hgen, hcursor, hc⟩ := Interpreter.compile_of_fits block h.binding fits
      rw [hc]
      exact h.push (CodeArena.id_of_allocate hb) hgen hcursor block.addr
    · rw [Interpreter.compile_of_refused block fun hfits => fits hfits.2]
      simpa using h
  | allocate len =>
    rcases s.arena.move_allocate_cases len with ⟨b, hb, hmove, -, hgen, hcursor⟩ | ⟨-, hmove⟩ <;>
      rw [Interpreter.meet, hmove]
    · exact h.advance (CodeArena.id_of_allocate hb) hgen (by omega)
    · exact h

lemma foldl_meet (ds : List Demand) : (ds.foldl i.meet s).InOrder i := by
  induction ds generalizing s with
  | nil => exact h
  | cons d ds ih => exact ih (h.meet d)

lemma not_overlaps : s.units.Pairwise fun u v =>
    u.identity ≤ v.identity ∧ u.overlaps v = false ∧ v.overlaps u = false := by
  refine h.pairwise.imp fun {u v} huv => ⟨?_, CodeUnit.not_overlaps_of_le huv⟩
  rw [CodeUnit.identity, CodeUnit.identity, UInt32.le_iff_toNat_le]
  omega

lemma apart (pos : 0 < i.unitPlaceholderBytes.toNat) :
    (s.units.Pairwise fun u v =>
      u.identity ≠ v.identity ∧ u.overlaps v = false ∧ v.overlaps u = false) ∧
    ∀ u ∈ s.units, s.arena.isLive u.entry = true := by
  constructor
  · refine h.pairwise.imp_of_mem fun {u v} hu _ huv => ⟨?_, CodeUnit.not_overlaps_of_le huv⟩
    intro heq
    rw [CodeUnit.identity, CodeUnit.identity] at heq
    rw [(h.sits u hu).size, heq] at huv
    omega
  · intro u hu
    have hs := h.sits u hu
    have hwithin := hs.within
    rw [hs.size] at hwithin
    exact (s.arena.isLive_iff _).mpr ⟨hs.generation, by omega⟩

lemma meet_of_empty (empty : i.unitPlaceholderBytes = 0) (block : Block) :
    i.meet s (.compile block) =
      { s with units := s.units ++ [⟨s.arena.current, block.addr, 0⟩] } := by
  have hc := Interpreter.compile_of_bound h.binding block
  rw [empty, CodeArena.allocate_zero] at hc
  rw [Interpreter.meet, hc]
  rfl

end InOrder

end Placed

namespace Interpreter

lemma meetAll_inOrder {i : Interpreter β} {a : CodeArena} (h : i.binding = some a.id)
    (ds : List Demand) : (i.meetAll a ds).InOrder i := by
  refine Placed.InOrder.foldl_meet ⟨h, ?_, .nil⟩ ds
  intro u hu
  cases hu

/-- The units that an interpreter makes in its arena have entries of their own and are live, from
their making on, exactly where its configuration gives them a size. They never overlap. Where they
have no size each one takes the entry at the cursor, which the next one takes again until the host
has allocated something, and is not live when it is made. -/
theorem units_apart_iff_placeholder (isa : InstructionSet β) (c : Configuration) (p : Processor)
    (a : CodeArena) :
    let i := ((create isa c).bindTo p a).value
    ((∀ ds, ((i.meetAll a ds).units.Pairwise fun u v =>
          u.identity ≠ v.identity ∧ u.overlaps v = false ∧ v.overlaps u = false) ∧
        ∀ u ∈ (i.meetAll a ds).units, (i.meetAll a ds).arena.isLive u.entry = true) ↔
      c.unitPlaceholderBytes ≠ 0) ∧
    ∀ ds, let s := i.meetAll a ds
      (s.units.Pairwise fun u v =>
        u.identity ≤ v.identity ∧ u.overlaps v = false ∧ v.overlaps u = false) ∧
      (c.unitPlaceholderBytes = 0 → ∀ block,
        i.meetAll a (ds ++ [.compile block]) =
          { s with units := s.units ++ [⟨s.arena.current, block.addr, 0⟩] } ∧
        s.arena.isLive s.arena.current = false) := by
  intro i
  have hbound : i.binding = some a.id := rfl
  have hempty (empty : c.unitPlaceholderBytes = 0) (ds : List Demand) (block : Block) :
      i.meetAll a (ds ++ [.compile block]) = { i.meetAll a ds with
        units := (i.meetAll a ds).units ++ [⟨(i.meetAll a ds).arena.current, block.addr, 0⟩] } := by
    rw [meetAll, List.foldl_append, List.foldl_cons, List.foldl_nil, ← meetAll]
    exact (meetAll_inOrder hbound ds).meet_of_empty empty block
  refine ⟨⟨?_, ?_⟩, ?_⟩
  · intro apart empty
    obtain ⟨-, hlive⟩ := apart ([] ++ [.compile { addr := 0 }])
    rw [hempty empty] at hlive
    cases (i.meetAll a []).arena.isLive_current.symm.trans (hlive _ List.mem_concat_self)
  · intro hne ds
    exact (meetAll_inOrder hbound ds).apart (Nat.pos_of_ne_zero fun h => hne (UInt32.toNat_inj.mp h))
  · intro ds s
    refine ⟨(meetAll_inOrder hbound ds).not_overlaps, ?_⟩
    intro empty block
    exact ⟨hempty empty ds block, s.arena.isLive_current⟩

theorem units_apart_iff_placeholder_shared :
    let c : Configuration := { unitPlaceholderBytes := 0 }
    let a := (CodeArena.Supply.create {} 64).1
    let i := ((create (counting : InstructionSet Countdown) c).bindTo {} a).value
    let i' := ((create (counting : InstructionSet Countdown) {}).bindTo {} a).value
    let ds : List Demand := [.compile { addr := 8 }, .compile { addr := 12 }]
    (c.unitPlaceholderBytes = 0 ∧ c.validate = .error .zeroPlaceholder) ∧
      ((i.meetAll a ds).units = [⟨⟨0, 0⟩, 8, 0⟩, ⟨⟨0, 0⟩, 12, 0⟩] ∧
        (i.meetAll a ds).arena.isLive ⟨0, 0⟩ = false) ∧
      (({} : Configuration).unitPlaceholderBytes ≠ 0 ∧
        (i'.meetAll a ds).units = [⟨⟨0, 0⟩, 8, 4⟩, ⟨⟨4, 0⟩, 12, 4⟩] ∧
        ∀ u ∈ (i'.meetAll a ds).units, (i'.meetAll a ds).arena.isLive u.entry = true) := by
  intro c a i i' ds
  have shared := units_apart_iff_placeholder (counting : InstructionSet Countdown) c {} a
  have apart := units_apart_iff_placeholder (counting : InstructionSet Countdown) {} {} a
  obtain ⟨hsecond, hdead⟩ := (shared.2 [.compile { addr := 8 }]).2 rfl { addr := 12 }
  refine ⟨⟨rfl, rfl⟩, ⟨?_, ?_⟩, by decide, by decide, ?_⟩
  · exact (congrArg Placed.units hsecond).trans (by decide)
  · exact (congrArg (fun s : Placed => s.arena.isLive ⟨0, 0⟩) hsecond).trans hdead
  · exact (apart.1.mpr (by decide) ds).2

end Interpreter

end Recompiler
