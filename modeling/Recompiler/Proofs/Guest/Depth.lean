import Recompiler.Opcode.Table
import Recompiler.Proofs.Guest.Instruction

/-! Delay slots that may nest deeper. An instruction that comes to its end within one depth ends the
same way within every greater one. -/

namespace Recompiler

variable {α β : Type}

def Outcome.Extends (x y : Outcome β α) : Prop := x ≠ .unfinished → y = x

def Guest.Extends (x y : Guest β α) : Prop := ∀ m, (x m).Extends (y m)

lemma Guest.Extends.mapFault {x y : Guest β α} {g : Fault → Fault} {m : Machine β}
    (h : (x m).Extends (y m)) : (mapFault g x m).Extends (mapFault g y m) := by
  intro ends
  apply mapFault_congr
  apply h
  intro hx
  apply ends
  rw [Guest.mapFault, hx]

lemma Action.run_extends [Bus β] {slot slot' : Guest β Unit} (h : slot.Extends slot')
    (x : Action α) : Guest.Extends (x.run slot) (x.run slot') := by
  intro m
  induction x generalizing m with
  | pure a => exact fun _ => rfl
  | fault f => exact fun _ => rfl
  | read next ih => exact ih m.processor m
  | write p next ih => exact ih { m with processor := p }
  | fetch addr next ih => exact ih _ _
  | updateSystem next ih => exact ih _ _
  | delaySlot next ih =>
    intro ends
    -- A slot that was cut off would have cut off the program.
    have hslot : slot' m = slot m := by
      apply h
      intro hm
      apply ends
      rw [run, hm]
    rw [run] at ends ⊢
    rw [run, hslot]
    cases hm : slot m with
    | done u n =>
      rw [hm] at ends
      exact ih (.ok ()) n ends
    | fault f n =>
      rw [hm] at ends
      exact ih (.error f) n ends
    | unfinished => rfl

namespace InstructionSet

structure Extends (isa isa' : InstructionSet β) : Prop where
  isFloatingPoint : isa'.isFloatingPoint = isa.isFloatingPoint
  execute (opcode : UInt16) : Guest.Extends (isa.execute opcode) (isa'.execute opcode)
  cycleCost : isa'.cycleCost = isa.cycleCost
  enterException : isa'.enterException = isa.enterException

namespace Extends

variable {isa isa' isa'' : InstructionSet β}

lemma refl (isa : InstructionSet β) : isa.Extends isa :=
  ⟨rfl, fun _ _ _ => rfl, rfl, rfl⟩

lemma trans (h : isa.Extends isa') (h' : isa'.Extends isa'') : isa.Extends isa'' where
  isFloatingPoint := h'.isFloatingPoint.trans h.isFloatingPoint
  execute opcode m ends := by
    have hm := h.execute opcode m ends
    rw [← hm] at ends ⊢
    exact h'.execute opcode m ends
  cycleCost := h'.cycleCost.trans h.cycleCost
  enterException := h'.enterException.trans h.enterException

variable (h : isa.Extends isa')
include h

lemma eq_with_execute : isa' = { isa with execute := isa'.execute } := by
  rw [← h.isFloatingPoint, ← h.cycleCost, ← h.enterException]

variable [Bus β]

lemma instruction : isa.instruction.Extends isa'.instruction := by
  intro m ends
  rcases hread : Bus.readOpcode m.bus m.processor.pc with ⟨f | opcode, bus⟩
  · rw [instruction_of_error hread, instruction_of_error hread]
  · rw [instruction_of_ok hread] at ends ⊢
    rw [instruction_of_ok hread, h.isFloatingPoint]
    by_cases hgate : ((fetched m bus).processor.fpuDisabled && isa.isFloatingPoint opcode) = true
    · rw [if_pos hgate, if_pos hgate]
    · rw [if_neg hgate] at ends
      rw [if_neg hgate, if_neg hgate]
      have hx : isa'.execute opcode (fetched m bus) = isa.execute opcode (fetched m bus) := by
        apply h.execute
        intro hx
        apply ends
        rw [hx]
      rw [hx]

lemma delaySlot : isa.delaySlot.Extends isa'.delaySlot := by
  intro m
  rcases hread : Bus.readOpcode m.bus m.processor.pc with ⟨f | opcode, bus⟩
  · rw [delaySlot_of_error hread, delaySlot_of_error hread]
    exact fun _ => rfl
  · rw [delaySlot_of_ok hread, delaySlot_of_ok hread, h.isFloatingPoint]
    apply Guest.Extends.mapFault
    split
    · exact fun _ => rfl
    · exact h.execute opcode _

end Extends

end InstructionSet

namespace OpcodeTable

variable [Bus β] (t : OpcodeTable)

lemma withSlot_extends {slot slot' : Guest β Unit} (h : slot.Extends slot') :
    (t.withSlot slot).Extends (t.withSlot slot') where
  isFloatingPoint := rfl
  execute opcode := Action.run_extends h (t.handler opcode opcode)
  cycleCost := rfl
  enterException := rfl

lemma instructionSet_extends_succ (depth : Nat) :
    (t.instructionSet (β := β) depth).Extends (t.instructionSet (depth + 1)) := by
  induction depth with
  | zero => exact t.withSlot_extends fun _ ends => (ends rfl).elim
  | succ depth ih => exact t.withSlot_extends ih.delaySlot

lemma instructionSet_extends {depth depth' : Nat} (h : depth ≤ depth') :
    (t.instructionSet (β := β) depth).Extends (t.instructionSet depth') := by
  induction h with
  | refl => exact .refl _
  | step _ ih => exact ih.trans (t.instructionSet_extends_succ _)

end OpcodeTable

end Recompiler
