import Recompiler.Guest.Machine
import Recompiler.Timing

/-! The meaning of opcodes and the entry into exceptions, shared by every backend, and the execution
of the instruction in a delay slot. -/

namespace Recompiler

structure InstructionSet (β : Type) where
  isFloatingPoint : UInt16 → Bool
  /-- The effect of an opcode. The program counter already points behind it. -/
  execute : UInt16 → Guest β Unit
  cycleCost : UInt16 → Option UInt32 := fun _ => none
  enterException : Exception → Processor → Processor := Exception.enter

namespace InstructionSet

variable {β : Type} [Bus β]

/-- Executes the instruction in the delay slot of a branch. The program counter points at the slot
and is advanced before the fetch. An exception in the slot is reported at the branch, with the kind
for slots; the branch sets its target afterwards. -/
def delaySlot (isa : InstructionSet β) : Guest β Unit := do
  let addr := (← Guest.processor).pc
  Guest.mapFault (Fault.inDelaySlot (addr - instructionBytes)) do
    Guest.modify (·.setPc (addr + instructionBytes))
    let opcode ← Guest.fetch addr
    if (← Guest.processor).fpuDisabled && isa.isFloatingPoint opcode then
      Guest.fail (.raise addr .fpuDisabled)
    else
      isa.execute opcode

end InstructionSet

end Recompiler
