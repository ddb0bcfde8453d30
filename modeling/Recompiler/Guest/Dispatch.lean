import Recompiler.Guest.InstructionSet
import Recompiler.Log

/-! Handling of a raised exception: the instruction set enters it, and the drain of the pipeline is
charged once. -/

namespace Recompiler.InstructionSet

variable {β : Type}

def dispatch (isa : InstructionSet β) (drain : Int32) (e : Exception) (p : Processor)
    (stats : Statistics) : Logged (Processor × Statistics) := do
  let p := (isa.enterException e p).charge drain
  Logged.report (.exceptionEntered e p.cycleCounter p.pc)
  return (p, stats.recordException e)

end Recompiler.InstructionSet
