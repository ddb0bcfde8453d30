import Recompiler.Exception.Fault
import Recompiler.Saturating

/-! What one run of the dispatch loop counts, and how it can fail. -/

namespace Recompiler

structure Statistics where
  instructions : UInt64 := 0
  timeslices : UInt64 := 0
  exceptions : UInt64 := 0
  lastException : Option Exception := none
  deriving DecidableEq, Repr

namespace Statistics

def recordInstruction (s : Statistics) : Statistics :=
  { s with instructions := Saturating.word64 (s.instructions.toNat + 1) }

def recordTimeslice (s : Statistics) : Statistics :=
  { s with timeslices := Saturating.word64 (s.timeslices.toNat + 1) }

def recordException (s : Statistics) (e : Exception) : Statistics :=
  { s with
    exceptions := Saturating.word64 (s.exceptions.toNat + 1)
    lastException := some e }

end Statistics

inductive LoopFailure where
  | unbound
  | aborted (cause : Fatal) (stats : Statistics)
  deriving DecidableEq, Repr

def LoopFailure.message : LoopFailure → String
  | .unbound => "backend used before initialize"
  | .aborted cause _ => s!"dispatch loop aborted: {cause.message}"

end Recompiler
