import Recompiler.Timing

/-! What a session is configured with, and the values it refuses. -/

namespace Recompiler

structure Configuration where
  timesliceCycles : Int32 := CycleCost.timeslice.cycles.toInt32
  cyclesPerInstruction : Int32 := CycleCost.instruction.cycles.toInt32
  exceptionDrainCycles : Int32 := CycleCost.exceptionDrain.cycles.toInt32
  unitPlaceholderBytes : UInt32 := 4
  codeBufferBytes : UInt32 := 4 * 1024 * 1024
  smcChecks : Bool := false
  optimise : Bool := true
  /-- Instructions between two progress reports; zero for none. -/
  milestoneInterval : UInt64 := 2000000
  deriving DecidableEq, Repr

namespace Configuration

inductive Cost where
  | cyclesPerInstruction
  | exceptionDrainCycles
  deriving DecidableEq, Repr

def Cost.name : Cost → String
  | .cyclesPerInstruction => "cycles_per_instruction"
  | .exceptionDrainCycles => "exception_drain_cycles"

inductive Rejection where
  | nonPositiveTimeslice (value : Int32)
  | nonPositiveCost (field : Cost) (value : Int32)
  | zeroPlaceholder
  deriving DecidableEq, Repr

def Rejection.message : Rejection → String
  | .nonPositiveTimeslice value => s!"timeslice must be positive, got {value.toInt}"
  | .nonPositiveCost field value => s!"{field.name} must be positive, got {value.toInt}"
  | .zeroPlaceholder => "unit placeholder must reserve at least one byte"

/-- The first reason to refuse a configuration: without positive costs a timeslice would not end,
and units of no size would share their address. -/
def validate (c : Configuration) : Except Rejection Unit :=
  if c.timesliceCycles ≤ 0 then .error (.nonPositiveTimeslice c.timesliceCycles)
  else if c.cyclesPerInstruction ≤ 0 then
    .error (.nonPositiveCost .cyclesPerInstruction c.cyclesPerInstruction)
  else if c.exceptionDrainCycles ≤ 0 then
    .error (.nonPositiveCost .exceptionDrainCycles c.exceptionDrainCycles)
  else if c.unitPlaceholderBytes = 0 then .error .zeroPlaceholder
  else .ok ()

end Configuration

end Recompiler
