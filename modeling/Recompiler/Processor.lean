import Recompiler.Register.File

/-! The state of one guest processor. The cycle counter is signed: a timeslice lasts until it is
zero or below. It saturates at both ends of its range. -/

namespace Recompiler

def resetVector : UInt32 := 0xA0000000

structure Processor where
  regs : Registers := {}
  cycleCounter : Int32 := 0
  running : Bool := false
  deriving DecidableEq

namespace Processor

def pc (p : Processor) : UInt32 := p.regs.pc

def setPc (p : Processor) (v : UInt32) : Processor := { p with regs := p.regs.setPc v }

def fpuDisabled (p : Processor) : Bool := p.regs.hasFlag Status.fd

/-- Clears the registers and restarts at the reset vector. The cycle counter and the running flag
belong to the host and stay. -/
def reset (p : Processor) : Processor :=
  { p with regs := (({} : Registers).setSr Status.resetValue).setPc resetVector }

def withBudget (cycles : Int32) : Processor := { ({} : Processor).reset with cycleCounter := cycles }

def charge (p : Processor) (cycles : Int32) : Processor :=
  { p with cycleCounter := Int32.ofIntClamp (p.cycleCounter.toInt - cycles.toInt) }

theorem toInt_charge (p : Processor) {cycles : Int32}
    (h : Int32.minValue.toInt ≤ p.cycleCounter.toInt - cycles.toInt)
    (h' : p.cycleCounter.toInt - cycles.toInt ≤ Int32.maxValue.toInt) :
    (p.charge cycles).cycleCounter.toInt = p.cycleCounter.toInt - cycles.toInt :=
  Int32.toInt_ofIntClamp h h'

def replenish (p : Processor) (cycles : Int32) : Processor :=
  { p with cycleCounter := Int32.ofIntClamp (p.cycleCounter.toInt + cycles.toInt) }

theorem toInt_replenish (p : Processor) {cycles : Int32}
    (h : Int32.minValue.toInt ≤ p.cycleCounter.toInt + cycles.toInt)
    (h' : p.cycleCounter.toInt + cycles.toInt ≤ Int32.maxValue.toInt) :
    (p.replenish cycles).cycleCounter.toInt = p.cycleCounter.toInt + cycles.toInt :=
  Int32.toInt_ofIntClamp h h'

def numEq (p q : Processor) : Bool :=
  p.regs.numEq q.regs && p.cycleCounter == q.cycleCounter && p.running == q.running

end Processor

end Recompiler
