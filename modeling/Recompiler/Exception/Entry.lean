import Recompiler.Exception.Kind
import Recompiler.Processor
import Recompiler.Text.Hex

/-! A raised exception and the standard way in which the processor enters its handler. -/

namespace Recompiler

structure Exception where
  epc : UInt32
  kind : Exception.Kind
  deriving DecidableEq, Repr

namespace Exception

def generalOffset : UInt32 := 0x100

def tlbMissOffset : UInt32 := 0x400

def message (e : Exception) : String := s!"{e.kind.message} at pc {Text.address e.epc}"

def Kind.vector (k : Kind) (vbr : UInt32) : UInt32 :=
  if k.toClass = .reset then resetVector
  else if k.isTlbMiss then vbr + tlbMissOffset
  else vbr + generalOffset

/-- Saves the status register and `R15`, records the event, enters privileged mode with exceptions
blocked and continues at the vector. What is saved is the state before the entry. -/
def enter (e : Exception) (p : Processor) : Processor :=
  { p with regs :=
    { p.regs.setFlag (Status.md ||| Status.bl ||| Status.rb) true with
      spc := e.epc
      ssr := p.regs.sr
      sgr := p.regs.gpr[15]
      expevt := e.kind.eventCode.toUInt32
      pc := e.kind.vector p.regs.vbr } }

end Exception

end Recompiler
