import Recompiler.CodeArena
import Recompiler.Ir.Operation
import Recompiler.Saturating
import Recompiler.Timing

/-! Decoded blocks and the units they are compiled to. -/

namespace Recompiler

structure Block where
  addr : UInt32
  opcodeCount : UInt32 := 0
  ir : List Ir.Operation := []
  code : Option CodeArena.Entry := none

namespace Block

def guestLength (b : Block) : UInt32 :=
  Saturating.word32 (b.opcodeCount.toNat * instructionBytes.toNat)

def isCompiled (b : Block) : Bool := b.code.isSome

end Block

structure CodeUnit where
  entry : CodeArena.Entry
  guestAddr : UInt32
  size : UInt32
  deriving DecidableEq, Repr

namespace CodeUnit

def identity (u : CodeUnit) : UInt32 := u.entry.offset

def bound (u : CodeUnit) : UInt32 := Saturating.word32 (u.entry.offset.toNat + u.size.toNat)

def overlaps (u v : CodeUnit) : Bool :=
  u.entry.generation == v.entry.generation &&
    u.entry.offset < v.bound && v.entry.offset < u.bound

end CodeUnit

end Recompiler
