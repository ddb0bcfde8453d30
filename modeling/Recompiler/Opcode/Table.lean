import Recompiler.Opcode.Action
import Recompiler.Opcode.Pattern

/-! The table of all opcodes, each with a descriptor and a handler. Registrations overwrite the
entries that they match, so a later one wins. -/

namespace Recompiler

def opcodeSpace : Nat := UInt16.size

structure Descriptor where
  name : String
  floatingPoint : Bool := false
  cycles : Option UInt32 := none
  deriving DecidableEq, Repr

abbrev Handler := UInt16 → Action Unit

structure OpcodeTable where
  entries : Vector (Descriptor × Handler) UInt16.size

namespace OpcodeTable

def empty : OpcodeTable :=
  ⟨Vector.replicate _ ({ name := "unknown" }, fun _ => Action.raise .illegalInstruction)⟩

variable (t : OpcodeTable)

def entry (opcode : UInt16) : Descriptor × Handler :=
  have := opcode.toNat_lt_size
  t.entries[opcode.toNat]

def descriptor (opcode : UInt16) : Descriptor := (t.entry opcode).1

def handler (opcode : UInt16) : Handler := (t.entry opcode).2

def assign (p : Pattern) (d : Descriptor) (handler : Handler) : OpcodeTable :=
  ⟨t.entries.mapIdx fun i old => if p.accepts (UInt16.ofNat i) then (d, handler) else old⟩

theorem entry_empty (opcode : UInt16) : empty.entry opcode =
    ({ name := "unknown" }, fun _ => Action.raise .illegalInstruction) := by
  simp [entry, empty]

theorem entry_assign (p : Pattern) (d : Descriptor) (handler : Handler) (opcode : UInt16) :
    (t.assign p d handler).entry opcode =
      if p.accepts opcode then (d, handler) else t.entry opcode := by
  simp [entry, assign]

def coverage (p : Pattern) : Nat :=
  (List.range opcodeSpace).countP fun i => p.accepts (UInt16.ofNat i)

def register (p : Pattern) (d : Descriptor) (handler : Handler) : Nat × OpcodeTable :=
  (coverage p, t.assign p d handler)

def registerPattern (pattern : String) (d : Descriptor) (handler : Handler) :
    Except Pattern.Malformed (Nat × OpcodeTable) := do
  return t.register (← Pattern.parse pattern) d handler

def extend (pattern : String) (d : Descriptor) (handler : Handler) :
    Except Pattern.Malformed OpcodeTable := do
  return t.assign (← Pattern.parse pattern) d handler

variable {β : Type} [Bus β]

def withSlot (slot : Guest β Unit) : InstructionSet β where
  isFloatingPoint opcode := (t.descriptor opcode).floatingPoint
  execute opcode := (t.handler opcode opcode).run slot
  cycleCost opcode := (t.descriptor opcode).cycles

/-- The table as an instruction set in which delay slots nest at most `depth` deep. -/
def instructionSet : Nat → InstructionSet β
  | 0 => t.withSlot Guest.unfinished
  | depth + 1 => t.withSlot fun m => (instructionSet depth).delaySlot m

end OpcodeTable

end Recompiler
