import Recompiler.Configuration
import Recompiler.Guest.InstructionSet
import Recompiler.Log

/-! The interpreting backend: it emits no code, reserves a placeholder for every block, and executes
guest opcodes one at a time. -/

namespace Recompiler

structure Interpreter (β : Type) where
  isa : InstructionSet β
  timesliceCycles : Int32
  cyclesPerInstruction : Int32
  exceptionDrainCycles : Int32
  cyclesPerInstruction_pos : 0 < cyclesPerInstruction
  exceptionDrainCycles_pos : 0 < exceptionDrainCycles
  unitPlaceholderBytes : UInt32
  milestoneInterval : UInt64
  binding : Option UInt64 := none
  loopEntries : UInt64 := 0

namespace Interpreter

variable {β : Type}

def name : String := "interpreter"

theorem pos_of_raised (cycles : Int32) : 0 < max cycles 1 := by
  have h : max cycles 1 = if cycles ≤ 1 then 1 else cycles := rfl
  rw [h]
  split
  · decide
  · rename_i hc
    have h₀ : (0 : Int32).toInt = 0 := rfl
    have h₁ : (1 : Int32).toInt = 1 := rfl
    rw [Int32.le_iff_toInt_le] at hc
    rw [Int32.lt_iff_toInt_lt]
    omega

def create (isa : InstructionSet β) (c : Configuration) : Interpreter β where
  isa := isa
  timesliceCycles := c.timesliceCycles
  cyclesPerInstruction := max c.cyclesPerInstruction 1
  exceptionDrainCycles := max c.exceptionDrainCycles 1
  cyclesPerInstruction_pos := pos_of_raised c.cyclesPerInstruction
  exceptionDrainCycles_pos := pos_of_raised c.exceptionDrainCycles
  unitPlaceholderBytes := c.unitPlaceholderBytes
  milestoneInterval := c.milestoneInterval

variable (i : Interpreter β)

def isBound : Bool := i.binding.isSome

def bindTo (p : Processor) (arena : CodeArena) : Logged (Interpreter β) := do
  Logged.report (.backendBound name arena.id arena.capacity p.pc)
  return { i with binding := some arena.id }

/-- Reserves a placeholder for the block. The block loses the code it had, and stays without where
the interpreter is unbound, the arena is not the bound one, or it is full. -/
def compile (arena : CodeArena) (block : Block) :
    Logged (Option CodeUnit × CodeArena × Block) := do
  let block := { block with code := none }
  match i.binding with
  | none =>
    Logged.report (.compileUnbound block.addr)
    return (none, arena, block)
  | some bound =>
    if bound ≠ arena.id then
      Logged.report (.compileForeign bound arena.id)
      return (none, arena, block)
    else match arena.allocate i.unitPlaceholderBytes with
      | .ok (entry, arena) =>
        return (some ⟨entry, block.addr, i.unitPlaceholderBytes⟩, arena,
          { block with code := some entry })
      | .error cause =>
        Logged.report (.blockSkipped block.addr cause)
        return (none, arena, block)

end Interpreter

end Recompiler
