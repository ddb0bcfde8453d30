import Recompiler.Interpreter.Basic

/-! One instruction: fetch, advance, check the floating-point unit, execute. -/

namespace Recompiler.Interpreter

variable {β : Type} (i : Interpreter β)

def instructionCost (opcode : UInt16) : Int32 :=
  match i.isa.cycleCost opcode with
  | none => i.cyclesPerInstruction
  | some cycles => if cycles = 0 then i.cyclesPerInstruction else Int32.ofIntClamp cycles.toNat

theorem instructionCost_pos (opcode : UInt16) : 0 < i.instructionCost opcode := by
  unfold instructionCost
  split
  · exact i.cyclesPerInstruction_pos
  · rename_i cycles _
    split
    · exact i.cyclesPerInstruction_pos
    · rename_i hc
      have hpos : 0 < cycles.toNat := Nat.pos_of_ne_zero fun h => hc (UInt32.toNat_inj.mp h)
      unfold Int32.ofIntClamp
      have hmin : Int32.minValue.toInt = -2147483648 := rfl
      have hmax : Int32.maxValue.toInt = 2147483647 := rfl
      have h₀ : (0 : Int32).toInt = 0 := rfl
      rw [Int32.lt_iff_toInt_lt, dif_pos (by omega)]
      split
      · rw [Int32.toInt_ofIntLE]
        omega
      · omega

/-- Executes the instruction at the program counter and returns its cost. Where the fetch fails the
program counter has not moved. -/
def step [Bus β] : Guest β Int32 := do
  let addr := (← Guest.processor).pc
  let opcode ← Guest.fetch addr
  Guest.modify (·.setPc (addr + instructionBytes))
  if (← Guest.processor).fpuDisabled && i.isa.isFloatingPoint opcode then
    Guest.fail (.raise addr .fpuDisabled)
  else
    i.isa.execute opcode
    return i.instructionCost opcode

end Recompiler.Interpreter
