import Recompiler.Proofs.Guest.Instruction

/-! A small guest to run: every word counts up a register, but the word at address 4 cannot be
fetched. Its bus records the fetches and halts the guest after a number of updates. -/

namespace Recompiler

variable {β : Type}

structure Countdown where
  updates : Nat
  fetches : List UInt32 := []
  deriving DecidableEq

instance : Bus Countdown where
  readOpcode bus addr :=
    (if addr = 4 then .error (.raise addr .tlbMissRead) else .ok 9,
      { bus with fetches := bus.fetches ++ [addr] })
  updateSystem bus p :=
    (.ok (), { p with running := 1 < bus.updates }, { bus with updates := bus.updates - 1 })

def counting : InstructionSet β where
  isFloatingPoint _ := false
  execute _ := Guest.modify fun p =>
    { p with regs := p.regs.setGpr ⟨0, by decide⟩ (p.regs.gpr[0] + 1) }
  enterException e p := p.setPc (e.epc + instructionBytes)

def Countdown.start (budget : Int32) (updates : Nat) : Machine Countdown :=
  ⟨{ cycleCounter := budget, running := true }, { updates := updates }⟩

lemma counting_along {R : Machine β → Machine β → Prop}
    (h : ∀ (m : Machine β) v, R m
      { m with processor := { m.processor with regs := m.processor.regs.setGpr 0 v } })
    (opcode : UInt16) : ((counting : InstructionSet β).execute opcode).Along R :=
  fun m => h m _

end Recompiler
