import Recompiler.Proofs.Loop.Countdown
import Recompiler.Proofs.Loop.Result

/-! How the loop moves the cycle counter, where nothing else writes it: a charge takes its amount or
leaves the counter at its lowest value, and a timeslice is granted in full. -/

namespace Recompiler

variable {β : Type}

namespace Processor

lemma toInt_charge_eq_max (p : Processor) {cycles : Int32} (h : 0 ≤ cycles.toInt) :
    (p.charge cycles).cycleCounter.toInt =
      max (p.cycleCounter.toInt - cycles.toInt) Int32.minValue.toInt := by
  have hp := p.cycleCounter.toInt_le
  by_cases hmin : Int32.minValue.toInt ≤ p.cycleCounter.toInt - cycles.toInt
  · rw [toInt_charge p hmin (by omega), Int.max_eq_left hmin]
  · rw [Int.max_eq_right (by omega), charge]
    simp only [Int32.ofIntClamp, dif_neg hmin]

lemma toInt_replenish_of_used {p : Processor} {cycles : Int32} (hp : p.cycleCounter ≤ 0)
    (h : 0 ≤ cycles.toInt) :
    (p.replenish cycles).cycleCounter.toInt = p.cycleCounter.toInt + cycles.toInt := by
  have hle : p.cycleCounter.toInt ≤ 0 := Int32.le_iff_toInt_le.mp hp
  have hc := cycles.toInt_le
  have hmin := p.cycleCounter.minValue_le_toInt
  exact toInt_replenish p (by omega) (by omega)

end Processor

def Machine.counter (m : Machine β) : Int := m.processor.cycleCounter.toInt

/-- Only the loop writes the cycle counter. -/
structure InstructionSet.KeepsCounter [Bus β] (isa : InstructionSet β) : Prop where
  execute : ∀ opcode, (isa.execute opcode).Along fun m n => n.counter = m.counter
  enterException : ∀ e p, (isa.enterException e p).cycleCounter = p.cycleCounter
  updateSystem : ∀ (bus : β) p, (Bus.updateSystem bus p).2.1.cycleCounter = p.cycleCounter

lemma counting_keepsCounter [Bus β]
    (h : ∀ (bus : β) p, (Bus.updateSystem bus p).2.1.cycleCounter = p.cycleCounter) :
    (counting : InstructionSet β).KeepsCounter where
  execute := counting_along fun _ _ => rfl
  enterException _ _ := rfl
  updateSystem := h

namespace Interpreter

variable (i : Interpreter β)

lemma cost_pos (opcode : UInt16) : 0 < (i.instructionCost opcode).toInt :=
  Int32.lt_iff_toInt_lt.mp (i.instructionCost_pos opcode)

lemma drain_pos : 0 < i.exceptionDrainCycles.toInt :=
  Int32.lt_iff_toInt_lt.mp i.exceptionDrainCycles_pos

lemma counter_charged (opcode : UInt16) (m : Machine β) : (i.charged opcode m).counter =
    max (m.counter - (i.instructionCost opcode).toInt) Int32.minValue.toInt :=
  m.processor.toInt_charge_eq_max (Int.le_of_lt (i.cost_pos opcode))

variable {i} [Bus β] (kept : i.isa.KeepsCounter)

include kept

lemma instruction_keeps : i.isa.instruction.Along fun m n => n.counter = m.counter :=
  InstructionSet.instruction_along (fun h h' => h'.trans h) (fun _ => rfl) (fun _ => rfl) kept.execute

lemma counter_of_done {m n : Machine β} {opcode : UInt16}
    (h : i.isa.instruction m = .done opcode n) : n.counter = m.counter :=
  (instruction_keeps kept).of_done h

lemma counter_of_fault {m n : Machine β} {f : Fault}
    (h : i.isa.instruction m = .fault f n) : n.counter = m.counter :=
  (instruction_keeps kept).of_fault h

lemma counter_handled (s : LoopState β) (e : Exception) (m : Machine β) :
    (i.handled s e m).machine.counter =
      max (m.counter - i.exceptionDrainCycles.toInt) Int32.minValue.toInt := by
  have hc := (i.isa.enterException e m.processor).toInt_charge_eq_max (Int.le_of_lt i.drain_pos)
  rw [kept.enterException] at hc
  exact hc

lemma counter_update {m : Machine β} {p : Processor} {bus : β} {r : Except Fatal Unit}
    (hm : m.processor.cycleCounter ≤ 0) (ht : 0 ≤ i.timesliceCycles.toInt)
    (h : i.update m = (r, p, bus)) :
    p.cycleCounter.toInt = m.counter + i.timesliceCycles.toInt := by
  have hu := kept.updateSystem m.bus (m.processor.replenish i.timesliceCycles)
  rw [← update, h] at hu
  rw [hu, Processor.toInt_replenish_of_used hm ht]
  rfl

end Interpreter

end Recompiler
