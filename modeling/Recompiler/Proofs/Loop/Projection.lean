import Recompiler.Proofs.Guest.Projection
import Recompiler.Proofs.Loop.Record

/-! The loop on a bus that carries more than the guest sees. Its record and what it returns are those
of the loop on the part that the guest sees, with the rest forgotten. -/

namespace Recompiler

variable {β γ : Type} {f : γ → β}

def LoopState.project (f : γ → β) (s : LoopState γ) : LoopState β :=
  ⟨s.machine.project f, s.stats, s.log⟩

def Progress.project (f : γ → β) : Progress γ → Progress β
  | .within s => .within (s.project f)
  | .boundary s => .boundary (s.project f)
  | .aborted cause s => .aborted cause (s.project f)
  | .unfinished => .unfinished

def Mark.project (f : γ → β) : Mark γ → Mark β
  | .instruction m => .instruction (m.project f)
  | .exception e m => .exception e (m.project f)
  | .rollover r m => .rollover r (m.project f)
  | .fatal cause m => .fatal cause (m.project f)

namespace Interpreter

structure Projects (f : γ → β) (i : Interpreter γ) (j : Interpreter β) : Prop where
  isa : i.isa.Projects f j.isa
  timesliceCycles : j.timesliceCycles = i.timesliceCycles
  cyclesPerInstruction : j.cyclesPerInstruction = i.cyclesPerInstruction
  exceptionDrainCycles : j.exceptionDrainCycles = i.exceptionDrainCycles
  milestoneInterval : j.milestoneInterval = i.milestoneInterval

lemma projects_bound {isa : InstructionSet γ} {isa' : InstructionSet β} (h : isa.Projects f isa')
    (c : Configuration) (arena entries : UInt64) :
    (bound isa c arena entries).Projects f (bound isa' c arena entries) :=
  ⟨h, rfl, rfl, rfl, rfl⟩

namespace Projects

variable {i : Interpreter γ} {j : Interpreter β} (h : i.Projects f j)
include h

lemma complete (cost : Int32) (s : LoopState γ) :
    j.complete cost (s.project f) = (i.complete cost s).project f := by
  rw [Interpreter.complete, Interpreter.complete, h.milestoneInterval]
  rfl

lemma handle (e : Exception) (s : LoopState γ) :
    j.handle e (s.project f) = (i.handle e s).project f := by
  rw [Interpreter.handle, Interpreter.handle, InstructionSet.dispatch, InstructionSet.dispatch,
    h.isa.enterException, h.exceptionDrainCycles]
  rfl

variable [Bus γ] [Bus β] (hf : Bus.Projects f)
include hf

lemma step : Guest.Projects f i.step j.step := by
  have hcost : j.instructionCost = i.instructionCost := by
    funext opcode
    rw [instructionCost, instructionCost, h.isa.cycleCost, h.cyclesPerInstruction]
  rw [step_eq, step_eq, hcost, map_eq_pure_bind, map_eq_pure_bind]
  exact .bind (h.isa.instruction hf) fun opcode => .pure _

lemma recordRollover (s : LoopState γ) :
    j.recordRollover (s.project f) =
      (i.recordRollover s).map (Mark.project f) (Progress.project f) := by
  rw [Interpreter.recordRollover, Interpreter.recordRollover, h.timesliceCycles]
  simp only [LoopState.project, Machine.project, hf.updateSystem]
  rcases Bus.updateSystem s.machine.bus (s.machine.processor.replenish i.timesliceCycles) with
    ⟨_ | _, p, b⟩ <;> rfl

lemma recordAttempt (s : LoopState γ) :
    j.recordAttempt (s.project f) =
      (i.recordAttempt s).map (List.map (Mark.project f)) (Progress.project f) := by
  have hm : j.step (s.project f).machine = _ := h.step hf s.machine
  rw [Interpreter.recordAttempt, Interpreter.recordAttempt, hm]
  rcases i.step s.machine with ⟨cost, m⟩ | ⟨e | cause, m⟩ | _
  · have hs : j.complete cost { s.project f with machine := m.project f } = _ :=
      h.complete cost { s with machine := m }
    dsimp only [Outcome.project]
    rw [hs, h.recordRollover hf]
    change (if (i.complete cost _).machine.processor.cycleCounter ≤ 0 then _ else _) = _
    split <;> rfl
  · have hs : j.handle e { s.project f with machine := m.project f } = _ :=
      h.handle e { s with machine := m }
    dsimp only [Outcome.project]
    rw [hs]
    rfl
  · rfl
  · rfl

lemma recordFrom (limit : Nat) (s : LoopState γ) :
    j.recordFrom limit (s.project f) = (i.recordFrom limit s).map (List.map (Mark.project f))
      (Option.map (Prod.map id (LoopState.project f))) := by
  induction limit generalizing s with
  | zero => rfl
  | succ limit ih =>
    rw [Interpreter.recordFrom, Interpreter.recordFrom, h.recordAttempt hf]
    rcases i.recordAttempt s with ⟨es, t | t | ⟨cause, t⟩ | _⟩
    · dsimp only [Prod.map, Progress.project]
      rw [ih, Prod.map, List.map_append]
      rfl
    · have hrun : (t.project f).isRunning = t.isRunning := rfl
      dsimp only [Prod.map, Progress.project]
      rw [ih, hrun]
      cases t.isRunning with
      | true =>
        rw [if_pos rfl, if_pos rfl, Prod.map, List.map_append]
        rfl
      | false => rfl
    · rfl
    · rfl

lemma record (limit : Nat) (m : Machine γ) :
    j.record limit (m.project f) = (i.record limit m).map (List.map (Mark.project f))
      (Option.map (Prod.map id (LoopState.project f))) := by
  have hrun : (m.project f).processor.running = m.processor.running := rfl
  rw [Interpreter.record, Interpreter.record, hrun]
  split
  · exact h.recordFrom hf limit { machine := m }
  · rfl

lemma run (hi : i.isBound = true) (hj : j.isBound = true) (limit : Nat) (m : Machine γ) :
    (j.run limit (m.project f)).map answer =
      ((i.run limit m).map answer).map (Prod.map id (Machine.project f)) := by
  rw [run_eq hi, run_eq hj, ← record_snd, ← record_snd, h.record hf, Prod.map, Option.map_map,
    Option.map_map]
  refine congrFun (congrArg _ (funext fun x => ?_)) _
  rcases x with ⟨_ | _, s⟩ <;> rfl

end Projects

end Interpreter

end Recompiler
