import Recompiler.Opcode.Table
import Recompiler.Proofs.Guest.Instruction

/-! Buses that carry more than the guest sees. Where a bus answers as the part of it that `f` keeps
does, forgetting the rest before an action or after it makes no difference. -/

namespace Recompiler

variable {α δ β γ : Type} {f : γ → β}

def Machine.project (f : γ → β) (m : Machine γ) : Machine β := ⟨m.processor, f m.bus⟩

def Outcome.project (f : γ → β) : Outcome γ α → Outcome β α
  | .done a m => .done a (m.project f)
  | .fault e m => .fault e (m.project f)
  | .unfinished => .unfinished

structure Bus.Projects [Bus γ] [Bus β] (f : γ → β) : Prop where
  readOpcode (c : γ) (addr : UInt32) :
    Bus.readOpcode (f c) addr = (Bus.readOpcode c addr).map id f
  updateSystem (c : γ) (p : Processor) :
    Bus.updateSystem (f c) p = (Bus.updateSystem c p).map id (Prod.map id f)

namespace Guest

def Projects (f : γ → β) (x : Guest γ α) (y : Guest β α) : Prop :=
  ∀ m, y (m.project f) = (x m).project f

namespace Projects

lemma pure (a : α) : Projects f (Pure.pure a) (Pure.pure a) := fun _ => rfl

lemma processor : Projects f Guest.processor Guest.processor := fun _ => rfl

lemma modify (g : Processor → Processor) : Projects f (Guest.modify g) (Guest.modify g) :=
  fun _ => rfl

lemma fail (e : Fault) : Projects f (Guest.fail e : Guest γ α) (Guest.fail e) := fun _ => rfl

lemma unfinished : Projects f (Guest.unfinished : Guest γ α) Guest.unfinished := fun _ => rfl

lemma bind {x : Guest γ α} {y : Guest β α} {g : α → Guest γ δ} {k : α → Guest β δ}
    (h : Projects f x y) (hnext : ∀ a, Projects f (g a) (k a)) :
    Projects f (x >>= g) (y >>= k) := by
  intro m
  have hm := h m
  cases hx : x m with
  | done a n =>
    rw [hx] at hm
    rw [bind_of_done hx, bind_of_done hm]
    exact hnext a n
  | fault e n =>
    rw [hx] at hm
    rw [bind_of_fault hx, bind_of_fault hm]
    rfl
  | unfinished =>
    rw [hx] at hm
    rw [bind_of_unfinished hx, bind_of_unfinished hm]
    rfl

lemma mapFault {x : Guest γ α} {y : Guest β α} (g : Fault → Fault) (h : Projects f x y) :
    Projects f (Guest.mapFault g x) (Guest.mapFault g y) := by
  intro m
  rw [Guest.mapFault, Guest.mapFault, h m]
  cases x m <;> rfl

lemma ite {p : Prop} [Decidable p] {x x' : Guest γ α} {y y' : Guest β α} (h : Projects f x y)
    (h' : Projects f x' y') : Projects f (if p then x else x') (if p then y else y') := by
  split
  · exact h
  · exact h'

variable [Bus γ] [Bus β] (hf : Bus.Projects f)
include hf

lemma fetch (addr : UInt32) : Projects f (Guest.fetch addr) (Guest.fetch addr) := by
  intro m
  rw [Guest.fetch, Guest.fetch, Machine.project, hf.readOpcode]
  rcases Bus.readOpcode m.bus addr with ⟨_ | _, c⟩ <;> rfl

lemma run {slot : Guest γ Unit} {slot' : Guest β Unit} (hslot : Projects f slot slot')
    (x : Action α) : Projects f (x.run slot) (x.run slot') := by
  intro m
  induction x generalizing m with
  | pure a => rfl
  | fault e => rfl
  | read next ih => exact ih m.processor m
  | write p next ih => exact ih { m with processor := p }
  | fetch addr next ih =>
    rw [Action.run, Action.run, Machine.project, hf.readOpcode]
    exact ih _ { m with bus := (Bus.readOpcode m.bus addr).2 }
  | updateSystem next ih =>
    rw [Action.run, Action.run, Machine.project, hf.updateSystem]
    exact ih _ ⟨_, (Bus.updateSystem m.bus m.processor).2.2⟩
  | delaySlot next ih =>
    rw [Action.run, Action.run, hslot m]
    cases slot m with
    | done u n => exact ih (.ok ()) n
    | fault e n => exact ih (.error e) n
    | unfinished => rfl

end Projects

end Guest

namespace InstructionSet

structure Projects (f : γ → β) (isa : InstructionSet γ) (isa' : InstructionSet β) : Prop where
  isFloatingPoint : isa'.isFloatingPoint = isa.isFloatingPoint
  execute (opcode : UInt16) : Guest.Projects f (isa.execute opcode) (isa'.execute opcode)
  cycleCost : isa'.cycleCost = isa.cycleCost
  enterException : isa'.enterException = isa.enterException

variable [Bus γ] [Bus β] {isa : InstructionSet γ} {isa' : InstructionSet β}

lemma Projects.delaySlot (h : isa.Projects f isa') (hf : Bus.Projects f) :
    Guest.Projects f isa.delaySlot isa'.delaySlot := by
  rw [InstructionSet.delaySlot, InstructionSet.delaySlot, h.isFloatingPoint]
  refine .bind .processor fun p => .mapFault _ (.bind (.modify _) fun _ => ?_)
  refine .bind (.fetch hf p.pc) fun opcode => .bind .processor fun q => ?_
  exact .ite (.fail _) (h.execute opcode)

lemma Projects.instruction (h : isa.Projects f isa') (hf : Bus.Projects f) :
    Guest.Projects f isa.instruction isa'.instruction := by
  rw [InstructionSet.instruction, InstructionSet.instruction, h.isFloatingPoint]
  refine .bind .processor fun p => .bind (.fetch hf p.pc) fun opcode => ?_
  refine .bind (.modify _) fun _ => .bind .processor fun q => ?_
  exact .ite (.fail _) (.bind (h.execute opcode) fun _ => .pure opcode)

end InstructionSet

end Recompiler
