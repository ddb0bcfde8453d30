import Recompiler.Exception.Fault

/-! The guest machine: a processor and the bus it is connected to. An action on the machine ends
with a value, ends with a fault, or is cut off by a limit that its caller has set. -/

namespace Recompiler

class Bus (β : Type) where
  readOpcode : β → UInt32 → Except Fault UInt16 × β
  /-- Services events and interrupts, once a timeslice. The processor may have changed even where
  the update fails. -/
  updateSystem : β → Processor → Except Fatal Unit × Processor × β

structure Machine (β : Type) where
  processor : Processor
  bus : β

inductive Outcome (β α : Type) where
  | done (value : α) (m : Machine β)
  | fault (f : Fault) (m : Machine β)
  /-- The limit was reached first. -/
  | unfinished

/-- Actions on a machine. A fault keeps what was done before it. -/
def Guest (β α : Type) := Machine β → Outcome β α

namespace Guest

variable {β α γ : Type}

def bind (x : Guest β α) (f : α → Guest β γ) : Guest β γ := fun m =>
  match x m with
  | .done a m => f a m
  | .fault e m => .fault e m
  | .unfinished => .unfinished

instance : Monad (Guest β) where
  pure a := fun m => .done a m
  bind := bind

theorem pure_apply (a : α) (m : Machine β) : (pure a : Guest β α) m = .done a m := rfl

theorem bind_of_done {x : Guest β α} {f : α → Guest β γ} {m n : Machine β} {a : α}
    (h : x m = .done a n) : (x >>= f) m = f a n := by
  change bind x f m = f a n
  rw [bind, h]

theorem bind_of_fault {x : Guest β α} {f : α → Guest β γ} {m n : Machine β} {e : Fault}
    (h : x m = .fault e n) : (x >>= f) m = .fault e n := by
  change bind x f m = .fault e n
  rw [bind, h]

theorem bind_of_unfinished {x : Guest β α} {f : α → Guest β γ} {m : Machine β}
    (h : x m = .unfinished) : (x >>= f) m = .unfinished := by
  change bind x f m = .unfinished
  rw [bind, h]

def processor : Guest β Processor := fun m => .done m.processor m

def modify (f : Processor → Processor) : Guest β Unit := fun m =>
  .done () { m with processor := f m.processor }

def fail (f : Fault) : Guest β α := fun m => .fault f m

def unfinished : Guest β α := fun _ => .unfinished

def fetch [Bus β] (addr : UInt32) : Guest β UInt16 := fun m =>
  match Bus.readOpcode m.bus addr with
  | (.ok opcode, bus) => .done opcode { m with bus }
  | (.error f, bus) => .fault f { m with bus }

def updateSystem [Bus β] : Guest β Unit := fun m =>
  match Bus.updateSystem m.bus m.processor with
  | (.ok (), processor, bus) => .done () ⟨processor, bus⟩
  | (.error cause, processor, bus) => .fault (.fatal cause) ⟨processor, bus⟩

def mapFault (f : Fault → Fault) (x : Guest β α) : Guest β α := fun m =>
  match x m with
  | .done a m => .done a m
  | .fault e m => .fault (f e) m
  | .unfinished => .unfinished

def attempt (x : Guest β α) : Guest β (Except Fault α) := fun m =>
  match x m with
  | .done a m => .done (.ok a) m
  | .fault e m => .done (.error e) m
  | .unfinished => .unfinished

end Guest

end Recompiler
