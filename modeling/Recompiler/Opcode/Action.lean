import Recompiler.Guest.InstructionSet

/-! The effects of opcodes as programs. A program reads and writes the processor, fetches words,
updates the system and runs the delay slot; it sees how each of these ends and goes on from there. -/

namespace Recompiler

inductive Action (α : Type) where
  | pure (a : α)
  | fault (f : Fault)
  | read (next : Processor → Action α)
  | write (p : Processor) (next : Action α)
  | fetch (addr : UInt32) (next : Except Fault UInt16 → Action α)
  | updateSystem (next : Except Fatal Unit → Action α)
  | delaySlot (next : Except Fault Unit → Action α)

namespace Action

variable {α γ β : Type}

def bind : Action α → (α → Action γ) → Action γ
  | .pure a, f => f a
  | .fault e, _ => .fault e
  | .read next, f => .read fun p => (next p).bind f
  | .write p next, f => .write p (next.bind f)
  | .fetch addr next, f => .fetch addr fun r => (next r).bind f
  | .updateSystem next, f => .updateSystem fun r => (next r).bind f
  | .delaySlot next, f => .delaySlot fun r => (next r).bind f

instance : Monad Action where
  pure := .pure
  bind := bind

def processor : Action Processor := .read .pure

def modify (f : Processor → Processor) : Action Unit := .read fun p => .write (f p) (.pure ())

def currentPc : Action UInt32 := .read fun p => .pure (p.pc - instructionBytes)

def raise (kind : Exception.Kind) : Action α := do
  .fault (.raise (← currentPc) kind)

def ofExcept : Except Fault α → Action α
  | .ok a => .pure a
  | .error f => .fault f

def readOpcode (addr : UInt32) : Action UInt16 := .fetch addr ofExcept

def update : Action Unit := .updateSystem fun
  | .ok () => .pure ()
  | .error cause => .fault (.fatal cause)

def runDelaySlot : Action Unit := .delaySlot ofExcept

def tryDelaySlot : Action (Except Fault Unit) := .delaySlot .pure

def run [Bus β] (slot : Guest β Unit) : Action α → Machine β → Outcome β α
  | .pure a, m => .done a m
  | .fault f, m => .fault f m
  | .read next, m => run slot (next m.processor) m
  | .write p next, m => run slot next { m with processor := p }
  | .fetch addr next, m =>
    match Bus.readOpcode m.bus addr with
    | (r, bus) => run slot (next r) { m with bus }
  | .updateSystem next, m =>
    match Bus.updateSystem m.bus m.processor with
    | (r, processor, bus) => run slot (next r) ⟨processor, bus⟩
  | .delaySlot next, m =>
    match slot m with
    | .done () m => run slot (next (.ok ())) m
    | .fault f m => run slot (next (.error f)) m
    | .unfinished => .unfinished

theorem run_bind [Bus β] (slot : Guest β Unit) (x : Action α) (f : α → Action γ) (m : Machine β) :
    run slot (x.bind f) m = Guest.bind (run slot x) (fun a => run slot (f a)) m := by
  induction x generalizing m with
  | pure a => rfl
  | fault e => rfl
  | read next ih => exact ih m.processor m
  | write p next ih => exact ih { m with processor := p }
  | fetch addr next ih => exact ih _ _
  | updateSystem next ih => exact ih _ _
  | delaySlot next ih =>
    simp only [bind, run, Guest.bind]
    cases slot m with
    | done u n => exact ih (.ok ()) n
    | fault e n => exact ih (.error e) n
    | unfinished => rfl

end Action

end Recompiler
