import Recompiler.Guest.Dispatch
import Recompiler.Interpreter.Step

/-! The dispatch loop. It runs in timeslices: instructions are charged until the cycle counter is
used up, then the counter is replenished and the system updated. The running flag is consulted on
entry, after each system update and after each exception, and nowhere else. -/

namespace Recompiler

structure LoopState (β : Type) where
  machine : Machine β
  stats : Statistics := {}
  log : Array LogEvent := #[]

inductive Progress (β : Type) where
  /-- The timeslice goes on. -/
  | within (s : LoopState β)
  /-- The running flag decides. -/
  | boundary (s : LoopState β)
  | aborted (cause : Fatal) (s : LoopState β)
  | unfinished

namespace LoopState

variable {β : Type}

def setProcessor (s : LoopState β) (p : Processor) : LoopState β :=
  { s with machine := { s.machine with processor := p } }

def isRunning (s : LoopState β) : Bool := s.machine.processor.running

end LoopState

namespace Interpreter

variable {β : Type} (i : Interpreter β)

def complete (cost : Int32) (s : LoopState β) : LoopState β :=
  let p := s.machine.processor.charge cost
  let stats := s.stats.recordInstruction
  { s.setProcessor p with
    stats := stats
    log :=
      if i.milestoneInterval ≠ 0 ∧ stats.instructions % i.milestoneInterval = 0 then
        s.log.push (.milestone stats.instructions p.pc)
      else s.log }

def handle (e : Exception) (s : LoopState β) : LoopState β :=
  let r := i.isa.dispatch i.exceptionDrainCycles e s.machine.processor s.stats
  { s.setProcessor r.value.1 with stats := r.value.2, log := s.log ++ r.events }

variable [Bus β]

def rollover (s : LoopState β) : Progress β :=
  let p := s.machine.processor.replenish i.timesliceCycles
  let s := { s with stats := s.stats.recordTimeslice }
  match Bus.updateSystem s.machine.bus p with
  | (.ok (), p, bus) => .boundary { s with machine := ⟨p, bus⟩ }
  | (.error cause, p, bus) => .aborted cause { s with machine := ⟨p, bus⟩ }

def attempt (s : LoopState β) : Progress β :=
  match i.step s.machine with
  | .done cost m =>
    let s := i.complete cost { s with machine := m }
    if s.machine.processor.cycleCounter ≤ 0 then i.rollover s else .within s
  | .fault (.exception e) m => .boundary (i.handle e { s with machine := m })
  | .fault (.fatal cause) m => .aborted cause { s with machine := m }
  | .unfinished => .unfinished

def dispatch : (limit : Nat) → LoopState β → Option (Except Fatal Unit × LoopState β)
  | 0, _ => none
  | limit + 1, s =>
    match i.attempt s with
    | .within s => dispatch limit s
    | .boundary s => if s.isRunning then dispatch limit s else some (.ok (), s)
    | .aborted cause s => some (.error cause, s)
    | .unfinished => none

def enterLoop (limit : Nat) (m : Machine β) : Option (Except Fatal Unit × LoopState β) :=
  if m.processor.running then i.dispatch limit { machine := m } else some (.ok (), { machine := m })

def announces (entry : UInt64) : Bool := entry ≤ 5 || entry % 10 == 0

/-- Runs the guest until it halts. There is no result where that takes more than `limit` attempts,
or where an instruction does not come to its end. -/
def run (limit : Nat) (m : Machine β) :
    Option (Logged (Except LoopFailure Statistics × Machine β × Interpreter β)) :=
  if i.isBound then
    let i := { i with loopEntries := Saturating.word64 (i.loopEntries.toNat + 1) }
    let p := m.processor
    let entered :=
      if announces i.loopEntries then [.runEntered i.loopEntries p.cycleCounter p.pc] else []
    (i.enterLoop limit m).map fun
      | (.ok (), s) =>
        ⟨(.ok s.stats, s.machine, i),
          entered ++ s.log.toList ++ [.runHalted s.stats s.machine.processor.pc]⟩
      | (.error cause, s) =>
        let s := s.setProcessor { s.machine.processor with running := false }
        ⟨(.error (.aborted cause s.stats), s.machine, i),
          entered ++ s.log.toList ++ [.runAborted cause s.stats s.machine.processor.pc]⟩
  else
    some ⟨(.error .unbound, m, i), [.runUnbound]⟩

end Interpreter

end Recompiler
