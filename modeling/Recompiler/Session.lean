import Recompiler.Backend.Selection

/-! A session: one processor with its arena and its backend. All calls of the backend go through
the session, one after the other. -/

namespace Recompiler

structure Session (σ : Type) where
  config : Configuration
  processor : Processor
  arena : CodeArena
  selection : Selection σ

namespace Session

variable {σ β : Type} [Backend σ β]

def create (config : Configuration) (backend : σ) (supply : CodeArena.Supply) :
    Except Configuration.Rejection (Logged (Session σ × CodeArena.Supply)) := do
  config.validate
  let processor := Processor.withBudget config.timesliceCycles
  let (arena, supply) := supply.create config.codeBufferBytes
  return do
    let (_, selection) ← ({} : Selection σ).installIfEmpty fun _ => backend
    let active ← selection.active.mapM fun b => Backend.bindTo b processor arena
    return (⟨config, processor, arena, ⟨active⟩⟩, supply)

def withInterpreter [Bus β] (config : Configuration) (isa : InstructionSet β)
    (supply : CodeArena.Supply) :
    Except Configuration.Rejection (Logged (Session (Interpreter β) × CodeArena.Supply)) :=
  create config (Interpreter.create isa config) supply

variable (s : Session σ)

def backendName? : Option String := s.selection.name?

def withProcessor (f : Processor → Processor) : Session σ := { s with processor := f s.processor }

def compile (block : Block) : Logged (Option CodeUnit × Block × Session σ) := do
  match s.selection.active with
  | none => return (none, block, s)
  | some b =>
    let (unit, arena, block, b) ←
      Backend.compile b s.arena block s.config.smcChecks s.config.optimise
    return (unit, block, { s with arena, selection := ⟨some b⟩ })

def resetArena : Logged (Session σ) := do
  Logged.report (.arenaResetting s.arena.cursor s.arena.generation)
  let arena := s.arena.reset
  let active ← s.selection.active.mapM Backend.onArenaReset
  return { s with arena, selection := ⟨active⟩ }

def run (limit : Nat) (bus : β) :
    Option (Logged (Except LoopFailure Statistics × β × Session σ)) :=
  match s.selection.active with
  | none => some (return (.error .unbound, bus, s))
  | some b =>
    (Backend.run b limit ⟨{ s.processor with running := true }, bus⟩).map fun r => do
      let (result, m, b) ← r
      return (result, m.bus, { s with processor := m.processor, selection := ⟨some b⟩ })

def requestHalt : Session σ := s.withProcessor fun p => { p with running := false }

/-- Offers a host fault to the backend: first to be mended, and where that fails to be handled.
Tells whether it was mended. -/
def handleHostFault (host : HostState) (addr : UInt64) :
    Logged (Bool × HostState × Session σ) := do
  match s.selection.active with
  | none => return (false, host, s)
  | some b =>
    let (mended, host, b) ← Backend.mendFault b host addr
    if mended then
      return (true, host, { s with selection := ⟨some b⟩ })
    else
      let (host, b) ← Backend.handleFault b host
      return (false, host, { s with selection := ⟨some b⟩ })

def teardown : Logged (Processor × CodeArena) := do
  let _ ← s.selection.teardown
  return (s.processor, s.arena)

end Session

end Recompiler
