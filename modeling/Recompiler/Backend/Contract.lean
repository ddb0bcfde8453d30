import Recompiler.Interpreter.Loop

/-! What every backend offers to its session. The session calls one hook at a time, and a backend
that is called out of order reports it and does nothing else. -/

namespace Recompiler

structure HostState where
  pc : UInt64
  sp : UInt64
  deriving DecidableEq, Repr

class Backend (σ : Type) (β : outParam Type) where
  name : σ → String
  bindTo : σ → Processor → CodeArena → Logged σ
  compile : σ → CodeArena → Block → (smcChecks optimise : Bool) →
    Logged (Option CodeUnit × CodeArena × Block × σ)
  run : σ → (limit : Nat) → Machine β →
    Option (Logged (Except LoopFailure Statistics × Machine β × σ))
  handleFault : σ → HostState → Logged (HostState × σ)
  /-- Tries to mend the access at an address; `true` if execution may go on. -/
  mendFault : σ → HostState → UInt64 → Logged (Bool × HostState × σ)
  onArenaReset : σ → Logged σ
  canonStart : σ → Ir.Operation → Logged σ
  canonParam : σ → Ir.Operation → Ir.Operand → Ir.Passing → Logged σ
  canonCall : σ → Ir.Operation → Ir.Canonical → Logged σ
  canonFinish : σ → Ir.Operation → Logged σ

namespace Backend

variable {σ β : Type} [Backend σ β]

def emitCanonicalCall (b : σ) (op : Ir.Operation) (params : List (Ir.Operand × Ir.Passing))
    (f : Ir.Canonical) : Logged σ := do
  let b ← canonStart b op
  let b ← params.foldlM (fun b (operand, passing) => canonParam b op operand passing) b
  let b ← canonCall b op f
  canonFinish b op

end Backend

instance {β : Type} [Bus β] : Backend (Interpreter β) β where
  name _ := Interpreter.name
  bindTo := Interpreter.bindTo
  compile i arena block _ _ := do
    let (unit, arena, block) ← i.compile arena block
    return (unit, arena, block, i)
  run i limit m := i.run limit m
  handleFault i host := do
    Logged.report (.hostFaultIgnored host.pc)
    return (host, i)
  mendFault i host _ := return (false, host, i)
  onArenaReset i := do
    Logged.report (.arenaResetSeen Interpreter.name)
    return i
  canonStart i _ := return i
  canonParam i _ _ _ := return i
  canonCall i _ _ := return i
  canonFinish i _ := return i

end Recompiler
