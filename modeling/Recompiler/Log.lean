import Recompiler.Block
import Recompiler.Statistics

/-! The log: what the parts of the core report, as events with a level, a message and fields. An
operation that reports returns its events beside its value. -/

namespace Recompiler

inductive Level where
  | error
  | info
  | debug
  | trace
  deriving DecidableEq, Repr

def Level.name : Level → String
  | .error => "ERROR"
  | .info => "INFO"
  | .debug => "DEBUG"
  | .trace => "TRACE"

inductive LogEvent where
  | backendSelected (name : String)
  | backendReleased (name : String)
  | backendBound (name : String) (arena : UInt64) (capacity pc : UInt32)
  | compileUnbound (addr : UInt32)
  | compileForeign (bound given : UInt64)
  | blockSkipped (addr : UInt32) (cause : CodeArena.Exhausted)
  | arenaResetting (used generation : UInt32)
  | arenaResetSeen (name : String)
  | runUnbound
  | runEntered (entry : UInt64) (cycleCounter : Int32) (pc : UInt32)
  | milestone (instructions : UInt64) (pc : UInt32)
  | exceptionEntered (e : Exception) (cycleCounter : Int32) (pc : UInt32)
  | runHalted (stats : Statistics) (pc : UInt32)
  | runAborted (cause : Fatal) (stats : Statistics) (pc : UInt32)
  | hostFaultIgnored (pc : UInt64)
  deriving DecidableEq, Repr

namespace LogEvent

inductive Value where
  | number (n : Int)
  | text (s : String)
  deriving DecidableEq, Repr

def level : LogEvent → Level
  | .compileUnbound .. | .compileForeign .. | .runUnbound | .runAborted .. => .error
  | .backendBound .. => .info
  | .milestone .. | .exceptionEntered .. | .hostFaultIgnored .. => .trace
  | _ => .debug

open Text in
def message : LogEvent → String
  | .backendSelected _ => "backend selected"
  | .backendReleased _ => "backend released"
  | .backendBound _ _ _ pc => s!"backend bound, processor at {address pc}"
  | .compileUnbound addr => s!"compile of block {address addr} on unbound backend"
  | .compileForeign _ _ => "compile called with a code buffer other than the bound one"
  | .blockSkipped addr _ => s!"skipping block {address addr}"
  | .arenaResetting _ _ => "resetting code buffer"
  | .arenaResetSeen _ => "code buffer reset"
  | .runUnbound => "run_loop on unbound backend"
  | .runEntered _ _ pc => s!"entering dispatch loop at {address pc}"
  | .milestone _ pc => s!"dispatch loop milestone at pc {address pc}"
  | .exceptionEntered e _ pc =>
    s!"exception at {address e.epc} entered handler at {address pc}"
  | .runHalted _ pc => s!"dispatch loop halted at {address pc}"
  | .runAborted _ _ pc => s!"abnormal exit from dispatch loop at {address pc}"
  | .hostFaultIgnored pc => s!"ignoring host fault at {hex 1 pc.toNat}"

def fields : LogEvent → List (String × Value)
  | .backendSelected name | .backendReleased name | .arenaResetSeen name =>
    [("backend", .text name)]
  | .backendBound name arena capacity _ =>
    [("backend", .text name), ("buffer_id", .number arena.toNat),
      ("buffer_capacity", .number capacity.toNat)]
  | .compileForeign bound given =>
    [("bound", .number bound.toNat), ("given", .number given.toNat)]
  | .blockSkipped _ cause => [("err", .text cause.message)]
  | .arenaResetting used generation =>
    [("used", .number used.toNat), ("generation", .number generation.toNat)]
  | .runEntered entry cycleCounter _ =>
    [("entry", .number entry.toNat), ("cycle_counter", .number cycleCounter.toInt)]
  | .milestone instructions _ => [("instructions", .number instructions.toNat)]
  | .exceptionEntered e cycleCounter _ =>
    [("kind", .text e.kind.message), ("cycle_counter", .number cycleCounter.toInt)]
  | .runHalted stats _ =>
    [("instructions", .number stats.instructions.toNat),
      ("timeslices", .number stats.timeslices.toNat),
      ("exceptions", .number stats.exceptions.toNat)]
  | .runAborted cause stats _ =>
    [("cause", .text cause.message), ("instructions", .number stats.instructions.toNat)]
  | .compileUnbound _ | .runUnbound | .hostFaultIgnored _ => []

end LogEvent

structure Logged (α : Type) where
  value : α
  events : List LogEvent

namespace Logged

instance : Monad Logged where
  pure a := ⟨a, []⟩
  bind x f := ⟨(f x.value).value, x.events ++ (f x.value).events⟩

@[simp] theorem value_pure {α : Type} (a : α) : (pure a : Logged α).value = a := rfl

@[simp] theorem events_pure {α : Type} (a : α) : (pure a : Logged α).events = [] := rfl

@[simp] theorem value_bind {α γ : Type} (x : Logged α) (f : α → Logged γ) :
    (x >>= f).value = (f x.value).value := rfl

@[simp] theorem events_bind {α γ : Type} (x : Logged α) (f : α → Logged γ) :
    (x >>= f).events = x.events ++ (f x.value).events := rfl

def report (e : LogEvent) : Logged Unit := ⟨(), [e]⟩

end Logged

end Recompiler
