import Recompiler.Backend.Contract

/-! A backend of one of two kinds, for hosts that choose between them while they run. -/

namespace Recompiler

variable {σ τ β : Type} [Backend σ β] [Backend τ β]

namespace Logged

def inLeft (x : Logged σ) : Logged (σ ⊕ τ) := Sum.inl <$> x

def inRight (x : Logged τ) : Logged (σ ⊕ τ) := Sum.inr <$> x

end Logged

open Backend Logged in
instance : Backend (σ ⊕ τ) β where
  name := Sum.elim name name
  bindTo b p arena := b.elim (inLeft <| bindTo · p arena) (inRight <| bindTo · p arena)
  compile b arena block smcChecks optimise := match b with
    | .inl b => do
      let (unit, arena, block, b) ← compile b arena block smcChecks optimise
      return (unit, arena, block, .inl b)
    | .inr b => do
      let (unit, arena, block, b) ← compile b arena block smcChecks optimise
      return (unit, arena, block, .inr b)
  run b limit m := match b with
    | .inl b => (run b limit m).map fun r => do
      let (result, m, b) ← r
      return (result, m, .inl b)
    | .inr b => (run b limit m).map fun r => do
      let (result, m, b) ← r
      return (result, m, .inr b)
  handleFault b host := match b with
    | .inl b => do
      let (host, b) ← handleFault b host
      return (host, .inl b)
    | .inr b => do
      let (host, b) ← handleFault b host
      return (host, .inr b)
  mendFault b host addr := match b with
    | .inl b => do
      let (mended, host, b) ← mendFault b host addr
      return (mended, host, .inl b)
    | .inr b => do
      let (mended, host, b) ← mendFault b host addr
      return (mended, host, .inr b)
  onArenaReset b := b.elim (inLeft <| onArenaReset ·) (inRight <| onArenaReset ·)
  canonStart b op := b.elim (inLeft <| canonStart · op) (inRight <| canonStart · op)
  canonParam b op operand passing :=
    b.elim (inLeft <| canonParam · op operand passing) (inRight <| canonParam · op operand passing)
  canonCall b op f := b.elim (inLeft <| canonCall · op f) (inRight <| canonCall · op f)
  canonFinish b op := b.elim (inLeft <| canonFinish · op) (inRight <| canonFinish · op)

end Recompiler
