import Recompiler.Backend.Contract
import Recompiler.Text.Quoted

/-! The place for the one backend that a session has selected. -/

namespace Recompiler

structure Selection (σ : Type) where
  active : Option σ := none

namespace Selection

structure Refused where
  active : String
  rejected : String
  deriving DecidableEq, Repr

def Refused.message (r : Refused) : String :=
  s!"backend {r.active} already selected, refusing {r.rejected}"

variable {σ β : Type} [Backend σ β] (s : Selection σ)

def isSelected : Bool := s.active.isSome

def name? : Option String := s.active.map Backend.name

def install (b : σ) : Except Refused (Logged (Selection σ)) :=
  match s.active with
  | some active => .error ⟨Backend.name active, Backend.name b⟩
  | none => .ok ⟨⟨some b⟩, [.backendSelected (Backend.name b)]⟩

/-- Selects the backend that `make` builds, which is asked only where none is selected; tells
whether it was. -/
def installIfEmpty (make : Unit → σ) : Logged (Bool × Selection σ) :=
  if s.isSelected then return (false, s)
  else match s.install (make ()) with
    | .ok r => (true, ·) <$> r
    | .error _ => return (false, s)

def teardown : Logged (Option σ × Selection σ) := do
  if let some b := s.active then
    Logged.report (.backendReleased (Backend.name b))
  return (s.active, ⟨none⟩)

def describe : String :=
  let active := match s.name? with
    | some name => s!"Some({Text.quoted name})"
    | none => "None"
  "BackendSlot \x7b active: " ++ active ++ " \x7d"

end Selection

end Recompiler
