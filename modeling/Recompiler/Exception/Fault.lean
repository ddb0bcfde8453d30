import Recompiler.Exception.Entry

/-! The ways in which a fetch or an instruction can fail: an exception, which the guest handles, or
a fatal error, which ends the run. -/

namespace Recompiler

inductive Fatal where
  | unmappedFetch (addr : UInt32)
  | systemUpdate (reason : String)
  | host (reason : String)
  deriving DecidableEq, Repr

def Fatal.message : Fatal → String
  | .unmappedFetch addr => s!"instruction fetch from unmapped address {Text.address addr}"
  | .systemUpdate reason => s!"system update failed: {reason}"
  | .host reason => s!"host failure: {reason}"

inductive Fault where
  | exception (e : Exception)
  | fatal (cause : Fatal)
  deriving DecidableEq, Repr

namespace Fault

def raise (epc : UInt32) (kind : Exception.Kind) : Fault := .exception ⟨epc, kind⟩

def inDelaySlot (branch : UInt32) : Fault → Fault
  | .exception e => raise branch e.kind.inDelaySlot
  | .fatal cause => .fatal cause

end Fault

end Recompiler
