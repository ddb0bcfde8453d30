import Recompiler.Register.Single
import Recompiler.Register.Status

/-! The register file: sixteen general and sixteen floating-point registers, and the control
registers that exception entry uses. -/

namespace Recompiler

def generalRegisterCount : Nat := 16

def floatRegisterCount : Nat := 16

abbrev GeneralRegister := Fin 16

namespace GeneralRegister

def ofField? (bits : UInt8) : Option GeneralRegister :=
  if h : bits.toNat < 16 then some ⟨bits.toNat, h⟩ else none

def ofOpcode (opcode shift : UInt16) : GeneralRegister :=
  Fin.ofNat 16 (opcode >>> shift).toNat

def name (r : GeneralRegister) : String := "R" ++ toString r.val

end GeneralRegister

structure Registers where
  gpr : Vector UInt32 16 := Vector.replicate 16 0
  fpr : Vector Single 16 := Vector.replicate 16 ⟨0⟩
  pc : UInt32 := 0
  sr : UInt32 := 0
  fpscr : UInt32 := 0
  spc : UInt32 := 0
  ssr : UInt32 := 0
  sgr : UInt32 := 0
  vbr : UInt32 := 0
  expevt : UInt32 := 0
  deriving DecidableEq

namespace Registers

def setGpr (r : Registers) (n : GeneralRegister) (v : UInt32) : Registers :=
  { r with gpr := r.gpr.set n.val v }

@[simp] theorem gpr_setGpr (r : Registers) (n : GeneralRegister) (v : UInt32) :
    (r.setGpr n v).gpr[n] = v := by
  simp [setGpr]

theorem gpr_setGpr_of_ne (r : Registers) {m n : GeneralRegister} (v : UInt32) (h : m ≠ n) :
    (r.setGpr n v).gpr[m] = r.gpr[m] := by
  have hne : n.val ≠ m.val := fun e => h (Fin.ext e.symm)
  simp [setGpr, Vector.getElem_set_ne _ _ hne]

def readFpr (r : Registers) (n : Nat) : Single := r.fpr[Fin.ofNat 16 n]

def setFpr (r : Registers) (n : Nat) (v : Single) : Registers :=
  { r with fpr := r.fpr.set (Fin.ofNat 16 n).val v }

@[simp] theorem readFpr_setFpr (r : Registers) (n : Nat) (v : Single) :
    (r.setFpr n v).readFpr n = v := by
  simp [readFpr, setFpr]

def setPc (r : Registers) (v : UInt32) : Registers := { r with pc := v }

def setSr (r : Registers) (v : UInt32) : Registers := { r with sr := v &&& Status.active }

def hasFlag (r : Registers) (flag : UInt32) : Bool := flag != 0 && r.sr &&& flag == flag

def setFlag (r : Registers) (flag : UInt32) (on : Bool) : Registers :=
  { r with sr := if on then r.sr ||| flag &&& Status.active else r.sr &&& ~~~(flag &&& Status.active) }

theorem sr_setSr (r : Registers) (v : UInt32) : (r.setSr v).sr = v &&& Status.active := rfl

theorem pc_setPc (r : Registers) (v : UInt32) : (r.setPc v).pc = v := rfl

def numEq (r s : Registers) : Bool :=
  { r with fpr := s.fpr } == s && (r.fpr.toList.zip s.fpr.toList).all fun x => x.1.numEq x.2

end Registers

end Recompiler
