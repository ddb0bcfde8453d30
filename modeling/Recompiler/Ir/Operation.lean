import Recompiler.Processor

/-! The intermediate representation of a decoded block. Only backends that emit code look at it. -/

namespace Recompiler.Ir

inductive Kind where
  | mov32
  | add
  | sub
  | mul
  | and
  | or
  | xor
  | not
  | neg
  | shl
  | shr
  | sar
  | readMem
  | writeMem
  | fadd
  | fsub
  | fmul
  | fdiv
  | fsqrt
  | jcond
  | jdyn
  | sync
  | ifb
  deriving DecidableEq, Repr

namespace Kind

def isFloatingPoint : Kind → Bool
  | .fadd | .fsub | .fmul | .fdiv | .fsqrt => true
  | _ => false

def names : List (String × Kind) :=
  [("Mov32", .mov32), ("Add", .add), ("Sub", .sub), ("Mul", .mul), ("And", .and), ("Or", .or),
    ("Xor", .xor), ("Not", .not), ("Neg", .neg), ("Shl", .shl), ("Shr", .shr), ("Sar", .sar),
    ("ReadMem", .readMem), ("WriteMem", .writeMem), ("Fadd", .fadd), ("Fsub", .fsub),
    ("Fmul", .fmul), ("Fdiv", .fdiv), ("Fsqrt", .fsqrt), ("Jcond", .jcond), ("Jdyn", .jdyn),
    ("Sync", .sync), ("Ifb", .ifb)]

def name (k : Kind) : String := ((names.find? (·.2 == k)).map Prod.fst).getD ""

def ofName? (s : String) : Option Kind := names.lookup s

end Kind

inductive Operand where
  | null
  | reg (r : GeneralRegister)
  | floatReg (n : UInt8)
  | imm (v : UInt32)
  deriving DecidableEq, Repr

def Operand.isSome (x : Operand) : Bool := x != .null

structure Operation where
  kind : Kind
  rd : Operand := .null
  rs1 : Operand := .null
  rs2 : Operand := .null
  guestOpcode : UInt16 := 0
  deriving DecidableEq, Repr

namespace Operation

def fallback (opcode : UInt16) : Operation := { kind := .ifb, guestOpcode := opcode }

def sources (op : Operation) : List Operand := [op.rs1, op.rs2].filter Operand.isSome

end Operation

inductive Passing where
  | u32
  | u32Result
  | u64ResultLow
  | u64ResultHigh
  | f32
  | f32Result
  | pointer
  | context
  deriving DecidableEq, Repr

namespace Passing

def names : List (String × Passing) :=
  [("U32", .u32), ("U32Rv", .u32Result), ("U64RvL", .u64ResultLow), ("U64RvH", .u64ResultHigh),
    ("F32", .f32), ("F32Rv", .f32Result), ("Ptr", .pointer), ("Context", .context)]

def name (p : Passing) : String := ((names.find? (·.2 == p)).map Prod.fst).getD ""

def ofName? (s : String) : Option Passing := names.lookup s

end Passing

abbrev Canonical := Operation → Processor → Processor

end Recompiler.Ir
