/-! The processor exceptions, with their event codes and classes. -/

namespace Recompiler.Exception

inductive Class where
  | reset
  | tlb
  | addressError
  | fpu
  | trap
  | instruction
  | debug
  deriving DecidableEq, Repr

namespace Class

def all : List Class := [.reset, .tlb, .addressError, .fpu, .trap, .instruction, .debug]

def name : Class → String
  | .reset => "Reset"
  | .tlb => "Tlb"
  | .addressError => "AddressError"
  | .fpu => "Fpu"
  | .trap => "Trap"
  | .instruction => "Instruction"
  | .debug => "Debug"

def ofName? (s : String) : Option Class := all.find? (·.name == s)

end Class

inductive Kind where
  | powerOnReset
  | manualReset
  | tlbMissRead
  | tlbMissWrite
  | initialPageWrite
  | tlbProtectionRead
  | tlbProtectionWrite
  | addressErrorRead
  | addressErrorWrite
  | fpuException
  | trapa
  | illegalInstruction
  | slotIllegalInstruction
  | userBreak
  | fpuDisabled
  | slotFpuDisabled
  deriving DecidableEq, Repr

namespace Kind

def all : List Kind :=
  [.powerOnReset, .manualReset, .tlbMissRead, .tlbMissWrite, .initialPageWrite, .tlbProtectionRead,
    .tlbProtectionWrite, .addressErrorRead, .addressErrorWrite, .fpuException, .trapa,
    .illegalInstruction, .slotIllegalInstruction, .userBreak, .fpuDisabled, .slotFpuDisabled]

def name : Kind → String
  | .powerOnReset => "PowerOnReset"
  | .manualReset => "ManualReset"
  | .tlbMissRead => "TlbMissRead"
  | .tlbMissWrite => "TlbMissWrite"
  | .initialPageWrite => "InitialPageWrite"
  | .tlbProtectionRead => "TlbProtectionRead"
  | .tlbProtectionWrite => "TlbProtectionWrite"
  | .addressErrorRead => "AddressErrorRead"
  | .addressErrorWrite => "AddressErrorWrite"
  | .fpuException => "FpuException"
  | .trapa => "Trapa"
  | .illegalInstruction => "IllegalInstruction"
  | .slotIllegalInstruction => "SlotIllegalInstruction"
  | .userBreak => "UserBreak"
  | .fpuDisabled => "FpuDisabled"
  | .slotFpuDisabled => "SlotFpuDisabled"

def ofName? (s : String) : Option Kind := all.find? (·.name == s)

def message : Kind → String
  | .powerOnReset => "power-on reset"
  | .manualReset => "manual reset"
  | .tlbMissRead => "tlb miss on read"
  | .tlbMissWrite => "tlb miss on write"
  | .initialPageWrite => "initial page write"
  | .tlbProtectionRead => "tlb protection violation on read"
  | .tlbProtectionWrite => "tlb protection violation on write"
  | .addressErrorRead => "address error on read"
  | .addressErrorWrite => "address error on write"
  | .fpuException => "floating-point exception"
  | .trapa => "unconditional trap"
  | .illegalInstruction => "illegal instruction"
  | .slotIllegalInstruction => "illegal instruction in delay slot"
  | .userBreak => "user break"
  | .fpuDisabled => "fpu disabled"
  | .slotFpuDisabled => "fpu disabled in delay slot"

def eventCode : Kind → UInt16
  | .powerOnReset => 0x000
  | .manualReset => 0x020
  | .tlbMissRead => 0x040
  | .tlbMissWrite => 0x060
  | .initialPageWrite => 0x080
  | .tlbProtectionRead => 0x0A0
  | .tlbProtectionWrite => 0x0C0
  | .addressErrorRead => 0x0E0
  | .addressErrorWrite => 0x100
  | .fpuException => 0x120
  | .trapa => 0x160
  | .illegalInstruction => 0x180
  | .slotIllegalInstruction => 0x1A0
  | .userBreak => 0x1E0
  | .fpuDisabled => 0x800
  | .slotFpuDisabled => 0x820

def ofEventCode? (code : UInt16) : Option Kind := all.find? (·.eventCode == code)

def toClass : Kind → Class
  | .powerOnReset | .manualReset => .reset
  | .tlbMissRead | .tlbMissWrite | .initialPageWrite | .tlbProtectionRead
  | .tlbProtectionWrite => .tlb
  | .addressErrorRead | .addressErrorWrite => .addressError
  | .fpuException | .fpuDisabled | .slotFpuDisabled => .fpu
  | .trapa => .trap
  | .illegalInstruction | .slotIllegalInstruction => .instruction
  | .userBreak => .debug

def isFpu (k : Kind) : Bool := k.toClass == .fpu

/-- Misses have a vector of their own; protection violations do not. -/
def isTlbMiss (k : Kind) : Bool := k == .tlbMissRead || k == .tlbMissWrite

def inDelaySlot : Kind → Kind
  | .illegalInstruction => .slotIllegalInstruction
  | .fpuDisabled => .slotFpuDisabled
  | k => k

end Kind

end Recompiler.Exception
