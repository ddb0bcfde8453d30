/-! The bits of the status register. `t` is the test and carry flag, `s` makes multiply-accumulate
saturate, `imask` is the interrupt mask, and `q` and `m` belong to step division. `fd` disables the
floating-point unit, `bl` blocks exceptions and interrupts, `rb` selects the privileged registers and
`md` is set in privileged mode. Writes keep only the `active` bits. -/

namespace Recompiler.Status

def t : UInt32 := 0x1

def s : UInt32 := 0x2

def imask : UInt32 := 0xF0

def q : UInt32 := 0x100

def m : UInt32 := 0x200

def fd : UInt32 := 0x8000

def bl : UInt32 := 0x10000000

def rb : UInt32 := 0x20000000

def md : UInt32 := 0x40000000

def active : UInt32 := t ||| s ||| imask ||| q ||| m ||| fd ||| bl ||| rb ||| md

def resetValue : UInt32 := md ||| rb ||| bl ||| imask

end Recompiler.Status
