/-! Single-precision numbers as their 32 bits. Two patterns can thus be told apart exactly, while
`numEq` compares the numbers: a NaN differs from itself and the two zeros are equal. -/

namespace Recompiler

structure Single where
  bits : UInt32
  deriving DecidableEq, Inhabited, Repr

namespace Single

def isNaN (x : Single) : Bool := 0x7F800000 < x.bits &&& 0x7FFFFFFF

def isFinite (x : Single) : Bool := x.bits &&& 0x7F800000 < 0x7F800000

def isZero (x : Single) : Bool := x.bits &&& 0x7FFFFFFF == 0

def neg (x : Single) : Single := ⟨x.bits ^^^ 0x80000000⟩

def numEq (x y : Single) : Bool :=
  !x.isNaN && !y.isNaN && (x == y || x.isZero && y.isZero)

def ofFloat32 (x : Float32) : Single := ⟨x.toBits⟩

def ofFloat (x : Float) : Single := ofFloat32 x.toFloat32

/-- The nearest single to an integer of at most 64 bits, rounded once. -/
def ofInt (n : Int) : Single :=
  ofFloat32 (if n < 0 then (Int64.ofInt n).toFloat32 else (UInt64.ofNat n.toNat).toFloat32)

def toFloat (x : Single) : Float := (Float32.ofBits x.bits).toFloat

end Single

end Recompiler
