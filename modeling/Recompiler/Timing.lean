/-! The cycle costs of the interpreting core and the width of a guest opcode. -/

namespace Recompiler

def instructionBytes : UInt32 := 2

inductive CycleCost where
  | instruction
  | exceptionDrain
  | timeslice
  deriving DecidableEq, Repr

namespace CycleCost

def all : List CycleCost := [.instruction, .exceptionDrain, .timeslice]

def cycles : CycleCost → UInt32
  | .instruction => 1
  | .exceptionDrain => 5
  | .timeslice => 448

def names : List (String × CycleCost) :=
  [("Instruction", .instruction), ("ExceptionDrain", .exceptionDrain), ("Timeslice", .timeslice)]

def name (c : CycleCost) : String := ((names.find? (·.2 == c)).map Prod.fst).getD ""

def ofName? (s : String) : Option CycleCost := names.lookup s

def table : List (CycleCost × UInt32) := all.map fun c => (c, c.cycles)

end CycleCost

end Recompiler
