import Recompiler.Text.Quoted

/-! Opcode patterns such as `0111_nnnn_iiii_iiii`: a digit fixes its bit, a letter belongs to an
operand, and `_` only separates. -/

namespace Recompiler

structure Pattern where
  mask : UInt16
  value : UInt16
  deriving DecidableEq, Repr

namespace Pattern

inductive Malformed where
  | length (positions : Nat)
  | invalidCharacter (c : Char)
  deriving DecidableEq, Repr

def Malformed.message : Malformed → String
  | .length positions => s!"opcode pattern must have 16 bit positions, got {positions}"
  | .invalidCharacter c => s!"invalid character {Text.quotedChar c} in opcode pattern"

def accepts (p : Pattern) (opcode : UInt16) : Bool := opcode &&& p.mask == p.value &&& p.mask

def pushFixed (p : Pattern) (bit : UInt16) : Pattern :=
  ⟨p.mask <<< 1 ||| 1, p.value <<< 1 ||| bit⟩

def pushOperand (p : Pattern) : Pattern := ⟨p.mask <<< 1, p.value <<< 1⟩

def push? (p : Pattern) (c : Char) : Option Pattern :=
  if c = '0' then some (p.pushFixed 0)
  else if c = '1' then some (p.pushFixed 1)
  else if c.isAlpha then some p.pushOperand
  else none

/-- Reads positions from the highest bit down. An invalid character among the first sixteen is
reported before a wrong length, which counts all `total` positions. -/
def read (total : Nat) : List Char → (done : Nat) → Pattern → Except Malformed Pattern
  | [], done, p => if done = 16 then .ok p else .error (.length done)
  | c :: rest, done, p =>
    if done = 16 then .error (.length total)
    else match p.push? c with
      | some p => read total rest (done + 1) p
      | none => .error (.invalidCharacter c)

def parse (s : String) : Except Malformed Pattern :=
  let positions := s.toList.filter (· ≠ '_')
  read positions.length positions 0 ⟨0, 0⟩

end Pattern

end Recompiler
