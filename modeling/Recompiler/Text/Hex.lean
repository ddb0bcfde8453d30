/-! Hexadecimal text, in lower case and after `0x`. -/

namespace Recompiler.Text

def hex (width n : Nat) : String :=
  let digits := Nat.toDigits 16 n
  "0x" ++ String.ofList (List.replicate (width - digits.length) '0' ++ digits)

def address (a : UInt32) : String := hex 8 a.toNat

end Recompiler.Text
