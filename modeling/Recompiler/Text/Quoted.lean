import Recompiler.Text.Unprintable

/-! Characters and texts between quotes, such that what is shown can be read without doubt. -/

namespace Recompiler.Text

def backslash : Char := '\x5c'

def singleQuote : Char := '\x27'

def doubleQuote : Char := '\x22'

/-- One character as written between two `quote`s: short forms for the common controls, and the
hexadecimal code of every other character that has no picture. -/
def escape (quote c : Char) : List Char :=
  if c = '\x00' then [backslash, '0']
  else if c = '\x09' then [backslash, 't']
  else if c = '\x0d' then [backslash, 'r']
  else if c = '\x0a' then [backslash, 'n']
  else if c = backslash ∨ c = quote then [backslash, c]
  else if isUnprintable c then
    [backslash, 'u', '\x7b'] ++ Nat.toDigits 16 c.toNat ++ ['\x7d']
  else [c]

def quotedChar (c : Char) : String :=
  String.ofList (singleQuote :: escape singleQuote c ++ [singleQuote])

def quoted (s : String) : String :=
  String.ofList (doubleQuote :: s.toList.flatMap (escape doubleQuote) ++ [doubleQuote])

end Recompiler.Text
