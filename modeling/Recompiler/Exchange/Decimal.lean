/-! Decimal numbers as floats. As many digits are kept as fit in 64 bits, and the number that they
form is scaled by a power of ten. Each of the two is rounded, so that the result may lie next to the
nearest float. -/

namespace Recompiler.Exchange.Decimal

def digit (c : Char) : Nat := c.toNat - 48

def value (digits : List Char) : Nat := digits.foldl (fun n c => n * 10 + digit c) 0

def extend (n : Nat) : List Char → Nat × List Char
  | [] => (n, [])
  | c :: rest =>
    if n * 10 + digit c < UInt64.size then extend (n * 10 + digit c) rest else (n, c :: rest)

theorem extend_lt {n : Nat} (h : n < UInt64.size) (digits : List Char) :
    (extend n digits).1 < UInt64.size := by
  induction digits generalizing n with
  | nil => exact h
  | cons c rest ih =>
    rw [extend]
    split
    · rename_i hc
      exact ih hc
    · exact h

def maxExponent : Nat := 308

def powerOfTen (exponent : Nat) : Float := Float.ofScientific 1 false exponent

def divide (x : Float) (exponent : Nat) : Float :=
  if exponent ≤ maxExponent then x / powerOfTen exponent
  else if x == 0 then x
  else divide (x / powerOfTen maxExponent) (exponent - maxExponent)
termination_by exponent
decreasing_by simp only [maxExponent] at *; omega

def multiply? (x : Float) (exponent : Nat) : Option Float :=
  if exponent ≤ maxExponent then
    let product := x * powerOfTen exponent
    if product.isInf then none else some product
  else if x == 0 then some x
  else none

def scale? (x : Float) (exponent : Int) : Option Float :=
  if exponent < 0 then some (divide x exponent.natAbs) else multiply? x exponent.natAbs

def float? (whole fraction : List Char) (exponent : Int) : Option Float :=
  let front := extend 0 whole
  let all := extend front.1 fraction
  let mantissa := UInt64.ofNatLT all.1 (extend_lt (extend_lt (by decide) whole) fraction)
  scale? mantissa.toFloat (exponent + front.2.length - (fraction.length - all.2.length))

end Recompiler.Exchange.Decimal
