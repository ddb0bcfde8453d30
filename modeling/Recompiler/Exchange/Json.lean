import Recompiler.Exchange.Datum
import Recompiler.Exchange.Decimal

/-! Data from JSON text. A number without fraction and exponent that fits in 64 bits is an integer,
except for a negative zero; every other number is a float. A repeated key keeps its last value. -/

namespace Recompiler.Exchange.Json

def quote : Char := '\x22'

def backslash : Char := '\x5c'

def skipBlanks (cs : List Char) : List Char :=
  cs.dropWhile fun c => c == ' ' || c == '\x09' || c == '\x0a' || c == '\x0d'

def digits? (cs : List Char) : Option (List Char × List Char) :=
  let digits := cs.takeWhile Char.isDigit
  if digits.isEmpty then none else some (digits, cs.dropWhile Char.isDigit)

def sign : List Char → Bool × List Char
  | '-' :: rest => (true, rest)
  | '+' :: rest => (false, rest)
  | cs => (false, cs)

def fraction? : List Char → Option (List Char × List Char)
  | '.' :: rest => digits? rest
  | cs => some ([], cs)

def exponent? : List Char → Option (Option Int × List Char)
  | 'e' :: rest | 'E' :: rest => do
    let (negative, rest) := sign rest
    let (digits, rest) ← digits? rest
    let n : Int := Decimal.value digits
    return (some (if negative then -n else n), rest)
  | cs => some (none, cs)

def number? (cs : List Char) : Option (Datum × List Char) := do
  let negative := cs.head? == some '-'
  let (whole, cs) ← digits? (if negative then cs.tail else cs)
  if whole.head? = some '0' ∧ whole ≠ ['0'] then failure
  let (fraction, cs) ← fraction? cs
  let (exponent, cs) ← exponent? cs
  let n := Decimal.value whole
  let value : Int := if negative then -n else n
  if fraction.isEmpty && exponent.isNone && !(negative && n == 0) &&
      Int64.minValue.toInt ≤ value && value < UInt64.size then
    return (.integer value, cs)
  else
    let x ← Decimal.float? whole fraction (exponent.getD 0)
    return (.float (if negative then -x else x), cs)

def hexDigit? (c : Char) : Option Nat :=
  if c.isDigit then some (c.toNat - 48)
  else if 'a' ≤ c ∧ c ≤ 'f' then some (c.toNat - 87)
  else if 'A' ≤ c ∧ c ≤ 'F' then some (c.toNat - 55)
  else none

def unit16? : List Char → Option (Nat × List Char)
  | a :: b :: c :: d :: rest => do
    let n := ((← hexDigit? a) * 16 + (← hexDigit? b)) * 16 + (← hexDigit? c)
    return (n * 16 + (← hexDigit? d), rest)
  | _ => none

def escape? : List Char → Option (Char × List Char)
  | 'n' :: rest => some ('\x0a', rest)
  | 't' :: rest => some ('\x09', rest)
  | 'r' :: rest => some ('\x0d', rest)
  | 'b' :: rest => some ('\x08', rest)
  | 'f' :: rest => some ('\x0c', rest)
  | 'u' :: rest => do
    let (high, rest) ← unit16? rest
    if 0xD800 ≤ high ∧ high < 0xDC00 then
      match rest with
      | b :: 'u' :: rest =>
        let (low, rest) ← unit16? rest
        if b = backslash ∧ 0xDC00 ≤ low ∧ low < 0xE000 then
          return (Char.ofNat (0x10000 + (high - 0xD800) * 0x400 + (low - 0xDC00)), rest)
        else none
      | _ => none
    else if 0xDC00 ≤ high ∧ high < 0xE000 then none
    else return (Char.ofNat high, rest)
  | c :: rest => if c = quote ∨ c = backslash ∨ c = '/' then some (c, rest) else none
  | [] => none

def text? : (fuel : Nat) → (read : List Char) → List Char → Option (String × List Char)
  | 0, _, _ => none
  | _, _, [] => none
  | fuel + 1, read, c :: rest =>
    if c = quote then some (String.ofList read.reverse, rest)
    else if c = backslash then do
      let (c, rest) ← escape? rest
      text? fuel (c :: read) rest
    else text? fuel (c :: read) rest

mutual

def value? : (fuel : Nat) → List Char → Option (Datum × List Char)
  | 0, _ => none
  | fuel + 1, cs =>
    match skipBlanks cs with
    | 't' :: 'r' :: 'u' :: 'e' :: rest => some (.bool true, rest)
    | 'f' :: 'a' :: 'l' :: 's' :: 'e' :: rest => some (.bool false, rest)
    | 'n' :: 'u' :: 'l' :: 'l' :: rest => some (.null, rest)
    | '\x22' :: rest => (text? (fuel + 1) [] rest).map fun (s, rest) => (.text s, rest)
    | '[' :: rest =>
      match skipBlanks rest with
      | ']' :: rest => some (.list [], rest)
      | rest => items? fuel [] rest
    | '\x7b' :: rest =>
      match skipBlanks rest with
      | '\x7d' :: rest => some (.record [], rest)
      | rest => fields? fuel [] rest
    | cs => number? cs

def items? : (fuel : Nat) → (read : List Datum) → List Char → Option (Datum × List Char)
  | 0, _, _ => none
  | fuel + 1, read, cs => do
    let (d, rest) ← value? fuel cs
    match skipBlanks rest with
    | ',' :: rest => items? fuel (d :: read) rest
    | ']' :: rest => some (.list (d :: read).reverse, rest)
    | _ => none

def fields? :
    (fuel : Nat) → (read : List (String × Datum)) → List Char → Option (Datum × List Char)
  | 0, _, _ => none
  | fuel + 1, read, cs =>
    match skipBlanks cs with
    | '\x22' :: rest => do
      let (key, rest) ← text? (fuel + 1) [] rest
      match skipBlanks rest with
      | ':' :: rest =>
        let (d, rest) ← value? fuel rest
        let read := (key, d) :: read.filter (·.1 != key)
        match skipBlanks rest with
        | ',' :: rest => fields? fuel read rest
        | '\x7d' :: rest => some (.record read.reverse, rest)
        | _ => none
      | _ => none
    | _ => none

end

/-- Reads one value, with nothing but blanks around it. Opening a list or a record takes two units
of fuel and one character, every other step no more fuel than characters. -/
def read? (s : String) : Option Datum := do
  let cs := s.toList
  let (d, rest) ← value? (2 * cs.length + 2) cs
  if (skipBlanks rest).isEmpty then some d else none

end Recompiler.Exchange.Json
