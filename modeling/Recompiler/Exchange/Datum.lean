/-! Self-describing data, in which states and configurations are exchanged, and readers of its
pieces. A reader refuses what is not exactly of its form. -/

namespace Recompiler.Exchange

inductive Datum where
  | null
  | bool (b : Bool)
  | integer (n : Int)
  | float (x : Float)
  | text (s : String)
  | list (items : List Datum)
  | record (fields : List (String × Datum))

namespace Datum

def bool? : Datum → Option Bool
  | .bool b => some b
  | _ => none

def text? : Datum → Option String
  | .text s => some s
  | _ => none

def integer? (low high : Int) : Datum → Option Int
  | .integer n => if low ≤ n ∧ n ≤ high then some n else none
  | _ => none

def uint8? (d : Datum) : Option UInt8 := (d.integer? 0 0xFF).map fun n => UInt8.ofNat n.toNat

def uint16? (d : Datum) : Option UInt16 := (d.integer? 0 0xFFFF).map fun n => UInt16.ofNat n.toNat

def uint32? (d : Datum) : Option UInt32 :=
  (d.integer? 0 0xFFFFFFFF).map fun n => UInt32.ofNat n.toNat

def uint64? (d : Datum) : Option UInt64 :=
  (d.integer? 0 0xFFFFFFFFFFFFFFFF).map fun n => UInt64.ofNat n.toNat

def int32? (d : Datum) : Option Int32 :=
  (d.integer? Int32.minValue.toInt Int32.maxValue.toInt).map Int32.ofInt

def items? : Datum → Option (List Datum)
  | .list items => some items
  | _ => none

/-- The field of a record under a name. A field that holds nothing counts as absent. -/
def field? (d : Datum) (name : String) : Option Datum :=
  match d with
  | .record fields => match fields.lookup name with
    | some .null => none
    | r => r
  | _ => none

def vector? {α : Type} (n : Nat) (item : Datum → Option α) : Datum → Option (Vector α n)
  | .list items => do
    let values ← items.mapM item
    if h : values.toArray.size = n then some ⟨values.toArray, h⟩ else none
  | _ => none

/-- The fields of a structure: from a record, where others may stand beside them, or from a list of
exactly these fields in this order. -/
def fields? (names : List String) : Datum → Option (List Datum)
  | .record fields => names.mapM fun name => fields.lookup name
  | .list items => if items.length = names.length then some items else none
  | _ => none

def case? : Datum → Option String
  | .text s => some s
  | .record [(s, .null)] => some s
  | _ => none

end Datum

end Recompiler.Exchange
