import Recompiler.Exchange.Datum
import Recompiler.Register.Single

/-! Single-precision numbers as data. Any number is read and rounded; only finite ones are written
as numbers, so that the others do not read back. -/

namespace Recompiler.Exchange.Datum

def single? : Datum → Option Single
  | .integer n => some (Single.ofInt n)
  | .float x => some (Single.ofFloat x)
  | _ => none

def ofSingle (x : Single) : Datum := if x.isFinite then .float x.toFloat else .null

end Recompiler.Exchange.Datum
