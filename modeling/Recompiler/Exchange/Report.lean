import Recompiler.Backend.Selection
import Recompiler.Exchange.State
import Recompiler.Opcode.Pattern

/-! What the core tells its host, as data: machine states, units and blocks, results and errors, and
log events. An error carries its message beside its parts. -/

namespace Recompiler.Exchange.Datum

def ofNat (n : Nat) : Datum := .integer n

def ofOption {α : Type} (f : α → Datum) : Option α → Datum
  | some a => f a
  | none => .null

def ofName : Option String → Datum := ofOption .text

def ofList {α : Type} (f : α → Datum) (xs : List α) : Datum := .list (xs.map f)

def ofError (name : String) (parts : List (String × Datum)) (message : String) : Datum :=
  .record ([("error", .text name)] ++ parts ++ [("message", .text message)])

def ofBits (x : Single) : Datum := if x.isNaN then .text "nan" else ofWord x.bits

def ofMachineState (p : Processor) : Datum :=
  .record [("gpr", ofList ofWord p.regs.gpr.toList), ("fpr", ofList ofBits p.regs.fpr.toList),
    ("pc", ofWord p.regs.pc), ("sr", ofWord p.regs.sr), ("fpscr", ofWord p.regs.fpscr),
    ("spc", ofWord p.regs.spc), ("ssr", ofWord p.regs.ssr), ("sgr", ofWord p.regs.sgr),
    ("vbr", ofWord p.regs.vbr), ("expevt", ofWord p.regs.expevt),
    ("cycle_counter", .integer p.cycleCounter.toInt), ("running", .bool p.running)]

def ofEntry (e : CodeArena.Entry) : Datum := .list [ofWord e.offset, ofWord e.generation]

def ofRegion : Option (List UInt8) → Datum := ofOption (ofList fun b => ofNat b.toNat)

def ofArena (a : CodeArena) : Datum :=
  .record [("capacity", ofWord a.capacity), ("cursor", ofWord a.cursor),
    ("free", ofWord a.freeSpace), ("generation", ofWord a.generation),
    ("current", ofEntry a.current)]

def ofUnit (u : CodeUnit) : Datum :=
  .record [("entry", ofEntry u.entry), ("guest_addr", ofWord u.guestAddr), ("size", ofWord u.size),
    ("identity", ofWord u.identity)]

def ofBlock (b : Block) : Datum :=
  .record [("addr", ofWord b.addr), ("opcode_count", ofWord b.opcodeCount),
    ("guest_len", ofWord b.guestLength), ("ir", ofNat b.ir.length),
    ("code", ofOption ofEntry b.code), ("compiled", .bool b.isCompiled)]

def ofCompiled (unit : Option CodeUnit) (block : Block) : Datum :=
  .record [("unit", ofOption ofUnit unit), ("block", ofBlock block)]

def ofException (e : Exception) : Datum :=
  .record [("epc", ofWord e.epc), ("kind", .text e.kind.name),
    ("code", ofNat e.kind.eventCode.toNat), ("message", .text e.message)]

def ofExceptionKind (k : Exception.Kind) : Datum :=
  .record [("name", .text k.name), ("code", ofNat k.eventCode.toNat),
    ("class", .text k.toClass.name), ("is_fpu", .bool k.isFpu),
    ("is_tlb_miss", .bool k.isTlbMiss), ("in_delay_slot", .text k.inDelaySlot.name),
    ("message", .text k.message)]

def ofFatal (cause : Fatal) : Datum :=
  .record <| (match cause with
    | .unmappedFetch addr => [("fatal", .text "UnmappedFetch"), ("addr", ofWord addr)]
    | .systemUpdate reason => [("fatal", .text "SystemUpdate"), ("reason", .text reason)]
    | .host reason => [("fatal", .text "Host"), ("reason", .text reason)]) ++
      [("message", .text cause.message)]

def ofFault : Fault → Datum
  | .exception e => .record [("error", .text "Exception"), ("fault", ofException e)]
  | .fatal cause => .record [("error", .text "Fatal"), ("fault", ofFatal cause)]

def ofStatistics (s : Statistics) : Datum :=
  .record [("instructions", ofNat s.instructions.toNat), ("timeslices", ofNat s.timeslices.toNat),
    ("exceptions", ofNat s.exceptions.toNat),
    ("last_exception", ofOption ofException s.lastException)]

def ofRun : Except LoopFailure Statistics → Datum
  | .ok stats => .record [("stats", ofStatistics stats)]
  | .error e => match e with
    | .unbound => ofError "Unbound" [] e.message
    | .aborted cause stats =>
      ofError "Aborted" [("cause", ofFatal cause), ("stats", ofStatistics stats)] e.message

def ofRejection (r : Configuration.Rejection) : Datum :=
  match r with
  | .nonPositiveTimeslice value =>
    ofError "NonPositiveTimeslice" [("value", .integer value.toInt)] r.message
  | .nonPositiveCost cost value =>
    ofError "NonPositiveCost" [("field", .text cost.name), ("value", .integer value.toInt)]
      r.message
  | .zeroPlaceholder => ofError "ZeroPlaceholder" [] r.message

def ofMalformed (m : Pattern.Malformed) : Datum :=
  match m with
  | .length positions => ofError "Length" [("value", ofNat positions)] m.message
  | .invalidCharacter c => ofError "InvalidCharacter" [("value", ofNat c.toNat)] m.message

def ofExhausted (e : CodeArena.Exhausted) : Datum :=
  ofError "InsufficientSpace"
    [("requested", ofWord e.requested), ("available", ofWord e.available)] e.message

def ofRefused (r : Selection.Refused) : Datum :=
  ofError "AlreadySelected" [("active", .text r.active), ("rejected", .text r.rejected)] r.message

def ofConfiguration (c : Configuration) : Datum :=
  .record (configurationFields.zip [
    .integer c.timesliceCycles.toInt, .integer c.cyclesPerInstruction.toInt,
    .integer c.exceptionDrainCycles.toInt, ofWord c.unitPlaceholderBytes, ofWord c.codeBufferBytes,
    .bool c.smcChecks, .bool c.optimise, ofNat c.milestoneInterval.toNat])

def ofCycles : Option UInt32 → Datum := ofOption ofWord

def hostFields (host : HostState) : List Datum := [ofNat host.pc.toNat, ofNat host.sp.toNat]

def ofOperand : Ir.Operand → Datum
  | .null => .null
  | .reg r => .record [("reg", ofNat r.val)]
  | .floatReg n => .record [("freg", ofNat n.toNat)]
  | .imm v => .record [("imm", ofWord v)]

def operationFields (op : Ir.Operation) : List (String × Datum) :=
  [("kind", .text op.kind.name), ("rd", ofOperand op.rd), ("rs1", ofOperand op.rs1),
    ("rs2", ofOperand op.rs2), ("guest_opcode", ofNat op.guestOpcode.toNat)]

def ofLogEvent (e : LogEvent) : Datum :=
  .record [("level", .text e.level.name), ("message", .text e.message),
    ("fields", .record (e.fields.map fun f => (f.1, match f.2 with
      | .number n => .integer n
      | .text s => .text s)))]

end Recompiler.Exchange.Datum
