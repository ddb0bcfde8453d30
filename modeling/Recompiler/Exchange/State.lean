import Recompiler.Configuration
import Recompiler.Exchange.Single
import Recompiler.Exception.Kind
import Recompiler.Processor

/-! Configurations, processor states and exception kinds as data. Reading takes all fields as they
are: reserved status bits are kept, and configurations are not validated. -/

namespace Recompiler.Exchange.Datum

def configurationFields : List String :=
  ["timeslice_cycles", "cycles_per_instruction", "exception_drain_cycles",
    "unit_placeholder_bytes", "code_buffer_bytes", "smc_checks", "optimise", "milestone_interval"]

def configuration? (d : Datum) : Option Configuration := do
  match ← d.fields? configurationFields with
  | [timeslice, instruction, drain, placeholder, buffer, smc, optimise, milestone] =>
    return {
      timesliceCycles := ← timeslice.int32?
      cyclesPerInstruction := ← instruction.int32?
      exceptionDrainCycles := ← drain.int32?
      unitPlaceholderBytes := ← placeholder.uint32?
      codeBufferBytes := ← buffer.uint32?
      smcChecks := ← smc.bool?
      optimise := ← optimise.bool?
      milestoneInterval := ← milestone.uint64? }
  | _ => none

def fieldD? {α : Type} (d : Datum) (name : String) (read : Datum → Option α) (default : α) :
    Option α :=
  match d.field? name with
  | some v => read v
  | none => some default

def partialConfiguration? (d : Datum) : Option Configuration := do
  let c : Configuration := {}
  return {
    timesliceCycles := ← d.fieldD? "timeslice_cycles" int32? c.timesliceCycles
    cyclesPerInstruction := ← d.fieldD? "cycles_per_instruction" int32? c.cyclesPerInstruction
    exceptionDrainCycles := ← d.fieldD? "exception_drain_cycles" int32? c.exceptionDrainCycles
    unitPlaceholderBytes := ← d.fieldD? "unit_placeholder_bytes" uint32? c.unitPlaceholderBytes
    codeBufferBytes := ← d.fieldD? "code_buffer_bytes" uint32? c.codeBufferBytes
    smcChecks := ← d.fieldD? "smc_checks" bool? c.smcChecks
    optimise := ← d.fieldD? "optimise" bool? c.optimise
    milestoneInterval := ← d.fieldD? "milestone_interval" uint64? c.milestoneInterval }

def registerFields : List String :=
  ["gpr", "fpr", "pc", "sr", "fpscr", "spc", "ssr", "sgr", "vbr", "expevt"]

def registers? (d : Datum) : Option Registers := do
  match ← d.fields? registerFields with
  | [gpr, fpr, pc, sr, fpscr, spc, ssr, sgr, vbr, expevt] =>
    return {
      gpr := ← gpr.vector? 16 uint32?
      fpr := ← fpr.vector? 16 single?
      pc := ← pc.uint32?
      sr := ← sr.uint32?
      fpscr := ← fpscr.uint32?
      spc := ← spc.uint32?
      ssr := ← ssr.uint32?
      sgr := ← sgr.uint32?
      vbr := ← vbr.uint32?
      expevt := ← expevt.uint32? }
  | _ => none

def ofWord (w : UInt32) : Datum := .integer w.toNat

def ofRegisters (r : Registers) : Datum :=
  .record (registerFields.zip [
    .list (r.gpr.toList.map ofWord), .list (r.fpr.toList.map ofSingle), ofWord r.pc, ofWord r.sr,
    ofWord r.fpscr, ofWord r.spc, ofWord r.ssr, ofWord r.sgr, ofWord r.vbr, ofWord r.expevt])

def processorFields : List String := ["regs", "cycle_counter", "running"]

def processor? (d : Datum) : Option Processor := do
  match ← d.fields? processorFields with
  | [regs, cycles, running] =>
    return {
      regs := ← regs.registers?
      cycleCounter := ← cycles.int32?
      running := ← running.bool? }
  | _ => none

def ofProcessor (p : Processor) : Datum :=
  .record (processorFields.zip
    [ofRegisters p.regs, .integer p.cycleCounter.toInt, .bool p.running])

/-- A processor written and read back, which fails where a register holds no finite number. -/
def readBack? (p : Processor) : Option Processor := (ofProcessor p).processor?

def exceptionKind? (d : Datum) : Option Exception.Kind := d.case?.bind Exception.Kind.ofName?

def exceptionClass? (d : Datum) : Option Exception.Class := d.case?.bind Exception.Class.ofName?

end Recompiler.Exchange.Datum
