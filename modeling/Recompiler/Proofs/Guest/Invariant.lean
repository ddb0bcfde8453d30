import Recompiler.Opcode.Table
import Recompiler.Proofs.Guest.Instruction

/-! Properties of the machine that executing an instruction keeps. What the core does by itself must
keep them, and so must the writes of every handler that the check before the execution lets through,
in the instruction as in the delay slots below it. -/

namespace Recompiler

variable {α β : Type}

def Guest.Keeps (P : Machine β → Prop) (x : Guest β α) : Prop := ∀ m, P m → (x m).Leaves P

lemma Guest.keeps_unfinished (P : Machine β → Prop) : (Guest.unfinished : Guest β α).Keeps P :=
  fun _ _ => trivial

lemma Outcome.leaves_imp_iff {p : Prop} {P : Machine β → Prop} {x : Outcome β α} :
    x.Leaves (fun n => p → P n) ↔ (p → x.Leaves P) := by
  cases x with
  | done _ _ => exact Iff.rfl
  | fault _ _ => exact Iff.rfl
  | unfinished => exact iff_of_true trivial fun _ => trivial

namespace OpcodeTable

variable [Bus β] {t : OpcodeTable} {depth : Nat} {opcode : UInt16} {p : Processor}

variable (t) in
def Admits (opcode : UInt16) (p : Processor) : Prop :=
  (t.descriptor opcode).floatingPoint = true → p.fpuDisabled = false

variable (t depth) in
lemma isFloatingPoint_instructionSet : (t.instructionSet (β := β) depth).isFloatingPoint =
    fun opcode => (t.descriptor opcode).floatingPoint := by
  cases depth <;> rfl

lemma admits_instructionSet :
    (t.instructionSet (β := β) depth).Admits opcode p ↔ t.Admits opcode p := by
  rw [InstructionSet.Admits, isFloatingPoint_instructionSet, Admits]
  cases p.fpuDisabled <;> simp

end OpcodeTable

variable [Bus β]

/-- Each write of the program leaves a machine with the property, provided that its delay slots have
done so. -/
def Action.Keeps (P : Machine β → Prop) : Action α → Machine β → Prop
  | .pure _, _ => True
  | .fault _, _ => True
  | .read next, m => Keeps P (next m.processor) m
  | .write p next, m => P { m with processor := p } ∧ Keeps P next { m with processor := p }
  | .fetch addr next, m =>
    match Bus.readOpcode m.bus addr with
    | (r, bus) => Keeps P (next r) { m with bus }
  | .updateSystem next, m =>
    match Bus.updateSystem m.bus m.processor with
    | (r, processor, bus) => Keeps P (next r) ⟨processor, bus⟩
  | .delaySlot next, _ => ∀ r n, P n → Keeps P (next r) n

structure Machine.Stable (P : Machine β → Prop) : Prop where
  counted {m : Machine β} {p : Processor} : p.regs = m.processor.regs → P m →
    P { m with processor := p }
  advanced {m : Machine β} (v : UInt32) : P m → P { m with processor := m.processor.setPc v }
  fetched {m : Machine β} (addr : UInt32) : P m →
    P { m with bus := (Bus.readOpcode m.bus addr).2 }
  updated {m : Machine β} : P m → P ⟨(Bus.updateSystem m.bus m.processor).2.1,
    (Bus.updateSystem m.bus m.processor).2.2⟩

namespace Machine.Stable

variable {P : Machine β → Prop} (stable : Stable P)
include stable

lemma run {slot : Guest β Unit} (hslot : slot.Keeps P) {x : Action α} {m : Machine β}
    (hx : x.Keeps P m) (hm : P m) : (x.run slot m).Leaves P := by
  induction x generalizing m with
  | pure a => exact hm
  | fault e => exact hm
  | read next ih => exact ih m.processor hx hm
  | write p next ih => exact ih hx.2 hx.1
  | fetch addr next ih => exact ih _ hx (stable.fetched addr hm)
  | updateSystem next ih => exact ih _ hx (stable.updated hm)
  | delaySlot next ih =>
    have hs := hslot m hm
    rw [Action.run]
    cases hr : slot m with
    | done u n =>
      rw [hr] at hs
      exact ih (.ok ()) (hx _ n hs) hs
    | fault e n =>
      rw [hr] at hs
      exact ih (.error e) (hx _ n hs) hs
    | unfinished => trivial

variable {isa : InstructionSet β}
  (hexec : ∀ opcode m, isa.Admits opcode m.processor → P m → (isa.execute opcode m).Leaves P)
include hexec

lemma instruction : isa.instruction.Keeps P := by
  have h : isa.instruction.Along fun m n => P m → P n :=
    InstructionSet.instruction_along_of_admitted (fun h h' hm => h' (h hm))
      (fun m => stable.fetched _) (fun m hm => stable.advanced _ (stable.fetched _ hm))
      fun opcode m hpass => Outcome.leaves_imp_iff.mpr (hexec opcode m hpass)
  exact fun m => Outcome.leaves_imp_iff.mp (h m)

lemma delaySlot : isa.delaySlot.Keeps P := by
  have h : isa.delaySlot.Along fun m n => P m → P n :=
    InstructionSet.delaySlot_along_of_admitted (fun h h' hm => h' (h hm))
      (fun m hm => stable.advanced _ (stable.fetched _ hm))
      fun opcode m hpass => Outcome.leaves_imp_iff.mpr (hexec opcode m hpass)
  exact fun m => Outcome.leaves_imp_iff.mp (h m)

omit hexec

variable {t : OpcodeTable} (handlers : ∀ opcode m, t.Admits opcode m.processor → P m →
  (t.handler opcode opcode).Keeps P m)
include handlers

lemma withSlot {slot : Guest β Unit} (hslot : slot.Keeps P) (opcode : UInt16) (m : Machine β)
    (hpass : t.Admits opcode m.processor) (hm : P m) :
    ((t.withSlot slot).execute opcode m).Leaves P :=
  stable.run hslot (handlers opcode m hpass hm) hm

lemma instructionSet (depth : Nat) (opcode : UInt16) (m : Machine β)
    (hpass : t.Admits opcode m.processor) (hm : P m) :
    ((t.instructionSet depth).execute opcode m).Leaves P := by
  induction depth generalizing opcode m with
  | zero => exact stable.withSlot handlers (Guest.keeps_unfinished P) opcode m hpass hm
  | succ depth ih =>
    have hslot : (t.instructionSet (β := β) depth).delaySlot.Keeps P :=
      stable.delaySlot fun opcode n hn => ih opcode n (OpcodeTable.admits_instructionSet.mp hn)
    exact stable.withSlot handlers hslot opcode m hpass hm

end Machine.Stable

section

variable {P : β → Prop} (fetched : ∀ bus addr, P bus → P (Bus.readOpcode bus addr).2)
  (updated : ∀ bus p, P bus → P (Bus.updateSystem bus p).2.2)
include fetched updated

lemma Machine.stable_of_bus : Machine.Stable fun m => P m.bus where
  counted _ hm := hm
  advanced _ hm := hm
  fetched addr hm := fetched _ addr hm
  updated hm := updated _ _ hm

lemma Action.keeps_of_bus (x : Action α) {m : Machine β} (hm : P m.bus) :
    x.Keeps (fun n => P n.bus) m := by
  induction x generalizing m with
  | pure a => trivial
  | fault f => trivial
  | read next ih => exact ih _ hm
  | write p next ih => exact ⟨hm, ih hm⟩
  | fetch addr next ih => exact ih _ (fetched _ addr hm)
  | updateSystem next ih => exact ih _ (updated _ _ hm)
  | delaySlot next ih => exact fun r n hn => ih r hn

end

end Recompiler
