import Recompiler.Proofs.Guest.DelaySlot
import Recompiler.Proofs.Opcode.FloatGate

/-! Delayed branches that stand in each other's delay slots. The first of them is at an address and
the others follow it word by word. How the word behind the last one ends decides how all of them
end, and it is the first one that reports it. -/

namespace Recompiler

variable {α β : Type}

/-- A branch that computes its target first, then runs its delay slot and passes on a fault of it,
and otherwise goes on at the target. -/
def Action.delayedBranch (target : Processor → UInt32) : Action Unit := do
  let addr := target (← processor)
  runDelaySlot
  modify (·.setPc addr)

lemma Action.run_delayedBranch [Bus β] (slot : Guest β Unit) (target : Processor → UInt32)
    (m : Machine β) : (delayedBranch target).run slot m = match slot m with
      | .done () n => .done () { n with processor := n.processor.setPc (target m.processor) }
      | .fault f n => .fault f n
      | .unfinished => .unfinished := by
  change run slot (.read fun p => .delaySlot fun r =>
    (ofExcept r).bind fun _ => modify (·.setPc (target p))) m = _
  rw [run, run]
  cases slot m <;> rfl

namespace Exception.Kind

lemma inDelaySlot_inDelaySlot (k : Kind) : k.inDelaySlot.inDelaySlot = k.inDelaySlot := by
  cases k <;> rfl

lemma inDelaySlot_ne (k : Kind) :
    k.inDelaySlot ≠ .illegalInstruction ∧ k.inDelaySlot ≠ .fpuDisabled := by
  cases k <;> exact ⟨nofun, nofun⟩

end Exception.Kind

lemma Fault.inDelaySlot_inDelaySlot (f : Fault) (a b : UInt32) :
    (f.inDelaySlot a).inDelaySlot b = f.inDelaySlot b := by
  cases f with
  | exception e => simp [inDelaySlot, raise, e.kind.inDelaySlot_inDelaySlot]
  | fatal cause => rfl

namespace Outcome

def ofBranch (branch : UInt32) (opcode : UInt16) (target : UInt32) :
    Outcome β α → Outcome β UInt16
  | .done _ m => .done opcode { m with processor := m.processor.setPc target }
  | .fault f m => .fault (f.inDelaySlot branch) m
  | .unfinished => .unfinished

-- The outer branch overwrites what the inner one reports and where it goes.
lemma ofBranch_ofBranch (x : Outcome β α) (a b u v : UInt32) (w w' : UInt16) :
    (x.ofBranch a w u).ofBranch b w' v = x.ofBranch b w' v := by
  cases x with
  | done _ m => rfl
  | fault f m => simp [ofBranch, f.inDelaySlot_inDelaySlot]
  | unfinished => rfl

lemma Leaves.ofBranch {P : β → Prop} {x : Outcome β α} {branch target : UInt32} {opcode : UInt16}
    (h : x.Leaves fun m => P m.bus) :
    (x.ofBranch branch opcode target).Leaves fun m => P m.bus := by
  cases x <;> exact h

end Outcome

namespace InstructionSet

variable [Bus β] (isa : InstructionSet β)

/-- The instruction at the program counter as a delay slot executes it, with its own fault. The
program counter is advanced even where the fetch fails. -/
def behindBranch : Guest β UInt16 := fun m =>
  match Bus.readOpcode m.bus m.processor.pc with
  | (.ok _, _) => isa.instruction m
  | (.error f, bus) => .fault f (fetched m bus)

variable {isa} {m : Machine β}

lemma behindBranch_of_ok {opcode : UInt16} {bus : β}
    (h : Bus.readOpcode m.bus m.processor.pc = (.ok opcode, bus)) :
    isa.behindBranch m = isa.instruction m := by
  rw [behindBranch, h]

lemma behindBranch_of_error {f : Fault} {bus : β}
    (h : Bus.readOpcode m.bus m.processor.pc = (.error f, bus)) :
    isa.behindBranch m = .fault f (fetched m bus) := by
  rw [behindBranch, h]

lemma delaySlot_eq_behindBranch :
    isa.delaySlot m = (isa.behindBranch m).inSlot (m.processor.pc - instructionBytes) := by
  rcases h : Bus.readOpcode m.bus m.processor.pc with ⟨f | opcode, bus⟩
  · rw [delaySlot_of_error h, behindBranch_of_error h]
    rfl
  · rw [delaySlot_eq_inSlot h, behindBranch_of_ok h]

lemma behindBranch_leaves {P : β → Prop} (hfetch : P (Bus.readOpcode m.bus m.processor.pc).2)
    (hexec : ∀ opcode, (Bus.readOpcode m.bus m.processor.pc).1 = .ok opcode →
      isa.Admits opcode m.processor → (isa.execute opcode).Along fun m n => P m.bus → P n.bus) :
    (isa.behindBranch m).Leaves fun n => P n.bus := by
  rcases h : Bus.readOpcode m.bus m.processor.pc with ⟨f | opcode, bus⟩ <;> rw [h] at hfetch hexec
  · rw [behindBranch_of_error h]
    exact hfetch
  · rw [behindBranch_of_ok h, instruction_of_ok h]
    split
    · exact hfetch
    · rename_i hpass
      have hx := hexec opcode rfl ((Bool.not_eq_true _).mp hpass) (fetched m bus)
      cases he : isa.execute opcode (fetched m bus) <;> rw [he] at hx
      · exact hx hfetch
      · exact hx hfetch
      · trivial

end InstructionSet

namespace OpcodeTable

variable [Bus β] (t : OpcodeTable) (target : UInt16 → Processor → UInt32)

def IsDelayedBranch (opcode : UInt16) : Prop :=
  (t.descriptor opcode).floatingPoint = false ∧
    t.handler opcode opcode = Action.delayedBranch (target opcode)

/-- Read one behind the other from an address on, the bus serves these words, all of them delayed
branches, and is then in the last state. -/
inductive Branches : List UInt16 → UInt32 → β → β → Prop
  | nil (addr : UInt32) (bus : β) : Branches [] addr bus bus
  | cons {opcode : UInt16} {opcodes : List UInt16} {addr : UInt32} {bus next last : β} :
      Bus.readOpcode bus addr = (.ok opcode, next) → t.IsDelayedBranch target opcode →
      Branches opcodes (addr + instructionBytes) next last →
      Branches (opcode :: opcodes) addr bus last

variable {t target} {opcode : UInt16} {opcodes : List UInt16} {addr : UInt32} {bus last : β}
  {m : Machine β} {d : Nat}

lemma add_two_mul_succ (addr : UInt32) (n : Nat) :
    addr + instructionBytes + 2 * .ofNat n = addr + 2 * .ofNat (n + 1) := by
  rw [UInt32.ofNat_add, UInt32.mul_add, instructionBytes]
  grind

lemma Branches.record {record : β → List UInt32}
    (notes : ∀ (b : β) (a : UInt32), record (Bus.readOpcode b a).2 = record b ++ [a])
    (h : t.Branches target opcodes addr bus last) : record last =
      record bus ++ (List.range opcodes.length).map fun j => addr + 2 * .ofNat j := by
  induction h with
  | nil addr bus => simp
  | @cons _ _ addr bus _ _ read _ _ ih =>
    have hnext := notes bus addr
    rw [read] at hnext
    rw [ih, hnext, List.length_cons, List.range_succ_eq_map, List.map_cons, List.map_map]
    simp [Function.comp_def, add_two_mul_succ]

lemma instruction_of_branch {depth : Nat} {next : β} {x : Outcome β α}
    (read : Bus.readOpcode m.bus m.processor.pc = (.ok opcode, next))
    (branch : t.IsDelayedBranch target opcode)
    (slot : (t.instructionSet depth).delaySlot (InstructionSet.fetched m next) =
      x.inSlot m.processor.pc) :
    (t.instructionSet (depth + 1)).instruction m = x.ofBranch m.processor.pc opcode
      (target opcode (InstructionSet.fetched m next).processor) := by
  have hfp : (t.instructionSet (β := β) (depth + 1)).isFloatingPoint opcode = false := branch.1
  have hx : (t.instructionSet (depth + 1)).execute opcode (InstructionSet.fetched m next) =
      (Action.delayedBranch (target opcode)).run (t.instructionSet depth).delaySlot
        (InstructionSet.fetched m next) := branch.2 ▸ rfl
  rw [InstructionSet.instruction_of_ok read, hfp, Bool.and_false, if_neg Bool.false_ne_true, hx,
    Action.run_delayedBranch, slot]
  cases x <;> rfl

-- Whatever the slot holds, a branch in front of it cannot tell it from the word behind them all.
lemma Branches.exists_delaySlot {bus : β} (h : t.Branches target opcodes addr bus last)
    (ha : addr = m.processor.pc + instructionBytes) : ∃ x : Outcome β UInt16,
      (t.instructionSet (opcodes.length + d)).delaySlot (InstructionSet.fetched m bus) =
        x.inSlot m.processor.pc ∧
      ∀ a w v, x.ofBranch a w v = ((t.instructionSet d).behindBranch
        ⟨m.processor.setPc (m.processor.pc + 2 * .ofNat (opcodes.length + 1)), last⟩).ofBranch
          a w v := by
  have hpc (m : Machine β) (bus : β) :
      (InstructionSet.fetched m bus).processor.pc - instructionBytes = m.processor.pc :=
    UInt32.add_sub_cancel _ _
  induction h generalizing m with
  | nil addr bus =>
    refine ⟨(t.instructionSet d).behindBranch (InstructionSet.fetched m bus), ?_, fun _ _ _ => rfl⟩
    rw [List.length_nil, Nat.zero_add, InstructionSet.delaySlot_eq_behindBranch, hpc]
  | @cons opcode opcodes addr bus next last read branch rest ih =>
    subst ha
    have hd : (opcode :: opcodes).length + d = opcodes.length + d + 1 := Nat.add_right_comm _ _ _
    obtain ⟨x, hslot, hx⟩ := ih (m := InstructionSet.fetched m bus) rfl
    have hi := instruction_of_branch (m := InstructionSet.fetched m bus) read branch hslot
    refine ⟨(t.instructionSet (opcodes.length + d + 1)).instruction (InstructionSet.fetched m bus),
      ?_, fun a w v => ?_⟩
    · rw [hd, InstructionSet.delaySlot_eq_inSlot (m := InstructionSet.fetched m bus) read, hpc]
    · rw [hi, Outcome.ofBranch_ofBranch, hx, List.length_cons, ← add_two_mul_succ m.processor.pc]
      rfl

lemma Branches.instruction (h : t.Branches target (opcode :: opcodes) m.processor.pc m.bus last) :
    (t.instructionSet ((opcode :: opcodes).length + d)).instruction m =
      ((t.instructionSet d).behindBranch
        ⟨m.processor.setPc (m.processor.pc + 2 * .ofNat (opcode :: opcodes).length), last⟩).ofBranch
          m.processor.pc opcode (target opcode (m.processor.setPc (m.processor.pc + 2))) := by
  cases h with
  | cons read branch rest =>
    have hd : (opcode :: opcodes).length + d = opcodes.length + d + 1 := Nat.add_right_comm _ _ _
    obtain ⟨x, hslot, hx⟩ := rest.exists_delaySlot rfl
    rw [hd, instruction_of_branch read branch hslot, hx]
    rfl

end OpcodeTable

namespace Interpreter

variable [Bus β]

/-- Delayed branches stand one behind the other from the program counter on, and the step begins at
the first. The words fetched are the branches in order and the word behind the last, and there are
no others unless that word passes the floating-point check and fetches some itself. If it raises an
exception, the step reports it at the first branch and with its kind for slots, and leaves the
machine as the word left it; a fatal error is passed on; and if the word succeeds, the guest goes on
at the target of the first branch. -/
theorem nested_branches_report_outermost (i : Interpreter β) (t : OpcodeTable) (d : Nat)
    (cost : UInt16 → Option UInt32) (enter : Exception → Processor → Processor)
    (target : UInt16 → Processor → UInt32) (opcode : UInt16) (opcodes : List UInt16) (m : Machine β)
    (last : β)
    (hi : i.isa = (t.instructionSet ((opcode :: opcodes).length + d)).wrapped cost enter)
    (branches : t.Branches target (opcode :: opcodes) m.processor.pc m.bus last) :
    let addr := m.processor.pc
    let k := (opcode :: opcodes).length
    let word := (t.instructionSet d).behindBranch
      ⟨m.processor.setPc (addr + 2 * .ofNat k), last⟩
    let read := Bus.readOpcode last (addr + 2 * .ofNat k)
    let addrs := (List.range (k + 1)).map fun j => addr + 2 * .ofNat j
    (∀ record : β → List UInt32,
      (∀ b a, record (Bus.readOpcode b a).2 = record b ++ [a]) →
      record read.2 = record m.bus ++ addrs ∧
      ((∀ w, read.1 = .ok w → t.Admits w m.processor →
        ((t.instructionSet d).execute w).Along fun m n => record n.bus = record m.bus) →
        (i.step m).Leaves fun n => record n.bus = record m.bus ++ addrs)) ∧
    (∀ e n, word = .fault (.exception e) n →
      i.step m = .fault (.exception ⟨addr, e.kind.inDelaySlot⟩) n ∧
        e.kind.inDelaySlot ≠ .illegalInstruction ∧ e.kind.inDelaySlot ≠ .fpuDisabled) ∧
    (∀ cause n, word = .fault (.fatal cause) n → i.step m = .fault (.fatal cause) n) ∧
    ∀ w n, word = .done w n → i.step m = .done (i.instructionCost opcode)
      { n with processor := n.processor.setPc (target opcode (m.processor.setPc (addr + 2))) } := by
  intro addr k word read addrs
  have hstep : i.isa.instruction m = word.ofBranch addr opcode
      (target opcode (m.processor.setPc (addr + 2))) := by
    rw [hi]
    exact branches.instruction
  refine ⟨fun record notes => ?_, fun e n h => ⟨?_, e.kind.inDelaySlot_ne⟩, ?_, ?_⟩
  · have haddrs : addrs = (List.range k).map (fun j => addr + 2 * .ofNat j) ++
        [addr + 2 * .ofNat k] := by
      change (List.range (k + 1)).map _ = _
      rw [List.range_succ, List.map_append, List.map_singleton]
    have hlast : record read.2 = record m.bus ++ addrs := by
      rw [notes, branches.record notes, List.append_assoc, haddrs]
    refine ⟨hlast, fun quiet => ?_⟩
    have hword : word.Leaves fun n => record n.bus = record read.2 :=
      InstructionSet.behindBranch_leaves (P := fun b => record b = record read.2) rfl
        fun w hw hpass m =>
          (quiet w hw (OpcodeTable.admits_instructionSet.mp hpass) m).mono fun n hn h => hn.trans h
    have hleaves : (i.isa.instruction m).Leaves fun n => record n.bus = record read.2 :=
      hstep ▸ hword.ofBranch (P := fun b => record b = record read.2)
    rw [hlast] at hleaves
    rw [step_apply]
    cases hm : i.isa.instruction m <;> rw [hm] at hleaves <;> exact hleaves
  · rw [step_apply, hstep, h]
    rfl
  · intro cause n h
    rw [step_apply, hstep, h]
    rfl
  · intro w n h
    rw [step_apply, hstep, h]
    rfl

end Interpreter

structure Tape where
  words : List UInt16
  fetches : List UInt32 := []

namespace Tape

instance : Bus Tape where
  readOpcode bus addr := (match bus.words[addr.toNat / 2]? with
    | some opcode => .ok opcode
    | none => .error (.fatal (.unmappedFetch addr)), { bus with fetches := bus.fetches ++ [addr] })
  updateSystem bus p := (.ok (), p, bus)

def ahead (p : Processor) : UInt32 := p.pc + 8

def branch : Descriptor × Handler := ({ name := "bra" }, fun _ => Action.delayedBranch ahead)

def illegal : Descriptor × Handler :=
  ({ name := "unknown" }, fun _ => Action.raise .illegalInstruction)

def table : OpcodeTable := OpcodeTable.empty.assign ⟨0xFFFF, 1⟩ branch.1 branch.2

lemma entry_table (opcode : UInt16) :
    table.entry opcode = if opcode = 1 then branch else illegal := by
  rw [table, OpcodeTable.entry_assign, OpcodeTable.entry_empty]
  simp only [Pattern.accepts_whole]
  rfl

def start : Machine Tape := ⟨{}, ⟨[1, 1, 3], []⟩⟩

section

variable {t : OpcodeTable}

lemma branches (hbranch : t.entry 1 = branch) :
    t.Branches (fun _ => ahead) [1, 1] 0 start.bus ⟨[1, 1, 3], [0, 2]⟩ := by
  have h : t.IsDelayedBranch (fun _ => ahead) 1 :=
    ⟨congrArg (·.1.floatingPoint) hbranch, congrFun (congrArg Prod.snd hbranch) 1⟩
  exact .cons rfl h (.cons rfl h (.nil _ _))

variable (hillegal : t.entry 3 = illegal)
include hillegal

lemma execute_illegal (m : Machine Tape) : (t.instructionSet 0).execute 3 m =
    .fault (.raise (m.processor.pc - instructionBytes) .illegalInstruction) m := by
  have hhandler : t.handler 3 3 = Action.raise .illegalInstruction :=
    congrFun (congrArg Prod.snd hillegal) 3
  change (t.handler 3 3).run _ m = _
  rw [hhandler]
  rfl

lemma behindBranch_illegal : (t.instructionSet 0).behindBranch
    (⟨start.processor.setPc 4, [1, 1, 3], [0, 2]⟩ : Machine Tape) =
      .fault (.raise 4 .illegalInstruction) ⟨start.processor.setPc 6, [1, 1, 3], [0, 2, 4]⟩ := by
  generalize hm : (⟨start.processor.setPc 4, [1, 1, 3], [0, 2]⟩ : Machine Tape) = m
  have hread : Bus.readOpcode m.bus m.processor.pc = (.ok 3, ⟨[1, 1, 3], [0, 2, 4]⟩) := hm ▸ rfl
  have hfp : (t.instructionSet (β := Tape) 0).isFloatingPoint 3 = false :=
    congrArg (·.1.floatingPoint) hillegal
  rw [InstructionSet.behindBranch_of_ok hread, InstructionSet.instruction_of_ok hread, hfp,
    Bool.and_false, if_neg Bool.false_ne_true, execute_illegal hillegal, ← hm]
  rfl

end

end Tape

open Tape in
theorem Interpreter.nested_branches_report_outermost_illegal :
    let i := bound ((table.instructionSet 2).wrapped (fun _ => none) Exception.enter) {} 1 0
    table.Branches (fun _ => ahead) [1, 1] start.processor.pc start.bus ⟨[1, 1, 3], [0, 2]⟩ ∧
      ((i.step start).Leaves fun n => n.bus.fetches = [0, 2, 4]) ∧
      i.step start = .fault (.exception ⟨0, .slotIllegalInstruction⟩)
        ⟨start.processor.setPc 6, ⟨[1, 1, 3], [0, 2, 4]⟩⟩ := by
  -- No proof below may open the table.
  have hbranch : table.entry 1 = branch := entry_table 1
  have hillegal : table.entry 3 = illegal := entry_table 3
  generalize table = t at hbranch hillegal ⊢
  intro i
  obtain ⟨hfetch, hraise, -⟩ := nested_branches_report_outermost i t 0 (fun _ => none)
    Exception.enter (fun _ => ahead) 1 [1] start _ rfl (branches hbranch)
  refine ⟨branches hbranch, ?_, (hraise _ _ (behindBranch_illegal hillegal)).1⟩
  have hfetches := (hfetch Tape.fetches fun _ _ => rfl).2 fun w hw _ m => by
    cases hw
    rw [execute_illegal hillegal]
    rfl
  exact hfetches.mono fun n hn => hn.trans (by decide)

end Recompiler
