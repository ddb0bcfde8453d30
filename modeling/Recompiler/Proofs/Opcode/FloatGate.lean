import Recompiler.Proofs.Loop.Invariant
import Recompiler.Proofs.Loop.Projection

/-! The check in front of floating-point instructions. On a bus that notes every execution, together
with the processor that the execution finds, no opcode of the unit is noted while the unit is
disabled, in the loop or in a delay slot. So a run that starts with the unit disabled leaves the
floating-point registers as they are, if nothing else writes them or enables the unit. -/

namespace Recompiler

variable {β : Type}

structure Noted (β : Type) where
  bus : β
  calls : List (UInt16 × Processor) := []

namespace Noted

instance [Bus β] : Bus (Noted β) where
  readOpcode b addr := (Bus.readOpcode b.bus addr).map id fun bus => { b with bus }
  updateSystem b p := (Bus.updateSystem b.bus p).map id (Prod.map id fun bus => { b with bus })

def note (opcode : UInt16) : Guest (Noted β) Unit := fun m =>
  .done () { m with bus := { m.bus with calls := m.bus.calls ++ [(opcode, m.processor)] } }

def Admitted (t : OpcodeTable) (m : Machine (Noted β)) : Prop :=
  ∀ call ∈ m.bus.calls, t.Admits call.1 call.2

lemma note_projects (opcode : UInt16) :
    Guest.Projects Noted.bus (note opcode : Guest (Noted β) Unit) (pure ()) := fun _ => rfl

variable [Bus β]

lemma bus_projects : Bus.Projects (Noted.bus : Noted β → β) := ⟨fun _ _ => rfl, fun _ _ => rfl⟩

lemma admitted_stable (t : OpcodeTable) : Machine.Stable (Admitted (β := β) t) where
  counted _ h := h
  advanced _ h := h
  fetched _ h := h
  updated h := h

lemma keeps_admitted (t : OpcodeTable) {α : Type} (x : Action α) {m : Machine (Noted β)}
    (hm : Admitted t m) : x.Keeps (Admitted t) m :=
  x.keeps_of_bus (P := fun bus : Noted β => ∀ call ∈ bus.calls, t.Admits call.1 call.2)
    (fun _ _ h => h) (fun _ _ h => h) hm

end Noted

namespace InstructionSet

def noting (isa : InstructionSet (Noted β)) : InstructionSet (Noted β) :=
  { isa with execute := fun opcode => do
      Noted.note opcode
      isa.execute opcode }

def wrapped (isa : InstructionSet β) (cost : UInt16 → Option UInt32)
    (enter : Exception → Processor → Processor) : InstructionSet β :=
  { isa with cycleCost := cost, enterException := enter }

lemma Projects.wrapped {γ : Type} {f : γ → β} {isa : InstructionSet γ} {isa' : InstructionSet β}
    (h : isa.Projects f isa') (cost : UInt16 → Option UInt32)
    (enter : Exception → Processor → Processor) :
    (isa.wrapped cost enter).Projects f (isa'.wrapped cost enter) :=
  ⟨h.isFloatingPoint, h.execute, rfl, rfl⟩

end InstructionSet

namespace OpcodeTable

variable [Bus β] (t : OpcodeTable)

/-- The table as an instruction set, with a note of every execution. -/
def noting : (depth : Nat) → InstructionSet (Noted β)
  | 0 => (t.withSlot Guest.unfinished).noting
  | depth + 1 => (t.withSlot fun m => (noting depth).delaySlot m).noting

lemma withSlot_noting_projects {slot : Guest (Noted β) Unit} {slot' : Guest β Unit}
    (hslot : Guest.Projects Noted.bus slot slot') :
    (t.withSlot slot).noting.Projects Noted.bus (t.withSlot slot') where
  isFloatingPoint := rfl
  execute opcode :=
    .bind (y := pure ()) (Noted.note_projects opcode) fun _ => .run Noted.bus_projects hslot _
  cycleCost := rfl
  enterException := rfl

lemma noting_projects (depth : Nat) :
    (t.noting (β := β) depth).Projects Noted.bus (t.instructionSet depth) := by
  induction depth with
  | zero => exact t.withSlot_noting_projects .unfinished
  | succ depth ih => exact t.withSlot_noting_projects (ih.delaySlot Noted.bus_projects)

variable {t} in
lemma admits_noting {depth : Nat} {opcode : UInt16} {p : Processor} :
    (t.noting (β := β) depth).Admits opcode p ↔ t.Admits opcode p := by
  rw [InstructionSet.Admits, ← (t.noting_projects depth).isFloatingPoint]
  exact admits_instructionSet

lemma execute_noting {slot : Guest (Noted β) Unit} (hslot : slot.Keeps (Noted.Admitted t))
    (opcode : UInt16) (m : Machine (Noted β)) (hpass : t.Admits opcode m.processor)
    (hm : Noted.Admitted t m) :
    ((t.withSlot slot).noting.execute opcode m).Leaves (Noted.Admitted t) := by
  have hn : Noted.Admitted t { m with
      bus := { m.bus with calls := m.bus.calls ++ [(opcode, m.processor)] } } := by
    refine List.forall_mem_append.mpr ⟨hm, List.forall_mem_singleton.mpr ?_⟩
    exact hpass
  exact (Noted.admitted_stable t).withSlot (fun _ _ _ h => Noted.keeps_admitted t _ h) hslot
    opcode _ hpass hn

lemma noting_keeps (depth : Nat) (opcode : UInt16) (m : Machine (Noted β))
    (hpass : t.Admits opcode m.processor) (hm : Noted.Admitted t m) :
    ((t.noting depth).execute opcode m).Leaves (Noted.Admitted t) := by
  induction depth generalizing opcode m with
  | zero => exact t.execute_noting (Guest.keeps_unfinished _) opcode m hpass hm
  | succ depth ih =>
    have hslot : (t.noting (β := β) depth).delaySlot.Keeps (Noted.Admitted t) := by
      refine (Noted.admitted_stable t).delaySlot fun opcode n hn => ih opcode n ?_
      exact OpcodeTable.admits_noting.mp hn
    exact t.execute_noting hslot opcode m hpass hm

end OpcodeTable

def Processor.Seals (fpr : Vector Single 16) (p : Processor) : Prop :=
  p.fpuDisabled = true ∧ p.regs.fpr = fpr

lemma Registers.hasFlag_setFlag {r : Registers} {f : UInt32} (flag : UInt32)
    (h : r.hasFlag f = true) : (r.setFlag flag true).hasFlag f = true := by
  rw [hasFlag, Bool.and_eq_true, beq_iff_eq] at h ⊢
  refine ⟨h.1, UInt32.toBitVec_inj.mp (BitVec.eq_of_getLsbD_eq fun k hk => ?_)⟩
  have hbit := congrArg (·.toBitVec.getLsbD k) h.2
  simp only [setFlag, if_true, UInt32.toBitVec_and, UInt32.toBitVec_or, BitVec.getLsbD_and,
    BitVec.getLsbD_or] at hbit ⊢
  grind

lemma Exception.enter_seals (e : Exception) {p : Processor} (disabled : p.fpuDisabled = true) :
    (e.enter p).Seals p.regs.fpr :=
  ⟨Registers.hasFlag_setFlag _ disabled, rfl⟩

/-- While the unit is disabled, nothing enables it or writes its registers but its own opcodes. -/
structure OpcodeTable.Seals (t : OpcodeTable) (β : Type) [Bus β]
    (enter : Exception → Processor → Processor) : Prop where
  handler {opcode : UInt16} (integer : (t.descriptor opcode).floatingPoint = false) {m : Machine β}
    (disabled : m.processor.fpuDisabled = true) :
    (t.handler opcode opcode).Keeps (fun n => n.processor.Seals m.processor.regs.fpr) m
  enter (e : Exception) {p : Processor} (disabled : p.fpuDisabled = true) :
    (enter e p).Seals p.regs.fpr
  update (bus : β) {p : Processor} (disabled : p.fpuDisabled = true) :
    (Bus.updateSystem bus p).2.1.Seals p.regs.fpr

namespace OpcodeTable.Seals

variable [Bus β] {t : OpcodeTable} {enter : Exception → Processor → Processor}
  (seals : t.Seals β enter) {fpr : Vector Single 16}
include seals

lemma stable : Machine.Stable fun m : Machine β => m.processor.Seals fpr where
  counted hp h := by
    rw [Processor.Seals, Processor.fpuDisabled, hp]
    exact h
  advanced _ h := h
  fetched _ h := h
  updated h := h.2 ▸ seals.update _ h.1

lemma keeps {opcode : UInt16} {m : Machine β} (hpass : t.Admits opcode m.processor)
    (hm : m.processor.Seals fpr) :
    (t.handler opcode opcode).Keeps (fun n => n.processor.Seals fpr) m := by
  have integer : (t.descriptor opcode).floatingPoint = false := by
    refine Bool.eq_false_iff.mpr fun floating => ?_
    cases hm.1.symm.trans (hpass floating)
  exact hm.2 ▸ seals.handler integer hm.1

end OpcodeTable.Seals

namespace Interpreter

variable [Bus β]

/-- A run is the run with notes without its notes, and no floating-point opcode is noted while the
unit is disabled. Where nothing else touches the registers of the unit, a run that starts with the
unit disabled returns with the same ones. -/
theorem run_float_gate (t : OpcodeTable) (depth : Nat) (cost : UInt16 → Option UInt32)
    (enter : Exception → Processor → Processor) (c : Configuration) (arena entries : UInt64)
    (limit : Nat) (m : Machine β) :
    let i := bound ((t.instructionSet depth).wrapped cost enter) c arena entries
    let noting := bound ((t.noting depth).wrapped cost enter) c arena entries
    let start : Machine (Noted β) := ⟨m.processor, { bus := m.bus }⟩
    (i.record limit m = (noting.record limit start).map (List.map (Mark.project Noted.bus))
      (Option.map (Prod.map id (LoopState.project Noted.bus))) ∧
    (i.run limit m).map answer =
      ((noting.run limit start).map answer).map (Prod.map id (Machine.project Noted.bus))) ∧
    (∀ e ∈ (noting.record limit start).1, Noted.Admitted t e.machine) ∧
    (∀ x n, (noting.run limit start).map answer = some (x, n) → Noted.Admitted t n) ∧
    (t.Seals β enter → m.processor.fpuDisabled = true →
      ∀ x n, (i.run limit m).map answer = some (x, n) →
        n.processor.regs.fpr = m.processor.regs.fpr) := by
  intro i noting start
  have hnoting : noting.Projects Noted.bus i :=
    projects_bound ((t.noting_projects depth).wrapped cost enter) c arena entries
  have hnoted := Noted.admitted_stable (β := β) t
  have hkeeps : noting.isa.instruction.Keeps (Noted.Admitted t) := hnoted.instruction
    fun opcode n hpass => t.noting_keeps depth opcode n (OpcodeTable.admits_noting.mp hpass)
  have hstart : Noted.Admitted t start := fun call h => by cases h
  refine ⟨⟨hnoting.record Noted.bus_projects limit start,
    hnoting.run Noted.bus_projects rfl rfl limit start⟩,
    hnoted.record hkeeps (fun _ _ h => h) limit hstart,
    fun x n => hnoted.run_answer hkeeps (fun _ _ h => h) rfl hstart, ?_⟩
  intro seals disabled x n h
  have hs : Machine.Stable fun n : Machine β => n.processor.Seals m.processor.regs.fpr :=
    seals.stable
  have hkeeps : i.isa.instruction.Keeps _ := hs.instruction fun opcode n hpass =>
    hs.instructionSet (fun opcode n => seals.keeps) depth opcode n
      (OpcodeTable.admits_instructionSet.mp hpass)
  have henter (e : Exception) (n : Machine β) (hn : n.processor.Seals m.processor.regs.fpr) :
      (enter e n.processor).Seals m.processor.regs.fpr := hn.2 ▸ seals.enter e hn.1
  exact (hs.run_answer hkeeps henter rfl ⟨disabled, rfl⟩ h).2

end Interpreter

lemma Pattern.accepts_whole {v opcode : UInt16} :
    (⟨0xFFFF, v⟩ : Pattern).accepts opcode = true ↔ opcode = v := by
  have hand (w : UInt16) : w &&& 0xFFFF = w := UInt16.and_neg_one
  rw [accepts, hand, hand, beq_iff_eq]

namespace BranchAndNegate

structure Rom where
  words : List UInt16

instance : Bus Rom where
  readOpcode bus addr := (match bus.words[addr.toNat / 2]? with
    | some opcode => .ok opcode
    | none => .error (.fatal (.unmappedFetch addr)), bus)
  updateSystem bus p := (.ok (), p, bus)

def branch : Descriptor × Handler := ({ name := "bra" }, fun _ => Action.runDelaySlot)

def negate : Descriptor × Handler :=
  ({ name := "fneg", floatingPoint := true },
    fun _ => Action.modify fun p => { p with regs := p.regs.setFpr 0 ⟨0x80000000⟩ })

def table : OpcodeTable :=
  (OpcodeTable.empty.assign ⟨0xFFFF, 1⟩ branch.1 branch.2).assign ⟨0xFFFF, 2⟩ negate.1 negate.2

def enter (e : Exception) (p : Processor) : Processor := { e.enter p with running := false }

def start : Machine Rom :=
  ⟨{ regs := ({} : Registers).setSr Status.fd, running := true }, ⟨[1, 2]⟩⟩

def noted (pc : UInt32) (calls : List (UInt16 × Processor)) : Machine (Noted Rom) :=
  ⟨start.processor.setPc pc, start.bus, calls⟩

lemma entry_table (opcode : UInt16) : table.entry opcode =
    if opcode = 2 then negate
    else if opcode = 1 then branch
    else ({ name := "unknown" }, fun _ => Action.raise .illegalInstruction) := by
  rw [table, OpcodeTable.entry_assign, OpcodeTable.entry_assign, OpcodeTable.entry_empty]
  simp only [Pattern.accepts_whole]

lemma seals : table.Seals Rom enter where
  handler {opcode} integer m _ := by
    rw [OpcodeTable.descriptor, entry_table] at integer
    rw [OpcodeTable.handler, entry_table]
    split
    · rename_i h
      rw [if_pos h] at integer
      cases integer
    · split
      · intro r n _
        cases r <;> trivial
      · trivial
  enter e _ disabled := e.enter_seals disabled
  update _ _ disabled := ⟨disabled, rfl⟩

section

variable {t : OpcodeTable} (hbranch : t.entry 1 = branch) (hnegate : t.entry 2 = negate)
include hnegate

lemma delaySlot_noted (calls : List (UInt16 × Processor)) :
    (t.noting 0).delaySlot (noted 2 calls) =
      .fault (.raise 0 .slotFpuDisabled) (noted 4 calls) := by
  have hpc : (noted 2 calls).processor.pc = 2 := rfl
  have hfetch : Bus.readOpcode (noted 2 calls).bus (noted 2 calls).processor.pc =
      (.ok 2, (noted 2 calls).bus) := by
    rw [hpc]
    rfl
  have hfp : (t.noting (β := Rom) 0).isFloatingPoint 2 = true :=
    congrArg (·.1.floatingPoint) hnegate
  have hfd : (InstructionSet.fetched (noted 2 calls) (noted 2 calls).bus).processor.fpuDisabled =
      true := by
    change start.processor.fpuDisabled = true
    rfl
  rw [InstructionSet.delaySlot_of_ok hfetch, hfp, hfd, hpc]
  rfl

include hbranch

-- The branch is executed and noted, the negation in its slot is neither.
lemma instruction_noted : (t.noting 1).instruction (noted 0 []) =
    .fault (.raise 0 .slotFpuDisabled) (noted 4 [(1, start.processor.setPc 2)]) := by
  have hfetch : Bus.readOpcode (noted 0 []).bus 0 = (.ok 1, (noted 0 []).bus) := rfl
  have hfp : (t.noting (β := Rom) 1).isFloatingPoint 1 = false :=
    congrArg (·.1.floatingPoint) hbranch
  have hhandler : t.handler 1 1 = Action.runDelaySlot :=
    congrFun (congrArg Prod.snd hbranch) 1
  have hx : (t.noting 1).execute 1 (noted 2 []) =
      .fault (.raise 0 .slotFpuDisabled) (noted 4 [(1, start.processor.setPc 2)]) := by
    change (t.handler 1 1).run (t.noting 0).delaySlot (noted 2 [(1, start.processor.setPc 2)]) = _
    rw [hhandler, Action.runDelaySlot, Action.run.eq_def]
    dsimp only
    rw [delaySlot_noted hnegate]
    rfl
  have hfetched : InstructionSet.fetched (noted 0 []) (noted 0 []).bus = noted 2 [] := rfl
  rw [InstructionSet.instruction_of_ok (m := noted 0 []) hfetch, hfp, Bool.and_false,
    if_neg Bool.false_ne_true, hfetched, hx]

lemma run_noted : ∃ n : Machine (Noted Rom),
    n.bus.calls = [(1, start.processor.setPc 2)] ∧
    ((Interpreter.bound ((t.noting 1).wrapped (fun _ => none) enter) {} 1 0).run 1
      (noted 0 [])).map Interpreter.answer =
        some (.ok { exceptions := 1, lastException := some ⟨0, .slotFpuDisabled⟩ }, n) := by
  generalize hi : Interpreter.bound
    ((t.noting (β := Rom) 1).wrapped (fun _ => none) enter) {} 1 0 = i
  have raised : i.isa.instruction (noted 0 []) =
      .fault (.raise 0 .slotFpuDisabled) (noted 4 [(1, start.processor.setPc 2)]) := by
    rw [← hi]
    exact instruction_noted hbranch hnegate
  have stopped : (i.handled { machine := noted 0 [] } ⟨0, .slotFpuDisabled⟩
      (noted 4 [(1, start.processor.setPc 2)])).isRunning = false := hi ▸ rfl
  have hrun : (noted 0 []).processor.running = true := rfl
  have hend : i.Ending { machine := noted 0 [] } _ _ _ := .exception raised stopped
  rw [Interpreter.run_eq (hi ▸ rfl), Interpreter.enterLoop, if_pos hrun, hend.dispatch]
  exact ⟨_, rfl, rfl⟩

end

end BranchAndNegate

namespace Interpreter

open BranchAndNegate in
theorem run_float_gate_delaySlot :
    let i := bound ((table.instructionSet 1).wrapped (fun _ => none) enter) {} 1 0
    let noting := bound ((table.noting 1).wrapped (fun _ => none) enter) {} 1 0
    table.Seals Rom enter ∧ start.processor.fpuDisabled = true ∧
      ∃ n, (noting.run 1 (noted 0 [])).map answer =
          some (.ok { exceptions := 1, lastException := some ⟨0, .slotFpuDisabled⟩ }, n) ∧
        n.bus.calls = [(1, start.processor.setPc 2)] ∧
        (i.run 1 start).map answer =
          some (.ok { exceptions := 1, lastException := some ⟨0, .slotFpuDisabled⟩ },
            n.project Noted.bus) ∧
        n.processor.regs.fpr = start.processor.regs.fpr := by
  intro i noting
  obtain ⟨n, hcalls, hrun⟩ := run_noted (entry_table 1) (entry_table 2)
  obtain ⟨⟨-, herase⟩, -, -, hfpr⟩ :=
    run_float_gate table 1 (fun _ => none) enter {} 1 0 1 start
  have hplain : (i.run 1 start).map answer = _ :=
    herase.trans (congrArg (Option.map (Prod.map id (Machine.project Noted.bus))) hrun)
  exact ⟨seals, rfl, n, hrun, hcalls, hplain, hfpr seals rfl _ _ hplain⟩

end Interpreter

end Recompiler
