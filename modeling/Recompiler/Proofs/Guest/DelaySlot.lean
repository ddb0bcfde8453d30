import Recompiler.Proofs.Exception.Registers

/-! One instruction as the main loop executes it and as the helper for delay slots does. Both fetch
it, advance, check the floating-point unit and execute it alike. They differ in the fault that they
report, and in the program counter that they leave where the fetch has failed. -/

namespace Recompiler

variable {α β : Type}

namespace Outcome

def left? : Outcome β α → Option (Machine β)
  | .done _ m => some m
  | .fault _ m => some m
  | .unfinished => none

/-- How an instruction that ends so shows at the branch whose delay slot it stands in. -/
def inSlot (branch : UInt32) : Outcome β α → Outcome β Unit
  | .done _ m => .done () m
  | .fault f m => .fault (f.inDelaySlot branch) m
  | .unfinished => .unfinished

variable {x y : Outcome β α} {branch : UInt32} {m : Machine β}

section

variable {R : Machine β → Machine β → Prop} (h : x.Agrees R y)
include h

lemma Agrees.exists_done_iff {a : α} : (∃ n, x = .done a n) ↔ ∃ n, y = .done a n := by
  cases x <;> cases y <;> simp_all [Agrees]

lemma Agrees.exists_fault_iff {f : Fault} : (∃ n, x = .fault f n) ↔ ∃ n, y = .fault f n := by
  cases x <;> cases y <;> simp_all [Agrees]

lemma Agrees.map_left? {δ : Type} {f : Machine β → δ} (hf : ∀ {m n}, R m n → f m = f n) :
    x.left?.map f = y.left?.map f := by
  cases x with
  | done _ _ =>
    cases y with
    | done _ _ => exact congrArg some (hf h.2)
    | _ => exact h.elim
  | fault _ _ =>
    cases y with
    | fault _ _ => exact congrArg some (hf h.2)
    | _ => exact h.elim
  | unfinished =>
    cases y with
    | unfinished => rfl
    | _ => exact h.elim

end

lemma left?_inSlot : (x.inSlot branch).left? = x.left? := by
  cases x <;> rfl

lemma Leaves.inSlot {P : Machine β → Prop} (h : x.Leaves P) : (x.inSlot branch).Leaves P := by
  cases x <;> exact h

lemma inSlot_eq_done_iff : x.inSlot branch = .done () m ↔ ∃ a, x = .done a m := by
  cases x <;> simp [Outcome.inSlot]

lemma inSlot_eq_fatal_iff {cause : Fatal} :
    x.inSlot branch = .fault (.fatal cause) m ↔ x = .fault (.fatal cause) m := by
  rcases x with _ | ⟨_ | _, n⟩ | _ <;> simp [Outcome.inSlot, Fault.inDelaySlot, Fault.raise]

lemma inSlot_eq_exception_iff {e : Exception} : x.inSlot branch = .fault (.exception e) m ↔
    ∃ epc kind, x = .fault (.exception ⟨epc, kind⟩) m ∧ e = ⟨branch, kind.inDelaySlot⟩ := by
  rcases x with _ | ⟨⟨epc, kind⟩ | _, n⟩ | _ <;>
    simp [Outcome.inSlot, Fault.inDelaySlot, Fault.raise, eq_comm, and_comm]

end Outcome

lemma InstructionSet.delaySlot_eq_inSlot [Bus β] {isa : InstructionSet β} {m : Machine β}
    {opcode : UInt16} {bus : β} (h : Bus.readOpcode m.bus m.processor.pc = (.ok opcode, bus)) :
    isa.delaySlot m = (isa.instruction m).inSlot (m.processor.pc - instructionBytes) := by
  rw [delaySlot_of_ok h, instruction_of_ok h]
  by_cases hd : ((fetched m bus).processor.fpuDisabled && isa.isFloatingPoint opcode) = true
  · rw [if_pos hd, if_pos hd]
    rfl
  · rw [if_neg hd, if_neg hd, Guest.mapFault]
    cases isa.execute opcode (fetched m bus) <;> rfl

namespace Interpreter

variable [Bus β] {i : Interpreter β}

lemma inSlot_step (m : Machine β) (branch : UInt32) :
    (i.step m).inSlot branch = (i.isa.instruction m).inSlot branch := by
  rw [step_apply]
  cases i.isa.instruction m <;> rfl

lemma step_of_error {m : Machine β} {f : Fault} {bus : β}
    (h : Bus.readOpcode m.bus m.processor.pc = (.error f, bus)) :
    i.step m = .fault f { m with bus } := by
  rw [step_apply, InstructionSet.instruction_of_error h]

lemma exists_agrees_inSlot (i : Interpreter β) (m : Machine β) : ∃ x : Outcome β Int32,
    (i.step m).Agrees (fun n k => n.bus = k.bus) x ∧
      i.isa.delaySlot m = x.inSlot (m.processor.pc - instructionBytes) := by
  rcases h : Bus.readOpcode m.bus m.processor.pc with ⟨f | opcode, bus⟩
  · refine ⟨.fault f (InstructionSet.fetched m bus), ?_, InstructionSet.delaySlot_of_error h⟩
    rw [step_of_error h]
    exact ⟨rfl, rfl⟩
  · refine ⟨i.step m, ?_, ?_⟩
    · cases i.step m <;> simp [Outcome.Agrees]
    · rw [InstructionSet.delaySlot_eq_inSlot h, inSlot_step]

lemma step_fetches {record : β → List UInt32} (records : i.isa.Records Eq record)
    (m : Machine β) : (i.step m).Leaves fun n =>
      record m.bus ++ [m.processor.pc] <+: record n.bus := by
  have h := instruction_fetches records m
  rw [step_apply]
  cases hi : i.isa.instruction m <;> rw [hi] at h <;> exact h

lemma delaySlot_fetches {record : β → List UInt32} (records : i.isa.Records Eq record)
    (m : Machine β) : (i.isa.delaySlot m).Leaves fun n =>
      record m.bus ++ [m.processor.pc] <+: record n.bus := by
  rcases h : Bus.readOpcode m.bus m.processor.pc with ⟨f | opcode, bus⟩
  · have hfetch := records.fetch m.bus m.processor.pc
    rw [h] at hfetch
    rw [InstructionSet.delaySlot_of_error h]
    exact hfetch ▸ List.prefix_rfl
  · rw [InstructionSet.delaySlot_eq_inSlot h]
    exact (instruction_fetches records m).inSlot

/-- Executed by the main loop and in a delay slot from one state, an instruction makes the same
fetch first, leaves the same bus and comes to its end in both or in neither. It leaves the same
processor where it is fetched, and otherwise the loop leaves the processor as it was and the helper
advances it. What is an exception to the loop is one to the helper, at the branch and with its kind
for slots, and a fatal error is the same to both. -/
theorem step_and_delaySlot_agree (i : Interpreter β) (m : Machine β) :
    let p := m.processor.pc
    (∀ record, i.isa.Records Eq record →
      (i.step m).Leaves (fun n => record m.bus ++ [p] <+: record n.bus) ∧
        (i.isa.delaySlot m).Leaves fun n => record m.bus ++ [p] <+: record n.bus) ∧
    (i.step m).left?.map Machine.bus = (i.isa.delaySlot m).left?.map Machine.bus ∧
    ((∃ cost n, i.step m = .done cost n) ↔ ∃ n, i.isa.delaySlot m = .done () n) ∧
    (∀ opcode bus, Bus.readOpcode m.bus p = (.ok opcode, bus) →
      (i.step m).left? = (i.isa.delaySlot m).left?) ∧
    (∀ f bus, Bus.readOpcode m.bus p = (.error f, bus) →
      (i.step m).left? = some { m with bus } ∧
        (i.isa.delaySlot m).left? = some ⟨m.processor.setPc (p + 2), bus⟩) ∧
    (∀ e, (∃ n, i.isa.delaySlot m = .fault (.exception e) n) ↔
      ∃ epc kind n, i.step m = .fault (.exception ⟨epc, kind⟩) n ∧ e = ⟨p - 2, kind.inDelaySlot⟩) ∧
    ∀ cause, (∃ n, i.step m = .fault (.fatal cause) n) ↔
      ∃ n, i.isa.delaySlot m = .fault (.fatal cause) n := by
  intro p
  obtain ⟨x, hx, hslot⟩ := exists_agrees_inSlot i m
  refine ⟨fun record records => ⟨step_fetches records m, delaySlot_fetches records m⟩, ?_⟩
  refine ⟨?_, ?_, ?_, ?_, ?_, ?_⟩
  · rw [hslot, Outcome.left?_inSlot]
    exact hx.map_left? id
  · simp only [hslot, Outcome.inSlot_eq_done_iff, hx.exists_done_iff]
    exact exists_comm
  · intro opcode bus h
    rw [InstructionSet.delaySlot_eq_inSlot h, ← inSlot_step, Outcome.left?_inSlot]
  · intro f bus h
    rw [step_of_error h, InstructionSet.delaySlot_of_error h]
    exact ⟨rfl, rfl⟩
  · intro e
    simp only [hslot, Outcome.inSlot_eq_exception_iff]
    constructor
    · rintro ⟨n, epc, kind, hn, he⟩
      obtain ⟨k, hk⟩ := hx.exists_fault_iff.mpr ⟨n, hn⟩
      exact ⟨epc, kind, k, hk, he⟩
    · rintro ⟨epc, kind, n, hn, he⟩
      obtain ⟨k, hk⟩ := hx.exists_fault_iff.mp ⟨n, hn⟩
      exact ⟨k, epc, kind, hk, he⟩
  · intro cause
    simp only [hslot, Outcome.inSlot_eq_fatal_iff]
    exact hx.exists_fault_iff

lemma counting_records : (counting : InstructionSet Countdown).Records Eq Countdown.fetches where
  alike := congrArg _
  fetch _ _ := rfl
  execute := counting_along fun _ _ => List.prefix_rfl

theorem step_and_delaySlot_agree_countdown :
    let i := bound (counting : InstructionSet Countdown) {} 1 0
    let m : Machine Countdown := ⟨{ regs := { pc := 4 } }, { updates := 1 }⟩
    i.isa.Records Eq Countdown.fetches ∧
      Bus.readOpcode m.bus 4 = (.error (.raise 4 .tlbMissRead), { m.bus with fetches := [4] }) ∧
      (i.step m).Leaves (fun n => [] ++ [4] <+: n.bus.fetches) ∧
      (i.isa.delaySlot m).left? = some ⟨m.processor.setPc 6, { m.bus with fetches := [4] }⟩ ∧
      ∃ n, i.isa.delaySlot m = .fault (.exception ⟨2, .tlbMissRead⟩) n := by
  intro i m
  obtain ⟨hfetch, -, -, -, hfault, hexception, -⟩ := step_and_delaySlot_agree i m
  exact ⟨counting_records, rfl, (hfetch _ counting_records).1, (hfault _ _ rfl).2,
    (hexception _).mpr ⟨4, .tlbMissRead, _, rfl, by decide⟩⟩

end Interpreter

end Recompiler
