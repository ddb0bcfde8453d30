import Recompiler.Proofs.Guest.Invariant

/-! Buses with a limited supply of fetches. A fetch is answered with a word or with an exception,
and one that is not answered fails with a fatal error. Delay slots nest no deeper than the supply. -/

namespace Recompiler

variable {α β : Type}

namespace Bus

inductive Query where
  | fetch (addr : UInt32)
  | update (p : Processor)

variable [Bus β] {bus : β} {n k : Nat}

def after (bus : β) : Query → β
  | .fetch addr => (readOpcode bus addr).2
  | .update p => (updateSystem bus p).2.2

def Answers (bus : β) (addr : UInt32) : Prop :=
  ∀ cause, (readOpcode bus addr).1 ≠ .error (.fatal cause)

instance (bus : β) (addr : UInt32) : Decidable (Answers bus addr) :=
  match h : (readOpcode bus addr).1 with
  | .error (.fatal cause) => isFalse fun ha => ha cause h
  | .error (.exception _) => isTrue fun _ hf => by cases h.symm.trans hf
  | .ok _ => isTrue fun _ hf => by cases h.symm.trans hf

def answered (bus : β) : List Query → Nat
  | [] => 0
  | .fetch addr :: qs =>
    (if Answers bus addr then 1 else 0) + answered (after bus (.fetch addr)) qs
  | .update p :: qs => answered (after bus (.update p)) qs

/-- Whatever the bus is asked, it answers at most `n` fetches. -/
def Supplies (n : Nat) (bus : β) : Prop := ∀ qs, answered bus qs ≤ n

namespace Supplies

lemma mono (h : Supplies k bus) (hk : k ≤ n) : Supplies n bus := fun qs =>
  Nat.le_trans (h qs) hk

lemma after (h : Supplies n bus) (q : Query) : Supplies n (Bus.after bus q) := by
  intro qs
  have hqs := h (q :: qs)
  cases q with
  | fetch addr =>
    rw [answered] at hqs
    omega
  | update p => exact hqs

lemma spend {addr : UInt32} (h : Supplies n bus) (answers : Answers bus addr) :
    ∃ k, n = k + 1 ∧ Supplies k (readOpcode bus addr).2 := by
  have hall (qs : List Query) : answered (readOpcode bus addr).2 qs + 1 ≤ n := by
    have hqs := h (.fetch addr :: qs)
    rw [answered, if_pos answers, Nat.add_comm] at hqs
    exact hqs
  obtain ⟨k, rfl⟩ : ∃ k, n = k + 1 := Nat.exists_eq_add_one.mpr (Nat.zero_lt_of_lt (hall []))
  exact ⟨k, rfl, fun qs => Nat.le_of_succ_le_succ (hall qs)⟩

end Supplies

end Bus

open Bus (Supplies)

variable [Bus β]

def Guest.Finishes (n : Nat) (x : Guest β α) : Prop := ∀ m, Supplies n m.bus → x m ≠ .unfinished

lemma supplies_stable (n : Nat) : Machine.Stable fun m : Machine β => Supplies n m.bus :=
  Machine.stable_of_bus (fun _ addr h => h.after (.fetch addr)) fun _ p h => h.after (.update p)

lemma Action.keeps_supplies (n : Nat) (x : Action α) {m : Machine β} (hm : Supplies n m.bus) :
    x.Keeps (fun m => Supplies n m.bus) m :=
  x.keeps_of_bus (fun _ addr h => h.after (.fetch addr)) (fun _ p h => h.after (.update p)) hm

lemma Action.run_finishes {slot : Guest β Unit} {n : Nat} (hslot : slot.Finishes n)
    (keeps : slot.Keeps fun m => Supplies n m.bus) (x : Action α) :
    Guest.Finishes n (x.run slot) := by
  intro m hm
  induction x generalizing m with
  | pure a => exact nofun
  | fault f => exact nofun
  | read next ih => exact ih _ m hm
  | write p next ih => exact ih _ hm
  | fetch addr next ih => exact ih _ _ (hm.after (.fetch addr))
  | updateSystem next ih => exact ih _ _ (hm.after (.update m.processor))
  | delaySlot next ih =>
    have hs := keeps m hm
    rw [run]
    cases hr : slot m with
    | done u n =>
      rw [hr] at hs
      exact ih (.ok ()) n hs
    | fault f n =>
      rw [hr] at hs
      exact ih (.error f) n hs
    | unfinished => exact (hslot m hm hr).elim

namespace InstructionSet

variable {isa : InstructionSet β} {n : Nat} {m : Machine β}

section

variable (finishes : ∀ opcode, ∀ k < n, (isa.execute opcode).Finishes k)
include finishes

-- The fetch has used up one of the `n`.
lemma execute_ne_unfinished {opcode : UInt16} {bus : β} (hm : Supplies n m.bus)
    (h : Bus.readOpcode m.bus m.processor.pc = (.ok opcode, bus)) :
    isa.execute opcode (fetched m bus) ≠ .unfinished := by
  have answers : Bus.Answers m.bus m.processor.pc := by
    rw [Bus.Answers, h]
    exact fun _ => nofun
  obtain ⟨k, rfl, hk⟩ := hm.spend answers
  rw [h] at hk
  exact finishes opcode k k.lt_succ_self _ hk

lemma instruction_finishes : isa.instruction.Finishes n := by
  intro m hm
  rcases h : Bus.readOpcode m.bus m.processor.pc with ⟨f | opcode, bus⟩
  · rw [instruction_of_error h]
    exact nofun
  · have hx := execute_ne_unfinished finishes hm h
    rw [instruction_of_ok h]
    split
    · exact nofun
    · cases he : isa.execute opcode (fetched m bus) with
      | done u n => exact nofun
      | fault f n => exact nofun
      | unfinished => exact (hx he).elim

lemma delaySlot_finishes : isa.delaySlot.Finishes n := by
  intro m hm
  rcases h : Bus.readOpcode m.bus m.processor.pc with ⟨f | opcode, bus⟩
  · rw [delaySlot_of_error h]
    exact nofun
  · have hx := execute_ne_unfinished finishes hm h
    rw [delaySlot_of_ok h, Guest.mapFault]
    split
    · exact nofun
    · exact nofun
    · rename_i he
      split at he
      · cases he
      · exact (hx he).elim

end

variable (isa) in
def Spends : Prop := ∀ n m, Supplies n m.bus →
  (∀ cause k, isa.instruction m ≠ .fault (.fatal cause) k) →
  (isa.instruction m).Leaves fun m => ∃ k, n = k + 1 ∧ Supplies k m.bus

lemma spends (keeps : ∀ opcode n m, isa.Admits opcode m.processor → Supplies n m.bus →
    (isa.execute opcode m).Leaves fun m => Supplies n m.bus) : isa.Spends := by
  intro n m hm hx
  have answers : Bus.Answers m.bus m.processor.pc := by
    intro cause h
    exact hx cause _ (instruction_of_error (Prod.ext h rfl))
  obtain ⟨k, rfl, hk⟩ := hm.spend answers
  refine Outcome.Leaves.mono ?_ fun n hn => ⟨k, rfl, hn⟩
  rcases h : Bus.readOpcode m.bus m.processor.pc with ⟨f | opcode, bus⟩ <;> rw [h] at hk
  · rw [instruction_of_error h]
    exact hk
  · rw [instruction_of_ok h]
    split
    · exact hk
    · rename_i hd
      have hs := keeps opcode k (fetched m bus) ((Bool.not_eq_true _).mp hd) hk
      cases he : isa.execute opcode (fetched m bus) <;> rw [he] at hs <;> exact hs

end InstructionSet

namespace OpcodeTable

variable (t : OpcodeTable)

lemma execute_keeps_supplies (depth : Nat) (opcode : UInt16) (n : Nat) (m : Machine β)
    (hpass : (t.instructionSet (β := β) depth).Admits opcode m.processor)
    (hm : Supplies n m.bus) :
    ((t.instructionSet depth).execute opcode m).Leaves fun m => Supplies n m.bus := by
  apply (supplies_stable n).instructionSet _ depth opcode m (admits_instructionSet.mp hpass) hm
  intro opcode m _ hm
  exact Action.keeps_supplies n _ hm

lemma delaySlot_keeps_supplies (depth n : Nat) :
    (t.instructionSet depth).delaySlot.Keeps fun m : Machine β => Supplies n m.bus := by
  apply (supplies_stable n).delaySlot
  intro opcode m hpass hm
  exact t.execute_keeps_supplies depth opcode n m hpass hm

-- Each slot within a slot has one fetch less to go on with.
lemma execute_finishes {depth n : Nat} (h : n < depth) (opcode : UInt16) :
    ((t.instructionSet (β := β) depth).execute opcode).Finishes n := by
  induction depth generalizing n opcode with
  | zero => cases h
  | succ depth ih =>
    apply Action.run_finishes
    · apply InstructionSet.delaySlot_finishes
      intro opcode k hk
      apply ih
      omega
    · exact t.delaySlot_keeps_supplies depth n

lemma instructionSet_spends (depth : Nat) : (t.instructionSet (β := β) depth).Spends :=
  InstructionSet.spends (t.execute_keeps_supplies depth)

theorem instruction_finishes {depth n : Nat} (h : n ≤ depth) :
    (t.instructionSet (β := β) depth).instruction.Finishes n := by
  apply InstructionSet.instruction_finishes
  intro opcode k hk
  apply t.execute_finishes
  omega

end OpcodeTable

end Recompiler
