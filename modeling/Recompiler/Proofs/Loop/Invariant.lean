import Recompiler.Proofs.Guest.Invariant
import Recompiler.Proofs.Loop.Record

/-! Properties of the machine that a run keeps: every event of the loop leaves a machine with the
property, and so does the run. -/

namespace Recompiler.Machine.Stable

variable {β : Type} [Bus β] {P : Machine β → Prop} {i : Interpreter β} (stable : Stable P)
  (instruction : i.isa.instruction.Keeps P)
  (enter : ∀ e m, P m → P { m with processor := i.isa.enterException e m.processor })

include stable in
lemma recordRollover {s : LoopState β} (hs : P s.machine) :
    P (i.recordRollover s).1.machine := by
  have hp : P { s.machine with processor := s.machine.processor.replenish i.timesliceCycles } :=
    stable.counted rfl hs
  have hu := stable.updated hp
  rw [Interpreter.recordRollover]
  rcases h : Bus.updateSystem s.machine.bus (s.machine.processor.replenish i.timesliceCycles) with
    ⟨_ | _, p, bus⟩ <;> rw [h] at hu <;> exact hu

include stable instruction enter

lemma recordAttempt {s : LoopState β} (hs : P s.machine) :
    ∀ e ∈ (i.recordAttempt s).1, P e.machine := by
  have hx := instruction s.machine hs
  rw [Interpreter.recordAttempt, Interpreter.step_apply]
  rcases h : i.isa.instruction s.machine with ⟨opcode, m⟩ | ⟨e | cause, m⟩ | _ <;> rw [h] at hx
  · have hc : P (i.charged opcode m) := stable.counted rfl hx
    dsimp only
    split
    · have hr := stable.recordRollover (i := i) (s := i.completed s opcode m) hc
      exact List.forall_mem_cons.mpr ⟨hc, List.forall_mem_singleton.mpr hr⟩
    · exact List.forall_mem_singleton.mpr hc
  · have he := enter e m hx
    have hh : P (i.handled s e m).machine :=
      stable.counted (m := ⟨i.isa.enterException e m.processor, m.bus⟩) rfl he
    exact List.forall_mem_singleton.mpr hh
  · exact List.forall_mem_singleton.mpr hx
  · simp

lemma recordFrom {s : LoopState β} (limit : Nat) (hs : P s.machine) :
    ∀ e ∈ (i.recordFrom limit s).1, P e.machine := by
  induction limit generalizing s with
  | zero => simp [Interpreter.recordFrom]
  | succ limit ih =>
    have hmarks := recordAttempt stable instruction enter hs
    rw [Interpreter.recordFrom_fst]
    refine List.forall_mem_append.mpr ⟨hmarks, ?_⟩
    cases ht : (i.attempt s).next? with
    | some t =>
      rw [← i.recordAttempt_snd] at ht
      obtain ⟨e, he, hm⟩ := (i.round_recordAttempt s).exists_machine ht
      exact ih (hm ▸ hmarks e he)
    | none => simp

lemma record {m : Machine β} (limit : Nat) (hm : P m) :
    ∀ e ∈ (i.record limit m).1, P e.machine := by
  rw [Interpreter.record]
  split
  · exact recordFrom stable instruction enter limit hm
  · simp

lemma run_answer (ready : i.isBound = true) {m n : Machine β} {limit : Nat}
    {x : Except LoopFailure Statistics} (hm : P m)
    (h : (i.run limit m).map Interpreter.answer = some (x, n)) : P n := by
  by_cases running : m.processor.running = true
  · obtain ⟨e, r, he, -, -, rfl⟩ := (Interpreter.run_answer_iff ready running).mp h
    exact stable.counted rfl (record stable instruction enter limit hm e (List.mem_of_getLast? he))
  · rw [Interpreter.run_eq ready, Interpreter.enterLoop, if_neg running] at h
    cases h
    exact hm

end Recompiler.Machine.Stable
