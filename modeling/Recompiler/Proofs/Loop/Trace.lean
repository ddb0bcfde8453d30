import Recompiler.Interpreter.Loop
import Recompiler.Proofs.Guest.Instruction

/-! The dispatch loop as a sequence of events. Each event carries the machine that the loop finds: an
instruction that has been executed and is now charged, an exception that has been raised and is now
handled, and a used up timeslice before the next one is granted and the system updated. `Trace`
follows the loop from attempt to attempt, and `history` lists the events of a run. -/

namespace Recompiler

variable {β : Type}

inductive LoopEvent (β : Type) where
  | instruction (addr : UInt32) (opcode : UInt16) (m : Machine β)
  | exception (addr : UInt32) (e : Exception) (m : Machine β)
  | rollover (m : Machine β)

def Progress.next? : Progress β → Option (LoopState β)
  | .within s => some s
  | .boundary s => if s.isRunning then some s else none
  | .aborted _ _ => none
  | .unfinished => none

-- A rollover belongs to the attempt before it.
def LoopEvent.isAttempt : LoopEvent β → Bool
  | .rollover _ => false
  | _ => true

def attempts (es : List (LoopEvent β)) : Nat := es.countP LoopEvent.isAttempt

lemma attempts_append (es fs : List (LoopEvent β)) :
    attempts (es ++ fs) = attempts es + attempts fs :=
  List.countP_append

def Progress.result? : Progress β → Option (Except Fatal Unit × LoopState β)
  | .within _ => none
  | .boundary s => if s.isRunning then none else some (.ok (), s)
  | .aborted cause s => some (.error cause, s)
  | .unfinished => none

def LoopState.updated (s : LoopState β) (p : Processor) (bus : β) : LoopState β :=
  { s with machine := ⟨p, bus⟩, stats := s.stats.recordTimeslice }

namespace Interpreter

variable (i : Interpreter β)

def charged (opcode : UInt16) (m : Machine β) : Machine β :=
  { m with processor := m.processor.charge (i.instructionCost opcode) }

def completed (s : LoopState β) (opcode : UInt16) (m : Machine β) : LoopState β :=
  i.complete (i.instructionCost opcode) { s with machine := m }

def handled (s : LoopState β) (e : Exception) (m : Machine β) : LoopState β :=
  i.handle e { s with machine := m }

lemma machine_completed (s : LoopState β) (opcode : UInt16) (m : Machine β) :
    (i.completed s opcode m).machine = i.charged opcode m := rfl

lemma machine_handled (s : LoopState β) (e : Exception) (m : Machine β) :
    (i.handled s e m).machine =
      { m with processor := (i.isa.enterException e m.processor).charge i.exceptionDrainCycles } := rfl

variable [Bus β]

def events (m : Machine β) : List (LoopEvent β) :=
  match i.isa.instruction m with
  | .done opcode n =>
    .instruction m.processor.pc opcode n ::
      if (i.charged opcode n).processor.cycleCounter ≤ 0 then [.rollover (i.charged opcode n)] else []
  | .fault (.exception e) n => [.exception m.processor.pc e n]
  | .fault (.fatal _) _ => []
  | .unfinished => []

def historyFrom : (limit : Nat) → LoopState β → List (LoopEvent β)
  | 0, _ => []
  | limit + 1, s => i.events s.machine ++
    match (i.attempt s).next? with
    | some t => historyFrom limit t
    | none => []

def history (limit : Nat) (m : Machine β) : List (LoopEvent β) :=
  if m.processor.running then i.historyFrom limit { machine := m } else []

def update (m : Machine β) : Except Fatal Unit × Processor × β :=
  Bus.updateSystem m.bus (m.processor.replenish i.timesliceCycles)

inductive Advance (s : LoopState β) : List (LoopEvent β) → LoopState β → Prop
  | instruction {opcode : UInt16} {m : Machine β}
      (done : i.isa.instruction s.machine = .done opcode m)
      (left : 0 < (i.charged opcode m).processor.cycleCounter) :
      Advance s [.instruction s.machine.processor.pc opcode m] (i.completed s opcode m)
  | rollover {opcode : UInt16} {m : Machine β} {p : Processor} {bus : β}
      (done : i.isa.instruction s.machine = .done opcode m)
      (used : (i.charged opcode m).processor.cycleCounter ≤ 0)
      (updated : i.update (i.charged opcode m) = (.ok (), p, bus))
      (running : p.running = true) :
      Advance s [.instruction s.machine.processor.pc opcode m, .rollover (i.charged opcode m)]
        ((i.completed s opcode m).updated p bus)
  | exception {e : Exception} {m : Machine β}
      (raised : i.isa.instruction s.machine = .fault (.exception e) m)
      (running : (i.handled s e m).isRunning = true) :
      Advance s [.exception s.machine.processor.pc e m] (i.handled s e m)

inductive Ending (s : LoopState β) :
    List (LoopEvent β) → Except Fatal Unit → LoopState β → Prop
  | rollover {opcode : UInt16} {m : Machine β} {p : Processor} {bus : β}
      (done : i.isa.instruction s.machine = .done opcode m)
      (used : (i.charged opcode m).processor.cycleCounter ≤ 0)
      (updated : i.update (i.charged opcode m) = (.ok (), p, bus))
      (stopped : p.running = false) :
      Ending s [.instruction s.machine.processor.pc opcode m, .rollover (i.charged opcode m)]
        (.ok ()) ((i.completed s opcode m).updated p bus)
  | failed {opcode : UInt16} {m : Machine β} {cause : Fatal} {p : Processor} {bus : β}
      (done : i.isa.instruction s.machine = .done opcode m)
      (used : (i.charged opcode m).processor.cycleCounter ≤ 0)
      (updated : i.update (i.charged opcode m) = (.error cause, p, bus)) :
      Ending s [.instruction s.machine.processor.pc opcode m, .rollover (i.charged opcode m)]
        (.error cause) ((i.completed s opcode m).updated p bus)
  | exception {e : Exception} {m : Machine β}
      (raised : i.isa.instruction s.machine = .fault (.exception e) m)
      (stopped : (i.handled s e m).isRunning = false) :
      Ending s [.exception s.machine.processor.pc e m] (.ok ()) (i.handled s e m)
  | fatal {cause : Fatal} {m : Machine β}
      (raised : i.isa.instruction s.machine = .fault (.fatal cause) m) :
      Ending s [] (.error cause) { s with machine := m }

inductive Trace : LoopState β → List (LoopEvent β) → LoopState β → Prop
  | nil (s : LoopState β) : Trace s [] s
  | cons {s t u : LoopState β} {first rest : List (LoopEvent β)} :
      i.Advance s first t → Trace t rest u → Trace s (first ++ rest) u

variable {i} {s t u : LoopState β} {es es' : List (LoopEvent β)} {r : Except Fatal Unit}

lemma attempt_eq (s : LoopState β) : i.attempt s = match i.isa.instruction s.machine with
    | .done opcode m =>
      if (i.charged opcode m).processor.cycleCounter ≤ 0 then i.rollover (i.completed s opcode m)
      else .within (i.completed s opcode m)
    | .fault (.exception e) m => .boundary (i.handled s e m)
    | .fault (.fatal cause) m => .aborted cause { s with machine := m }
    | .unfinished => .unfinished := by
  rw [attempt, step_apply]
  rcases i.isa.instruction s.machine with ⟨opcode, m⟩ | ⟨e | cause, m⟩ | _ <;> rfl

lemma rollover_completed (s : LoopState β) (opcode : UInt16) (m : Machine β) :
    i.rollover (i.completed s opcode m) = match i.update (i.charged opcode m) with
      | (.ok (), p, bus) => .boundary ((i.completed s opcode m).updated p bus)
      | (.error cause, p, bus) => .aborted cause ((i.completed s opcode m).updated p bus) := by
  rfl

lemma Advance.next? (h : i.Advance s es t) : (i.attempt s).next? = some t := by
  rw [attempt_eq]
  cases h with
  | instruction done left =>
    simp only [done, if_neg (Int32.not_le.mpr left), Progress.next?]
  | rollover done used updated running =>
    simp only [done, if_pos used, rollover_completed, updated, Progress.next?]
    exact if_pos running
  | exception raised running => simp only [raised, Progress.next?, if_pos running]

lemma Advance.events (h : i.Advance s es t) : i.events s.machine = es := by
  cases h with
  | instruction done left =>
    simp only [Interpreter.events, done, if_neg (Int32.not_le.mpr left)]
  | rollover done used _ _ => simp only [Interpreter.events, done, if_pos used]
  | exception raised _ => simp only [Interpreter.events, raised]

lemma Ending.next? (h : i.Ending s es r t) : (i.attempt s).next? = none := by
  rw [attempt_eq]
  cases h with
  | rollover done used updated stopped =>
    simp only [done, if_pos used, rollover_completed, updated, Progress.next?]
    exact if_neg (Bool.not_eq_true _ ▸ stopped)
  | failed done used updated =>
    simp only [done, if_pos used, rollover_completed, updated, Progress.next?]
  | exception raised stopped => simp [raised, Progress.next?, stopped]
  | fatal raised => simp only [raised, Progress.next?]

lemma Ending.result? (h : i.Ending s es r t) : (i.attempt s).result? = some (r, t) := by
  rw [attempt_eq]
  cases h with
  | rollover done used updated stopped =>
    simp only [done, if_pos used, rollover_completed, updated, Progress.result?]
    exact if_neg (Bool.not_eq_true _ ▸ stopped)
  | failed done used updated =>
    simp only [done, if_pos used, rollover_completed, updated, Progress.result?]
  | exception raised stopped => simp [raised, Progress.result?, stopped]
  | fatal raised => simp only [raised, Progress.result?]

lemma Ending.events (h : i.Ending s es r t) : i.events s.machine = es := by
  cases h with
  | rollover done used _ _ => simp only [Interpreter.events, done, if_pos used]
  | failed done used _ => simp only [Interpreter.events, done, if_pos used]
  | exception raised _ => simp only [Interpreter.events, raised]
  | fatal raised => simp only [Interpreter.events, raised]

lemma attempt_cases (i : Interpreter β) (s : LoopState β) :
    (∃ es t, i.Advance s es t) ∨ (∃ es r t, i.Ending s es r t) ∨
      i.isa.instruction s.machine = .unfinished := by
  rcases h : i.isa.instruction s.machine with ⟨opcode, m⟩ | ⟨e | cause, m⟩ | _
  · by_cases hc : (i.charged opcode m).processor.cycleCounter ≤ 0
    · rcases hu : i.update (i.charged opcode m) with ⟨_ | _, p, bus⟩
      · exact Or.inr (Or.inl ⟨_, _, _, .failed h hc hu⟩)
      · cases hr : p.running with
        | true => exact Or.inl ⟨_, _, .rollover h hc hu hr⟩
        | false => exact Or.inr (Or.inl ⟨_, _, _, .rollover h hc hu hr⟩)
    · exact Or.inl ⟨_, _, .instruction h (Int32.not_le.mp hc)⟩
  · cases hr : (i.handled s e m).isRunning with
    | true => exact Or.inl ⟨_, _, .exception h hr⟩
    | false => exact Or.inr (Or.inl ⟨_, _, _, .exception h hr⟩)
  · exact Or.inr (Or.inl ⟨_, _, _, .fatal h⟩)
  · exact Or.inr (Or.inr rfl)

lemma dispatch_succ (i : Interpreter β) (limit : Nat) (s : LoopState β) :
    i.dispatch (limit + 1) s = match (i.attempt s).next? with
      | some t => i.dispatch limit t
      | none => (i.attempt s).result? := by
  rw [dispatch]
  cases i.attempt s with
  | within t => rfl
  | boundary t => cases h : t.isRunning <;> simp [Progress.next?, Progress.result?, h]
  | aborted cause t => rfl
  | unfinished => rfl

lemma Advance.dispatch (h : i.Advance s es t) (limit : Nat) :
    i.dispatch (limit + 1) s = i.dispatch limit t := by
  rw [dispatch_succ, h.next?]

lemma Advance.history (h : i.Advance s es t) (limit : Nat) :
    i.historyFrom (limit + 1) s = es ++ i.historyFrom limit t := by
  rw [historyFrom, h.next?, h.events]

lemma Ending.dispatch (h : i.Ending s es r t) (limit : Nat) :
    i.dispatch (limit + 1) s = some (r, t) := by
  rw [dispatch_succ, h.next?, h.result?]

lemma Ending.history (h : i.Ending s es r t) (limit : Nat) :
    i.historyFrom (limit + 1) s = es := by
  rw [historyFrom, h.next?, h.events, List.append_nil]

lemma dispatch_of_unfinished (h : i.isa.instruction s.machine = .unfinished) (limit : Nat) :
    i.dispatch limit s = none := by
  cases limit with
  | zero => rfl
  | succ limit =>
    rw [dispatch_succ, attempt_eq, h]
    rfl

lemma historyFrom_of_unfinished (h : i.isa.instruction s.machine = .unfinished) (limit : Nat) :
    i.historyFrom limit s = [] := by
  cases limit with
  | zero => rfl
  | succ limit =>
    rw [historyFrom, attempt_eq, events, h]
    rfl

lemma Advance.attempts (h : i.Advance s es t) : attempts es = 1 := by
  cases h <;> rfl

lemma Trace.append (h : i.Trace s es t) (h' : i.Trace t es' u) : i.Trace s (es ++ es') u := by
  induction h with
  | nil => exact h'
  | cons first _ ih =>
    rw [List.append_assoc]
    exact .cons first (ih h')

lemma Trace.dispatch (h : i.Trace s es t) (limit : Nat) :
    i.dispatch (attempts es + limit) s = i.dispatch limit t := by
  induction h with
  | nil => rw [attempts, List.countP_nil, Nat.zero_add]
  | cons first _ ih =>
    rw [attempts_append, first.attempts, Nat.add_assoc, Nat.add_comm, first.dispatch]
    exact ih

lemma Trace.history (h : i.Trace s es t) (limit : Nat) :
    i.historyFrom (attempts es + limit) s = es ++ i.historyFrom limit t := by
  induction h with
  | nil => rw [attempts, List.countP_nil, Nat.zero_add, List.nil_append]
  | cons first _ ih =>
    rw [attempts_append, first.attempts, Nat.add_assoc, Nat.add_comm, first.history,
      List.append_assoc]
    exact congrArg _ ih

theorem exists_trace_of_dispatch {limit : Nat} (h : i.dispatch limit s = some (r, t)) :
    ∃ past u last, i.Trace s past u ∧ i.Ending u last r t ∧
      i.historyFrom limit s = past ++ last := by
  induction limit generalizing s with
  | zero => cases h
  | succ limit ih =>
    rcases i.attempt_cases s with ⟨es, u, ha⟩ | ⟨es, r', u, he⟩ | hu
    · rw [ha.dispatch] at h
      obtain ⟨past, v, last, htrace, hend, hist⟩ := ih h
      refine ⟨es ++ past, v, last, .cons ha htrace, hend, ?_⟩
      rw [ha.history, hist, List.append_assoc]
    · rw [he.dispatch] at h
      cases h
      exact ⟨[], s, es, .nil s, he, he.history limit⟩
    · rw [dispatch_of_unfinished hu] at h
      cases h

theorem exists_trace_of_history {limit : Nat} {past future : List (LoopEvent β)} {e : LoopEvent β}
    (h : i.historyFrom limit s = past ++ e :: future) :
    ∃ before u now rest, i.Trace s before u ∧ i.events u.machine = now ++ e :: rest ∧
      past = before ++ now := by
  induction limit generalizing s past with
  | zero => simp [historyFrom] at h
  | succ limit ih =>
    rcases i.attempt_cases s with ⟨es, u, ha⟩ | ⟨es, r', u, he⟩ | hu
    · rw [ha.history] at h
      rcases List.append_eq_append_iff.mp h with ⟨more, rfl, htail⟩ | ⟨more, rfl, htail⟩
      · obtain ⟨before, v, now, rest, htrace, hev, rfl⟩ := ih htail
        exact ⟨es ++ before, v, now, rest, .cons ha htrace, hev, (List.append_assoc ..).symm⟩
      · cases more with
        | nil =>
          have hu : i.historyFrom limit u = [] ++ e :: future := htail.symm
          obtain ⟨before, v, now, rest, htrace, hev, hnil⟩ := ih hu
          refine ⟨past ++ before, v, now, rest, .cons (by simpa using ha) htrace, hev, ?_⟩
          rw [List.append_assoc, ← hnil, List.append_nil]
        | cons e' more =>
          cases htail
          exact ⟨[], s, past, more, .nil s, ha.events, rfl⟩
    · rw [he.history] at h
      exact ⟨[], s, past, future, .nil s, he.events.trans h, rfl⟩
    · rw [historyFrom_of_unfinished hu] at h
      simp at h

lemma done_of_instruction {m n : Machine β} {addr : UInt32} {opcode : UInt16}
    {now rest : List (LoopEvent β)} (h : i.events m = now ++ .instruction addr opcode n :: rest) :
    i.isa.instruction m = .done opcode n ∧ now = [] := by
  rw [events] at h
  split at h
  · rename_i hdone
    rcases now with _ | ⟨e, now⟩
    · cases h
      exact ⟨hdone, rfl⟩
    · obtain ⟨-, htail⟩ := List.cons.inj h
      split at htail
      · rcases now with _ | ⟨f, now⟩
        · cases htail
        · simp at htail
      · simp at htail
  · rcases now with _ | ⟨e, now⟩
    · cases h
    · simp at h
  · simp at h
  · simp at h

lemma done_of_rollover {m n : Machine β} {now rest : List (LoopEvent β)}
    (h : i.events m = now ++ .rollover n :: rest) :
    ∃ opcode k, i.isa.instruction m = .done opcode k ∧ n = i.charged opcode k ∧
      n.processor.cycleCounter ≤ 0 ∧ now = [.instruction m.processor.pc opcode k] := by
  rw [events] at h
  split at h
  · rename_i opcode k hdone
    rcases now with _ | ⟨e, now⟩
    · cases h
    obtain ⟨rfl, htail⟩ := List.cons.inj h
    split at htail
    · rename_i hused
      rcases now with _ | ⟨e, now⟩
      · cases htail
        exact ⟨opcode, k, hdone, rfl, hused, rfl⟩
      · simp at htail
    · simp at htail
  · rcases now with _ | ⟨e, now⟩
    · cases h
    · simp at h
  · simp at h
  · simp at h

end Interpreter

end Recompiler
