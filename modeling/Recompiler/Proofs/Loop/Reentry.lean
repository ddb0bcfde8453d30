import Recompiler.Proofs.Loop.Countdown
import Recompiler.Proofs.Loop.Result

/-! Stopping and entering the loop again. Between two attempts the loop keeps nothing but its
statistics, so a second run from where a first one has stopped goes on like the one run that has not
been stopped. It may be a run of another interpreter, as long as that paces the guest alike. -/

namespace Recompiler

variable {β : Type}

def Statistics.resume (past : Statistics) :
    Except LoopFailure Statistics → Except LoopFailure Statistics
  | .ok s => .ok (past.append s)
  | .error (.aborted cause s) => .error (.aborted cause (past.append s))
  | .error .unbound => .error .unbound

/-- The interpreters differ at most in their placeholders, their reports, the arena that they are
bound to and the count of their runs. -/
structure Interpreter.SamePace (i j : Interpreter β) : Prop where
  isa : j.isa = i.isa
  timesliceCycles : j.timesliceCycles = i.timesliceCycles
  cyclesPerInstruction : j.cyclesPerInstruction = i.cyclesPerInstruction
  exceptionDrainCycles : j.exceptionDrainCycles = i.exceptionDrainCycles

namespace Interpreter.SamePace

variable {i j : Interpreter β}

lemma refl (i : Interpreter β) : i.SamePace i := ⟨rfl, rfl, rfl, rfl⟩

lemma charged (pace : i.SamePace j) (opcode : UInt16) (m : Machine β) :
    j.charged opcode m = i.charged opcode m := by
  rw [Interpreter.charged, Interpreter.charged, instructionCost, instructionCost, pace.isa,
    pace.cyclesPerInstruction]

lemma machine_handled (pace : i.SamePace j) (s t : LoopState β) (e : Exception) (m : Machine β) :
    (j.handled t e m).machine = (i.handled s e m).machine := by
  rw [Interpreter.machine_handled, Interpreter.machine_handled, pace.isa,
    pace.exceptionDrainCycles]

lemma isRunning_handled (pace : i.SamePace j) (s t : LoopState β) (e : Exception)
    (m : Machine β) : (j.handled t e m).isRunning = (i.handled s e m).isRunning := by
  rw [LoopState.isRunning, pace.machine_handled s t e m, LoopState.isRunning]

lemma update [Bus β] (pace : i.SamePace j) (m : Machine β) : j.update m = i.update m := by
  rw [Interpreter.update, Interpreter.update, pace.timesliceCycles]

end Interpreter.SamePace

namespace LoopState

def Continues (past : Statistics) (s t : LoopState β) : Prop :=
  s.machine = t.machine ∧ s.stats = past.append t.stats

variable {past : Statistics} {s t s' t' : LoopState β}

lemma Continues.record (h : Continues past s t) {m : Machine β} {k : LoopEvent.Kind}
    (hs : s'.machine = m ∧ s'.stats = s.stats.record k)
    (ht : t'.machine = m ∧ t'.stats = t.stats.record k) : Continues past s' t' := by
  refine ⟨hs.1.trans ht.1.symm, ?_⟩
  rw [hs.2, ht.2, h.2, Statistics.append_record]

variable {i j : Interpreter β}

lemma Continues.completed (h : Continues past s t) (pace : i.SamePace j) (opcode : UInt16)
    (m : Machine β) : Continues past (i.completed s opcode m) (j.completed t opcode m) :=
  h.record (k := .instruction) ⟨rfl, rfl⟩ ⟨pace.charged opcode m, rfl⟩

lemma Continues.updated (h : Continues past s t) (p : Processor) (bus : β) :
    Continues past (s.updated p bus) (t.updated p bus) :=
  h.record (k := .rollover) ⟨rfl, rfl⟩ ⟨rfl, rfl⟩

lemma Continues.handled (h : Continues past s t) (pace : i.SamePace j) (e : Exception)
    (m : Machine β) : Continues past (i.handled s e m) (j.handled t e m) :=
  h.record (k := .exception e) ⟨rfl, rfl⟩ ⟨pace.machine_handled s t e m, rfl⟩

end LoopState

namespace Interpreter

open LoopState

variable {i j : Interpreter β} {s s' t : LoopState β} {es : List (LoopEvent β)} {past : Statistics}
  {r : Except Fatal Unit} {limit : Nat}

lemma outcome_resume (h : Continues past s t) (r : Except Fatal Unit) :
    outcome (r, s) = Prod.map past.resume id (outcome (r, t)) := by
  obtain ⟨hm, hs⟩ := h
  rcases r with cause | _ <;> simp [outcome, Statistics.resume, hm, hs]

variable [Bus β]

lemma Advance.resume (h : i.Advance s es s') (pace : i.SamePace j) (hc : Continues past s t) :
    ∃ t', j.Advance t es t' ∧ Continues past s' t' := by
  have hm := hc.1
  cases h with
  | @instruction opcode m done left =>
    rw [hm, ← pace.isa] at done
    rw [hm]
    rw [← pace.charged] at left
    exact ⟨_, .instruction done left, hc.completed pace opcode m⟩
  | @rollover opcode m p bus done used updated running =>
    rw [hm, ← pace.isa] at done
    rw [hm, ← pace.charged]
    rw [← pace.charged] at used updated
    rw [← pace.update] at updated
    exact ⟨_, .rollover done used updated running, (hc.completed pace opcode m).updated p bus⟩
  | @exception e m raised running =>
    rw [hm, ← pace.isa] at raised
    rw [hm]
    rw [← pace.isRunning_handled s t] at running
    exact ⟨_, .exception raised running, hc.handled pace e m⟩

lemma Ending.resume (h : i.Ending s es r s') (pace : i.SamePace j) (hc : Continues past s t) :
    ∃ t', j.Ending t es r t' ∧ Continues past s' t' := by
  have hm := hc.1
  cases h with
  | @rollover opcode m p bus done used updated stopped =>
    rw [hm, ← pace.isa] at done
    rw [hm, ← pace.charged]
    rw [← pace.charged] at used updated
    rw [← pace.update] at updated
    exact ⟨_, .rollover done used updated stopped, (hc.completed pace opcode m).updated p bus⟩
  | @failed opcode m cause p bus done used updated =>
    rw [hm, ← pace.isa] at done
    rw [hm, ← pace.charged]
    rw [← pace.charged] at used updated
    rw [← pace.update] at updated
    exact ⟨_, .failed done used updated, (hc.completed pace opcode m).updated p bus⟩
  | @exception e m raised stopped =>
    rw [hm, ← pace.isa] at raised
    rw [hm]
    rw [← pace.isRunning_handled s t] at stopped
    exact ⟨_, .exception raised stopped, hc.handled pace e m⟩
  | @fatal cause m raised =>
    rw [hm, ← pace.isa] at raised
    exact ⟨_, .fatal raised, rfl, hc.2⟩

lemma dispatch_resume_paced (pace : i.SamePace j) (limit : Nat) (h : Continues past s t) :
    (i.dispatch limit s).map outcome =
      ((j.dispatch limit t).map outcome).map (Prod.map past.resume id) := by
  induction limit generalizing s t with
  | zero => rfl
  | succ limit ih =>
    rcases i.attempt_cases s with ⟨es, s', ha⟩ | ⟨es, r, s', he⟩ | hu
    · obtain ⟨t', ha', hc⟩ := ha.resume pace h
      rw [ha.dispatch, ha'.dispatch]
      exact ih hc
    · obtain ⟨t', he', hc⟩ := he.resume pace h
      rw [he.dispatch, he'.dispatch]
      exact congrArg some (outcome_resume hc r)
    · have hu' := hu
      rw [h.1, ← pace.isa] at hu'
      rw [dispatch_of_unfinished hu, dispatch_of_unfinished hu']
      rfl

lemma dispatch_resume (limit : Nat) (h : Continues past s t) :
    (i.dispatch limit s).map outcome =
      ((i.dispatch limit t).map outcome).map (Prod.map past.resume id) :=
  dispatch_resume_paced (.refl i) limit h

lemma SamePace.run (pace : i.SamePace j) (hi : i.isBound = true) (hj : j.isBound = true)
    (limit : Nat) (m : Machine β) : (i.run limit m).map answer = (j.run limit m).map answer := by
  have hc : Continues {} { machine := m : LoopState β } { machine := m } := ⟨rfl, rfl⟩
  have hnone : Statistics.resume {} = id := by
    funext x
    rcases x with ⟨_ | _⟩ | st <;> simp [Statistics.resume, Statistics.empty_append]
  rw [run_eq hi, run_eq hj, enterLoop, enterLoop]
  split
  · rw [dispatch_resume_paced pace limit hc, hnone, Prod.map_id, Option.map_id]
    rfl
  · rfl

lemma enterLoop_of_running {m : Machine β} (h : m.processor.running = true) :
    i.enterLoop limit m = i.dispatch limit { machine := m } :=
  if_pos h

/-- Let the loop find the running flag set at `s`, after the events `past` of a run, and let a first
run, of this system or of another one, make these events and stop with the flag cleared and otherwise
the context of `s`. A second run from there with the flag set again ends as the one run ends, with
the statistics of the first run added. -/
theorem run_resumes (i : Interpreter β) (ready : i.isBound = true) {m : Machine β}
    (running : m.processor.running = true) {events : List (LoopEvent β)} {s : LoopState β}
    (reached : i.Trace { machine := m } events s) (found : s.isRunning = true)
    {γ : Type} [Bus γ] (j : Interpreter γ) (ready' : j.isBound = true) {first : Nat}
    {m₁ n₁ : Machine γ} {st : Statistics} {j' : Interpreter γ} {log : List LogEvent}
    (stopped : j.run first m₁ = some ⟨(.ok st, n₁, j'), log⟩)
    (alike : (j.history first m₁).map LoopEvent.kind = events.map LoopEvent.kind)
    (left : n₁.processor = { s.machine.processor with running := false })
    (entries : UInt64) (limit : Nat) :
    (i.run (attempts events + limit) m).map answer =
      ((({ i with loopEntries := entries } : Interpreter β).run limit
        ⟨{ n₁.processor with running := true }, s.machine.bus⟩).map answer).map
          (Prod.map st.resume id) := by
  have hagain :
      (⟨{ n₁.processor with running := true }, s.machine.bus⟩ : Machine β) = s.machine := by
    rw [left, ← found]
    rfl
  have hstats : s.stats = st.append { machine := s.machine : LoopState β }.stats := by
    rw [Statistics.append_empty, stats_of_run ready' stopped, alike, reached.stats]
    rfl
  have hready : ({ i with loopEntries := entries } : Interpreter β).isBound = true := ready
  rw [run_eq ready, run_eq hready, hagain, enterLoop_of_running running, enterLoop_of_running found,
    reached.dispatch, dispatch_entries i entries]
  have hc : Continues st s { machine := s.machine } := ⟨rfl, hstats⟩
  exact dispatch_resume limit hc

theorem run_resumes_countdown :
    let i := bound (counting : InstructionSet Countdown) { timesliceCycles := 2 } 1 0
    ∃ events s st n j log, i.Trace { machine := Countdown.start 1 2 } events s ∧
      i.run 1 (Countdown.start 1 1) = some ⟨(.ok st, n, j), log⟩ ∧
      (i.run (attempts events + 3) (Countdown.start 1 2)).map answer =
        ((({ i with loopEntries := 1 } : Interpreter Countdown).run 3
          ⟨{ n.processor with running := true }, s.machine.bus⟩).map answer).map
            (Prod.map st.resume id) := by
  intro i
  have advanced : i.Advance { machine := Countdown.start 1 2 } _ _ :=
    .rollover rfl (by decide) rfl rfl
  have reached := Trace.cons advanced (.nil _)
  have stopped : i.run 1 (Countdown.start 1 1) = some ⟨(.ok _, _, _), _⟩ := rfl
  exact ⟨_, _, _, _, _, _, reached, stopped,
    run_resumes i rfl rfl reached rfl i rfl stopped rfl (by decide) 1 3⟩

end Interpreter

end Recompiler
