import Recompiler.Proofs.Pacing.Counter
import Recompiler.Proofs.Session.Calls

/-! Requests to halt. A session lends its processor to the run as a whole, so that a request comes
between two runs, and there it clears the flag that the next run sets before anything reads it. What
ends a run is the guest or the update of the system, and no request. -/

namespace Recompiler

variable {β : Type}

structure Heartbeat where
  updates : Nat := 0

instance : Bus Heartbeat where
  readOpcode bus _ := (.ok 9, bus)
  updateSystem bus p := (.ok (), p, { updates := bus.updates + 1 })

namespace InstructionSet

variable [Bus β]

structure NeverStops (isa : InstructionSet β) : Prop where
  execute : ∀ opcode, (isa.execute opcode).Along fun m n =>
    m.processor.running = true → n.processor.running = true
  enterException : ∀ e p, p.running = true → (isa.enterException e p).running = true
  updateSystem : ∀ (bus : β) p, p.running = true → (Bus.updateSystem bus p).2.1.running = true

structure Completes (isa : InstructionSet β) : Prop where
  instruction : ∀ m, ∃ opcode n, isa.instruction m = .done opcode n
  updateSystem : ∀ (bus : β) p, (Bus.updateSystem bus p).1 = .ok ()

variable {isa : InstructionSet β}

lemma NeverStops.instruction (never : isa.NeverStops) : isa.instruction.Along fun m n =>
    m.processor.running = true → n.processor.running = true :=
  instruction_along (fun h h' hm => h' (h hm)) (fun _ hm => hm) (fun _ hm => hm) never.execute

end InstructionSet

lemma counting_neverStops [Bus β] (h : ∀ (bus : β) p, p.running = true →
    (Bus.updateSystem bus p).2.1.running = true) : (counting : InstructionSet β).NeverStops where
  execute := counting_along fun _ _ hm => hm
  enterException _ _ hp := hp
  updateSystem := h

lemma counting_completes : (counting : InstructionSet Heartbeat).Completes where
  instruction m := by
    have hinteger : (counting : InstructionSet Heartbeat).isFloatingPoint 9 = false := rfl
    have hm : (counting : InstructionSet Heartbeat).instruction m = _ :=
      InstructionSet.instruction_of_ok rfl
    rw [hinteger, Bool.and_false, if_neg Bool.false_ne_true] at hm
    exact ⟨9, _, hm⟩
  updateSystem _ _ := rfl

namespace Interpreter

variable [Bus β] {i : Interpreter β} {s t : LoopState β} {es : List (LoopEvent β)}
  {r : Except Fatal Unit} {limit : Nat}

omit [Bus β] in
lemma isRunning_completed (s : LoopState β) (opcode : UInt16) (m : Machine β) :
    (i.completed s opcode m).isRunning = m.processor.running := rfl

section

variable (never : i.isa.NeverStops)
include never

lemma running_of_update {m : Machine β} {p : Processor} {bus : β} (h : i.update m = (r, p, bus))
    (hm : m.processor.running = true) : p.running = true := by
  have hu := never.updateSystem m.bus (m.processor.replenish i.timesliceCycles) hm
  rw [← update, h] at hu
  exact hu

lemma Advance.isRunning (h : i.Advance s es t) (hs : s.isRunning = true) :
    t.isRunning = true := by
  cases h with
  | instruction done left =>
    rw [isRunning_completed]
    exact never.instruction.of_done done hs
  | rollover done used updated running => exact running
  | exception raised running => exact running

lemma Trace.isRunning (h : i.Trace s es t) (hs : s.isRunning = true) : t.isRunning = true := by
  induction h with
  | nil => exact hs
  | cons first _ ih => exact ih (first.isRunning never hs)

lemma Ending.exists_cause (h : i.Ending s es r t) (hs : s.isRunning = true) :
    ∃ cause, r = .error cause := by
  cases h with
  | rollover done used updated stopped =>
    have hdone := never.instruction.of_done done hs
    cases stopped.symm.trans (running_of_update never updated hdone)
  | failed done used updated => exact ⟨_, rfl⟩
  | @exception e m raised stopped =>
    have hrun : (i.handled s e m).isRunning = true :=
      never.enterException e m.processor (never.instruction.of_fault raised hs)
    cases stopped.symm.trans hrun
  | fatal raised => exact ⟨_, rfl⟩

lemma exists_cause_of_enterLoop {m : Machine β} (hm : m.processor.running = true)
    (h : i.enterLoop limit m = some (r, t)) : ∃ cause, r = .error cause := by
  rw [enterLoop, if_pos hm] at h
  obtain ⟨past, u, last, htrace, hend, -⟩ := exists_trace_of_dispatch h
  exact hend.exists_cause never (htrace.isRunning never hm)

variable (completes : i.isa.Completes)
include completes

omit never in
lemma ok_of_update {m : Machine β} {p : Processor} {bus : β} (h : i.update m = (r, p, bus)) :
    r = .ok () := by
  have hu := completes.updateSystem m.bus (m.processor.replenish i.timesliceCycles)
  rw [← update, h] at hu
  exact hu

lemma not_ending (hs : s.isRunning = true) : ¬ i.Ending s es r t := by
  intro h
  obtain ⟨cause, rfl⟩ := h.exists_cause never hs
  cases h with
  | failed done used updated => cases ok_of_update completes updated
  | fatal raised =>
    obtain ⟨opcode, m, done⟩ := completes.instruction s.machine
    cases raised.symm.trans done

lemma enterLoop_eq_none {m : Machine β} (hm : m.processor.running = true) (limit : Nat) :
    i.enterLoop limit m = none := by
  rw [enterLoop, if_pos hm]
  refine Option.eq_none_iff_forall_ne_some.mpr ?_
  rintro ⟨r, t⟩ h
  obtain ⟨past, u, last, htrace, hend, -⟩ := exists_trace_of_dispatch h
  exact not_ending never completes (htrace.isRunning never hm) hend

variable (kept : i.isa.KeepsCounter)
include kept

omit never completes in
lemma counter_falls {opcode : UInt16} {m : Machine β}
    (done : i.isa.instruction s.machine = .done opcode m)
    (left : 0 < (i.charged opcode m).processor.cycleCounter) :
    (i.charged opcode m).counter.toNat < s.machine.counter.toNat := by
  have hleft := Int32.lt_iff_toInt_lt.mp left
  rw [Int32.toInt_zero, ← Machine.counter] at hleft
  have hcharged := i.counter_charged opcode m
  rw [counter_of_done kept done] at hcharged
  have hcost := i.cost_pos opcode
  have hmin : Int32.minValue.toInt < 0 := by decide
  omega

lemma exists_rollover (s : LoopState β) (hs : s.isRunning = true) :
    ∃ es t, i.Trace s es t ∧ rollovers es = 1 ∧ t.isRunning = true := by
  generalize hb : s.machine.counter.toNat = budget
  induction budget using Nat.strongRecOn generalizing s with
  | _ budget ih =>
    obtain ⟨opcode, m, done⟩ := completes.instruction s.machine
    by_cases used : (i.charged opcode m).processor.cycleCounter ≤ 0
    · rcases updated : i.update (i.charged opcode m) with ⟨r, p, bus⟩
      obtain rfl := ok_of_update completes updated
      have hdone := never.instruction.of_done done hs
      have running := running_of_update never updated hdone
      have advanced := Advance.rollover done used updated running
      exact ⟨_, _, .cons advanced (.nil _), rfl, running⟩
    · have left := Int32.not_le.mp used
      have advanced := Advance.instruction done left
      have hfall := counter_falls kept done left
      rw [hb] at hfall
      obtain ⟨es, t, htrace, hone, ht⟩ := ih _ hfall _ (advanced.isRunning never hs) rfl
      refine ⟨_, t, .cons advanced htrace, ?_, ht⟩
      rw [rollovers_append, hone]
      rfl

lemma exists_rollovers (s : LoopState β) (hs : s.isRunning = true) (n : Nat) :
    ∃ es t, i.Trace s es t ∧ rollovers es = n ∧ t.isRunning = true := by
  induction n with
  | zero => exact ⟨[], s, .nil s, rfl, hs⟩
  | succ n ih =>
    obtain ⟨es, t, htrace, hes, ht⟩ := ih
    obtain ⟨fs, u, hnext, hfs, hu⟩ := exists_rollover never completes kept t ht
    exact ⟨es ++ fs, u, htrace.append hnext, by rw [rollovers_append, hes, hfs], hu⟩

lemma exists_history {m : Machine β} (hm : m.processor.running = true) (n : Nat) :
    ∃ limit, rollovers (i.history limit m) = n := by
  obtain ⟨es, t, htrace, hes, -⟩ := exists_rollovers never completes kept { machine := m } hm n
  refine ⟨attempts es, ?_⟩
  have hist := htrace.history 0
  rw [Nat.add_zero, historyFrom, List.append_nil] at hist
  rw [history, if_pos hm, hist, hes]

end

end Interpreter

namespace Hosted

variable [Bus β] {limit : Nat} {h g : Hosted (Interpreter β) β} {i : Interpreter β}
  {call : Call β} {calls : List (Call β)} {answer : Answer β} {answers : List (Answer β)}

lemma exists_ready_of_serve (ready : h.session.Ready i)
    (hs : h.serve limit call = some (answer, g)) :
    ∃ n, g.session.Ready { i with loopEntries := n } := by
  cases hc : call.isGuest with
  | true =>
    obtain ⟨-, p, n, hg⟩ := exists_of_serve_guest ready hc hs
    exact ⟨n, hg ▸ ready.entered p n⟩
  | false =>
    obtain ⟨_, arena, hs', hid, -⟩ := exists_of_serve_arena ready limit hc
    cases hs'.symm.trans hs
    exact ⟨i.loopEntries, ready.withArena hid⟩

lemma exists_ready_of_serveAll (ready : h.session.Ready i)
    (hs : h.serveAll limit calls = some (answers, g)) :
    ∃ n, g.session.Ready { i with loopEntries := n } := by
  induction calls generalizing h i answers with
  | nil =>
    cases hs
    exact ⟨i.loopEntries, ready⟩
  | cons call calls ih =>
    obtain ⟨answer, k, rest, hcall, hrest, -⟩ := exists_of_serveAll_cons hs
    obtain ⟨_, hk⟩ := exists_ready_of_serve ready hcall
    obtain ⟨n, hg⟩ := ih hk hrest
    exact ⟨n, hg⟩

def haltRequested (h : Hosted (Interpreter β) β) : Hosted (Interpreter β) β :=
  { h with session := h.session.requestHalt }

lemma serve_requestHalt : h.serve limit .requestHalt =
    some (.adjusted { h.session.processor with running := false }, h.haltRequested) := rfl

omit [Bus β] in
lemma haltRequested_ready (ready : h.session.Ready i) : h.haltRequested.session.Ready i :=
  ⟨ready.active, ready.binding⟩

lemma serve_run_haltRequested (ready : h.session.Ready i) (prepare : β → β) :
    h.haltRequested.serve limit (.run prepare) = h.serve limit (.run prepare) := by
  rw [serve_run (haltRequested_ready ready), serve_run ready]
  rfl

lemma exists_cause_of_serve (ready : h.session.Ready i) (never : i.isa.NeverStops)
    {prepare : β → β} (hs : h.serve limit (.run prepare) = some (answer, g)) :
    ∃ cause st, answer = .ran (.error (.aborted cause st)) g.session.processor g.bus := by
  rw [serve_run ready] at hs
  obtain ⟨⟨⟨x, n, j⟩, log⟩, hrun, hs⟩ := Option.map_eq_some_iff.mp hs
  obtain ⟨r, t, hloop, hout⟩ := Interpreter.exists_loop_of_run ready.isBound hrun
  obtain ⟨cause, rfl⟩ := Interpreter.exists_cause_of_enterLoop never rfl hloop
  cases hout
  cases hs
  exact ⟨cause, t.stats, rfl⟩

lemma serve_run_eq_none (ready : h.session.Ready i) (never : i.isa.NeverStops)
    (completes : i.isa.Completes) (limit : Nat) (prepare : β → β) :
    h.serve limit (.run prepare) = none := by
  rw [serve_run ready, Option.map_eq_none_iff]
  have hrun := Interpreter.run_eq ready.isBound limit
    ⟨{ h.session.processor with running := true }, prepare h.bus⟩
  rw [Interpreter.enterLoop_eq_none never completes rfl limit] at hrun
  exact Option.map_eq_none_iff.mp hrun

end Hosted

namespace Session

variable [Bus β]

/-- Behind a request to halt a session answers a run, and every call after it, as if the request had
not been made. Where nothing but the request would stop the guest, the run ends in a failure or not
at all; where nothing fails either it has no end, and makes any number of updates. -/
theorem run_outlives_halt_request {c : Configuration} {isa : InstructionSet β}
    {s : Session (Interpreter β)} (created : s.Created c isa) {limit : Nat} {bus : β}
    {calls : List (Call β)} {answers : List (Answer β)} {h : Hosted (Interpreter β) β}
    (served : Hosted.serveAll limit ⟨s, bus⟩ calls = some (answers, h)) :
    let p := { h.session.processor with running := false }
    (∀ limit' prepare rest, h.serveAll limit' (.requestHalt :: .run prepare :: rest) =
      (h.serveAll limit' (.run prepare :: rest)).map (Prod.map (.adjusted p :: ·) id)) ∧
    (isa.NeverStops →
      (∀ limit' prepare answers' g,
        h.serveAll limit' [.requestHalt, .run prepare] = some (answers', g) →
        ∃ cause st, answers' = [.adjusted p,
          .ran (.error (.aborted cause st)) g.session.processor g.bus]) ∧
      (isa.Completes → ∀ prepare,
        (∀ limit', h.serveAll limit' [.requestHalt, .run prepare] = none) ∧
        (isa.KeepsCounter → ∀ i, h.session.selection.active = some i → ∀ n, ∃ limit',
          rollovers (i.history limit' ⟨{ p with running := true }, prepare h.bus⟩) = n))) := by
  intro p
  obtain ⟨supply, start, -, -⟩ := created.exists_ready
  obtain ⟨n, ready⟩ := Hosted.exists_ready_of_serveAll start served
  have hrun (limit' : Nat) (prepare : β → β) (rest : List (Call β)) :
      h.serveAll limit' (.requestHalt :: .run prepare :: rest) =
        (h.serveAll limit' (.run prepare :: rest)).map (Prod.map (.adjusted p :: ·) id) := by
    rw [Hosted.serveAll_cons_of_some Hosted.serve_requestHalt, Hosted.serveAll,
      Hosted.serve_run_haltRequested ready, ← Hosted.serveAll]
  refine ⟨hrun, fun never => ⟨?_, fun completes prepare => ⟨?_, ?_⟩⟩⟩
  · intro limit' prepare answers' g hs
    rw [hrun] at hs
    obtain ⟨⟨answers'', g'⟩, hs, heq⟩ := Option.map_eq_some_iff.mp hs
    obtain ⟨answer, k, rest, hcall, hrest, rfl⟩ := Hosted.exists_of_serveAll_cons hs
    cases hrest
    obtain ⟨cause, st, rfl⟩ := Hosted.exists_cause_of_serve ready never hcall
    cases heq
    exact ⟨cause, st, rfl⟩
  · intro limit'
    rw [hrun, Hosted.serveAll_cons_of_none
      (Hosted.serve_run_eq_none ready never completes limit' prepare)]
    rfl
  · intro kept i hi n
    obtain rfl := Option.some.inj (ready.active.symm.trans hi)
    exact Interpreter.exists_history never completes kept rfl n

theorem run_outlives_halt_request_heartbeat :
    (counting : InstructionSet Heartbeat).NeverStops ∧
      (counting : InstructionSet Heartbeat).KeepsCounter ∧
      (counting : InstructionSet Heartbeat).Completes ∧
      ∃ s : Session (Interpreter Heartbeat), s.Created { timesliceCycles := 2 } counting ∧
        ∃ answers h, Hosted.serveAll 0 ⟨s, {}⟩ [.compile { addr := 8 }] = some (answers, h) ∧
          (∀ limit, h.serveAll limit [.requestHalt, .run id] = none) ∧
          ∃ i, h.session.selection.active = some i ∧ ∃ limit,
            rollovers (i.history limit ⟨{ h.session.processor with running := true }, h.bus⟩) =
              1000 := by
  have never : (counting : InstructionSet Heartbeat).NeverStops :=
    counting_neverStops fun _ _ hp => hp
  have kept : (counting : InstructionSet Heartbeat).KeepsCounter :=
    counting_keepsCounter fun _ _ => rfl
  obtain ⟨s, log, hs⟩ := exists_created (β := Heartbeat) (c := { timesliceCycles := 2 })
    rfl counting {}
  have created : s.Created { timesliceCycles := 2 } counting := ⟨_, _, _, hs⟩
  have served : (Hosted.serveAll 0 (⟨s, {}⟩ : Hosted (Interpreter Heartbeat) _)
      [.compile { addr := 8 }]).isSome = true := rfl
  obtain ⟨⟨answers, h⟩, served⟩ := Option.isSome_iff_exists.mp served
  obtain ⟨endless, updates⟩ :=
    ((run_outlives_halt_request created served).2 never).2 counting_completes id
  refine ⟨never, kept, counting_completes, s, created, answers, h, served, endless, ?_⟩
  obtain ⟨supply, start, -, -⟩ := created.exists_ready
  obtain ⟨n, ready⟩ := Hosted.exists_ready_of_serveAll start served
  exact ⟨_, ready.active, updates kept _ ready.active 1000⟩

end Session

end Recompiler
