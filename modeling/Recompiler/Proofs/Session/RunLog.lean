import Recompiler.Proofs.Loop.Record
import Recompiler.Proofs.Session.Hooks

/-! The log of a run. It tells the events of the run in their order, with the count that a milestone
has reached and the counter that an exception has left, between a report of the entry and one of the
end. Entries are reported by their number among the runs of the backend. -/

namespace Recompiler

variable {σ β : Type}

namespace Hook

def isBind : Hook β → Bool
  | .bindTo _ _ => true
  | _ => false

def isRun : Hook β → Bool
  | .run _ => true
  | _ => false

def serve [Backend σ β] (limit : Nat) (b : σ) : Hook β → Option σ
  | .bindTo p arena => some (Backend.bindTo b p arena).value
  | .compile arena block smcChecks optimise =>
    some (Backend.compile b arena block smcChecks optimise).value.2.2.2
  | .run m => (Backend.run b limit m).map fun r => r.value.2.2
  | .handleFault host => some (Backend.handleFault b host).value.2
  | .mendFault host addr => some (Backend.mendFault b host addr).value.2.2
  | .onArenaReset => some (Backend.onArenaReset b).value
  | .canonStart op => some (Backend.canonStart b op).value
  | .canonParam op operand passing => some (Backend.canonParam b op operand passing).value
  | .canonCall op f => some (Backend.canonCall b op f).value
  | .canonFinish op => some (Backend.canonFinish b op).value

def serveAll [Backend σ β] (limit : Nat) (b : σ) (hooks : List (Hook β)) : Option σ :=
  hooks.foldlM (serve limit) b

def boundRuns (hooks : List (Hook β)) : Nat :=
  (hooks.dropWhile fun hook => !hook.isBind).countP isRun

lemma boundRuns_snoc (hooks : List (Hook β)) (hook : Hook β) :
    boundRuns (hooks ++ [hook]) =
      boundRuns hooks + if hooks.any isBind && hook.isRun then 1 else 0 := by
  induction hooks with
  | nil => cases hook <;> rfl
  | cons first hooks ih =>
    cases hb : first.isBind with
    | true =>
      have hall (l : List (Hook β)) : boundRuns (first :: l) = (first :: l).countP isRun := by
        rw [boundRuns, List.dropWhile_cons_of_neg (by simp [hb])]
      rw [List.cons_append, hall, hall, ← List.cons_append, List.countP_append,
        List.countP_singleton, List.any_cons, hb, Bool.true_or, Bool.true_and]
    | false =>
      have hskip (l : List (Hook β)) : boundRuns (first :: l) = boundRuns l := by
        rw [boundRuns, List.dropWhile_cons_of_pos (by simp [hb]), boundRuns]
      rw [List.cons_append, hskip, hskip, ih, List.any_cons, hb, Bool.false_or]

end Hook

namespace LogEvent

def closing (pc : UInt32) : (x : Except LoopFailure Statistics) → LogEvent
  | .ok st => .runHalted st pc
  | .error (.aborted cause st) => .runAborted cause st pc
  | .error .unbound => .runUnbound

def Closes (e : LogEvent) : Except LoopFailure Statistics → Prop
  | .ok st => e.level = .debug ∧ e.fields =
    [("instructions", .number st.instructions.toNat), ("timeslices", .number st.timeslices.toNat),
      ("exceptions", .number st.exceptions.toNat)]
  | .error (.aborted cause st) => e.level = .error ∧ e.fields =
    [("cause", .text cause.message), ("instructions", .number st.instructions.toNat)]
  | .error .unbound => e.level = .error ∧ e.fields = []

lemma closing_closes (pc : UInt32) (x : Except LoopFailure Statistics) :
    (closing pc x).Closes x := by
  rcases x with (_ | _) | st <;> exact ⟨rfl, rfl⟩

end LogEvent

lemma UInt64.mod_eq_zero_iff (a b : UInt64) : a % b = 0 ↔ b.toNat ∣ a.toNat := by
  rw [← UInt64.toNat_inj, UInt64.toNat_mod, UInt64.toNat_zero, Nat.dvd_iff_mod_eq_zero]

namespace Interpreter

variable (i : Interpreter β)

/-- What is reported of an event that completes instruction number `count`, or behind which `count`
have been completed. -/
def report (count : Nat) : LoopEvent β → List LogEvent
  | .instruction _ opcode m =>
    let count := Saturating.word64 count
    if i.milestoneInterval ≠ 0 ∧ i.milestoneInterval.toNat ∣ count.toNat then
      [.milestone count (i.charged opcode m).processor.pc]
    else []
  | .exception _ e m =>
    let p := (i.isa.enterException e m.processor).charge i.exceptionDrainCycles
    [.exceptionEntered e p.cycleCounter p.pc]
  | .rollover _ => []

def commentary : (count : Nat) → List (LoopEvent β) → List LogEvent
  | _, [] => []
  | count, e :: es =>
    i.report (count + instructions [e]) e ++ commentary (count + instructions [e]) es

lemma commentary_append (count : Nat) (es fs : List (LoopEvent β)) :
    i.commentary count (es ++ fs) =
      i.commentary count es ++ i.commentary (count + instructions es) fs := by
  induction es generalizing count with
  | nil => rfl
  | cons e es ih =>
    have hcount : instructions (e :: es) = instructions [e] + instructions es :=
      instructions_append [e] es
    rw [List.cons_append, commentary, commentary, ih, hcount, List.append_assoc, Nat.add_assoc]

variable {i} {s t : LoopState β} {es : List (LoopEvent β)} {r : Except Fatal Unit} {count : Nat}

lemma log_completed (h : s.stats.instructions = Saturating.word64 count) (addr : UInt32)
    (opcode : UInt16) (m : Machine β) : (i.completed s opcode m).log.toList =
      s.log.toList ++ i.commentary count [.instruction addr opcode m] := by
  have hcount : s.stats.recordInstruction.instructions = Saturating.word64 (count + 1) := by
    rw [Statistics.recordInstruction, h, Statistics.word64_toNat_add]
  have hone : i.commentary count [.instruction addr opcode m] =
      i.report (count + 1) (.instruction addr opcode m) := List.append_nil _
  rw [completed, complete, hone, report]
  simp only [hcount, UInt64.mod_eq_zero_iff]
  split
  · exact Array.toList_push
  · exact (List.append_nil _).symm

lemma log_handled (addr : UInt32) (e : Exception) (m : Machine β) :
    (i.handled s e m).log.toList = s.log.toList ++ i.commentary count [.exception addr e m] :=
  Array.toList_appendList

lemma counted_of_stats (hs : s.stats.instructions = Saturating.word64 count)
    (ht : t.stats = (es.map LoopEvent.kind).foldl Statistics.record s.stats) :
    t.stats.instructions = Saturating.word64 (count + instructions es) := by
  rw [ht, Statistics.instructions_foldl_record, hs, Statistics.word64_toNat_add, instructions]

variable [Bus β]

-- Nothing is reported of a rollover, so that the instruction before it has all there is.
lemma Advance.log (h : i.Advance s es t) (hs : s.stats.instructions = Saturating.word64 count) :
    t.log.toList = s.log.toList ++ i.commentary count es := by
  cases h with
  | instruction => exact log_completed hs _ _ _
  | rollover => exact log_completed hs _ _ _
  | exception => exact log_handled _ _ _

lemma Ending.log (h : i.Ending s es r t) (hs : s.stats.instructions = Saturating.word64 count) :
    t.log.toList = s.log.toList ++ i.commentary count es := by
  cases h with
  | rollover => exact log_completed hs _ _ _
  | failed => exact log_completed hs _ _ _
  | exception => exact log_handled _ _ _
  | fatal => exact (List.append_nil _).symm

lemma Trace.log (h : i.Trace s es t) (hs : s.stats.instructions = Saturating.word64 count) :
    t.log.toList = s.log.toList ++ i.commentary count es := by
  induction h generalizing count with
  | nil => exact (List.append_nil _).symm
  | cons first _ ih =>
    rw [ih (counted_of_stats hs first.stats), first.log hs, commentary_append, List.append_assoc]

lemma log_of_enterLoop {limit : Nat} {m : Machine β} (h : i.enterLoop limit m = some (r, t)) :
    t.log.toList = i.commentary 0 (i.history limit m) := by
  have hzero : ({ machine := m } : LoopState β).stats.instructions = Saturating.word64 0 := rfl
  rcases enterLoop_cases h with ⟨-, rfl, hist⟩ | ⟨past, u, last, trace, ending, hist⟩
  · rw [hist]
    rfl
  · rw [hist, ending.log (counted_of_stats hzero trace.stats), trace.log hzero, commentary_append,
      List.append_assoc]
    rfl

lemma announces_iff (n : Nat) : announces (Saturating.word64 (n + 1)) = true ↔
    n < 5 ∨ 10 ∣ (Saturating.word64 (n + 1)).toNat := by
  have hfirst : Saturating.word64 (n + 1) ≤ 5 ↔ n < 5 := by
    have hfive : (5 : UInt64).toNat = 5 := rfl
    rw [UInt64.le_iff_toNat_le, Saturating.toNat_word64, hfive, UInt64.size]
    omega
  rw [announces, Bool.or_eq_true, decide_eq_true_iff, beq_iff_eq, UInt64.mod_eq_zero_iff, hfirst]
  rfl

variable {limit : Nat} {m n : Machine β} {x : Except LoopFailure Statistics} {j : Interpreter β}
  {log : List LogEvent}

lemma exists_of_run (ready : i.isBound = true) (h : i.run limit m = some ⟨(x, n, j), log⟩) :
    let number := Saturating.word64 (i.loopEntries.toNat + 1)
    ∃ r t, i.enterLoop limit m = some (r, t) ∧ x = reply r t.stats ∧
      j = { i with loopEntries := number } ∧
      log = (if announces number then
          [.runEntered number m.processor.cycleCounter m.processor.pc] else []) ++
        t.log.toList ++ [.closing n.processor.pc x] := by
  rw [run, if_pos ready] at h
  obtain ⟨⟨r, t⟩, hloop, hx⟩ := Option.map_eq_some_iff.mp h
  rw [enterLoop_entries] at hloop
  rcases r with cause | _ <;> cases hx <;> exact ⟨_, t, hloop, rfl, rfl, rfl⟩

lemma run_of_unbound (unbound : i.isBound = false) :
    i.run limit m = some ⟨(.error .unbound, m, i), [.runUnbound]⟩ := by
  rw [run, if_neg (Bool.eq_false_iff.mp unbound)]

-- Binding the backend and counting a bound run is all that a call changes in it.
lemma serve_hook {hook : Hook β} (served : hook.serve limit i = some j) :
    j = { i with
      binding := j.binding
      loopEntries := if i.isBound && hook.isRun then Saturating.word64 (i.loopEntries.toNat + 1)
        else i.loopEntries } ∧
    j.isBound = (i.isBound || hook.isBind) := by
  cases hook with
  | bindTo p arena =>
    cases served
    simp only [Hook.isRun, Bool.and_false, Hook.isBind, Bool.or_true]
    exact ⟨rfl, rfl⟩
  | run m =>
    obtain ⟨⟨⟨x, n, j⟩, log⟩, hrun, rfl⟩ := Option.map_eq_some_iff.mp served
    simp only [Hook.isBind, Bool.or_false]
    cases hb : i.isBound with
    | true =>
      obtain ⟨-, -, -, -, rfl, -⟩ := exists_of_run hb hrun
      exact ⟨rfl, hb⟩
    | false =>
      cases (run_of_unbound hb).symm.trans hrun
      exact ⟨rfl, hb⟩
  | _ =>
    cases served
    simp only [Hook.isRun, Bool.and_false, Hook.isBind, Bool.or_false]
    exact ⟨rfl, rfl⟩

variable {isa : InstructionSet β} {c : Configuration} {hooks : List (Hook β)}

lemma of_serveAll (served : Hook.serveAll limit (create isa c) hooks = some i) :
    i = { create isa c with
      binding := i.binding
      loopEntries := Saturating.word64 (Hook.boundRuns hooks) } ∧
    i.isBound = hooks.any Hook.isBind := by
  induction hooks using List.reverseRecOn generalizing i with
  | nil =>
    cases served
    exact ⟨rfl, rfl⟩
  | append_singleton hooks hook ih =>
    obtain ⟨k, _, before, last, rest⟩ := exists_of_foldlM_append_cons served
    cases rest
    obtain ⟨hk, kbound⟩ := ih before
    obtain ⟨hi, ibound⟩ := serve_hook last
    have hentries : k.loopEntries = Saturating.word64 (Hook.boundRuns hooks) :=
      congrArg loopEntries hk
    constructor
    · rw [hi, Hook.boundRuns_snoc, ← kbound, hentries, Statistics.word64_toNat_add]
      cases k.isBound && hook.isRun <;> rw [hk] <;> rfl
    · rw [ibound, kbound, List.any_append, List.any_cons, List.any_nil, Bool.or_false]

/-- A bound run of a backend that has served any calls tells its events in their order: the entry,
if the run is one of the first five that were bound or its number is a multiple of ten, then the
milestones and the exceptions as they come, and the end, with the statistics that it returns. A run
without a binding tells that alone, and is not counted. -/
theorem log_replays_run {earlier : Nat}
    (served : Hook.serveAll earlier (create isa c) hooks = some i)
    (returned : i.run limit m = some ⟨(x, n, j), log⟩) :
    let number := Saturating.word64 (Hook.boundRuns hooks + 1)
    let es := i.history limit m
    let exit := LogEvent.closing n.processor.pc x
    i = { create isa c with
      binding := i.binding
      loopEntries := Saturating.word64 (Hook.boundRuns hooks) } ∧
    exit.Closes x ∧
    (hooks.any Hook.isBind = true →
      log = (if Hook.boundRuns hooks < 5 ∨ 10 ∣ number.toNat then
          [.runEntered number m.processor.cycleCounter m.processor.pc] else []) ++
        i.commentary 0 es ++ [exit] ∧
      (∃ r, x = reply r (.ofKinds (es.map LoopEvent.kind))) ∧
      j = { i with loopEntries := number }) ∧
    (hooks.any Hook.isBind = false → log = [exit] ∧ x = .error .unbound ∧ n = m ∧ j = i) := by
  intro number es exit
  obtain ⟨hi, ibound⟩ := of_serveAll served
  refine ⟨hi, LogEvent.closing_closes n.processor.pc x, ?_, ?_⟩
  · intro bound
    obtain ⟨r, t, hloop, hx, hj, hlog⟩ := exists_of_run (ibound.trans bound) returned
    have hentries : i.loopEntries = Saturating.word64 (Hook.boundRuns hooks) :=
      congrArg loopEntries hi
    rw [hentries, Statistics.word64_toNat_add] at hj hlog
    rw [log_of_enterLoop hloop] at hlog
    simp only [announces_iff] at hlog
    exact ⟨hlog, ⟨r, stats_of_enterLoop hloop ▸ hx⟩, hj⟩
  · intro unbound
    cases (run_of_unbound (ibound.trans unbound)).symm.trans returned
    exact ⟨rfl, rfl, rfl, rfl⟩

-- Both milestones fall on a rollover, and the exception lies between them.
theorem log_replays_run_countdown :
    let hooks : List (Hook Countdown) := [.run (Countdown.start 1 1),
      .bindTo {} (({} : CodeArena.Supply).create 8).1, .run (Countdown.start 1 1), .onArenaReset]
    ∃ i : Interpreter Countdown, ∃ n j st log,
      Hook.serveAll 5 (create counting { timesliceCycles := 2, milestoneInterval := 2 }) hooks =
        some i ∧
      hooks.any Hook.isBind = true ∧ Hook.boundRuns hooks = 1 ∧
      i.run 5 (Countdown.start 2 3) = some ⟨(.ok st, n, j), log⟩ ∧
      log = [.runEntered 2 2 0, .milestone 2 4, .exceptionEntered ⟨4, .tlbMissRead⟩ (-3) 6,
        .milestone 4 10, .runHalted st 10] := by
  intro hooks
  have served : Hook.serveAll 5
      (create counting { timesliceCycles := 2, milestoneInterval := 2 } : Interpreter Countdown)
      hooks = some (bound counting { timesliceCycles := 2, milestoneInterval := 2 } 1 1) := rfl
  have returned : (bound counting { timesliceCycles := 2, milestoneInterval := 2 } 1 1).run 5
      (Countdown.start 2 3) = some ⟨(.ok _, _, _), _⟩ := rfl
  obtain ⟨-, -, hlog, -⟩ := log_replays_run served returned
  exact ⟨_, _, _, _, _, served, rfl, rfl, returned, (hlog rfl).1.trans rfl⟩

end Interpreter

end Recompiler
