import Mathlib.Data.List.Induction
import Recompiler.Proofs.Loop.Trace

/-! What a run returns. Its statistics count the events of the run, and the statistics of two runs
add up where one goes on from the other. -/

namespace Recompiler

variable {β : Type}

namespace LoopEvent

inductive Kind where
  | instruction
  | exception (e : Exception)
  | rollover
  deriving DecidableEq

def kind : LoopEvent β → Kind
  | .instruction _ _ _ => .instruction
  | .exception _ e _ => .exception e
  | .rollover _ => .rollover

def Kind.isException : Kind → Bool
  | .exception _ => true
  | _ => false

def Kind.exception? : Kind → Option Exception
  | .exception e => some e
  | _ => none

end LoopEvent

def instructions (es : List (LoopEvent β)) : Nat := (es.map LoopEvent.kind).count .instruction

def rollovers (es : List (LoopEvent β)) : Nat := (es.map LoopEvent.kind).count .rollover

lemma instructions_append (es fs : List (LoopEvent β)) :
    instructions (es ++ fs) = instructions es + instructions fs := by
  simp [instructions]

lemma rollovers_append (es fs : List (LoopEvent β)) :
    rollovers (es ++ fs) = rollovers es + rollovers fs := by
  simp [rollovers]

lemma attempts_eq_counts (es : List (LoopEvent β)) : attempts es =
    (es.map LoopEvent.kind).count .instruction +
      (es.map LoopEvent.kind).countP LoopEvent.Kind.isException := by
  induction es with
  | nil => rfl
  | cons e es ih =>
    rw [attempts] at ih ⊢
    rw [List.map_cons, List.countP_cons, List.count_cons, List.countP_cons, ih]
    cases e <;> simp [LoopEvent.isAttempt, LoopEvent.kind, LoopEvent.Kind.isException] <;> omega

namespace Statistics

def record (s : Statistics) : LoopEvent.Kind → Statistics
  | .instruction => s.recordInstruction
  | .exception e => s.recordException e
  | .rollover => s.recordTimeslice

def ofKinds (ks : List LoopEvent.Kind) : Statistics := ks.foldl record {}

def append (s t : Statistics) : Statistics where
  instructions := Saturating.word64 (s.instructions.toNat + t.instructions.toNat)
  timeslices := Saturating.word64 (s.timeslices.toNat + t.timeslices.toNat)
  exceptions := Saturating.word64 (s.exceptions.toNat + t.exceptions.toNat)
  lastException := t.lastException <|> s.lastException

lemma word64_toNat (w : UInt64) : Saturating.word64 w.toNat = w := by
  apply UInt64.toNat_inj.mp
  have hw := w.toNat_lt_size
  rw [Saturating.toNat_word64]
  omega

lemma word64_toNat_add (a b : Nat) :
    Saturating.word64 ((Saturating.word64 a).toNat + b) = Saturating.word64 (a + b) := by
  apply UInt64.toNat_inj.mp
  simp only [Saturating.toNat_word64]
  omega

lemma word64_add_word64 (a b c : Nat) :
    Saturating.word64 ((Saturating.word64 (a + b)).toNat + c) =
      Saturating.word64 (a + (Saturating.word64 (b + c)).toNat) := by
  apply UInt64.toNat_inj.mp
  simp only [Saturating.toNat_word64]
  omega

lemma append_empty (s : Statistics) : s.append {} = s := by
  cases s
  simp [append, word64_toNat]

lemma empty_append (s : Statistics) : ({} : Statistics).append s = s := by
  cases s
  simp [append, word64_toNat]

lemma append_record (s t : Statistics) (k : LoopEvent.Kind) :
    s.append (t.record k) = (s.append t).record k := by
  cases k <;>
    simp [append, record, recordInstruction, recordException, recordTimeslice, word64_add_word64]

lemma counter_foldl_record {f : Statistics → UInt64} {p : LoopEvent.Kind → Bool}
    (h : ∀ s k, f (s.record k) = Saturating.word64 ((f s).toNat + if p k then 1 else 0))
    (s : Statistics) (ks : List LoopEvent.Kind) :
    f (ks.foldl record s) = Saturating.word64 ((f s).toNat + ks.countP p) := by
  induction ks generalizing s with
  | nil => exact (word64_toNat _).symm
  | cons k ks ih =>
    apply UInt64.toNat_inj.mp
    rw [List.foldl_cons, ih, h, List.countP_cons]
    simp only [Saturating.toNat_word64]
    omega

lemma instructions_foldl_record (s : Statistics) (ks : List LoopEvent.Kind) :
    (ks.foldl record s).instructions =
      Saturating.word64 (s.instructions.toNat + ks.count .instruction) :=
  counter_foldl_record (f := instructions) (p := (· == .instruction))
    (fun s k => by cases k <;> simp [record, recordInstruction, recordException, recordTimeslice,
      word64_toNat]) s ks

lemma instructions_ofKinds (ks : List LoopEvent.Kind) :
    (ofKinds ks).instructions = Saturating.word64 (ks.count .instruction) := by
  have h := instructions_foldl_record {} ks
  rwa [UInt64.toNat_zero, Nat.zero_add] at h

lemma exceptions_ofKinds (ks : List LoopEvent.Kind) :
    (ofKinds ks).exceptions = Saturating.word64 (ks.countP LoopEvent.Kind.isException) := by
  have h := counter_foldl_record (f := exceptions) (p := LoopEvent.Kind.isException)
    (fun s k => by cases k <;> simp [record, recordInstruction, recordException, recordTimeslice,
      word64_toNat, LoopEvent.Kind.isException]) {} ks
  rwa [UInt64.toNat_zero, Nat.zero_add] at h

lemma timeslices_ofKinds (ks : List LoopEvent.Kind) :
    (ofKinds ks).timeslices = Saturating.word64 (ks.count .rollover) := by
  have h := counter_foldl_record (f := timeslices) (p := (· == .rollover))
    (fun s k => by cases k <;> simp [record, recordInstruction, recordException, recordTimeslice,
      word64_toNat]) {} ks
  rwa [UInt64.toNat_zero, Nat.zero_add] at h

lemma lastException_ofKinds (ks : List LoopEvent.Kind) :
    (ofKinds ks).lastException = (ks.filterMap LoopEvent.Kind.exception?).getLast? := by
  induction ks using List.reverseRecOn with
  | nil => rfl
  | append_singleton ks k ih =>
    rw [ofKinds, List.foldl_append, List.foldl_cons, List.foldl_nil, ← ofKinds,
      List.filterMap_append, List.getLast?_append]
    cases k with
    | instruction => exact ih
    | exception e => rfl
    | rollover => exact ih

end Statistics

namespace Interpreter

def bound (isa : InstructionSet β) (c : Configuration) (arena entries : UInt64) : Interpreter β :=
  { create isa c with binding := some arena, loopEntries := entries }

def outcome : Except Fatal Unit × LoopState β → Except LoopFailure Statistics × Machine β
  | (.ok (), s) => (.ok s.stats, s.machine)
  | (.error cause, s) => (.error (.aborted cause s.stats),
      { s.machine with processor := { s.machine.processor with running := false } })

def answer (r : Logged (Except LoopFailure Statistics × Machine β × Interpreter β)) :
    Except LoopFailure Statistics × Machine β :=
  (r.value.1, r.value.2.1)

variable [Bus β] {i : Interpreter β} {s t : LoopState β} {es : List (LoopEvent β)}
  {r : Except Fatal Unit} {limit : Nat}

lemma Advance.stats (h : i.Advance s es t) :
    t.stats = (es.map LoopEvent.kind).foldl Statistics.record s.stats := by
  cases h <;> rfl

lemma Ending.stats (h : i.Ending s es r t) :
    t.stats = (es.map LoopEvent.kind).foldl Statistics.record s.stats := by
  cases h <;> rfl

lemma Trace.stats (h : i.Trace s es t) :
    t.stats = (es.map LoopEvent.kind).foldl Statistics.record s.stats := by
  induction h with
  | nil => rfl
  | cons first _ ih => rw [ih, first.stats, List.map_append, List.foldl_append]

lemma dispatch_entries (i : Interpreter β) (n : UInt64) (limit : Nat) (s : LoopState β) :
    ({ i with loopEntries := n } : Interpreter β).dispatch limit s = i.dispatch limit s := by
  induction limit generalizing s with
  | zero => rfl
  | succ limit ih =>
    have ha : ({ i with loopEntries := n } : Interpreter β).attempt s = i.attempt s := rfl
    rw [dispatch_succ, dispatch_succ, ha]
    cases (i.attempt s).next? with
    | some t => exact ih t
    | none => rfl

lemma enterLoop_entries (i : Interpreter β) (n : UInt64) (limit : Nat) (m : Machine β) :
    ({ i with loopEntries := n } : Interpreter β).enterLoop limit m = i.enterLoop limit m := by
  rw [enterLoop, enterLoop, dispatch_entries]

theorem run_eq (hb : i.isBound = true) (limit : Nat) (m : Machine β) :
    (i.run limit m).map answer = (i.enterLoop limit m).map outcome := by
  rw [run, if_pos hb]
  simp only [enterLoop_entries, Option.map_map]
  congr 1
  funext x
  rcases x with ⟨_ | _, s⟩ <;> rfl

lemma exists_loop_of_run (hb : i.isBound = true) {m n : Machine β} {j : Interpreter β}
    {x : Except LoopFailure Statistics} {log : List LogEvent}
    (h : i.run limit m = some ⟨(x, n, j), log⟩) :
    ∃ r t, i.enterLoop limit m = some (r, t) ∧ outcome (r, t) = (x, n) := by
  have hr := run_eq hb limit m
  rw [h] at hr
  obtain ⟨⟨r, t⟩, hl, ho⟩ := Option.map_eq_some_iff.mp hr.symm
  exact ⟨r, t, hl, ho⟩

lemma enterLoop_cases {m : Machine β} (h : i.enterLoop limit m = some (r, t)) :
    (r = .ok () ∧ t = { machine := m } ∧ i.history limit m = []) ∨
      ∃ past u last, i.Trace { machine := m } past u ∧ i.Ending u last r t ∧
        i.history limit m = past ++ last := by
  rw [enterLoop] at h
  rw [history]
  split at h
  · rename_i hrun
    rw [if_pos hrun]
    exact Or.inr (exists_trace_of_dispatch h)
  · rename_i hrun
    rw [if_neg hrun]
    cases h
    exact Or.inl ⟨rfl, rfl, rfl⟩

lemma stats_of_enterLoop {m : Machine β} (h : i.enterLoop limit m = some (r, t)) :
    t.stats = .ofKinds ((i.history limit m).map LoopEvent.kind) := by
  rcases enterLoop_cases h with ⟨-, rfl, hist⟩ | ⟨before, u, last, htrace, hend, hist⟩
  · rw [hist]
    rfl
  · rw [hist, List.map_append, Statistics.ofKinds, List.foldl_append, hend.stats, htrace.stats]

lemma stats_of_run (hb : i.isBound = true) {m n : Machine β} {j : Interpreter β} {st : Statistics}
    {log : List LogEvent} (h : i.run limit m = some ⟨(.ok st, n, j), log⟩) :
    st = .ofKinds ((i.history limit m).map LoopEvent.kind) := by
  obtain ⟨r, t, hloop, hout⟩ := exists_loop_of_run hb h
  have hst : st = t.stats := by
    rcases r with cause | _ <;> cases hout
    rfl
  rw [hst, stats_of_enterLoop hloop]

end Interpreter

end Recompiler
