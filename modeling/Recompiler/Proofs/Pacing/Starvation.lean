import Recompiler.Proofs.Pacing.Counter

/-! How long the system can go without an update. Once the counter is used up the next completed
instruction brings a rollover, but an exception does not: the budget is tested behind an instruction
only, so a guest that raises one exception after the other keeps the system from its update. -/

namespace Recompiler

variable {β : Type}

structure Unmapped where
  deriving DecidableEq

instance : Bus Unmapped where
  readOpcode bus addr := (.error (.raise addr .illegalInstruction), bus)
  updateSystem bus p := (.ok (), p, bus)

lemma LoopEvent.isAttempt_of_isException {e : LoopEvent β} (h : e.kind.isException) :
    e.isAttempt := by
  cases e with
  | instruction _ _ _ => cases h
  | exception _ _ _ => rfl
  | rollover _ => cases h

lemma attempts_eq_length {es : List (LoopEvent β)} (calm : ∀ e ∈ es, e.isAttempt) :
    attempts es = es.length :=
  List.countP_eq_length.mpr calm

namespace Interpreter

variable [Bus β] (i : Interpreter β)

/-- The loop makes `n` attempts from `s` and goes on at `t`, without an update of the system. -/
def Withholds (n : Nat) (s t : LoopState β) : Prop :=
  ∃ es, i.Trace s es t ∧ es.length = n ∧ ∀ e ∈ es, e.isAttempt

def Starves (n : Nat) (s : LoopState β) : Prop := ∃ t, i.Withholds n s t

/-- The next `n` attempts from `s` all raise exceptions that leave the guest running. -/
def Storms (n : Nat) (s : LoopState β) : Prop :=
  ∃ es t, i.Trace s es t ∧ es.length = n ∧ ∀ e ∈ es, e.kind.isException

variable {i} {s t u : LoopState β} {es fs : List (LoopEvent β)}

lemma Advance.calm_or_rollover (h : i.Advance s es t) :
    (∃ e, es = [e] ∧ e.isAttempt) ∨ ∃ m, .rollover m ∈ es := by
  cases h with
  | instruction _ _ => exact Or.inl ⟨_, rfl, rfl⟩
  | rollover _ _ _ _ => exact Or.inr ⟨_, List.mem_cons_of_mem _ List.mem_cons_self⟩
  | exception _ _ => exact Or.inl ⟨_, rfl, rfl⟩

lemma Advance.exists_eq_singleton (h : i.Advance s es t) (calm : ∀ e ∈ es, e.isAttempt) :
    ∃ e, es = [e] := by
  rcases h.calm_or_rollover with ⟨e, he, _⟩ | ⟨m, hm⟩
  · exact ⟨e, he⟩
  · cases calm _ hm

lemma Advance.counter_le (kept : i.isa.KeepsCounter) (h : i.Advance s es t)
    (calm : ∀ e ∈ es, e.isAttempt) :
    t.machine.counter ≤ max (s.machine.counter - 1) 0 := by
  have hmin : Int32.minValue.toInt ≤ 0 := by decide
  have hd := i.drain_pos
  cases h with
  | @instruction opcode m done _ =>
    have hc := i.cost_pos opcode
    rw [machine_completed, counter_charged, counter_of_done kept done]
    omega
  | rollover _ _ _ _ => simp [LoopEvent.isAttempt] at calm
  | exception raised _ =>
    rw [counter_handled kept, counter_of_fault kept raised]
    omega

lemma Advance.isException (kept : i.isa.KeepsCounter) (h : i.Advance s es t)
    (calm : ∀ e ∈ es, e.isAttempt) (last : s.machine.counter ≤ 1) :
    ∀ e ∈ es, e.kind.isException := by
  have ht := h.counter_le kept calm
  cases h with
  | instruction done left =>
    have hleft := Int32.lt_iff_toInt_lt.mp left
    rw [Int32.toInt_zero] at hleft
    rw [machine_completed, Machine.counter] at ht
    omega
  | rollover _ _ _ _ => simp [LoopEvent.isAttempt] at calm
  | exception _ _ => simp [LoopEvent.kind, LoopEvent.Kind.isException]

lemma Trace.isException (kept : i.isa.KeepsCounter) (h : i.Trace s es t)
    (calm : ∀ e ∈ es, e.isAttempt) {n : Nat} (budget : s.machine.counter ≤ n + 1) :
    ∀ e ∈ es.drop n, e.kind.isException := by
  induction h generalizing n with
  | nil => simp
  | @cons s t u first rest ha htrace ih =>
    obtain ⟨hfirst, hrest⟩ := List.forall_mem_append.mp calm
    obtain ⟨e, rfl⟩ := ha.exists_eq_singleton hfirst
    have ht := ha.counter_le kept hfirst
    cases n with
    | zero =>
      -- At the last cycle the counter stays there, so every attempt from here on is an exception.
      rw [List.drop_zero]
      refine List.forall_mem_append.mpr ⟨ha.isException kept hfirst (by omega), ?_⟩
      exact ih (n := 0) hrest (by omega)
    | succ n => exact ih (n := n) hrest (by omega)

lemma Trace.split (h : i.Trace s (es ++ fs) t) (calm : ∀ e ∈ es ++ fs, e.isAttempt) :
    ∃ u, i.Trace s es u ∧ i.Trace u fs t := by
  induction es generalizing s with
  | nil => exact ⟨s, .nil s, h⟩
  | cons e es ih =>
    generalize hall : e :: es ++ fs = all at h calm
    cases h with
    | nil => cases hall
    | cons ha htrace =>
      obtain ⟨hfirst, hrest⟩ := List.forall_mem_append.mp calm
      obtain ⟨e', rfl⟩ := ha.exists_eq_singleton hfirst
      cases hall
      obtain ⟨u, hes, hfs⟩ := ih htrace hrest
      exact ⟨u, .cons ha hes, hfs⟩

lemma Trace.unique (h : i.Trace s es t) (h' : i.Trace s fs u) (hn : attempts es = attempts fs) :
    es = fs ∧ t = u := by
  have hpos {first rest : List (LoopEvent β)} {s t : LoopState β} (ha : i.Advance s first t) :
      0 < attempts (first ++ rest) := by
    rw [attempts_append, ha.attempts]
    omega
  induction h generalizing fs with
  | nil =>
    cases h' with
    | nil => exact ⟨rfl, rfl⟩
    | cons ha _ => exact absurd hn (Nat.ne_of_lt (hpos ha))
  | cons ha _ ih =>
    cases h' with
    | nil => exact absurd hn.symm (Nat.ne_of_lt (hpos ha))
    | cons ha' htrace' =>
      obtain rfl := Option.some.inj (ha.next?.symm.trans ha'.next?)
      obtain rfl := ha.events.symm.trans ha'.events
      rw [attempts_append, attempts_append] at hn
      obtain ⟨rfl, rfl⟩ := ih htrace' (Nat.add_left_cancel hn)
      exact ⟨rfl, rfl⟩

lemma update_or_return_of_not_starves {n : Nat} (h : ¬ i.Starves n s) :
    (∃ m, .rollover m ∈ i.historyFrom n s) ∨ (i.dispatch n s).isSome ∨
      ∃ es t, i.Trace s es t ∧ i.isa.instruction t.machine = .unfinished := by
  induction n generalizing s with
  | zero => exact absurd ⟨s, [], .nil s, rfl, by simp⟩ h
  | succ n ih =>
    rcases i.attempt_cases s with ⟨es, t, ha⟩ | ⟨es, r, t, he⟩ | hu
    · rw [ha.dispatch, ha.history]
      rcases ha.calm_or_rollover with ⟨e, rfl, he⟩ | ⟨m, hm⟩
      · have ht : ¬ i.Starves n t := by
          rintro ⟨u, fs, htrace, hlen, hfs⟩
          exact h ⟨u, _, .cons ha htrace, by simp [hlen], by simpa [he] using hfs⟩
        rcases ih ht with ⟨m, hm⟩ | hd | ⟨fs, u, htrace, hu⟩
        · exact Or.inl ⟨m, List.mem_append_right _ hm⟩
        · exact Or.inr (Or.inl hd)
        · exact Or.inr (Or.inr ⟨_, u, .cons ha htrace, hu⟩)
      · exact Or.inl ⟨m, List.mem_append_left _ hm⟩
    · rw [he.dispatch]
      exact Or.inr (Or.inl rfl)
    · exact Or.inr (Or.inr ⟨[], s, .nil s, hu⟩)

lemma Withholds.unique {n : Nat} (h : i.Withholds n s t) (h' : i.Withholds n s u) : t = u := by
  obtain ⟨es, htrace, hlen, calm⟩ := h
  obtain ⟨fs, htrace', hlen', calm'⟩ := h'
  refine (htrace.unique htrace' ?_).2
  rw [attempts_eq_length calm, attempts_eq_length calm', hlen, hlen']

lemma Starves.mono {k n : Nat} (h : i.Starves n s) (hk : k ≤ n) : i.Starves k s := by
  obtain ⟨u, es, htrace, hlen, calm⟩ := h
  rw [← List.take_append_drop k es] at htrace calm
  obtain ⟨t, hpast, -⟩ := htrace.split calm
  refine ⟨t, _, hpast, ?_, (List.forall_mem_append.mp calm).1⟩
  rw [List.length_take]
  omega

lemma starves_add_iff (kept : i.isa.KeepsCounter) {b : Nat} (budget : s.machine.counter ≤ b + 1)
    (n : Nat) : i.Starves (b + n) s ↔ ∃ t, i.Withholds b s t ∧ i.Storms n t := by
  constructor
  · rintro ⟨u, es, htrace, hlen, calm⟩
    have hstorm := htrace.isException kept calm budget
    rw [← List.take_append_drop b es] at htrace calm
    obtain ⟨t, hpast, hrest⟩ := htrace.split calm
    refine ⟨t, ⟨_, hpast, ?_, (List.forall_mem_append.mp calm).1⟩, _, u, hrest, ?_, hstorm⟩
    · rw [List.length_take]
      omega
    · rw [List.length_drop]
      omega
  · rintro ⟨t, ⟨es, hpast, hlen, calm⟩, fs, u, hrest, hlen', hstorm⟩
    refine ⟨u, es ++ fs, hpast.append hrest, by rw [List.length_append, hlen, hlen'], ?_⟩
    exact List.forall_mem_append.mpr
      ⟨calm, fun e he => LoopEvent.isAttempt_of_isException (hstorm e he)⟩

lemma Storms.starves {n : Nat} (h : i.Storms n s) : i.Starves n s := by
  obtain ⟨es, t, htrace, hlen, hstorm⟩ := h
  exact ⟨t, es, htrace, hlen, fun e he => LoopEvent.isAttempt_of_isException (hstorm e he)⟩

theorem storms_of_unmapped (i : Interpreter β)
    (unmapped : ∀ (bus : β) addr, ∃ e b, Bus.readOpcode bus addr = (.error (.exception e), b))
    (entry : ∀ e p, (i.isa.enterException e p).running = p.running)
    (s : LoopState β) (running : s.isRunning = true) (n : Nat) : i.Storms n s := by
  induction n generalizing s with
  | zero => exact ⟨[], s, .nil s, rfl, by simp⟩
  | succ n ih =>
    obtain ⟨e, bus, hread⟩ := unmapped s.machine.bus s.machine.processor.pc
    have hraised : i.isa.instruction s.machine = .fault (.exception e) { s.machine with bus } :=
      InstructionSet.instruction_of_error hread
    have hrun : (i.handled s e { s.machine with bus }).isRunning = true := by
      rw [LoopState.isRunning, machine_handled]
      exact (entry e s.machine.processor).trans running
    obtain ⟨es, t, htrace, hlen, hstorm⟩ := ih _ hrun
    exact ⟨_, t, .cons (.exception hraised hrun) htrace, by simp [hlen],
      by simpa [LoopEvent.kind, LoopEvent.Kind.isException] using hstorm⟩

/-- Where nothing else writes the cycle counter, `b` attempts without an update bring it down to the
last cycle, and only exceptions one after the other keep the system without an update from there on.
The update can be late by any number of attempts, and it never comes where the exceptions never
stop. -/
theorem starves_iff_storms (i : Interpreter β) (kept : i.isa.KeepsCounter) (s : LoopState β) :
    let b := s.machine.counter.toNat - 1
    (∀ n, i.Starves (b + n) s ↔ ∃ t, i.Withholds b s t ∧ i.Storms n t) ∧
    ((∀ n, i.Starves n s) ↔ ∃ t, i.Withholds b s t ∧ ∀ n, i.Storms n t) ∧
    ∀ n, ¬ i.Starves n s → (∃ m, .rollover m ∈ i.historyFrom n s) ∨ (i.dispatch n s).isSome ∨
      ∃ es t, i.Trace s es t ∧ i.isa.instruction t.machine = .unfinished := by
  intro b
  have hiff := fun n => starves_add_iff kept (s := s) (b := b) (by omega) n
  refine ⟨hiff, ⟨?_, ?_⟩, fun n => update_or_return_of_not_starves⟩
  · intro h
    obtain ⟨t, ht, -⟩ := (hiff 0).mp (h b)
    refine ⟨t, ht, ?_⟩
    intro n
    obtain ⟨u, hu, hstorm⟩ := (hiff n).mp (h _)
    rwa [ht.unique hu]
  · rintro ⟨t, ht, hstorm⟩ n
    exact ((hiff n).mpr ⟨t, ht, hstorm n⟩).mono (Nat.le_add_left n b)

theorem starves_iff_storms_unmapped :
    let i := bound (counting : InstructionSet Unmapped) {} 1 0
    let s : LoopState Unmapped := { machine := ⟨{ cycleCounter := 3, running := true }, {}⟩ }
    (counting : InstructionSet Unmapped).KeepsCounter ∧ s.machine.counter.toNat - 1 = 2 ∧
      (i.Starves (2 + 5) s ↔ ∃ t, i.Withholds 2 s t ∧ i.Storms 5 t) ∧ i.Starves (2 + 5) s ∧
      ∃ t, i.Withholds 2 s t ∧ ∀ n, i.Storms n t := by
  intro i s
  have kept : (counting : InstructionSet Unmapped).KeepsCounter :=
    counting_keepsCounter fun _ _ => rfl
  have starves (n : Nat) : i.Starves n s :=
    (storms_of_unmapped i (fun _ _ => ⟨_, _, rfl⟩) (fun _ _ => rfl) s rfl n).starves
  obtain ⟨late, ever, -⟩ := starves_iff_storms i kept s
  exact ⟨kept, rfl, late 5, starves _, ever.mp starves⟩

/-- No bound on the attempts up to the next update can be read off the counter and the
configuration. -/
theorem not_exists_update_bound :
    ¬ ∃ limit : Int → Configuration → Nat,
      ∀ c : Configuration, c.validate = .ok () →
        ∀ (γ : Type) [Bus γ] (isa : InstructionSet γ), isa.KeepsCounter →
          ∀ (arena entries : UInt64) (s : LoopState γ), s.isRunning = true →
            ¬ (bound isa c arena entries).Starves (limit s.machine.counter c) s := by
  rintro ⟨limit, h⟩
  let s : LoopState Unmapped := { machine := ⟨{ running := true }, {}⟩ }
  refine h {} rfl Unmapped counting (counting_keepsCounter fun _ _ => rfl) 1 0 s rfl ?_
  apply Storms.starves
  exact storms_of_unmapped _ (fun _ _ => ⟨_, _, rfl⟩) (fun _ _ => rfl) s rfl _

end Interpreter

end Recompiler
