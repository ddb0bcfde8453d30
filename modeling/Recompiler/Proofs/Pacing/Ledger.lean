import Mathlib.Algebra.Ring.Int.Defs
import Recompiler.Proofs.Loop.Record
import Recompiler.Proofs.Pacing.Counter

/-! The cycle counter against an account over the integers. The account takes the cost of every
completed instruction and one drain for every handled exception, and receives one timeslice at every
rollover. The counter exceeds it by the shortfall of the charges that went below its lowest value, and by
nothing else. -/

namespace Recompiler

variable {β : Type}

namespace Configuration

lemma pos_of_validate {c : Configuration} (h : c.validate = .ok ()) :
    0 < c.timesliceCycles.toInt ∧ 0 < c.cyclesPerInstruction.toInt ∧
      0 < c.exceptionDrainCycles.toInt := by
  simp only [validate] at h
  split at h
  · cases h
  split at h
  · cases h
  split at h
  · cases h
  rename_i ht hi hd
  exact ⟨Int32.lt_iff_toInt_lt.mp (Int32.not_le.mp ht),
    Int32.lt_iff_toInt_lt.mp (Int32.not_le.mp hi), Int32.lt_iff_toInt_lt.mp (Int32.not_le.mp hd)⟩

def price (c : Configuration) (isa : InstructionSet β) (opcode : UInt16) : Int :=
  match isa.cycleCost opcode with
  | none => c.cyclesPerInstruction.toInt
  | some cycles =>
    if cycles = 0 then c.cyclesPerInstruction.toInt else min cycles.toNat Int32.maxValue.toInt

end Configuration

namespace LoopEvent

variable (c : Configuration) (isa : InstructionSet β)

def due : LoopEvent β → Int
  | .instruction _ opcode _ => c.price isa opcode
  | .exception _ _ _ => c.exceptionDrainCycles.toInt
  | .rollover _ => 0

def granted : LoopEvent β → Int
  | .rollover _ => c.timesliceCycles.toInt
  | _ => 0

/-- The counter that the event draws on; an exception is entered before its drain is charged. -/
def balance : LoopEvent β → Int
  | .instruction _ _ m => m.counter
  | .exception _ e m => (isa.enterException e m.processor).cycleCounter.toInt
  | .rollover m => m.counter

def Clamps (e : LoopEvent β) : Prop := e.balance isa - e.due c isa < Int32.minValue.toInt

def shortfall (e : LoopEvent β) : Int :=
  max 0 (Int32.minValue.toInt - (e.balance isa - e.due c isa))

end LoopEvent

namespace Configuration

variable (c : Configuration) (isa : InstructionSet β) (start : Int)

def account (es : List (LoopEvent β)) : Int :=
  start + (es.map fun e => e.granted c - e.due c isa).sum

def shortfall (es : List (LoopEvent β)) : Int := (es.map (·.shortfall c isa)).sum

lemma account_append (es fs : List (LoopEvent β)) :
    c.account isa start (es ++ fs) = c.account isa (c.account isa start es) fs := by
  rw [account, account, account, List.map_append, List.sum_append, Int.add_assoc]

lemma shortfall_append (es fs : List (LoopEvent β)) :
    c.shortfall isa (es ++ fs) = c.shortfall isa es + c.shortfall isa fs := by
  rw [shortfall, List.map_append, List.sum_append]
  rfl

lemma shortfall_nonneg (es : List (LoopEvent β)) : 0 ≤ c.shortfall isa es := by
  induction es with
  | nil => exact Int.le_refl 0
  | cons e es ih =>
    have he : 0 ≤ e.shortfall c isa := Int.le_max_left ..
    exact Int.add_nonneg he ih

lemma shortfall_eq_zero {es : List (LoopEvent β)} (h : ∀ e ∈ es, ¬ e.Clamps c isa) :
    c.shortfall isa es = 0 := by
  induction es with
  | nil => rfl
  | cons e es ih =>
    have he : e.shortfall c isa = 0 := by
      apply Int.max_eq_left
      have hc := h e List.mem_cons_self
      rw [LoopEvent.Clamps] at hc
      omega
    have ht := ih fun e he => h e (List.mem_cons_of_mem _ he)
    rw [shortfall] at ht ⊢
    rw [List.map_cons, List.sum_cons, he, ht]
    rfl

lemma account_singleton (e : LoopEvent β) :
    c.account isa start [e] = start + (e.granted c - e.due c isa) := by
  rw [account, List.map_singleton, List.sum_singleton]

lemma shortfall_singleton (e : LoopEvent β) : c.shortfall isa [e] = e.shortfall c isa := by
  rw [shortfall, List.map_singleton, List.sum_singleton]

def Settles (start : Int) (es : List (LoopEvent β)) (stop : Int) : Prop :=
  stop = c.account isa start es + c.shortfall isa es

variable {c isa}

lemma Settles.nil (start : Int) : c.Settles isa start [] start := by
  simp only [Settles, account, shortfall, List.map_nil, List.sum_nil, Int.add_zero]

lemma Settles.append {start middle stop : Int} {es fs : List (LoopEvent β)}
    (h : c.Settles isa start es middle) (h' : c.Settles isa middle fs stop) :
    c.Settles isa start (es ++ fs) stop := by
  rw [Settles] at h h' ⊢
  rw [account_append, shortfall_append, h', h]
  simp only [account]
  omega

lemma Settles.le {start stop : Int} {es : List (LoopEvent β)} (h : c.Settles isa start es stop) :
    c.account isa start es ≤ stop := by
  have hs := shortfall_nonneg c isa es
  rw [Settles] at h
  omega

lemma Settles.eq {start stop : Int} {es : List (LoopEvent β)} (h : c.Settles isa start es stop)
    (exact : ∀ e ∈ es, ¬ e.Clamps c isa) : c.account isa start es = stop := by
  rw [Settles, shortfall_eq_zero c isa exact, Int.add_zero] at h
  exact h.symm

end Configuration

namespace Interpreter

variable {c : Configuration} {isa : InstructionSet β} {arena entries : UInt64}

lemma max_one_of_pos {x : Int32} (h : 0 < x.toInt) : max x 1 = x := by
  have hm : max x 1 = if x ≤ 1 then 1 else x := rfl
  have h₁ : (1 : Int32).toInt = 1 := rfl
  rw [hm]
  split
  · rename_i hx
    rw [Int32.le_iff_toInt_le] at hx
    exact Int32.toInt_inj.mp (by omega)
  · rfl

section

variable (valid : c.validate = .ok ())

include valid

lemma toInt_cost_bound (opcode : UInt16) :
    ((bound isa c arena entries).instructionCost opcode).toInt = c.price isa opcode := by
  have hflat : (bound isa c arena entries).cyclesPerInstruction = c.cyclesPerInstruction :=
    max_one_of_pos (Configuration.pos_of_validate valid).2.1
  rw [instructionCost, hflat, Configuration.price]
  change (match isa.cycleCost opcode with | none => _ | some cycles => _ : Int32).toInt = _
  cases isa.cycleCost opcode with
  | none => rfl
  | some cycles =>
    dsimp only
    split
    · rfl
    · rw [Int32.ofIntClamp]
      have hmin : Int32.minValue.toInt ≤ cycles.toNat := by
        have : Int32.minValue.toInt = -2147483648 := rfl
        omega
      rw [dif_pos hmin]
      split
      · rename_i hmax
        rw [Int32.toInt_ofIntLE, Int.min_eq_left hmax]
      · rw [Int.min_eq_right (by omega)]

lemma toInt_drain_bound :
    (bound isa c arena entries).exceptionDrainCycles.toInt = c.exceptionDrainCycles.toInt :=
  congrArg Int32.toInt (max_one_of_pos (Configuration.pos_of_validate valid).2.2)

variable [Bus β] (kept : isa.KeepsCounter) {s t : LoopState β} {es : List (LoopEvent β)}

include kept

lemma settles_instruction {m n : Machine β} {opcode : UInt16} (addr : UInt32)
    (h : isa.instruction m = .done opcode n) :
    c.Settles isa m.counter [.instruction addr opcode n]
      ((bound isa c arena entries).charged opcode n).counter := by
  have hn := counter_of_done (i := bound isa c arena entries) kept h
  rw [Configuration.Settles, counter_charged, toInt_cost_bound valid,
    Configuration.account_singleton, Configuration.shortfall_singleton]
  simp only [LoopEvent.shortfall, LoopEvent.granted, LoopEvent.due, LoopEvent.balance]
  omega

lemma settles_exception {m n : Machine β} {e : Exception} (addr : UInt32)
    (h : isa.instruction m = .fault (.exception e) n) (s : LoopState β) :
    c.Settles isa m.counter [.exception addr e n]
      ((bound isa c arena entries).handled s e n).machine.counter := by
  have hn := counter_of_fault (i := bound isa c arena entries) kept h
  have he : (isa.enterException e n.processor).cycleCounter.toInt = n.counter :=
    congrArg Int32.toInt (kept.enterException e n.processor)
  rw [Configuration.Settles, counter_handled kept, toInt_drain_bound valid,
    Configuration.account_singleton, Configuration.shortfall_singleton]
  simp only [LoopEvent.shortfall, LoopEvent.granted, LoopEvent.due, LoopEvent.balance]
  omega

lemma settles_rollover {m : Machine β} {p : Processor} {bus : β} {r : Except Fatal Unit}
    (used : m.processor.cycleCounter ≤ 0)
    (h : (bound isa c arena entries).update m = (r, p, bus)) :
    c.Settles isa m.counter [.rollover m] p.cycleCounter.toInt := by
  have ht := Int.le_of_lt (Configuration.pos_of_validate valid).1
  have hmin := m.processor.cycleCounter.minValue_le_toInt
  have hp : p.cycleCounter.toInt = m.counter + c.timesliceCycles.toInt :=
    counter_update (i := bound isa c arena entries) kept used ht h
  rw [Configuration.Settles, hp, Configuration.account_singleton, Configuration.shortfall_singleton]
  simp only [LoopEvent.shortfall, LoopEvent.granted, LoopEvent.due, LoopEvent.balance,
    Machine.counter]
  omega

lemma Advance.settles (h : (bound isa c arena entries).Advance s es t) :
    c.Settles isa s.machine.counter es t.machine.counter := by
  cases h with
  | instruction done _ => exact settles_instruction valid kept _ done
  | rollover done used updated _ =>
    exact (settles_instruction valid kept _ done).append (settles_rollover valid kept used updated)
  | exception raised _ => exact settles_exception valid kept _ raised s

lemma Ending.settles {r : Except Fatal Unit}
    (h : (bound isa c arena entries).Ending s es r t) :
    c.Settles isa s.machine.counter es t.machine.counter := by
  cases h with
  | rollover done used updated _ =>
    exact (settles_instruction valid kept _ done).append (settles_rollover valid kept used updated)
  | failed done used updated =>
    exact (settles_instruction valid kept _ done).append (settles_rollover valid kept used updated)
  | exception raised _ => exact settles_exception valid kept _ raised s
  | fatal raised =>
    rw [← counter_of_fault (i := bound isa c arena entries) kept raised]
    exact .nil _

lemma Trace.settles (h : (bound isa c arena entries).Trace s es t) :
    c.Settles isa s.machine.counter es t.machine.counter := by
  induction h with
  | nil s => exact .nil _
  | cons first _ ih => exact (first.settles valid kept).append ih

lemma settles_before_rollover {limit : Nat} {m n : Machine β} {past future : List (LoopEvent β)}
    (h : (bound isa c arena entries).history limit m = past ++ .rollover n :: future) :
    c.Settles isa m.counter past n.counter ∧ n.processor.cycleCounter ≤ 0 := by
  rw [history] at h
  split at h
  · obtain ⟨before, u, now, rest, htrace, hev, rfl⟩ := exists_trace_of_history h
    obtain ⟨opcode, k, hdone, rfl, hused, rfl⟩ := done_of_rollover hev
    exact ⟨(htrace.settles valid kept).append (settles_instruction valid kept _ hdone), hused⟩
  · simp at h

lemma settles_of_enterLoop {limit : Nat} {m : Machine β} {r : Except Fatal Unit}
    (h : (bound isa c arena entries).enterLoop limit m = some (r, t)) :
    c.Settles isa m.counter ((bound isa c arena entries).history limit m) t.machine.counter := by
  rcases enterLoop_cases h with ⟨-, rfl, hist⟩ | ⟨past, u, last, htrace, hend, hist⟩
  · rw [hist]
    exact .nil _
  · rw [hist]
    exact (htrace.settles valid kept).append (hend.settles valid kept)

end

variable [Bus β]

/-- Along a run of a backend with a valid configuration the counter is never below the account, and
it equals the account until a charge has to stop at the lowest value. This holds where the system is
updated, with the timeslice granted in full, and where the run returns. The updates are those that
the loop makes: each of them is recorded with what it makes of the processor that it is handed. -/
theorem cycleCounter_ledger (isa : InstructionSet β) (kept : isa.KeepsCounter) (c : Configuration)
    (valid : c.validate = .ok ()) (arena entries : UInt64) (limit : Nat) (m : Machine β) :
    let i := bound isa c arena entries
    (i.record limit m).2 = i.enterLoop limit m ∧
    kinds (i.record limit m).1 = (i.history limit m).map LoopEvent.kind ∧
    (∀ past n future, i.history limit m = past ++ .rollover n :: future →
      let handed := n.processor.replenish c.timesliceCycles
      (∃ marks r k more, (i.record limit m).1 = marks ++ .rollover r k :: more ∧
        kinds marks = past.map LoopEvent.kind ∧
        Bus.updateSystem n.bus handed = (r, k.processor, k.bus) ∧
        k.counter = handed.cycleCounter.toInt) ∧
      handed.cycleCounter.toInt = n.counter + c.timesliceCycles.toInt ∧
      c.account isa m.counter (past ++ [.rollover n]) ≤ handed.cycleCounter.toInt ∧
      ((∀ e ∈ past, ¬ e.Clamps c isa) →
        c.account isa m.counter (past ++ [.rollover n]) = handed.cycleCounter.toInt)) ∧
    (∀ x n j log, i.run limit m = some ⟨(x, n, j), log⟩ →
      let es := i.history limit m
      c.account isa m.counter es ≤ n.counter ∧
        ((∀ e ∈ es, ¬ e.Clamps c isa) → c.account isa m.counter es = n.counter)) := by
  intro i
  refine ⟨record_snd, kinds_record, ?_, ?_⟩
  · intro past n future h handed
    obtain ⟨hpast, hused⟩ := settles_before_rollover valid kept h
    have ht := Int.le_of_lt (Configuration.pos_of_validate valid).1
    have hg : handed.cycleCounter.toInt = n.counter + c.timesliceCycles.toInt :=
      Processor.toInt_replenish_of_used hused ht
    have hacc (a : Int) : c.account isa a [.rollover n] = a + c.timesliceCycles.toInt := by
      rw [Configuration.account_singleton]
      exact congrArg (a + ·) (Int.sub_zero _)
    rw [Configuration.account_append, hacc, hg]
    refine ⟨?_, rfl, Int.add_le_add_right hpast.le _, ?_⟩
    · obtain ⟨marks, mark, more, hrecord, hkinds, records⟩ := (h ▸ retells_record).exists_mark
      cases records with
      | @rollover _ k r updated =>
        have hk : k.counter = n.counter + c.timesliceCycles.toInt :=
          counter_update (i := i) kept hused ht updated
        exact ⟨marks, r, k, more, hrecord, hkinds, updated, hk⟩
    · intro exact
      rw [hpast.eq exact]
  · intro x n j log h
    obtain ⟨r, t, hloop, hout⟩ := exists_loop_of_run (i := bound isa c arena entries) rfl h
    have hs := settles_of_enterLoop valid kept hloop
    have hn : n.counter = t.machine.counter := by
      rcases r with cause | _ <;> cases hout <;> rfl
    rw [hn]
    exact ⟨hs.le, hs.eq⟩

theorem cycleCounter_ledger_countdown :
    ({} : Configuration).validate = .ok () ∧ (counting : InstructionSet Countdown).KeepsCounter ∧
      ({} : Configuration).account counting 3
        ((bound counting {} 1 0).history 4 (Countdown.start 3 1)) ≤ 443 :=
  have kept : (counting : InstructionSet Countdown).KeepsCounter :=
    counting_keepsCounter fun _ _ => rfl
  ⟨rfl, kept, ((cycleCounter_ledger counting kept {} rfl 1 0 4 (Countdown.start 3 1)).2.2.2
    _ _ _ _ rfl).1⟩

end Interpreter

end Recompiler
