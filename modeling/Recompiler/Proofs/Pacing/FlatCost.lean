import Mathlib.Data.Rat.Floor
import Mathlib.Tactic.Linarith
import Mathlib.Tactic.Ring
import Recompiler.Proofs.Pacing.Ledger

/-! Pacing where every instruction costs the same. A timeslice that is overdrawn is followed by a
shorter one, so the overdraft never adds up: the number of instructions before each update of the
system is the smallest that uses up all that has been granted. -/

namespace Recompiler

variable {β : Type}

namespace LoopEvent

/-- Not an exception, and no instruction with a cost of its own. -/
def Flat (isa : InstructionSet β) : LoopEvent β → Prop
  | .instruction _ opcode _ => isa.cycleCost opcode = none ∨ isa.cycleCost opcode = some 0
  | .exception _ _ _ => False
  | .rollover _ => True

end LoopEvent

lemma ceil_div_eq {x c : ℤ} {n : ℕ} (hc : 0 < c) (used : x - c * n ≤ 0) (owed : -c < x - c * n) :
    ⌈(x : ℚ) / c⌉ = n := by
  have hc : (0 : ℚ) < c := by exact_mod_cast hc
  have used : (x : ℚ) ≤ n * c := by
    have h : x ≤ n * c := by linarith
    exact_mod_cast h
  have owed : ((n : ℚ) - 1) * c < x := by
    have h : ((n : ℤ) - 1) * c < x := by linarith
    exact_mod_cast h
  rw [Int.ceil_eq_iff]
  constructor
  · rw [lt_div_iff₀ hc]
    exact_mod_cast owed
  · rw [div_le_iff₀ hc]
    exact_mod_cast used

namespace Interpreter

def flatBalance (i : Interpreter β) (start : Int) (ks : List LoopEvent.Kind) : Int :=
  start + ks.count .rollover * i.timesliceCycles.toInt -
    i.cyclesPerInstruction.toInt * ks.count .instruction

lemma flatBalance_append (i : Interpreter β) (start : Int) (ks ls : List LoopEvent.Kind) :
    i.flatBalance start (ks ++ ls) = i.flatBalance (i.flatBalance start ks) ls := by
  simp only [flatBalance, List.count_append]
  push_cast
  ring

lemma flatBalance_nil (i : Interpreter β) (start : Int) : i.flatBalance start [] = start := by
  simp [flatBalance]

lemma flatBalance_instruction (i : Interpreter β) (start : Int) :
    i.flatBalance start [.instruction] = start - i.cyclesPerInstruction.toInt := by
  simp [flatBalance]

lemma flatBalance_rollover (i : Interpreter β) (start : Int) :
    i.flatBalance start [.rollover] = start + i.timesliceCycles.toInt := by
  simp [flatBalance]

variable {i : Interpreter β} {s t : LoopState β} {es : List (LoopEvent β)} {m n : Machine β}
  {addr : UInt32} {opcode : UInt16}

lemma cost_of_flat (flat : (LoopEvent.instruction addr opcode m).Flat i.isa) :
    i.instructionCost opcode = i.cyclesPerInstruction := by
  rw [instructionCost]
  rcases flat with h | h <;> rw [h]
  rfl

-- A counter above zero is charged in full, since a cost is at most the largest word.
lemma counter_charged_of_pos (pos : 0 < m.counter) :
    (i.charged opcode m).counter = m.counter - (i.instructionCost opcode).toInt := by
  have hmin : Int32.minValue.toInt = -2147483648 := rfl
  have hmax : Int32.maxValue.toInt = 2147483647 := rfl
  have hc := (i.instructionCost opcode).toInt_le
  rw [counter_charged]
  omega

variable [Bus β] (kept : i.isa.KeepsCounter)
include kept

lemma counter_of_flat (pos : 0 < m.counter) (done : i.isa.instruction m = .done opcode n)
    (flat : (LoopEvent.instruction addr opcode n).Flat i.isa) :
    (i.charged opcode n).counter = m.counter - i.cyclesPerInstruction.toInt := by
  have hn := counter_of_done kept done
  rw [counter_charged_of_pos (hn ▸ pos), cost_of_flat flat, hn]

variable (slice : i.cyclesPerInstruction.toInt ≤ i.timesliceCycles.toInt)
include slice

lemma Advance.flat (h : i.Advance s es t) (flat : ∀ e ∈ es, e.Flat i.isa)
    (pos : 0 < s.machine.counter) :
    0 < t.machine.counter ∧
      t.machine.counter = i.flatBalance s.machine.counter (es.map LoopEvent.kind) := by
  have hcost := Int32.lt_iff_toInt_lt.mp i.cyclesPerInstruction_pos
  rw [Int32.toInt_zero] at hcost
  cases h with
  | @instruction opcode m done left =>
    have hm := counter_of_flat kept pos done (flat _ List.mem_cons_self)
    have hleft := Int32.lt_iff_toInt_lt.mp left
    rw [machine_completed]
    exact ⟨hleft, hm.trans (i.flatBalance_instruction _).symm⟩
  | @rollover opcode m p bus done used updated running =>
    have hm := counter_of_flat kept pos done (flat _ List.mem_cons_self)
    have hp := counter_update kept used (by omega) updated
    have ht : ((i.completed s opcode m).updated p bus).machine.counter = p.cycleCounter.toInt := rfl
    rw [ht, hp, hm]
    refine ⟨by omega, ?_⟩
    rw [List.map_cons, ← List.singleton_append, flatBalance_append]
    simp only [LoopEvent.kind, List.map_cons, List.map_nil, flatBalance_instruction,
      flatBalance_rollover]
  | exception raised running => exact (flat _ List.mem_cons_self).elim

lemma Trace.flat (h : i.Trace s es t) (flat : ∀ e ∈ es, e.Flat i.isa)
    (pos : 0 < s.machine.counter) :
    0 < t.machine.counter ∧
      t.machine.counter = i.flatBalance s.machine.counter (es.map LoopEvent.kind) := by
  induction h with
  | nil s => exact ⟨pos, (i.flatBalance_nil _).symm⟩
  | cons first _ ih =>
    obtain ⟨hfirst, hrest⟩ := List.forall_mem_append.mp flat
    obtain ⟨hpos, hcounter⟩ := first.flat kept slice hfirst pos
    rw [List.map_append, flatBalance_append, ← hcounter]
    exact ih hrest hpos

lemma Trace.flat_charged (h : i.Trace s es t) (flat : ∀ e ∈ es, e.Flat i.isa)
    (pos : 0 < s.machine.counter) (done : i.isa.instruction t.machine = .done opcode n)
    (last : (LoopEvent.instruction addr opcode n).Flat i.isa) :
    (i.charged opcode n).counter =
        i.flatBalance s.machine.counter (es.map LoopEvent.kind ++ [.instruction]) ∧
      -i.cyclesPerInstruction.toInt < (i.charged opcode n).counter := by
  obtain ⟨hpos, ht⟩ := h.flat kept slice flat pos
  have hn := counter_of_flat kept hpos done last
  refine ⟨?_, by omega⟩
  rw [flatBalance_append, ← ht, hn, flatBalance_instruction]

variable {limit : Nat} {past future : List (LoopEvent β)} (budget : 0 < m.counter)
include budget

lemma flat_at_instruction (flat : ∀ e ∈ i.history limit m, e.Flat i.isa)
    (h : i.history limit m = past ++ .instruction addr opcode n :: future) :
    (i.charged opcode n).counter =
      i.flatBalance m.counter (past.map LoopEvent.kind ++ [.instruction]) := by
  rw [h] at flat
  rw [history] at h
  split at h
  · obtain ⟨before, u, now, rest, htrace, hev, rfl⟩ := exists_trace_of_history h
    obtain ⟨done, rfl⟩ := done_of_instruction hev
    rw [List.append_nil] at flat ⊢
    obtain ⟨hpast, hlast⟩ := List.forall_mem_append.mp flat
    exact (htrace.flat_charged kept slice hpast budget done (hlast _ List.mem_cons_self)).1
  · simp at h

lemma flat_at_rollover (flat : ∀ e ∈ i.history limit m, e.Flat i.isa)
    (h : i.history limit m = past ++ .rollover n :: future) :
    n.counter = i.flatBalance m.counter (past.map LoopEvent.kind) ∧
      n.processor.cycleCounter ≤ 0 ∧ -i.cyclesPerInstruction.toInt < n.counter := by
  rw [h] at flat
  rw [history] at h
  split at h
  · obtain ⟨before, u, now, rest, htrace, hev, rfl⟩ := exists_trace_of_history h
    obtain ⟨opcode, k, done, rfl, used, rfl⟩ := done_of_rollover hev
    obtain ⟨hpast, -⟩ := List.forall_mem_append.mp flat
    obtain ⟨hbefore, hnow⟩ := List.forall_mem_append.mp hpast
    obtain ⟨hn, owed⟩ :=
      htrace.flat_charged kept slice hbefore budget done (hnow _ List.mem_cons_self)
    refine ⟨?_, used, owed⟩
    rw [List.map_append]
    exact hn
  · simp at h

lemma flat_of_records (flat : ∀ e ∈ i.history limit m, e.Flat i.isa) {e : LoopEvent β} {k : Mark β}
    (h : i.history limit m = past ++ e :: future) (records : i.Records e k) :
    k.machine.counter = i.flatBalance m.counter (past.map LoopEvent.kind ++ [e.kind]) := by
  cases records with
  | instruction addr opcode n => exact flat_at_instruction kept slice budget flat h
  | exception addr e n =>
    rw [h] at flat
    exact (flat _ (List.mem_append_right past List.mem_cons_self)).elim
  | @rollover n _ _ updated =>
    obtain ⟨hn, used, owed⟩ := flat_at_rollover kept slice budget flat h
    have hused : n.counter ≤ 0 := Int32.le_iff_toInt_le.mp used
    rw [LoopEvent.kind, flatBalance_append, ← hn, flatBalance_rollover]
    exact counter_update kept used (by omega) updated

omit kept slice budget

/-- Every instruction costs the same, a timeslice pays for at least one, and no exception is raised.
The counter that the loop leaves behind each event is the one over the integers, so no charge and no
grant stops at an end of the range. When the system is updated for the `k + 1`st time, the
instructions completed since the run began are the budget and `k` timeslices divided by the cost,
rounded up. The update is handed what the budget and `k + 1` timeslices have left, less than the cost
short of a whole timeslice. -/
theorem flat_pace_never_drifts (isa : InstructionSet β) (kept : isa.KeepsCounter)
    (c : Configuration) (arena entries : UInt64) (cost : 1 ≤ c.cyclesPerInstruction.toInt)
    (slice : c.cyclesPerInstruction.toInt ≤ c.timesliceCycles.toInt) (limit : Nat) (m : Machine β)
    (budget : 1 ≤ m.counter)
    (flat : ∀ e ∈ (bound isa c arena entries).history limit m, e.Flat isa) :
    let i := bound isa c arena entries
    let es := (i.record limit m).1
    (i.record limit m).2 = i.enterLoop limit m ∧
    kinds es = (i.history limit m).map LoopEvent.kind ∧
    (∀ past e future, es = past ++ e :: future → e.kind? ≠ none →
      e.machine.counter = i.flatBalance m.counter (kinds (past ++ [e]))) ∧
    ∀ past x n future, es = past ++ .rollover x n :: future →
      let k := (kinds past).count .rollover
      let done := (kinds past).count .instruction
      (done : Int) =
          ⌈((m.counter + k * c.timesliceCycles.toInt : ℤ) : ℚ) / c.cyclesPerInstruction.toInt⌉ ∧
        ∃ bus handed, Bus.updateSystem bus handed = (x, n.processor, n.bus) ∧
          n.counter = handed.cycleCounter.toInt ∧
          handed.cycleCounter.toInt = m.counter + (k + 1) * c.timesliceCycles.toInt -
            c.cyclesPerInstruction.toInt * done ∧
          c.timesliceCycles.toInt - c.cyclesPerInstruction.toInt < handed.cycleCounter.toInt ∧
          handed.cycleCounter.toInt ≤ c.timesliceCycles.toInt := by
  intro i es
  have hcost : i.cyclesPerInstruction = c.cyclesPerInstruction := max_one_of_pos cost
  have hslice : i.cyclesPerInstruction.toInt ≤ i.timesliceCycles.toInt := by
    rw [hcost]
    exact slice
  have ht : i.timesliceCycles = c.timesliceCycles := rfl
  have retold : i.Retells (i.history limit m) es := retells_record
  refine ⟨record_snd, kinds_record, ?_, ?_⟩
  · intro past e future h he
    rw [h] at retold
    obtain ⟨before, event, after, hist, hpast, records⟩ := retold.exists_event he
    rw [kinds_append, ← hpast, Retells.kinds_cons records]
    exact flat_of_records kept hslice budget flat hist records
  · intro past x n future h k done
    rw [h] at retold
    obtain ⟨before, event, after, hist, hpast, records⟩ :=
      retold.exists_event (Option.some_ne_none _)
    cases records with
    | @rollover u _ _ updated =>
      obtain ⟨hbalance, used, owed⟩ := flat_at_rollover kept hslice budget flat hist
      have hused : u.counter ≤ 0 := Int32.le_iff_toInt_le.mp used
      have hhanded : (u.processor.replenish c.timesliceCycles).cycleCounter.toInt =
          u.counter + c.timesliceCycles.toInt :=
        Processor.toInt_replenish_of_used used (by omega)
      have hn : n.counter = u.counter + c.timesliceCycles.toInt :=
        counter_update (i := i) kept used (by omega) updated
      rw [hpast, flatBalance, hcost, ht] at hbalance
      rw [hcost] at owed
      refine ⟨?_, u.bus, u.processor.replenish c.timesliceCycles, updated, ?_, ?_, ?_, ?_⟩
      · symm
        apply ceil_div_eq cost
        · rw [← hbalance]
          exact hused
        · rw [← hbalance]
          exact owed
      · rw [hn, hhanded]
      · rw [hhanded, hbalance]
        ring
      · omega
      · omega

def overdrawing : Configuration := { cyclesPerInstruction := 2, timesliceCycles := 5 }

/-- Three cycles of budget, and no fetch ahead that raises. -/
def ahead : Machine Countdown := ⟨(Countdown.start 3 2).processor.setPc 8, { updates := 2 }⟩

theorem flat_pace_never_drifts_overdrawn :
    let i := bound counting overdrawing 1 0
    (counting : InstructionSet Countdown).KeepsCounter ∧
      1 ≤ overdrawing.cyclesPerInstruction.toInt ∧
      overdrawing.cyclesPerInstruction.toInt ≤ overdrawing.timesliceCycles.toInt ∧
      1 ≤ ahead.counter ∧ (∀ e ∈ i.history 4 ahead, e.Flat counting) ∧
      (i.record 4 ahead).2 = i.enterLoop 4 ahead ∧
      ∃ past x n, (i.record 4 ahead).1 = past ++ [.rollover x n] ∧
        kinds past = [.instruction, .instruction, .rollover, .instruction, .instruction] ∧
        (4 : Int) = ⌈((3 + 1 * 5 : ℤ) : ℚ) / (2 : ℤ)⌉ ∧ n.counter = 3 + (1 + 1) * 5 - 2 * 4 := by
  have kept : (counting : InstructionSet Countdown).KeepsCounter :=
    counting_keepsCounter fun _ _ => rfl
  have hkinds : ((bound counting overdrawing 1 0).history 4 ahead).map LoopEvent.kind =
      [.instruction, .instruction, .rollover, .instruction, .instruction, .rollover] := rfl
  obtain ⟨x, n, hlast⟩ : ∃ x n, ((bound counting overdrawing 1 0).record 4 ahead).1 =
    ((bound counting overdrawing 1 0).record 4 ahead).1.dropLast ++ [.rollover x n] := ⟨_, _, rfl⟩
  intro i
  have flat : ∀ e ∈ i.history 4 ahead, e.Flat counting := by
    intro e he
    have hk := List.mem_map_of_mem (f := LoopEvent.kind) he
    rw [hkinds] at hk
    cases e with
    | instruction _ _ _ => exact .inl rfl
    | exception _ _ _ => simp [LoopEvent.kind] at hk
    | rollover _ => trivial
  obtain ⟨loop, -, -, updates⟩ := flat_pace_never_drifts counting kept overdrawing 1 0 (by decide)
    (by decide) 4 ahead (by decide) flat
  obtain ⟨hceil, bus, handed, -, hn, hhanded, -⟩ := updates _ _ _ [] hlast
  exact ⟨kept, by decide, by decide, by decide, flat, loop, _, x, n, hlast, rfl, hceil,
    hn.trans hhanded⟩

end Interpreter

end Recompiler
