import Recompiler.Proofs.Pacing.Counter
import Recompiler.Proofs.Pacing.Independence

/-! The registers that the standard entry into exceptions saves to. Where nothing else writes them
they tell of the exception that the statistics have as the last one, however the exceptions of a run
nest. -/

namespace Recompiler

variable {β : Type}

structure Saved where
  spc : UInt32
  ssr : UInt32
  sgr : UInt32
  expevt : UInt32
  deriving DecidableEq

def Registers.saved (r : Registers) : Saved := ⟨r.spc, r.ssr, r.sgr, r.expevt⟩

def Machine.saved (m : Machine β) : Saved := m.processor.regs.saved

def Registers.r15 (r : Registers) : UInt32 := r.gpr.get (Fin.last 15)

def Exception.saving (e : Exception) (r : Registers) : Saved where
  spc := e.epc
  ssr := r.sr
  sgr := r.r15
  expevt := e.kind.eventCode.toUInt32

def LoopEvent.raised? : LoopEvent β → Option (Exception × Registers)
  | .exception _ e m => some (e, m.processor.regs)
  | _ => none

def lastRaised? (es : List (LoopEvent β)) : Option (Exception × Registers) :=
  (es.filterMap LoopEvent.raised?).getLast?

def savedAfter (es : List (LoopEvent β)) (start : Saved) : Saved :=
  ((lastRaised? es).map fun x => x.1.saving x.2).getD start

lemma savedAfter_append (es fs : List (LoopEvent β)) (start : Saved) :
    savedAfter (es ++ fs) start = savedAfter fs (savedAfter es start) := by
  have hlast : lastRaised? (es ++ fs) = (lastRaised? fs).or (lastRaised? es) := by
    rw [lastRaised?, List.filterMap_append, List.getLast?_append]
    rfl
  rw [savedAfter, hlast, savedAfter]
  cases lastRaised? fs <;> rfl

lemma lastException_eq_lastRaised? (es : List (LoopEvent β)) :
    (Statistics.ofKinds (es.map LoopEvent.kind)).lastException =
      (lastRaised? es).map Prod.fst := by
  have hkind : LoopEvent.Kind.exception? ∘ LoopEvent.kind =
      fun e : LoopEvent β => e.raised?.map Prod.fst := by
    funext e
    cases e <;> rfl
  rw [Statistics.lastException_ofKinds, List.filterMap_map, hkind, ← List.map_filterMap,
    List.getLast?_map]
  rfl

/-- Statistics and registers as the last exception of the events has left them, and where there was
none as at the start. -/
def Tells (start : Registers) (es : List (LoopEvent β)) (st : Statistics) (r : Registers) : Prop :=
  match lastRaised? es with
  | some (e, q) => st.lastException = some e ∧ r.saved = e.saving q
  | none => st.lastException = none ∧ r.saved = start.saved

lemma tells_of_saved {start r : Registers} {es : List (LoopEvent β)} {st : Statistics}
    (hst : st = .ofKinds (es.map LoopEvent.kind)) (hr : r.saved = savedAfter es start.saved) :
    Tells start es st r := by
  have hlast := lastException_eq_lastRaised? es
  rw [← hst] at hlast
  rw [savedAfter] at hr
  rw [Tells]
  cases h : lastRaised? es with
  | some x =>
    rw [h] at hlast hr
    exact ⟨hlast, hr⟩
  | none =>
    rw [h] at hlast hr
    exact ⟨hlast, hr⟩

namespace Interpreter

variable {i : Interpreter β} {m : Machine β} {s t u : LoopState β}
  {es past : List (LoopEvent β)} {r : Except Fatal Unit}

lemma saved_handled (standard : i.isa.enterException = Exception.enter) (s : LoopState β)
    (e : Exception) (n : Machine β) :
    (i.handled s e n).machine.saved = e.saving n.processor.regs := by
  rw [Machine.saved, machine_handled, standard]
  rfl

structure Enters (i : Interpreter β) (e : Exception) (n t : Machine β) : Prop where
  regs : t.processor.regs = { n.processor.regs with
    spc := e.epc
    ssr := n.processor.regs.sr
    sgr := n.processor.regs.r15
    expevt := e.kind.eventCode.toUInt32
    sr := n.processor.regs.sr ||| (Status.md ||| Status.bl ||| Status.rb)
    pc := if e.kind.toClass = .reset then resetVector
      else if e.kind.isTlbMiss then n.processor.regs.vbr + 0x400
      else n.processor.regs.vbr + 0x100 }
  running : t.processor.running = n.processor.running
  bus : t.bus = n.bus
  drained : t.counter = max (n.counter - i.exceptionDrainCycles.toInt) Int32.minValue.toInt

lemma enters_of_handled (standard : i.isa.enterException = Exception.enter) (s : LoopState β)
    (e : Exception) (n : Machine β) : i.Enters e n (i.handled s e n).machine := by
  rw [machine_handled, standard]
  refine ⟨rfl, rfl, rfl, ?_⟩
  exact (e.enter n.processor).toInt_charge_eq_max (Int.le_of_lt i.drain_pos)

variable [Bus β]

def Attempts (i : Interpreter β) (m : Machine β) (es : List (LoopEvent β)) (u : LoopState β) :
    Prop :=
  m.processor.running = true ∧ i.Trace { machine := m } es u

/-- No handler that a run from `m` calls writes the registers saved to, and no update of the system
that it makes does. -/
structure Spares (i : Interpreter β) (m : Machine β) : Prop where
  execute {es : List (LoopEvent β)} {u : LoopState β} {opcode : UInt16} {bus : β} :
    i.Attempts m es u → Bus.readOpcode u.machine.bus u.machine.processor.pc = (.ok opcode, bus) →
    i.isa.Admits opcode u.machine.processor →
    (i.isa.execute opcode (InstructionSet.fetched u.machine bus)).Leaves fun n =>
      n.saved = u.machine.saved
  update {es : List (LoopEvent β)} {u : LoopState β} {opcode : UInt16} {n : Machine β} :
    i.Attempts m es u → i.isa.instruction u.machine = .done opcode n →
    (i.charged opcode n).processor.cycleCounter ≤ 0 →
    (i.update (i.charged opcode n)).2.1.regs.saved = n.saved

lemma Attempts.advance (at_u : i.Attempts m past u) (h : i.Advance u es t) :
    i.Attempts m (past ++ es) t := by
  have hone : i.Trace u es t := List.append_nil es ▸ Trace.cons h (.nil t)
  exact ⟨at_u.1, at_u.2.append hone⟩

namespace Spares

variable (spares : i.Spares m)
include spares

lemma instruction (at_u : i.Attempts m past u) :
    (i.isa.instruction u.machine).Leaves fun n => n.saved = u.machine.saved := by
  rcases h : Bus.readOpcode u.machine.bus u.machine.processor.pc with ⟨f | opcode, bus⟩
  · rw [InstructionSet.instruction_of_error h]
    rfl
  · rw [InstructionSet.instruction_of_ok h]
    split
    · rfl
    · rename_i hd
      have hx := spares.execute at_u h ((Bool.not_eq_true _).mp hd)
      cases he : i.isa.execute opcode (InstructionSet.fetched u.machine bus) <;> rw [he] at hx <;>
        exact hx

lemma rollover {opcode : UInt16} {n : Machine β} {p : Processor} {bus : β}
    (at_u : i.Attempts m past u) (done : i.isa.instruction u.machine = .done opcode n)
    (used : (i.charged opcode n).processor.cycleCounter ≤ 0)
    (updated : i.update (i.charged opcode n) = (r, p, bus)) : p.regs.saved = u.machine.saved := by
  have hu := spares.update at_u done used
  have hx := spares.instruction at_u
  rw [updated] at hu
  rw [done] at hx
  exact hu.trans hx

variable (standard : i.isa.enterException = Exception.enter)

include standard

lemma advance (at_u : i.Attempts m past u) (h : i.Advance u es t) :
    t.machine.saved = savedAfter es u.machine.saved := by
  cases h with
  | instruction done _ =>
    have hx := spares.instruction at_u
    rw [done] at hx
    exact hx
  | rollover done used updated _ => exact spares.rollover at_u done used updated
  | exception _ _ => exact saved_handled standard ..

lemma ending (at_u : i.Attempts m past u) (h : i.Ending u es r t) :
    t.machine.saved = savedAfter es u.machine.saved := by
  cases h with
  | rollover done used updated _ => exact spares.rollover at_u done used updated
  | failed done used updated => exact spares.rollover at_u done used updated
  | exception _ _ => exact saved_handled standard ..
  | fatal raised =>
    have hx := spares.instruction at_u
    rw [raised] at hx
    exact hx

lemma trace (at_s : i.Attempts m past s) (h : i.Trace s es u) :
    u.machine.saved = savedAfter es s.machine.saved := by
  induction h generalizing past with
  | nil => rfl
  | cons first _ ih =>
    rw [savedAfter_append, ih (at_s.advance first), spares.advance standard at_s first]

lemma enterLoop {limit : Nat} (h : i.enterLoop limit m = some (r, t)) :
    t.machine.saved = savedAfter (i.history limit m) m.saved := by
  by_cases running : m.processor.running = true
  · have at_m : i.Attempts m [] { machine := m } := ⟨running, .nil _⟩
    rcases enterLoop_cases h with ⟨-, rfl, hist⟩ | ⟨past, u, last, htrace, hend, hist⟩
    · rw [hist]
      rfl
    · have at_u : i.Attempts m past u := ⟨running, htrace⟩
      rw [hist, savedAfter_append, spares.ending standard at_u hend,
        spares.trace standard at_m htrace]
  · rw [Interpreter.enterLoop, if_neg running] at h
    rw [history, if_neg running]
    cases h
    rfl

end Spares

lemma instruction_fetches {record : β → List UInt32} (records : i.isa.Records Eq record)
    (m : Machine β) : (i.isa.instruction m).Leaves fun n =>
      record m.bus ++ [m.processor.pc] <+: record n.bus := by
  have hfetch := records.fetch m.bus m.processor.pc
  rcases h : Bus.readOpcode m.bus m.processor.pc with ⟨f | opcode, bus⟩ <;> rw [h] at hfetch
  · rw [InstructionSet.instruction_of_error h]
    exact hfetch ▸ List.prefix_rfl
  · rw [InstructionSet.instruction_of_ok h, ← hfetch]
    split
    · exact List.prefix_rfl
    · have hx := records.execute opcode (InstructionSet.fetched m bus)
      cases he : i.isa.execute opcode (InstructionSet.fetched m bus) <;> rw [he] at hx <;> exact hx

/-- The entry into exceptions is the standard one and the run of a bound interpreter writes the
registers that it saves to in no other way. Then these tell of the last exception of the run between
any two attempts and where the run returns. After each exception the loop is at its handler, with
the drain charged and all else as it was, and fetches from there if it goes on. -/
theorem saved_registers_tell (i : Interpreter β) (ready : i.isBound = true)
    (standard : i.isa.enterException = Exception.enter) {m : Machine β} (spares : i.Spares m) :
    (∀ es u, i.Attempts m es u →
      Tells m.processor.regs es u.stats u.machine.processor.regs) ∧
    (∀ limit x n, (i.run limit m).map answer = some (x, n) →
      ∃ st, (x = .ok st ∨ ∃ cause, x = .error (.aborted cause st)) ∧
        Tells m.processor.regs (i.history limit m) st n.processor.regs) ∧
    ∀ (u : LoopState β) e n, i.isa.instruction u.machine = .fault (.exception e) n →
      ∃ t, i.attempt u = .boundary t ∧ i.Enters e n t.machine ∧
        t.stats = u.stats.recordException e ∧
        (n.processor.running = true → (∀ limit, i.dispatch (limit + 1) u = i.dispatch limit t) ∧
          ∀ record, i.isa.Records Eq record → (i.step t.machine).Leaves fun k =>
            record n.bus ++ [t.machine.processor.pc] <+: record k.bus) := by
  refine ⟨?_, ?_, ?_⟩
  · intro es u at_u
    have at_m : i.Attempts m [] { machine := m } := ⟨at_u.1, .nil _⟩
    exact tells_of_saved at_u.2.stats (spares.trace standard at_m at_u.2)
  · intro limit x n h
    rw [run_eq ready] at h
    obtain ⟨⟨r, t⟩, hloop, hout⟩ := Option.map_eq_some_iff.mp h
    have htells := tells_of_saved (stats_of_enterLoop hloop) (spares.enterLoop standard hloop)
    rcases r with cause | _ <;> cases hout
    · exact ⟨t.stats, Or.inr ⟨cause, rfl⟩, htells⟩
    · exact ⟨t.stats, Or.inl rfl, htells⟩
  · intro u e n raised
    have hattempt : i.attempt u = .boundary (i.handled u e n) := by
      rw [attempt_eq, raised]
    have henters := enters_of_handled standard u e n
    refine ⟨i.handled u e n, hattempt, henters, rfl, ?_⟩
    intro running
    have hgo : i.Advance u _ (i.handled u e n) := .exception raised (henters.running.trans running)
    refine ⟨hgo.dispatch, ?_⟩
    intro record records
    have hfetch := instruction_fetches records (i.handled u e n).machine
    rw [step_apply, ← henters.bus]
    cases hi : i.isa.instruction (i.handled u e n).machine <;> rw [hi] at hfetch <;> exact hfetch

def trapping : InstructionSet Countdown := { counting with enterException := Exception.enter }

theorem saved_registers_tell_countdown :
    (bound trapping {} 1 0).isBound = true ∧ trapping.enterException = Exception.enter ∧
      (bound trapping {} 1 0).Spares (Countdown.start 3 1) ∧
      ∃ x n st, ((bound trapping {} 1 0).run 4 (Countdown.start 3 1)).map answer = some (x, n) ∧
        (x = .ok st ∨ ∃ cause, x = .error (.aborted cause st)) ∧
        st.lastException = some ⟨4, .tlbMissRead⟩ ∧ n.saved = ⟨4, 0, 0, 0x40⟩ := by
  have spares : (bound trapping {} 1 0).Spares (Countdown.start 3 1) :=
    ⟨fun _ _ _ => rfl, fun _ _ _ => rfl⟩
  have hrun : ((bound trapping {} 1 0).run 4 (Countdown.start 3 1)).map answer = some (_, _) := rfl
  obtain ⟨st, hst, htells⟩ := (saved_registers_tell _ rfl rfl spares).2.1 4 _ _ hrun
  exact ⟨rfl, rfl, spares, _, _, st, hrun, hst, htells⟩

end Interpreter

end Recompiler
