import Recompiler.Proofs.Loop.Countdown
import Recompiler.Proofs.Loop.Result

/-! What the guest computes apart from its pacing. Every attempt of the loop is one step of the guest
that knows neither the cycle counter nor the running flag, wherever the timeslices end and whatever
instructions and exceptions cost. -/

namespace Recompiler

variable {β : Type}

def Machine.SameGuest (Alike : β → β → Prop) (m n : Machine β) : Prop :=
  m.processor.regs = n.processor.regs ∧ Alike m.bus n.bus

def LoopEvent.fetch? : LoopEvent β → Option UInt32
  | .instruction addr _ _ => some addr
  | .exception addr _ _ => some addr
  | .rollover _ => none

def fetches (es : List (LoopEvent β)) : List UInt32 := es.filterMap LoopEvent.fetch?

namespace InstructionSet

variable [Bus β] (isa : InstructionSet β)

/-- Registers and bus go through fetch, execution and exception entry in a way that depends on
neither the cycle counter nor the running flag, and an update of the system leaves the registers and
everything that the guest can find on the bus. -/
structure Untimed (Alike : β → β → Prop) : Prop where
  equivalence : Equivalence Alike
  fetch : ∀ {a b : β} (addr : UInt32), Alike a b →
    (Bus.readOpcode a addr).1 = (Bus.readOpcode b addr).1 ∧
      Alike (Bus.readOpcode a addr).2 (Bus.readOpcode b addr).2
  execute : ∀ opcode, (isa.execute opcode).Respects (Machine.SameGuest Alike)
  enterException : ∀ (e : Exception) {p q : Processor}, p.regs = q.regs →
    (isa.enterException e p).regs = (isa.enterException e q).regs
  updateSystem : ∀ {a b : β} {p q : Processor}, Bus.updateSystem a p = (.ok (), q, b) →
    q.regs = p.regs ∧ Alike a b

structure Records (Alike : β → β → Prop) (record : β → List UInt32) : Prop where
  alike : ∀ {a b : β}, Alike a b → record a = record b
  fetch : ∀ (a : β) (addr : UInt32), record (Bus.readOpcode a addr).2 = record a ++ [addr]
  execute : ∀ opcode, (isa.execute opcode).Along fun m n => record m.bus <+: record n.bus

def guestStep (g : Registers × β) : Option (Registers × β) :=
  match isa.instruction ⟨{ regs := g.1 }, g.2⟩ with
  | .done _ m => some (m.processor.regs, m.bus)
  | .fault (.exception e) m => some ((isa.enterException e m.processor).regs, m.bus)
  | .fault (.fatal _) _ => none
  | .unfinished => none

def guestSteps : Nat → Registers × β → Option (Registers × β)
  | 0, g => some g
  | n + 1, g => (isa.guestStep g).bind (guestSteps n)

def guestFetches : Nat → Registers × β → List UInt32
  | 0, _ => []
  | n + 1, g => g.1.pc :: ((isa.guestStep g).map (guestFetches n)).getD []

variable {isa} {Alike : β → β → Prop} {g g' : Registers × β}

lemma guestSteps_recost (isa : InstructionSet β) (cost : UInt16 → Option UInt32) (n : Nat)
    (g : Registers × β) :
    ({ isa with cycleCost := cost } : InstructionSet β).guestSteps n g = isa.guestSteps n g := by
  induction n generalizing g with
  | zero => rfl
  | succ n ih => exact congrArg (Option.bind (isa.guestStep g)) (funext ih)

lemma guestFetches_recost (isa : InstructionSet β) (cost : UInt16 → Option UInt32) (n : Nat)
    (g : Registers × β) :
    ({ isa with cycleCost := cost } : InstructionSet β).guestFetches n g = isa.guestFetches n g := by
  induction n generalizing g with
  | zero => rfl
  | succ n ih =>
    exact congrArg (fun f => g.1.pc :: ((isa.guestStep g).map f).getD []) (funext ih)

lemma guestSteps_add (n k : Nat) (h : isa.guestSteps n g = some g') :
    isa.guestSteps (n + k) g = isa.guestSteps k g' := by
  induction n generalizing g with
  | zero =>
    cases h
    rw [Nat.zero_add]
  | succ n ih =>
    rw [Nat.add_right_comm]
    rw [guestSteps] at h ⊢
    cases hg : isa.guestStep g with
    | none =>
      rw [hg] at h
      cases h
    | some g₁ =>
      rw [hg] at h
      exact ih h

lemma guestFetches_add (n k : Nat) (h : isa.guestSteps n g = some g') :
    isa.guestFetches (n + k) g = isa.guestFetches n g ++ isa.guestFetches k g' := by
  induction n generalizing g with
  | zero =>
    cases h
    rw [Nat.zero_add]
    rfl
  | succ n ih =>
    rw [Nat.add_right_comm]
    rw [guestSteps] at h
    cases hg : isa.guestStep g with
    | none =>
      rw [hg] at h
      cases h
    | some g₁ =>
      rw [hg] at h
      rw [guestFetches, guestFetches, hg]
      exact congrArg (g.1.pc :: ·) (ih h)

lemma instruction_respects (untimed : isa.Untimed Alike) :
    isa.instruction.Respects (Machine.SameGuest Alike) := by
  intro m n hmn
  obtain ⟨hregs, hbus⟩ := hmn
  have hpc : n.processor.pc = m.processor.pc := congrArg Registers.pc hregs.symm
  obtain ⟨hanswer, hafter⟩ := untimed.fetch m.processor.pc hbus
  rcases hm : Bus.readOpcode m.bus m.processor.pc with ⟨f | opcode, a⟩ <;>
    rcases hn : Bus.readOpcode n.bus n.processor.pc with ⟨f' | opcode', b⟩ <;>
    rw [← hpc, hn, hpc, hm] at hanswer hafter <;> cases hanswer
  · rw [instruction_of_error hm, instruction_of_error hn]
    exact ⟨rfl, hregs, hafter⟩
  · have hf : (fetched m a).SameGuest Alike (fetched n b) := by
      refine ⟨?_, hafter⟩
      simp only [fetched, Processor.setPc, hpc, hregs]
    have hfpu : (fetched m a).processor.fpuDisabled = (fetched n b).processor.fpuDisabled :=
      congrArg (Registers.hasFlag · Status.fd) hf.1
    rw [instruction_of_ok hm, instruction_of_ok hn, hfpu, hpc]
    split
    · exact ⟨rfl, hf⟩
    · have hx := untimed.execute opcode hf
      revert hx
      cases isa.execute opcode (fetched m a) <;> cases isa.execute opcode (fetched n b) <;>
        simp [Outcome.Agrees]

lemma guestStep_record {record : β → List UInt32} (records : isa.Records Alike record)
    (h : isa.guestStep g = some g') : record g.2 <+: record g'.2 := by
  have hadd (a : β) (addr : UInt32) : record a <+: record (Bus.readOpcode a addr).2 := by
    rw [records.fetch]
    exact List.prefix_append _ _
  have hx : isa.instruction.Along fun m n => record m.bus <+: record n.bus :=
    instruction_along (fun h h' => h.trans h') (fun m => hadd m.bus _) (fun m => hadd m.bus _)
      records.execute
  have hg := hx ⟨{ regs := g.1 }, g.2⟩
  rw [guestStep] at h
  cases hi : isa.instruction ⟨{ regs := g.1 }, g.2⟩ with
  | done opcode m =>
    rw [hi] at h hg
    cases h
    exact hg
  | fault f m =>
    rw [hi] at h hg
    cases f with
    | exception e =>
      cases h
      exact hg
    | fatal cause => cases h
  | unfinished =>
    rw [hi] at h
    cases h

lemma guestSteps_record {record : β → List UInt32} (records : isa.Records Alike record) {n : Nat}
    (h : isa.guestSteps n g = some g') : record g.2 <+: record g'.2 := by
  induction n generalizing g with
  | zero =>
    cases h
    exact List.prefix_rfl
  | succ n ih =>
    obtain ⟨g₁, hg₁, hrest⟩ := Option.bind_eq_some_iff.mp h
    exact (guestStep_record records hg₁).trans (ih hrest)

def Finds (Alike : β → β → Prop) (g : Registers × β) (m : Machine β) : Prop :=
  g.1 = m.processor.regs ∧ Alike g.2 m.bus

lemma Untimed.finds (untimed : isa.Untimed Alike) (m : Machine β) :
    Finds Alike (m.processor.regs, m.bus) m :=
  ⟨rfl, untimed.equivalence.refl m.bus⟩

lemma instruction_agrees (untimed : isa.Untimed Alike) {m : Machine β} (hg : Finds Alike g m) :
    (isa.instruction ⟨{ regs := g.1 }, g.2⟩).Agrees (Machine.SameGuest Alike) (isa.instruction m) :=
  instruction_respects untimed hg

lemma guestStep_of_done (untimed : isa.Untimed Alike) {m n : Machine β} {opcode : UInt16}
    (hg : Finds Alike g m) (h : isa.instruction m = .done opcode n) :
    ∃ g', isa.guestStep g = some g' ∧ Finds Alike g' n := by
  have hx := instruction_agrees untimed hg
  rw [h] at hx
  obtain ⟨n', hdone, hn⟩ := hx.of_done
  exact ⟨(n'.processor.regs, n'.bus), by rw [guestStep, hdone], hn⟩

lemma guestStep_of_exception (untimed : isa.Untimed Alike) {m n : Machine β} {e : Exception}
    (hg : Finds Alike g m) (h : isa.instruction m = .fault (.exception e) n) :
    ∃ g', isa.guestStep g = some g' ∧
      g'.1 = (isa.enterException e n.processor).regs ∧ Alike g'.2 n.bus := by
  have hx := instruction_agrees untimed hg
  rw [h] at hx
  obtain ⟨n', hfault, hregs, hbus⟩ := hx.of_fault
  exact ⟨((isa.enterException e n'.processor).regs, n'.bus), by rw [guestStep, hfault],
    untimed.enterException e hregs, hbus⟩

structure Retraces (isa : InstructionSet β) (g : Registers × β) (es : List (LoopEvent β))
    (g' : Registers × β) : Prop where
  steps : isa.guestSteps (attempts es) g = some g'
  addresses : fetches es = isa.guestFetches (attempts es) g

lemma Retraces.nil (g : Registers × β) : isa.Retraces g [] g := ⟨rfl, rfl⟩

lemma Retraces.single {es : List (LoopEvent β)} (h : isa.guestStep g = some g')
    (hn : attempts es = 1) (hf : fetches es = [g.1.pc]) : isa.Retraces g es g' := by
  refine ⟨?_, ?_⟩
  · rw [hn, guestSteps, h]
    rfl
  · rw [hn, hf, guestFetches, h]
    rfl

lemma Retraces.append {g'' : Registers × β} {es fs : List (LoopEvent β)}
    (h : isa.Retraces g es g') (h' : isa.Retraces g' fs g'') : isa.Retraces g (es ++ fs) g'' := by
  refine ⟨?_, ?_⟩
  · rw [attempts_append, guestSteps_add _ _ h.steps, h'.steps]
  · rw [attempts_append, guestFetches_add _ _ h.steps, fetches, List.filterMap_append, ← fetches,
      ← fetches, h.addresses, h'.addresses]

end InstructionSet

namespace Interpreter

open InstructionSet

variable [Bus β] {i : Interpreter β} {Alike : β → β → Prop} {g : Registers × β}
  {s t : LoopState β} {es : List (LoopEvent β)}

lemma finds_update (untimed : i.isa.Untimed Alike) {opcode : UInt16} {m : Machine β}
    {p : Processor} {bus : β} (hg : Finds Alike g m)
    (h : i.update (i.charged opcode m) = (.ok (), p, bus)) : Finds Alike g ⟨p, bus⟩ := by
  obtain ⟨hregs, hbus⟩ := untimed.updateSystem h
  exact ⟨hg.1.trans hregs.symm, untimed.equivalence.trans hg.2 hbus⟩

lemma Advance.retraces (untimed : i.isa.Untimed Alike) (h : i.Advance s es t)
    (hg : Finds Alike g s.machine) :
    ∃ g', i.isa.Retraces g es g' ∧ Finds Alike g' t.machine := by
  have hpc : s.machine.processor.pc = g.1.pc := congrArg Registers.pc hg.1.symm
  cases h with
  | instruction done _ =>
    obtain ⟨g', hstep, hg'⟩ := guestStep_of_done untimed hg done
    exact ⟨g', .single hstep rfl (congrArg ([·]) hpc), hg'⟩
  | rollover done _ updated _ =>
    obtain ⟨g', hstep, hg'⟩ := guestStep_of_done untimed hg done
    exact ⟨g', .single hstep rfl (congrArg ([·]) hpc), finds_update untimed hg' updated⟩
  | exception raised _ =>
    obtain ⟨g', hstep, hg'⟩ := guestStep_of_exception untimed hg raised
    exact ⟨g', .single hstep rfl (congrArg ([·]) hpc), hg'⟩

lemma Ending.retraces (untimed : i.isa.Untimed Alike) (h : i.Ending s es (.ok ()) t)
    (hg : Finds Alike g s.machine) :
    ∃ g', i.isa.Retraces g es g' ∧ Finds Alike g' t.machine := by
  have hpc : s.machine.processor.pc = g.1.pc := congrArg Registers.pc hg.1.symm
  cases h with
  | rollover done _ updated _ =>
    obtain ⟨g', hstep, hg'⟩ := guestStep_of_done untimed hg done
    exact ⟨g', .single hstep rfl (congrArg ([·]) hpc), finds_update untimed hg' updated⟩
  | exception raised _ =>
    obtain ⟨g', hstep, hg'⟩ := guestStep_of_exception untimed hg raised
    exact ⟨g', .single hstep rfl (congrArg ([·]) hpc), hg'⟩

lemma Trace.retraces (untimed : i.isa.Untimed Alike) (h : i.Trace s es t)
    (hg : Finds Alike g s.machine) :
    ∃ g', i.isa.Retraces g es g' ∧ Finds Alike g' t.machine := by
  induction h generalizing g with
  | nil => exact ⟨g, .nil g, hg⟩
  | cons first _ ih =>
    obtain ⟨g₁, hfirst, hg₁⟩ := first.retraces untimed hg
    obtain ⟨g', hrest, hg'⟩ := ih hg₁
    exact ⟨g', hfirst.append hrest, hg'⟩

lemma retraces_of_enterLoop (untimed : i.isa.Untimed Alike) {limit : Nat} {m : Machine β}
    (h : i.enterLoop limit m = some (.ok (), t)) (hg : Finds Alike g m) :
    ∃ g', i.isa.Retraces g (i.history limit m) g' ∧ Finds Alike g' t.machine := by
  rcases enterLoop_cases h with ⟨-, rfl, hist⟩ | ⟨past, u, last, htrace, hend, hist⟩
  · rw [hist]
    exact ⟨g, .nil g, hg⟩
  · obtain ⟨g₁, hpast, hg₁⟩ := htrace.retraces untimed hg
    obtain ⟨g', hlast, hg'⟩ := hend.retraces untimed hg₁
    rw [hist]
    exact ⟨g', hpast.append hlast, hg'⟩

/-- A run that returns normally, of a backend for the instruction set under some configuration and
with some costs. It makes the events and leaves the statistics and a machine. -/
def Paced (isa : InstructionSet β) (m : Machine β) (es : List (LoopEvent β)) (st : Statistics)
    (n : Machine β) : Prop :=
  ∃ (cost : UInt16 → Option UInt32) (c : Configuration) (arena entries : UInt64) (limit : Nat)
      (j : Interpreter β) (log : List LogEvent),
    let i := bound { isa with cycleCost := cost } c arena entries
    i.run limit m = some ⟨(.ok st, n, j), log⟩ ∧ i.history limit m = es

lemma Paced.retraces {isa : InstructionSet β} (untimed : isa.Untimed Alike) {m n : Machine β}
    {st : Statistics} (h : Paced isa m es st n) (hg : Finds Alike g m) :
    ∃ g', isa.Retraces g es g' ∧ Finds Alike g' n := by
  obtain ⟨cost, c, arena, entries, limit, j, log, hrun, rfl⟩ := h
  have recosted : { isa with cycleCost := cost : InstructionSet β }.Untimed Alike :=
    ⟨untimed.equivalence, untimed.fetch, untimed.execute, untimed.enterException,
      untimed.updateSystem⟩
  obtain ⟨r, t, hloop, hout⟩ := exists_loop_of_run rfl hrun
  rcases r with cause | _ <;> cases hout
  obtain ⟨g', hg', hn⟩ := retraces_of_enterLoop recosted hloop hg
  refine ⟨g', ⟨?_, ?_⟩, hn⟩
  · rw [← guestSteps_recost isa cost]
    exact hg'.steps
  · rw [← guestFetches_recost isa cost]
    exact hg'.addresses

lemma Paced.stats {isa : InstructionSet β} {m n : Machine β} {st : Statistics}
    (h : Paced isa m es st n) : st = .ofKinds (es.map LoopEvent.kind) := by
  obtain ⟨cost, c, arena, entries, limit, j, log, hrun, rfl⟩ := h
  exact stats_of_run rfl hrun

/-- A run that returns normally has taken the guest through one step for each instruction and each
exception that it counts. Of two such runs on one guest the shorter one has made the first fetches
of the longer one, and runs of one length end with the same registers. -/
theorem paced_runs_agree (isa : InstructionSet β) (untimed : isa.Untimed Alike) :
    (∀ m es st n, Paced isa m es st n →
      ∃ k x g, k + x = attempts es ∧ st.instructions = Saturating.word64 k ∧
        st.exceptions = Saturating.word64 x ∧
        isa.guestSteps (k + x) (m.processor.regs, m.bus) = some g ∧
        g.1 = n.processor.regs ∧ Alike g.2 n.bus) ∧
    ∀ m es st n m' es' st' n', Paced isa m es st n → Paced isa m' es' st' n' →
      m.SameGuest Alike m' → attempts es ≤ attempts es' →
      fetches es <+: fetches es' ∧
        (∀ record, isa.Records Alike record → record n.bus <+: record n'.bus) ∧
        (attempts es = attempts es' → n.processor.regs = n'.processor.regs) := by
  constructor
  · intro m es st n hrun
    obtain ⟨g, hg, hregs, hbus⟩ := hrun.retraces untimed (untimed.finds m)
    refine ⟨_, _, g, (attempts_eq_counts es).symm, ?_, ?_, ?_, hregs, hbus⟩
    · rw [hrun.stats, Statistics.instructions_ofKinds]
    · rw [hrun.stats, Statistics.exceptions_ofKinds]
    · rw [← attempts_eq_counts]
      exact hg.steps
  · intro m es st n m' es' st' n' hrun hrun' same hle
    obtain ⟨g, hg, hregs, hbus⟩ := hrun.retraces untimed (untimed.finds m)
    obtain ⟨g', hg', hregs', hbus'⟩ := hrun'.retraces untimed (g := (m.processor.regs, m.bus)) same
    obtain ⟨more, hmore⟩ := Nat.exists_eq_add_of_le hle
    have hsteps := hg'.steps
    rw [hmore, guestSteps_add _ _ hg.steps] at hsteps
    refine ⟨?_, ?_, ?_⟩
    · rw [hg.addresses, hg'.addresses, hmore, guestFetches_add _ _ hg.steps]
      apply List.prefix_append
    · intro record records
      rw [← records.alike hbus, ← records.alike hbus']
      exact guestSteps_record records hsteps
    · intro heq
      have hsame : some g = some g' := hg.steps.symm.trans (heq ▸ hg'.steps)
      cases hsame
      exact hregs.symm.trans hregs'

lemma counting_untimed :
    (counting : InstructionSet Countdown).Untimed fun a b => a.fetches = b.fetches where
  equivalence := ⟨fun _ => rfl, Eq.symm, Eq.trans⟩
  fetch addr h := ⟨rfl, congrArg (· ++ [addr]) h⟩
  execute _ := by
    intro m n ⟨hregs, hbus⟩
    exact ⟨rfl, congrArg (fun r => r.setGpr 0 (r.gpr[0] + 1)) hregs, hbus⟩
  enterException e := by
    intro p q h
    exact congrArg (Registers.setPc · (e.epc + instructionBytes)) h
  updateSystem := by
    intro a b p q h
    cases h
    exact ⟨rfl, rfl⟩

theorem paced_runs_agree_countdown :
    ∃ es st n es' st' n', Paced counting (Countdown.start 1 1) es st n ∧
      Paced counting (Countdown.start 9 1) es' st' n' ∧ attempts es < attempts es' ∧
        fetches es <+: fetches es' := by
  have short : Paced counting (Countdown.start 1 1) _ _ _ :=
    ⟨fun _ => some 2, {}, 1, 0, 1, _, _, rfl, rfl⟩
  have long : Paced counting (Countdown.start 9 1) _ _ _ :=
    ⟨fun _ => none, {}, 1, 0, 8, _, _, rfl, rfl⟩
  have same : (Countdown.start 1 1).SameGuest (·.fetches = ·.fetches) (Countdown.start 9 1) :=
    ⟨rfl, rfl⟩
  exact ⟨_, _, _, _, _, _, short, long, by decide,
    ((paced_runs_agree counting counting_untimed).2 _ _ _ _ _ _ _ _ short long same (by decide)).1⟩

end Interpreter

end Recompiler
