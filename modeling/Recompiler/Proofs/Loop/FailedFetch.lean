import Recompiler.Proofs.Exception.Registers
import Recompiler.Proofs.Loop.Projection
import Recompiler.Proofs.Loop.Reentry

/-! A run that the loop's own fetch aborts. It returns as if the attempt had not been made, and a
second run on a mended bus goes on from there. -/

namespace Recompiler

variable {β : Type}

lemma Round.getLast?_machine {es : List (Mark β)} {p : Progress β} {t : LoopState β}
    (h : Round es p) (hp : p.next? = some t) : es.getLast?.map Mark.machine = some t.machine := by
  cases h with
  | instruction _ =>
    cases hp
    rfl
  | rollover _ =>
    cases (Option.ite_none_right_eq_some.mp hp).2
    rfl
  | exception =>
    cases (Option.ite_none_right_eq_some.mp hp).2
    rfl
  | _ => cases hp

namespace Interpreter

open LoopState

variable [Bus β] {i : Interpreter β} {m : Machine β} {s t u : LoopState β}
  {es : List (LoopEvent β)}

-- The machine that the loop goes on with is the one that the last event recorded has left.
lemma Trace.exists_record (h : i.Trace s es u) : ∃ past : List (Mark β),
    kinds past = es.map LoopEvent.kind ∧
    (past.getLast?.map Mark.machine).getD s.machine = u.machine ∧
    ∀ limit, (i.recordFrom (attempts es + limit) s).1 = past ++ (i.recordFrom limit u).1 := by
  induction h with
  | nil s =>
    refine ⟨[], rfl, rfl, fun limit => ?_⟩
    rw [attempts, List.countP_nil, Nat.zero_add, List.nil_append]
  | @cons s t u first rest ha _ ih =>
    obtain ⟨past, hkinds, hlast, hrecord⟩ := ih
    have hmarks := (i.round_recordAttempt s).getLast?_machine
      (i.recordAttempt_snd s ▸ ha.next?)
    refine ⟨(i.recordAttempt s).1 ++ past, ?_, ?_, fun limit => ?_⟩
    · rw [kinds_append, ha.kinds, hkinds, List.map_append]
    · rw [List.getLast?_append, ← hlast]
      cases past.getLast? with
      | none => simp [hmarks]
      | some e => rfl
    · rw [attempts_append, ha.attempts, Nat.add_assoc, Nat.add_comm, recordFrom_fst, ha.next?,
        List.append_assoc]
      exact congrArg _ (hrecord limit)

lemma Trace.dispatch_of_le (h : i.Trace s es u) {limit : Nat} (hle : limit ≤ attempts es) :
    i.dispatch limit s = none := by
  induction h generalizing limit with
  | nil s =>
    rw [Nat.le_zero.mp hle]
    rfl
  | cons first _ ih =>
    cases limit with
    | zero => rfl
    | succ limit =>
      rw [attempts_append, first.attempts, Nat.add_comm 1] at hle
      rw [first.dispatch]
      exact ih (Nat.le_of_succ_le_succ hle)

/-- Along the run from `m`, the mended bus answers as the bus does and is then the mended one of
what the bus has become. Nothing is said of a fetch that fails fatally. -/
structure Mends (i : Interpreter β) (m : Machine β) (mend : β → β) : Prop where
  fetch {es : List (LoopEvent β)} {u : LoopState β} {r : Except Fault UInt16} {bus : β} :
    i.Attempts m es u → Bus.readOpcode u.machine.bus u.machine.processor.pc = (r, bus) →
    (∀ cause, r ≠ .error (.fatal cause)) →
    Bus.readOpcode (mend u.machine.bus) u.machine.processor.pc = (r, mend bus)
  execute {es : List (LoopEvent β)} {u : LoopState β} {opcode : UInt16} {bus : β} :
    i.Attempts m es u → Bus.readOpcode u.machine.bus u.machine.processor.pc = (.ok opcode, bus) →
    i.isa.Admits opcode u.machine.processor →
    i.isa.execute opcode (InstructionSet.fetched u.machine (mend bus)) =
      (i.isa.execute opcode (InstructionSet.fetched u.machine bus)).project mend
  update {es : List (LoopEvent β)} {u : LoopState β} {opcode : UInt16} {n : Machine β} :
    i.Attempts m es u → i.isa.instruction u.machine = .done opcode n →
    (i.charged opcode n).processor.cycleCounter ≤ 0 →
    i.update ((i.charged opcode n).project mend) =
      (i.update (i.charged opcode n)).map id (Prod.map id mend)

namespace Mends

variable {mend : β → β} (mends : i.Mends m mend)
include mends

lemma instruction (at_u : i.Attempts m es u) {x : Outcome β UInt16}
    (hx : i.isa.instruction u.machine = x) (survived : ∀ cause n, x ≠ .fault (.fatal cause) n) :
    i.isa.instruction (u.machine.project mend) = x.project mend := by
  subst hx
  rcases h : Bus.readOpcode u.machine.bus u.machine.processor.pc with ⟨r, bus⟩
  have readable (cause : Fatal) : r ≠ .error (.fatal cause) := by
    rintro rfl
    exact survived _ _ (InstructionSet.instruction_of_error h)
  have h' : Bus.readOpcode (u.machine.project mend).bus (u.machine.project mend).processor.pc =
      (r, mend bus) := mends.fetch at_u h readable
  rcases r with f | opcode
  · rw [InstructionSet.instruction_of_error h, InstructionSet.instruction_of_error h']
    rfl
  · have hf : InstructionSet.fetched (u.machine.project mend) (mend bus) =
        InstructionSet.fetched u.machine (mend bus) := rfl
    have hfd : (InstructionSet.fetched u.machine (mend bus)).processor.fpuDisabled =
        (InstructionSet.fetched u.machine bus).processor.fpuDisabled := rfl
    rw [InstructionSet.instruction_of_ok h, InstructionSet.instruction_of_ok h', hf, hfd]
    by_cases hd : ((InstructionSet.fetched u.machine bus).processor.fpuDisabled &&
        i.isa.isFloatingPoint opcode) = true
    · rw [if_pos hd, if_pos hd]
      rfl
    · rw [if_neg hd, if_neg hd, mends.execute at_u h ((Bool.not_eq_true _).mp hd)]
      cases i.isa.execute opcode (InstructionSet.fetched u.machine bus) <;> rfl

lemma advance (at_u : i.Attempts m es u) {new : List (LoopEvent β)} (h : i.Advance u new t) :
    ∃ new', i.Advance (u.project mend) new' (t.project mend) := by
  cases h with
  | @instruction opcode n done left =>
    exact ⟨_, .instruction (m := n.project mend) (mends.instruction at_u done nofun) left⟩
  | @rollover opcode n p bus done used updated running =>
    have updated' : i.update (i.charged opcode (n.project mend)) = (.ok (), p, mend bus) :=
      (mends.update at_u done used).trans (by rw [updated]; rfl)
    exact ⟨_, .rollover (m := n.project mend) (mends.instruction at_u done nofun) used updated'
      running⟩
  | @exception e n raised running =>
    exact ⟨_, .exception (m := n.project mend) (mends.instruction at_u raised nofun) running⟩

lemma trace {past : List (LoopEvent β)} (at_s : i.Attempts m past s) (h : i.Trace s es u) :
    ∃ es', i.Trace (s.project mend) es' (u.project mend) ∧ attempts es' = attempts es := by
  induction h generalizing past with
  | nil s => exact ⟨[], .nil _, rfl⟩
  | cons first _ ih =>
    obtain ⟨new, hnew⟩ := mends.advance at_s first
    obtain ⟨es', htrace, hes⟩ := ih (at_s.advance first)
    refine ⟨new ++ es', .cons hnew htrace, ?_⟩
    rw [attempts_append, attempts_append, hnew.attempts, first.attempts, hes]

end Mends

/-- The loop comes to `u`, and its own fetch fails there. The run returns with the cause, on the
context that its last event has left but for the running flag, and with the counts of its events.
Where the flag was still set at `u`, a run of the mended bus from there with the flag set again ends
as the run ends that has the mended bus from the start, with the statistics of the first run added. -/
theorem failed_fetch_resumes (i : Interpreter β) (ready : i.isBound = true) {m : Machine β}
    {es : List (LoopEvent β)} {u : LoopState β} (at_u : i.Attempts m es u) {cause : Fatal}
    {bus : β} (failed : Bus.readOpcode u.machine.bus u.machine.processor.pc =
      (.error (.fatal cause), bus)) :
    let st := Statistics.ofKinds (es.map LoopEvent.kind)
    let p : Processor := { u.machine.processor with running := false }
    (∀ limit, (i.run limit m).map answer =
      if attempts es < limit then some (.error (.aborted cause st), ⟨p, bus⟩) else none) ∧
    (∀ limit, attempts es < limit → ∃ past : List (Mark β),
      (i.record limit m).1 = past ++ [.fatal cause ⟨u.machine.processor, bus⟩] ∧
      kinds past = es.map LoopEvent.kind ∧
      (past.getLast?.map Mark.machine).getD m = u.machine) ∧
    (u.isRunning = true → ∀ mend, i.Mends m mend → ∀ entries limit,
      (i.run (attempts es + limit) (m.project mend)).map answer =
        ((({ i with loopEntries := entries } : Interpreter β).run limit
          ⟨{ p with running := true }, mend u.machine.bus⟩).map answer).map
            (Prod.map st.resume id)) := by
  intro st p
  obtain ⟨running, trace⟩ := at_u
  have fatal : i.Ending u [] (.error cause) { u with machine := ⟨u.machine.processor, bus⟩ } :=
    .fatal (InstructionSet.instruction_of_error failed)
  have hst : u.stats = st := trace.stats
  refine ⟨fun limit => ?_, fun limit hlimit => ?_, fun found mend mends entries limit => ?_⟩
  · rw [run_eq ready, enterLoop_of_running running]
    split
    · rename_i hlimit
      obtain ⟨left, rfl⟩ := Nat.exists_eq_add_of_lt hlimit
      rw [Nat.add_assoc, trace.dispatch, fatal.dispatch, ← hst]
      rfl
    · rename_i hlimit
      rw [trace.dispatch_of_le (Nat.le_of_not_lt hlimit)]
      rfl
  · obtain ⟨left, rfl⟩ := Nat.exists_eq_add_of_lt hlimit
    obtain ⟨past, hkinds, hlast, hrecord⟩ := trace.exists_record
    refine ⟨past, ?_, hkinds, hlast⟩
    have hmark : (i.recordAttempt u).1 = [.fatal cause ⟨u.machine.processor, bus⟩] :=
      marks_of_fatal (InstructionSet.instruction_of_error failed)
    rw [record, if_pos running, Nat.add_assoc, hrecord, recordFrom_fst, fatal.next?, hmark]
    rfl
  · obtain ⟨es', trace', hes⟩ := mends.trace ⟨running, .nil _⟩ trace
    have hu : (⟨{ p with running := true }, mend u.machine.bus⟩ : Machine β) =
        u.machine.project mend := by
      rw [← found]
      rfl
    have hc : Continues st (u.project mend) { machine := u.machine.project mend } := by
      refine ⟨rfl, ?_⟩
      rw [Statistics.append_empty, ← hst]
      rfl
    have ready' : ({ i with loopEntries := entries } : Interpreter β).isBound = true := ready
    have running' : (m.project mend).processor.running = true := running
    rw [run_eq ready, run_eq ready', hu, enterLoop_of_running running',
      enterLoop_of_running (m := u.machine.project mend) found, dispatch_entries i entries, ← hes]
    exact (congrArg _ (trace'.dispatch limit)).trans (dispatch_resume limit hc)

end Interpreter

structure Holed (β : Type) where
  bus : β
  hole : Option UInt32

namespace Holed

instance [Bus β] : Bus (Holed β) where
  readOpcode b addr :=
    if b.hole = some addr then (.error (.fatal (.unmappedFetch addr)), b)
    else (Bus.readOpcode b.bus addr).map id fun bus => { b with bus }
  updateSystem b p := (Bus.updateSystem b.bus p).map id (Prod.map id fun bus => { b with bus })

def fill (b : Holed β) : Holed β := { b with hole := none }

variable [Bus β]

lemma readOpcode_of_hole {b : Holed β} {addr : UInt32} (h : b.hole = some addr) :
    Bus.readOpcode b addr = (.error (.fatal (.unmappedFetch addr)), b) :=
  if_pos h

lemma readOpcode_of_ne {b : Holed β} {addr : UInt32} (h : b.hole ≠ some addr) :
    Bus.readOpcode b addr = (Bus.readOpcode b.bus addr).map id fun bus => { b with bus } :=
  if_neg h

lemma fill_mends {i : Interpreter (Holed β)} (hi : i.isa = counting) (m : Machine (Holed β)) :
    i.Mends m fill where
  fetch {_ u r bus} _ h readable := by
    by_cases hole : u.machine.bus.hole = some u.machine.processor.pc
    · rw [readOpcode_of_hole hole] at h
      exact absurd (congrArg Prod.fst h).symm (readable _)
    · have hfilled : u.machine.bus.fill.hole ≠ some u.machine.processor.pc := nofun
      rw [readOpcode_of_ne hole] at h
      rw [readOpcode_of_ne hfilled]
      cases h
      rfl
  execute _ _ _ := by
    rw [hi]
    rfl
  update _ _ _ := rfl

def start : Machine (Holed Countdown) :=
  ⟨(Countdown.start 3 1).processor, { updates := 1 }, some 2⟩

end Holed

namespace Interpreter

open Holed in
theorem failed_fetch_resumes_countdown :
    let i := bound (counting : InstructionSet (Holed Countdown)) {} 1 0
    i.isBound = true ∧ ∃ es u, i.Attempts start es u ∧ attempts es = 1 ∧ u.isRunning = true ∧
      Bus.readOpcode u.machine.bus u.machine.processor.pc =
        (.error (.fatal (.unmappedFetch 2)), u.machine.bus) ∧
      (i.run 2 start).map answer = some (.error (.aborted (.unmappedFetch 2) { instructions := 1 }),
        ⟨{ u.machine.processor with running := false }, u.machine.bus⟩) ∧
      i.Mends start fill ∧
      ((i.run (1 + 3) (start.project fill)).map answer).isSome = true ∧
      (i.run (1 + 3) (start.project fill)).map answer =
        ((({ i with loopEntries := 1 } : Interpreter (Holed Countdown)).run 3
          ⟨{ u.machine.processor with running := true }, u.machine.bus.fill⟩).map answer).map
            (Prod.map ({ instructions := 1 } : Statistics).resume id) := by
  intro i
  have advanced : i.Advance { machine := start } _ _ := .instruction rfl (by decide)
  have at_u : i.Attempts start _ _ := ⟨rfl, .cons advanced (.nil _)⟩
  have mends : i.Mends start fill := fill_mends rfl start
  obtain ⟨hrun, -, hresume⟩ := failed_fetch_resumes i rfl at_u rfl
  exact ⟨rfl, _, _, at_u, rfl, rfl, rfl, hrun 2, mends, by decide,
    hresume rfl _ mends 1 3⟩

end Interpreter

end Recompiler
