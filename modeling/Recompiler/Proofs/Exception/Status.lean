import Mathlib.Logic.Relation
import Recompiler.Proofs.Loop.Countdown
import Recompiler.Proofs.Loop.Invariant

/-! The status register and the register that it is saved to. Writes to the one drop the reserved
bits, while the other takes any word. What an entry into an exception saves comes back whole all the
same, since the reserved bits are clear in every processor that can be reached. -/

namespace Recompiler

variable {α β : Type}

namespace Status

def Clear (v : UInt32) : Prop := v &&& ~~~active = 0

variable {v w : UInt32}

lemma clear_active (v : UInt32) : Clear (v &&& active) := by
  rw [Clear, UInt32.and_assoc, UInt32.and_not_self, UInt32.and_zero]

lemma Clear.and_active (h : Clear v) : v &&& active = v := by
  refine UInt32.toBitVec_inj.mp (BitVec.eq_of_getLsbD_eq fun k hk => ?_)
  have hbit := congrArg (·.toBitVec.getLsbD k) h
  simp only [UInt32.toBitVec_and, UInt32.toBitVec_not, BitVec.getLsbD_and, BitVec.getLsbD_not,
    hk, decide_true, Bool.true_and] at hbit ⊢
  have hzero : (0 : UInt32).toBitVec.getLsbD k = false := BitVec.getLsbD_zero
  grind

lemma clear_iff : Clear v ↔ v &&& active = v := by
  constructor
  · exact Clear.and_active
  · intro h
    rw [← h]
    exact clear_active v

lemma Clear.and (h : Clear v) (w : UInt32) : Clear (v &&& w) := by
  rw [clear_iff, UInt32.and_assoc, UInt32.and_comm w, ← UInt32.and_assoc, h.and_active]

lemma Clear.or (hv : Clear v) (hw : Clear w) : Clear (v ||| w) := by
  rw [clear_iff]
  have h : (v ||| w) &&& active = v &&& active ||| w &&& active :=
    UInt32.toBitVec_inj.mp BitVec.and_or_distrib_right
  rw [h, hv.and_active, hw.and_active]

end Status

namespace Registers

variable {r : Registers}

lemma clear_setFlag (h : Status.Clear r.sr) (flag : UInt32) (on : Bool) :
    Status.Clear (r.setFlag flag on).sr := by
  cases on with
  | true => exact h.or (Status.clear_active flag)
  | false => exact h.and _

end Registers

namespace Processor

inductive Write where
  | gpr (n : GeneralRegister) (v : UInt32)
  | fpr (n : Nat) (v : Single)
  | pc (v : UInt32)
  | sr (v : UInt32)
  | flag (flag : UInt32) (on : Bool)
  | fpscr (v : UInt32)
  | spc (v : UInt32)
  | ssr (v : UInt32)
  | sgr (v : UInt32)
  | vbr (v : UInt32)
  | expevt (v : UInt32)
  | cycleCounter (cycles : Int32)
  | running (on : Bool)

def write (p : Processor) : Write → Processor
  | .gpr n v => { p with regs := p.regs.setGpr n v }
  | .fpr n v => { p with regs := p.regs.setFpr n v }
  | .pc v => p.setPc v
  | .sr v => { p with regs := p.regs.setSr v }
  | .flag flag on => { p with regs := p.regs.setFlag flag on }
  | .fpscr v => { p with regs := { p.regs with fpscr := v } }
  | .spc v => { p with regs := { p.regs with spc := v } }
  | .ssr v => { p with regs := { p.regs with ssr := v } }
  | .sgr v => { p with regs := { p.regs with sgr := v } }
  | .vbr v => { p with regs := { p.regs with vbr := v } }
  | .expevt v => { p with regs := { p.regs with expevt := v } }
  | .cycleCounter cycles => { p with cycleCounter := cycles }
  | .running on => { p with running := on }

inductive Act : Processor → Processor → Prop
  | write (p : Processor) (w : Write) : Act p (p.write w)
  | clear (p : Processor) : Act p { p with regs := {} }
  | reset (p : Processor) : Act p p.reset
  | enter (p : Processor) (e : Exception) : Act p (e.enter p)

def Acts : Processor → Processor → Prop := Relation.ReflTransGen Act

def IsClear (p : Processor) : Prop := Status.Clear p.regs.sr

variable {p q r : Processor}

lemma Acts.trans (h : Acts p q) (h' : Acts q r) : Acts p r := Relation.ReflTransGen.trans h h'

lemma Acts.write (h : Acts p q) (w : Write) : Acts p (q.write w) := .tail h (.write q w)

lemma IsClear.write (h : p.IsClear) (w : Write) : (p.write w).IsClear := by
  cases w with
  | sr v => exact Status.clear_active v
  | flag flag on => exact Registers.clear_setFlag h flag on
  | _ => exact h

lemma isClear_reset (p : Processor) : p.reset.IsClear := Status.clear_active _

lemma IsClear.enter (h : p.IsClear) (e : Exception) : (e.enter p).IsClear :=
  Registers.clear_setFlag h _ true

lemma IsClear.act (h : p.IsClear) (hact : Act p q) : q.IsClear := by
  cases hact with
  | write w => exact h.write w
  | clear => exact Status.clear_active 0
  | reset => exact isClear_reset p
  | enter e => exact h.enter e

lemma IsClear.acts (h : p.IsClear) (hacts : Acts p q) : q.IsClear := by
  induction hacts with
  | refl => exact h
  | tail _ hact ih => exact ih.act hact

lemma Acts.of_regs (h : Acts p q) (hr : r.regs = q.regs) : Acts p r := by
  -- What else there is of a processor can be written outright.
  have hw := (h.write (.cycleCounter r.cycleCounter)).write (.running r.running)
  rw [Processor.write, Processor.write, ← hr] at hw
  exact hw

end Processor

/-- Instructions and updates do to the processor what can be done from outside and no more, and
exceptions are entered in the standard way. -/
structure InstructionSet.ActsOnly [Bus β] (isa : InstructionSet β) : Prop where
  execute : ∀ opcode m, isa.Admits opcode m.processor →
    (isa.execute opcode m).Leaves fun n => m.processor.Acts n.processor
  enterException : isa.enterException = Exception.enter
  updateSystem : ∀ (bus : β) (p : Processor), p.Acts (Bus.updateSystem bus p).2.1

def Outcome.machine? : Outcome β α → Option (Machine β)
  | .done _ m => some m
  | .fault _ m => some m
  | .unfinished => none

lemma Outcome.Leaves.of_machine? {P : Machine β → Prop} {x : Outcome β α} {m : Machine β}
    (h : x.Leaves P) (hm : x.machine? = some m) : P m := by
  cases x with
  | done _ _ =>
    cases hm
    exact h
  | fault _ _ =>
    cases hm
    exact h
  | unfinished => cases hm

section

variable [Bus β]

lemma Machine.stable_of_acts
    (updateSystem : ∀ (bus : β) (p : Processor), p.Acts (Bus.updateSystem bus p).2.1)
    (p : Processor) : Machine.Stable fun m : Machine β => p.Acts m.processor where
  counted hp h := h.of_regs hp
  advanced v h := h.write (.pc v)
  fetched _ h := h
  updated h := h.trans (updateSystem _ _)

lemma OpcodeTable.actsOnly_instructionSet {t : OpcodeTable}
    (updateSystem : ∀ (bus : β) (p : Processor), p.Acts (Bus.updateSystem bus p).2.1)
    (handlers : ∀ (p : Processor) opcode (m : Machine β), p.Acts m.processor →
      (t.handler opcode opcode).Keeps (fun n => p.Acts n.processor) m)
    (depth : Nat) : (t.instructionSet (β := β) depth).ActsOnly where
  execute opcode m hpass := (Machine.stable_of_acts updateSystem m.processor).instructionSet
    (fun opcode n _ hn => handlers m.processor opcode n hn) depth opcode m
    (admits_instructionSet.mp hpass) .refl
  enterException := by cases depth <;> rfl
  updateSystem := updateSystem

namespace InstructionSet.ActsOnly

variable {isa : InstructionSet β} (only : isa.ActsOnly)
include only

lemma stable : Machine.Stable fun m : Machine β => m.processor.IsClear where
  counted hp h := by
    rw [Processor.IsClear, hp]
    exact h
  advanced v h := h.write (.pc v)
  fetched _ h := h
  updated h := h.acts (only.updateSystem _ _)

lemma executes (opcode : UInt16) (m : Machine β) (hpass : isa.Admits opcode m.processor)
    (hm : m.processor.IsClear) : (isa.execute opcode m).Leaves fun n => n.processor.IsClear :=
  (only.execute opcode m hpass).mono fun _ hn => hm.acts hn

lemma delaySlot {m n : Machine β} (hm : m.processor.IsClear)
    (h : (isa.delaySlot m).machine? = some n) : n.processor.IsClear :=
  (only.stable.delaySlot only.executes m hm).of_machine? h

lemma enters (e : Exception) {p : Processor} (hp : p.IsClear) : (isa.enterException e p).IsClear := by
  rw [only.enterException]
  exact hp.enter e

end InstructionSet.ActsOnly

lemma Interpreter.isClear_of_run {i : Interpreter β} (only : i.isa.ActsOnly) {limit : Nat}
    {m : Machine β} {r : Logged (Except LoopFailure Statistics × Machine β × Interpreter β)}
    (hm : m.processor.IsClear) (h : i.run limit m = some r) : r.value.2.1.processor.IsClear := by
  by_cases ready : i.isBound = true
  · have hans : (i.run limit m).map answer = some (answer r) := by rw [h, Option.map_some]
    exact only.stable.run_answer (only.stable.instruction only.executes)
      (fun e _ => only.enters e) ready hm hans
  · rw [run, if_neg ready] at h
    cases h
    exact hm

end

namespace Processor

/-- The ways from one processor to another: what is done to it from outside, an exception handled,
the instruction in a delay slot executed, the guest run. -/
inductive Reaches : Processor → Processor → Prop
  | refl (p : Processor) : Reaches p p
  | act {p q r : Processor} (past : Reaches p q) (last : Act q r) : Reaches p r
  | handle {β : Type} {isa : InstructionSet β} {p q : Processor} (past : Reaches p q)
      (standard : isa.enterException = Exception.enter) (drain : Int32) (e : Exception)
      (stats : Statistics) : Reaches p (isa.dispatch drain e q stats).value.1
  | delaySlot {β : Type} [Bus β] {isa : InstructionSet β} {p : Processor} {m n : Machine β}
      (past : Reaches p m.processor) (only : isa.ActsOnly)
      (left : (isa.delaySlot m).machine? = some n) : Reaches p n.processor
  | run {β : Type} [Bus β] {i : Interpreter β} {limit : Nat} {p : Processor} {m : Machine β}
      {r : Logged (Except LoopFailure Statistics × Machine β × Interpreter β)}
      (past : Reaches p m.processor) (only : i.isa.ActsOnly)
      (ran : i.run limit m = some r) : Reaches p r.value.2.1.processor

def Reached (p : Processor) : Prop := Reaches {} p ∨ ∃ cycles, Reaches (withBudget cycles) p

variable {p q : Processor}

lemma IsClear.reaches (h : p.IsClear) (hpq : Reaches p q) : q.IsClear := by
  induction hpq with
  | refl => exact h
  | act _ last ih => exact (ih h).act last
  | @handle _ isa _ q _ standard drain e stats ih =>
    have he : (isa.dispatch drain e q stats).value.1 = (isa.enterException e q).charge drain := rfl
    rw [he, standard]
    exact (ih h).enter e
  | delaySlot _ only left ih => exact only.delaySlot (ih h) left
  | run _ only ran ih => exact Interpreter.isClear_of_run only (ih h) ran

lemma Reached.isClear (h : p.Reached) : p.IsClear := by
  rcases h with h | ⟨cycles, h⟩
  · have hstart : ({} : Processor).IsClear := rfl
    exact hstart.reaches h
  · have hstart : (withBudget cycles).IsClear := isClear_reset {}
    exact hstart.reaches h

def restore (p : Processor) (saved : UInt32) : Processor :=
  (p.write (.ssr saved)).write (.sr (p.write (.ssr saved)).regs.ssr)

lemma sr_restore (p : Processor) (saved : UInt32) :
    (p.restore saved).regs.sr = saved &&& Status.active := rfl

structure Level where
  interrupted : Processor
  cause : Exception

def Level.status (l : Level) : UInt32 := l.interrupted.regs.sr

def Level.saved (l : Level) : UInt32 := (l.cause.enter l.interrupted).regs.ssr

/-- Exceptions entered one within the other, the last one first, with any course of the processor
before, between and behind them. -/
inductive Nested : List Level → Processor → Prop
  | outermost {p : Processor} (reached : Reached p) : Nested [] p
  | enter {levels : List Level} {p : Processor} (nested : Nested levels p) (e : Exception) :
      Nested (⟨p, e⟩ :: levels) (e.enter p)
  | go {levels : List Level} {p q : Processor} (nested : Nested levels p) (onwards : Reaches p q) :
      Nested levels q

/-- The saved values are restored in turn, with any course of the processor in front of each, and
the status register is then seen as listed. -/
inductive Unwinds : Processor → List UInt32 → List UInt32 → Prop
  | done (p : Processor) : Unwinds p [] []
  | restore {p q : Processor} {saved : UInt32} {rest seen : List UInt32}
      (onwards : Reaches p q) (outer : Unwinds (q.restore saved) rest seen) :
      Unwinds p (saved :: rest) ((q.restore saved).regs.sr :: seen)

variable {levels : List Level} {seen : List UInt32}

lemma Nested.isClear (h : Nested levels p) :
    p.IsClear ∧ ∀ l ∈ levels, l.interrupted.IsClear := by
  induction h with
  | outermost reached => exact ⟨reached.isClear, by simp⟩
  | enter nested e ih => exact ⟨ih.1.enter e, List.forall_mem_cons.mpr ih⟩
  | go nested onwards ih => exact ⟨ih.1.reaches onwards, ih.2⟩

lemma Level.and_active_saved {l : Level} (h : l.interrupted.IsClear) :
    l.saved &&& Status.active = l.status := h.and_active

lemma Unwinds.seen_eq (h : Unwinds p (levels.map Level.saved) seen)
    (clear : ∀ l ∈ levels, l.interrupted.IsClear) : seen = levels.map Level.status := by
  induction levels generalizing p seen with
  | nil =>
    cases h
    rfl
  | cons l levels ih =>
    obtain ⟨hl, hlevels⟩ := List.forall_mem_cons.mp clear
    cases h with
    | restore onwards outer =>
      rw [sr_restore, Level.and_active_saved hl, ih outer hlevels, List.map_cons]

/-- Wherever the processor has got to, the reserved bits of its status register are clear, and the
status that an entry into an exception saves gives back the register as it was. So do the saved
statuses of exceptions entered one within the other, restored from the inside out. -/
theorem status_survives_exceptions :
    (∀ p : Processor, p.Reached → p.regs.sr &&& ~~~Status.active = 0 ∧
      ∀ e : Exception, ((e.enter p).regs.setSr (e.enter p).regs.ssr).sr = p.regs.sr) ∧
    ∀ levels p, Nested levels p → ∀ seen, Unwinds p (levels.map Level.saved) seen →
      seen = levels.map Level.status := by
  refine ⟨fun p reached => ⟨reached.isClear, fun e => ?_⟩, fun levels p nested seen h => ?_⟩
  · calc ((e.enter p).regs.setSr (e.enter p).regs.ssr).sr
        = p.regs.sr &&& Status.active := rfl
      _ = p.regs.sr := reached.isClear.and_active
  · exact h.seen_eq nested.isClear.2

def saturate : Descriptor × Handler :=
  ({ name := "saturate" }, fun _ => Action.modify (·.write (.sr 0xFFFFFFFF)))

def saturating : InstructionSet β where
  isFloatingPoint _ := false
  execute _ := Guest.modify (·.write (.sr 0xFFFFFFFF))

lemma entry_saturate (opcode : UInt16) :
    (OpcodeTable.empty.assign ⟨0, 0⟩ saturate.1 saturate.2).entry opcode = saturate := by
  have haccepts : Pattern.accepts ⟨0, 0⟩ opcode = true := by simp [Pattern.accepts]
  rw [OpcodeTable.entry_assign, if_pos haccepts]

section

variable {t : OpcodeTable} (hentry : ∀ opcode, t.entry opcode = saturate)
include hentry

lemma instructionSet_saturate [Bus β] : t.instructionSet (β := β) 0 = saturating := by
  rw [OpcodeTable.instructionSet, OpcodeTable.withSlot]
  simp only [OpcodeTable.descriptor, OpcodeTable.handler, hentry]
  rfl

lemma saturating_actsOnly_of_entry : (saturating : InstructionSet Countdown).ActsOnly := by
  rw [← instructionSet_saturate hentry]
  refine OpcodeTable.actsOnly_instructionSet ?_ ?_ 0
  · intro bus p
    exact Acts.write .refl (.running (1 < bus.updates))
  · intro p opcode m hm
    rw [OpcodeTable.handler, hentry]
    exact ⟨hm.write (.sr 0xFFFFFFFF), trivial⟩

end

lemma saturating_actsOnly : (saturating : InstructionSet Countdown).ActsOnly :=
  saturating_actsOnly_of_entry entry_saturate

theorem status_survives_exceptions_two :
    ∃ r, (Interpreter.bound saturating { timesliceCycles := 2 } 1 0).run 2
        ⟨(withBudget 2).write (.running true), ({ updates := 1 } : Countdown)⟩ = some r ∧
      let p := r.value.2.1.processor
      let outer : Level := ⟨p, ⟨p.pc, .tlbMissRead⟩⟩
      let q := (outer.cause.enter p).write (.sr 0)
      let inner : Level := ⟨q, ⟨q.pc, .illegalInstruction⟩⟩
      (p.Reached ∧ p.regs.sr = Status.active ∧ p.regs.sr &&& ~~~Status.active = 0) ∧
        ∃ seen, Unwinds (inner.cause.enter q) [inner.saved, outer.saved] seen ∧
          seen = [0, Status.active] := by
  have ran : (Interpreter.bound saturating { timesliceCycles := 2 } 1 0).run 2
      ⟨(withBudget 2).write (.running true), ({ updates := 1 } : Countdown)⟩ =
    some ⟨(.ok _, _, _), _⟩ := rfl
  refine ⟨_, ran, ?_⟩
  intro p outer q inner
  have started : Reaches (withBudget 2) ((withBudget 2).write (.running true)) :=
    .act (.refl _) (.write _ _)
  have reached : p.Reached := Or.inr ⟨2, .run started saturating_actsOnly ran⟩
  have entered : Nested [outer] (outer.cause.enter p) := .enter (.outermost reached) _
  have cleared : Nested [outer] q := .go entered (.act (.refl _) (.write _ _))
  have nested : Nested [inner, outer] (inner.cause.enter q) := .enter cleared _
  have unwound : Unwinds (inner.cause.enter q) [inner.saved, outer.saved] _ :=
    .restore (.refl _) (.restore (.refl _) (.done _))
  refine ⟨⟨reached, by decide, (status_survives_exceptions.1 p reached).1⟩, _, unwound, ?_⟩
  exact status_survives_exceptions.2 _ _ nested _ unwound

end Processor

end Recompiler
