import Mathlib.Data.List.Chain
import Recompiler.Proofs.Loop.Countdown
import Recompiler.Proofs.Loop.Result

/-! The loop with a record of what it does. Every event is recorded where the loop makes it, together
with the machine that it leaves. All records follow one grammar, and the end of a run can be read off
the last event of its record. -/

namespace Recompiler

variable {β : Type}

-- A fatal fault is no event of the loop. It is recorded because it ends the run.
inductive Mark (β : Type) where
  | instruction (m : Machine β)
  | exception (e : Exception) (m : Machine β)
  | rollover (r : Except Fatal Unit) (m : Machine β)
  | fatal (cause : Fatal) (m : Machine β)

namespace Mark

def machine : Mark β → Machine β
  | .instruction m => m
  | .exception _ m => m
  | .rollover _ m => m
  | .fatal _ m => m

def kind? : Mark β → Option LoopEvent.Kind
  | .instruction _ => some .instruction
  | .exception e _ => some (.exception e)
  | .rollover _ _ => some .rollover
  | .fatal _ _ => none

def IsRollover : Mark β → Prop
  | .rollover _ _ => True
  | _ => False

def Spends : Mark β → Prop
  | .instruction m => m.processor.cycleCounter ≤ 0
  | _ => False

/-- How the loop ends behind the event, if it does. Behind an instruction it goes on, whatever has
become of the running flag. -/
def verdict? : Mark β → Option (Except Fatal Unit)
  | .instruction _ => none
  | .exception _ m => if m.processor.running then none else some (.ok ())
  | .rollover (.ok ()) m => if m.processor.running then none else some (.ok ())
  | .rollover (.error cause) _ => some (.error cause)
  | .fatal cause _ => some (.error cause)

lemma not_running_of_verdict? {e : Mark β} (h : e.verdict? = some (.ok ())) :
    e.machine.processor.running = false := by
  cases e with
  | instruction m => cases h
  | exception _ m => simpa [verdict?, machine] using h
  | rollover r m =>
    rcases r with cause | _
    · cases h
    · simpa [verdict?, machine] using h
  | fatal cause m => cases h

end Mark

def kinds (es : List (Mark β)) : List LoopEvent.Kind := es.filterMap Mark.kind?

lemma kinds_append (es fs : List (Mark β)) : kinds (es ++ fs) = kinds es ++ kinds fs :=
  List.filterMap_append

def Machine.halted (m : Machine β) : Machine β :=
  { m with processor := { m.processor with running := false } }

lemma Machine.halted_of_not_running {m : Machine β} (h : m.processor.running = false) :
    m.halted = m := by
  rw [halted, ← h]

inductive Round : List (Mark β) → Progress β → Prop
  | instruction {s : LoopState β} (left : 0 < s.machine.processor.cycleCounter) :
      Round [.instruction s.machine] (.within s)
  | rollover {m : Machine β} {s : LoopState β} (used : m.processor.cycleCounter ≤ 0) :
      Round [.instruction m, .rollover (.ok ()) s.machine] (.boundary s)
  | failure {m : Machine β} {cause : Fatal} {s : LoopState β}
      (used : m.processor.cycleCounter ≤ 0) :
      Round [.instruction m, .rollover (.error cause) s.machine] (.aborted cause s)
  | exception {e : Exception} {s : LoopState β} : Round [.exception e s.machine] (.boundary s)
  | fatal {cause : Fatal} {s : LoopState β} : Round [.fatal cause s.machine] (.aborted cause s)
  | unfinished : Round [] .unfinished

lemma Round.exists_machine {es : List (Mark β)} {p : Progress β} {t : LoopState β}
    (h : Round es p) (hp : p.next? = some t) : ∃ e ∈ es, e.machine = t.machine := by
  cases h with
  | instruction _ =>
    cases hp
    exact ⟨_, List.mem_singleton_self _, rfl⟩
  | rollover _ =>
    cases (Option.ite_none_right_eq_some.mp hp).2
    exact ⟨_, List.mem_cons_of_mem _ (List.mem_singleton_self _), rfl⟩
  | exception =>
    cases (Option.ite_none_right_eq_some.mp hp).2
    exact ⟨_, List.mem_singleton_self _, rfl⟩
  | _ => cases hp

/-- The records of the loop and the machine that it returns. An instruction that leaves cycles is
followed by the next attempt, and one that leaves none by the update of the system. -/
inductive Course : List (Mark β) → Option (Except Fatal Unit × Machine β) → Prop
  | pending : Course [] none
  | instruction {m : Machine β} {es : List (Mark β)} {r : Option (Except Fatal Unit × Machine β)}
      (left : 0 < m.processor.cycleCounter) (rest : Course es r) : Course (.instruction m :: es) r
  | rollover {m n : Machine β} {es : List (Mark β)} {r : Option (Except Fatal Unit × Machine β)}
      (used : m.processor.cycleCounter ≤ 0) (running : n.processor.running = true)
      (rest : Course es r) : Course (.instruction m :: .rollover (.ok ()) n :: es) r
  | exception {e : Exception} {m : Machine β} {es : List (Mark β)}
      {r : Option (Except Fatal Unit × Machine β)} (running : m.processor.running = true)
      (rest : Course es r) : Course (.exception e m :: es) r
  | lastRollover {m n : Machine β} (used : m.processor.cycleCounter ≤ 0)
      (stopped : n.processor.running = false) :
      Course [.instruction m, .rollover (.ok ()) n] (some (.ok (), n))
  | lastException {e : Exception} {m : Machine β} (stopped : m.processor.running = false) :
      Course [.exception e m] (some (.ok (), m))
  | failure {m n : Machine β} {cause : Fatal} (used : m.processor.cycleCounter ≤ 0) :
      Course [.instruction m, .rollover (.error cause) n] (some (.error cause, n))
  | fatal (cause : Fatal) (m : Machine β) : Course [.fatal cause m] (some (.error cause, m))

namespace Course

variable {es : List (Mark β)} {r : Option (Except Fatal Unit × Machine β)}

lemma not_isRollover_head (h : Course es r) : ∀ e ∈ es.head?, ¬ e.IsRollover := by
  cases h <;> simp [Mark.IsRollover]

lemma not_spends_last (h : Course es r) : ∀ e ∈ es.getLast?, ¬ e.Spends := by
  have hcons {e : Mark β} {es : List (Mark β)} (he : ¬ e.Spends)
      (hes : ∀ f ∈ es.getLast?, ¬ f.Spends) : ∀ f ∈ (e :: es).getLast?, ¬ f.Spends := by
    rw [List.getLast?_cons]
    cases hl : es.getLast? with
    | none => simpa using he
    | some f => simpa using hes f hl
  induction h with
  | pending => simp
  | instruction left _ ih => exact hcons (Int32.not_le.mpr left) ih
  | @rollover _ n _ _ _ _ _ ih =>
    rw [List.getLast?_cons_cons]
    exact hcons (e := .rollover (.ok ()) n) not_false ih
  | exception _ _ ih => exact hcons not_false ih
  | _ => simp [Mark.Spends]

lemma rollover_iff_spends (h : Course es r) : es.IsChain fun e f => f.IsRollover ↔ e.Spends := by
  have hnext {e : Mark β} {es : List (Mark β)} {r : Option (Except Fatal Unit × Machine β)}
      (rest : Course es r) (he : ¬ e.Spends) : ∀ f ∈ es.head?, f.IsRollover ↔ e.Spends := by
    intro f hf
    exact iff_of_false (rest.not_isRollover_head f hf) he
  induction h with
  | pending => exact .nil
  | instruction left rest ih =>
    exact List.isChain_cons.mpr ⟨hnext rest (Int32.not_le.mpr left), ih⟩
  | rollover used _ rest ih =>
    refine .cons_cons (iff_of_true trivial used) (List.isChain_cons.mpr ⟨?_, ih⟩)
    exact hnext rest not_false
  | exception _ rest ih => exact List.isChain_cons.mpr ⟨hnext rest not_false, ih⟩
  | lastRollover used _ => exact .cons_cons (iff_of_true trivial used) (.singleton _)
  | lastException _ => exact .singleton _
  | failure used => exact .cons_cons (iff_of_true trivial used) (.singleton _)
  | fatal _ _ => exact .singleton _

lemma verdict?_of_pending (h : Course es none) : ∀ e ∈ es, e.verdict? = none := by
  generalize hr : none = r at h
  induction h with
  | pending => simp
  | instruction _ _ ih => exact List.forall_mem_cons.mpr ⟨rfl, ih hr⟩
  | rollover _ running _ ih =>
    exact List.forall_mem_cons.mpr ⟨rfl, List.forall_mem_cons.mpr ⟨if_pos running, ih hr⟩⟩
  | exception running _ ih => exact List.forall_mem_cons.mpr ⟨if_pos running, ih hr⟩
  | _ => cases hr

lemma exists_last {x : Except Fatal Unit} {n : Machine β} (h : Course es (some (x, n))) :
    ∃ past last, es = past ++ [last] ∧ (∀ e ∈ past, e.verdict? = none) ∧
      last.verdict? = some x ∧ last.machine = n := by
  generalize hr : some (x, n) = r at h
  induction h with
  | pending => cases hr
  | @instruction m _ _ _ _ ih =>
    obtain ⟨past, last, rfl, hpast, hlast⟩ := ih hr
    exact ⟨_ :: past, last, rfl, List.forall_mem_cons.mpr ⟨rfl, hpast⟩, hlast⟩
  | rollover _ running _ ih =>
    obtain ⟨past, last, rfl, hpast, hlast⟩ := ih hr
    exact ⟨_ :: _ :: past, last, rfl,
      List.forall_mem_cons.mpr ⟨rfl, List.forall_mem_cons.mpr ⟨if_pos running, hpast⟩⟩, hlast⟩
  | exception running _ ih =>
    obtain ⟨past, last, rfl, hpast, hlast⟩ := ih hr
    exact ⟨_ :: past, last, rfl, List.forall_mem_cons.mpr ⟨if_pos running, hpast⟩, hlast⟩
  | lastRollover _ stopped =>
    cases hr
    exact ⟨[_], _, rfl, by simp [Mark.verdict?], by simp [Mark.verdict?, stopped], rfl⟩
  | lastException stopped =>
    cases hr
    exact ⟨[], _, rfl, by simp, by simp [Mark.verdict?, stopped], rfl⟩
  | failure _ =>
    cases hr
    exact ⟨[_], _, rfl, by simp [Mark.verdict?], rfl, rfl⟩
  | fatal _ _ =>
    cases hr
    exact ⟨[], _, rfl, by simp, rfl, rfl⟩

lemma verdict?_dropLast (h : Course es r) : ∀ e ∈ es.dropLast, e.verdict? = none := by
  rcases r with _ | ⟨x, n⟩
  · exact fun e he => h.verdict?_of_pending e (List.dropLast_subset _ he)
  · obtain ⟨past, last, rfl, hpast, -⟩ := h.exists_last
    rwa [List.dropLast_concat]

end Course

namespace Interpreter

def reply : Except Fatal Unit → Statistics → Except LoopFailure Statistics
  | .ok (), st => .ok st
  | .error cause, st => .error (.aborted cause st)

lemma outcome_of_verdict {r : Except Fatal Unit} {e : Mark β} {t : LoopState β}
    (h : e.verdict? = some r) (he : e.machine = t.machine) :
    outcome (r, t) = (reply r t.stats, e.machine.halted) := by
  rw [he]
  rcases r with cause | _
  · rfl
  · rw [Machine.halted_of_not_running (he ▸ Mark.not_running_of_verdict? h)]
    rfl

variable [Bus β] (i : Interpreter β)

def recordRollover (s : LoopState β) : Mark β × Progress β :=
  let p := s.machine.processor.replenish i.timesliceCycles
  let s := { s with stats := s.stats.recordTimeslice }
  match Bus.updateSystem s.machine.bus p with
  | (.ok (), p, bus) =>
    (.rollover (.ok ()) ⟨p, bus⟩, .boundary { s with machine := ⟨p, bus⟩ })
  | (.error cause, p, bus) =>
    (.rollover (.error cause) ⟨p, bus⟩, .aborted cause { s with machine := ⟨p, bus⟩ })

def recordAttempt (s : LoopState β) : List (Mark β) × Progress β :=
  match i.step s.machine with
  | .done cost m =>
    let s := i.complete cost { s with machine := m }
    if s.machine.processor.cycleCounter ≤ 0 then
      let (mark, progress) := i.recordRollover s
      ([.instruction s.machine, mark], progress)
    else ([.instruction s.machine], .within s)
  | .fault (.exception e) m =>
    let s := i.handle e { s with machine := m }
    ([.exception e s.machine], .boundary s)
  | .fault (.fatal cause) m => ([.fatal cause m], .aborted cause { s with machine := m })
  | .unfinished => ([], .unfinished)

def recordFrom :
    (limit : Nat) → LoopState β → List (Mark β) × Option (Except Fatal Unit × LoopState β)
  | 0, _ => ([], none)
  | limit + 1, s =>
    match i.recordAttempt s with
    | (es, .within s) => (recordFrom limit s).map (es ++ ·) id
    | (es, .boundary s) =>
      if s.isRunning then (recordFrom limit s).map (es ++ ·) id else (es, some (.ok (), s))
    | (es, .aborted cause s) => (es, some (.error cause, s))
    | (es, .unfinished) => (es, none)

def record (limit : Nat) (m : Machine β) :
    List (Mark β) × Option (Except Fatal Unit × LoopState β) :=
  if m.processor.running then i.recordFrom limit { machine := m }
  else ([], some (.ok (), { machine := m }))

lemma recordRollover_snd (s : LoopState β) : (i.recordRollover s).2 = i.rollover s := by
  rw [recordRollover, rollover]
  rcases Bus.updateSystem s.machine.bus (s.machine.processor.replenish i.timesliceCycles) with
    ⟨_ | _, p, bus⟩ <;> rfl

lemma recordAttempt_snd (s : LoopState β) : (i.recordAttempt s).2 = i.attempt s := by
  rw [recordAttempt, attempt]
  rcases i.step s.machine with ⟨cost, m⟩ | ⟨e | cause, m⟩ | _
  · dsimp only
    split
    · exact i.recordRollover_snd _
    · rfl
  · rfl
  · rfl
  · rfl

lemma recordFrom_snd (limit : Nat) (s : LoopState β) :
    (i.recordFrom limit s).2 = i.dispatch limit s := by
  induction limit generalizing s with
  | zero => rfl
  | succ limit ih =>
    have hs := i.recordAttempt_snd s
    rw [recordFrom, dispatch, ← hs]
    rcases i.recordAttempt s with ⟨es, t | t | ⟨cause, t⟩ | _⟩
    · exact ih t
    · dsimp only
      split
      · exact ih t
      · rfl
    · rfl
    · rfl

lemma recordFrom_fst (limit : Nat) (s : LoopState β) :
    (i.recordFrom (limit + 1) s).1 = (i.recordAttempt s).1 ++
      match (i.attempt s).next? with
      | some t => (i.recordFrom limit t).1
      | none => [] := by
  rw [recordFrom, ← recordAttempt_snd]
  rcases i.recordAttempt s with ⟨es, t | t | ⟨cause, t⟩ | _⟩
  · rfl
  · dsimp only [Progress.next?]
    split
    · rfl
    · exact (List.append_nil es).symm
  · exact (List.append_nil es).symm
  · exact (List.append_nil es).symm

lemma round_recordAttempt (s : LoopState β) :
    Round (i.recordAttempt s).1 (i.recordAttempt s).2 := by
  rw [recordAttempt]
  rcases i.step s.machine with ⟨cost, m⟩ | ⟨e | cause, m⟩ | _
  · dsimp only
    split
    · rename_i used
      rw [recordRollover]
      dsimp only
      split
      · exact .rollover (s := { machine := ⟨_, _⟩, stats := _, log := _ }) used
      · exact .failure (s := { machine := ⟨_, _⟩, stats := _, log := _ }) used
    · rename_i left
      exact .instruction (Int32.not_le.mp left)
  · exact .exception
  · exact .fatal (s := { s with machine := m })
  · exact .unfinished

lemma course_recordFrom (limit : Nat) (s : LoopState β) :
    Course (i.recordFrom limit s).1
      ((i.recordFrom limit s).2.map (Prod.map id LoopState.machine)) := by
  induction limit generalizing s with
  | zero => exact .pending
  | succ limit ih =>
    have h := i.round_recordAttempt s
    rw [recordFrom]
    generalize i.recordAttempt s = x at h ⊢
    obtain ⟨es, p⟩ := x
    cases h with
    | instruction left => exact .instruction left (ih _)
    | rollover used =>
      dsimp only
      split
      · rename_i running
        exact .rollover used running (ih _)
      · rename_i stopped
        exact .lastRollover used ((Bool.not_eq_true _).mp stopped)
    | failure used => exact .failure used
    | exception =>
      dsimp only
      split
      · rename_i running
        exact .exception running (ih _)
      · rename_i stopped
        exact .lastException ((Bool.not_eq_true _).mp stopped)
    | fatal => exact .fatal _ _
    | unfinished => exact .pending

/-- What is recorded of an event, of a rollover what the update has made of the context. -/
inductive Records : LoopEvent β → Mark β → Prop
  | instruction (addr : UInt32) (opcode : UInt16) (m : Machine β) :
      Records (.instruction addr opcode m) (.instruction (i.charged opcode m))
  | exception (addr : UInt32) (e : Exception) (m : Machine β) :
      Records (.exception addr e m) (.exception e { m with
        processor := (i.isa.enterException e m.processor).charge i.exceptionDrainCycles })
  | rollover {m n : Machine β} {r : Except Fatal Unit}
      (updated : i.update m = (r, n.processor, n.bus)) : Records (.rollover m) (.rollover r n)

inductive Retells : List (LoopEvent β) → List (Mark β) → Prop
  | nil : Retells [] []
  | fatal (cause : Fatal) (m : Machine β) : Retells [] [.fatal cause m]
  | cons {e : LoopEvent β} {k : Mark β} {es : List (LoopEvent β)} {ks : List (Mark β)}
      (head : i.Records e k) (tail : Retells es ks) : Retells (e :: es) (k :: ks)

lemma records_rollover (s : LoopState β) :
    i.Records (.rollover s.machine) (i.recordRollover s).1 := by
  rw [recordRollover]
  rcases h : Bus.updateSystem s.machine.bus (s.machine.processor.replenish i.timesliceCycles) with
    ⟨_ | _, p, bus⟩ <;> exact .rollover h

variable {i} in
lemma Records.kind? {e : LoopEvent β} {k : Mark β} (h : i.Records e k) : k.kind? = some e.kind := by
  cases h <;> rfl

namespace Retells

variable {i} {es past : List (LoopEvent β)} {ks marks more : List (Mark β)} {e : LoopEvent β}
  {k : Mark β}

lemma kinds_cons (h : i.Records e k) (ks : List (Mark β)) : kinds (k :: ks) = e.kind :: kinds ks :=
  List.filterMap_cons_some h.kind?

lemma kinds_eq (h : i.Retells es ks) : kinds ks = es.map LoopEvent.kind := by
  induction h with
  | nil => rfl
  | fatal _ _ => rfl
  | cons head _ ih => rw [kinds_cons head, ih, List.map_cons]

lemma exists_mark {future : List (LoopEvent β)} (h : i.Retells (past ++ e :: future) ks) :
    ∃ marks k more, ks = marks ++ k :: more ∧ kinds marks = past.map LoopEvent.kind ∧
      i.Records e k := by
  induction past generalizing ks with
  | nil =>
    cases h with
    | cons head _ => exact ⟨[], _, _, rfl, rfl, head⟩
  | cons f past ih =>
    cases h with
    | cons head tail =>
      obtain ⟨marks, k, more, rfl, hkinds, he⟩ := ih tail
      refine ⟨_ :: marks, k, more, rfl, ?_, he⟩
      rw [kinds_cons head, hkinds, List.map_cons]

lemma exists_event (h : i.Retells es (marks ++ k :: more)) (hk : k.kind? ≠ none) :
    ∃ past e future, es = past ++ e :: future ∧ past.map LoopEvent.kind = kinds marks ∧
      i.Records e k := by
  induction marks generalizing es with
  | nil =>
    cases h with
    | fatal _ _ => exact absurd rfl hk
    | cons head _ => exact ⟨[], _, _, rfl, rfl, head⟩
  | cons f marks ih =>
    generalize hall : f :: marks ++ k :: more = all at h
    cases h with
    | nil => cases hall
    | fatal _ _ => simp at hall
    | cons head tail =>
      cases hall
      obtain ⟨past, e, future, rfl, hkinds, he⟩ := ih tail
      refine ⟨_ :: past, e, future, rfl, ?_, he⟩
      rw [kinds_cons head, ← hkinds, List.map_cons]

end Retells

section

variable {i} {s t : LoopState β} {es fs : List (LoopEvent β)} {opcode : UInt16} {m : Machine β}

lemma marks_of_left (done : i.isa.instruction s.machine = .done opcode m)
    (left : 0 < (i.charged opcode m).processor.cycleCounter) :
    (i.recordAttempt s).1 = [.instruction (i.charged opcode m)] := by
  rw [recordAttempt, step_apply, done]
  exact congrArg Prod.fst (if_neg (Int32.not_le.mpr left))

lemma marks_of_used (done : i.isa.instruction s.machine = .done opcode m)
    (used : (i.charged opcode m).processor.cycleCounter ≤ 0) :
    (i.recordAttempt s).1 =
      [.instruction (i.charged opcode m), (i.recordRollover (i.completed s opcode m)).1] := by
  rw [recordAttempt, step_apply, done]
  exact congrArg Prod.fst (if_pos used)

lemma marks_of_exception {e : Exception}
    (raised : i.isa.instruction s.machine = .fault (.exception e) m) :
    (i.recordAttempt s).1 = [.exception e (i.handled s e m).machine] := by
  rw [recordAttempt, step_apply, raised]
  rfl

lemma marks_of_fatal {cause : Fatal}
    (raised : i.isa.instruction s.machine = .fault (.fatal cause) m) :
    (i.recordAttempt s).1 = [.fatal cause m] := by
  rw [recordAttempt, step_apply, raised]

lemma retells_used (s : LoopState β) (addr : UInt32) (opcode : UInt16) (m : Machine β)
    {ks : List (Mark β)} (rest : i.Retells fs ks) :
    i.Retells (.instruction addr opcode m :: .rollover (i.charged opcode m) :: fs)
      (.instruction (i.charged opcode m) :: (i.recordRollover (i.completed s opcode m)).1 :: ks) :=
  .cons (.instruction addr opcode m) (.cons (i.records_rollover (i.completed s opcode m)) rest)

lemma Advance.retells (h : i.Advance s es t) {ks : List (Mark β)} (rest : i.Retells fs ks) :
    i.Retells (es ++ fs) ((i.recordAttempt s).1 ++ ks) := by
  cases h with
  | @instruction opcode m done left =>
    rw [marks_of_left done left]
    exact .cons (.instruction _ opcode m) rest
  | @rollover opcode m p bus done used _ _ =>
    rw [marks_of_used done used]
    exact retells_used s _ opcode m rest
  | @exception e m raised _ =>
    rw [marks_of_exception raised]
    exact .cons (.exception _ e m) rest

lemma Advance.kinds (h : i.Advance s es t) :
    kinds (i.recordAttempt s).1 = es.map LoopEvent.kind := by
  have hk := (h.retells .nil).kinds_eq
  rwa [List.append_nil, List.append_nil] at hk

lemma Ending.retells {r : Except Fatal Unit} (h : i.Ending s es r t) :
    i.Retells es (i.recordAttempt s).1 := by
  cases h with
  | @rollover opcode m p bus done used _ _ =>
    rw [marks_of_used done used]
    exact retells_used s _ opcode m .nil
  | @failed opcode m cause p bus done used _ =>
    rw [marks_of_used done used]
    exact retells_used s _ opcode m .nil
  | @exception e m raised _ =>
    rw [marks_of_exception raised]
    exact .cons (.exception _ e m) .nil
  | @fatal cause m raised =>
    rw [marks_of_fatal raised]
    exact .fatal cause m

end

lemma retells_recordFrom (limit : Nat) (s : LoopState β) :
    i.Retells (i.historyFrom limit s) (i.recordFrom limit s).1 := by
  induction limit generalizing s with
  | zero => exact .nil
  | succ limit ih =>
    rcases i.attempt_cases s with ⟨es, t, h⟩ | ⟨es, r, t, h⟩ | h
    · rw [recordFrom_fst, h.history, h.next?]
      exact h.retells (ih t)
    · rw [recordFrom_fst, h.history, h.next?, List.append_nil]
      exact h.retells
    · rw [recordFrom, recordAttempt, step_apply, historyFrom_of_unfinished h, h]
      exact .nil

variable {i} {limit : Nat} {m n : Machine β}

lemma record_snd : (i.record limit m).2 = i.enterLoop limit m := by
  rw [record, enterLoop]
  split
  · exact i.recordFrom_snd limit _
  · rfl

lemma course_record (running : m.processor.running = true) :
    Course (i.record limit m).1
      ((i.record limit m).2.map (Prod.map id LoopState.machine)) := by
  rw [record, if_pos running]
  exact i.course_recordFrom limit _

lemma retells_record : i.Retells (i.history limit m) (i.record limit m).1 := by
  rw [record, history]
  split
  · exact i.retells_recordFrom limit _
  · exact .nil

lemma kinds_record : kinds (i.record limit m).1 = (i.history limit m).map LoopEvent.kind :=
  retells_record.kinds_eq

lemma run_answer_iff (ready : i.isBound = true) (running : m.processor.running = true)
    {x : Except LoopFailure Statistics} :
    (i.run limit m).map answer = some (x, n) ↔
      ∃ e r, (i.record limit m).1.getLast? = some e ∧ e.verdict? = some r ∧
        x = reply r (.ofKinds (kinds (i.record limit m).1)) ∧ n = e.machine.halted := by
  have hcourse : Course (i.record limit m).1 _ := course_record running
  rw [run_eq ready, ← record_snd]
  rcases hr : (i.record limit m).2 with _ | ⟨r, t⟩
  · rw [hr] at hcourse
    refine iff_of_false (by simp) ?_
    rintro ⟨e, r, he, hv, -⟩
    have hnone := hcourse.verdict?_of_pending e (List.mem_of_getLast? he)
    rw [hnone] at hv
    cases hv
  · rw [hr] at hcourse
    obtain ⟨past, last, hes, -, hv, hm⟩ := hcourse.exists_last (x := r) (n := t.machine)
    have hst := stats_of_enterLoop (record_snd.symm.trans hr)
    have hlast : (i.record limit m).1.getLast? = some last := by
      rw [hes, List.getLast?_concat]
    rw [Option.map_some, outcome_of_verdict hv hm, hst, ← kinds_record, hlast]
    constructor
    · intro h
      cases h
      exact ⟨last, r, rfl, hv, rfl, rfl⟩
    · rintro ⟨e, r', he, hv', rfl, rfl⟩
      cases he
      cases hv.symm.trans hv'
      rfl

/-- A run counts its events and returns the counts. An update follows every instruction that leaves
the timeslice used up, and nothing else. The running flag ends the run behind an update or an
exception, a fatal fault or a failed update aborts it, and nothing is executed behind either. -/
theorem run_event_discipline (i : Interpreter β) (ready : i.isBound = true) {m : Machine β}
    (running : m.processor.running = true) (limit : Nat) :
    let es := (i.record limit m).1
    (i.record limit m).2 = i.enterLoop limit m ∧
    (∃ st : Statistics,
      st.instructions.toNat = min ((kinds es).count .instruction) (UInt64.size - 1) ∧
      st.exceptions.toNat = min ((kinds es).countP LoopEvent.Kind.isException) (UInt64.size - 1) ∧
      st.timeslices.toNat = min ((kinds es).count .rollover) (UInt64.size - 1) ∧
      st.lastException = ((kinds es).filterMap LoopEvent.Kind.exception?).getLast? ∧
      ∀ x n, (i.run limit m).map answer = some (x, n) ↔
        ∃ e r, es.getLast? = some e ∧ e.verdict? = some r ∧ x = reply r st ∧
          n = e.machine.halted) ∧
    (∀ e ∈ es.dropLast, e.verdict? = none) ∧
    es.IsChain (fun e f => f.IsRollover ↔ e.Spends) ∧
    (∀ e ∈ es.head?, ¬ e.IsRollover) ∧ ∀ e ∈ es.getLast?, ¬ e.Spends := by
  intro es
  have hcourse : Course es _ := course_record running
  refine ⟨record_snd, ⟨.ofKinds (kinds es), ?_, ?_, ?_, ?_, ?_⟩, hcourse.verdict?_dropLast,
    hcourse.rollover_iff_spends, hcourse.not_isRollover_head, hcourse.not_spends_last⟩
  · rw [Statistics.instructions_ofKinds, Saturating.toNat_word64]
  · rw [Statistics.exceptions_ofKinds, Saturating.toNat_word64]
  · rw [Statistics.timeslices_ofKinds, Saturating.toNat_word64]
  · exact Statistics.lastException_ofKinds _
  · exact fun x n => run_answer_iff ready running

theorem run_event_discipline_countdown :
    let i := bound (counting : InstructionSet Countdown) {} 1 0
    let es := (i.record 4 (Countdown.start 3 1)).1
    i.isBound = true ∧ (Countdown.start 3 1).processor.running = true ∧
      kinds es = [.instruction, .instruction, .exception ⟨4, .tlbMissRead⟩, .instruction, .rollover] ∧
      (i.record 4 (Countdown.start 3 1)).2 = i.enterLoop 4 (Countdown.start 3 1) ∧
      ∀ e ∈ es.dropLast, e.verdict? = none :=
  have h := run_event_discipline (bound (counting : InstructionSet Countdown) {} 1 0) rfl
    (m := Countdown.start 3 1) rfl 4
  ⟨rfl, rfl, rfl, h.1, h.2.2.1⟩

end Interpreter

end Recompiler
