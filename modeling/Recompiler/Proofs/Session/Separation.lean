import Recompiler.Proofs.Loop.Reentry
import Recompiler.Proofs.Session.Calls

/-! The guest and the arena of a session keep out of each other's way. What the calls for the guest
find depends on those calls alone, and so does the arena on the calls for it. -/

namespace Recompiler

variable {β : Type}

namespace CodeArena

def withId (a : CodeArena) (id : UInt64) : CodeArena := { a with id }

variable {a b : CodeArena} {len : UInt32} {e : Entry}

lemma allocate_withId_of_ok (id : UInt64) (h : a.allocate len = .ok (e, b)) :
    (a.withId id).allocate len = .ok (e, b.withId id) := by
  rw [allocate] at h
  split at h
  · rename_i hfree
    cases h
    exact dif_pos hfree
  · cases h

lemma allocate_withId_of_error (id : UInt64) {cause : Exhausted}
    (h : a.allocate len = .error cause) : (a.withId id).allocate len = .error cause := by
  rw [allocate] at h
  split at h
  · cases h
  · rename_i hfree
    cases h
    exact dif_neg hfree

end CodeArena

namespace Hosted

variable {h k g l : Hosted (Interpreter β) β} {limit : Nat} {call : Call β}
  {calls : List (Call β)} {answer : Answer β} {answers : List (Answer β)}

def guestView (r : List (Answer β) × Hosted (Interpreter β) β) : List (Answer β) × Processor × β :=
  (r.1.filter Answer.isGuest, r.2.session.processor, r.2.bus)

lemma guestView_cons_of_guest (ha : answer.isGuest = true)
    (r : List (Answer β) × Hosted (Interpreter β) β) :
    guestView (r.map (answer :: ·) id) = (guestView r).map (answer :: ·) id := by
  rw [guestView, Prod.map_fst, List.filter_cons_of_pos ha]
  rfl

lemma guestView_cons_of_arena (ha : answer.isGuest = false)
    (r : List (Answer β) × Hosted (Interpreter β) β) :
    guestView (r.map (answer :: ·) id) = guestView r := by
  rw [guestView, Prod.map_fst, List.filter_cons_of_neg (Bool.not_eq_true _ ▸ ha)]
  rfl

structure SameGuest (h k : Hosted (Interpreter β) β) : Prop where
  ready : ∃ i j, h.session.Ready i ∧ k.session.Ready j ∧ i.SamePace j
  processor : h.session.processor = k.session.processor
  bus : h.bus = k.bus

variable [Bus β]

namespace SameGuest

lemma skip (same : h.SameGuest k) (limit : Nat) (hc : call.isGuest = false) : ∃ answer g,
    h.serve limit call = some (answer, g) ∧ answer.isGuest = false ∧ g.SameGuest k := by
  obtain ⟨i, j, hi, hj, pace⟩ := same.ready
  obtain ⟨answer, arena, hs, hid, ha⟩ := exists_of_serve_arena hi limit hc
  exact ⟨answer, _, hs, ha, ⟨i, j, hi.withArena hid, hj, pace⟩, same.processor, same.bus⟩

omit [Bus β] in
lemma withProcessor (same : h.SameGuest k) (p : Processor) :
    SameGuest { h with session := { h.session with processor := p } }
      { k with session := { k.session with processor := p } } := by
  obtain ⟨i, j, hi, hj, pace⟩ := same.ready
  exact ⟨⟨i, j, ⟨hi.1, hi.2⟩, ⟨hj.1, hj.2⟩, pace⟩, rfl, same.bus⟩

lemma run (same : h.SameGuest k) (limit : Nat) (prepare : β → β) :
    h.serve limit (.run prepare) = none ∧ k.serve limit (.run prepare) = none ∨
    ∃ answer g l, h.serve limit (.run prepare) = some (answer, g) ∧
      k.serve limit (.run prepare) = some (answer, l) ∧ answer.isGuest = true ∧ g.SameGuest l := by
  obtain ⟨i, j, hi, hj, pace⟩ := same.ready
  have hrun := pace.run hi.isBound hj.isBound limit
    ⟨{ h.session.processor with running := true }, prepare h.bus⟩
  rw [serve_run hi, serve_run hj, ← same.processor, ← same.bus]
  cases hx : i.run limit ⟨{ h.session.processor with running := true }, prepare h.bus⟩ with
  | none =>
    rw [hx] at hrun
    rw [Option.map_eq_none_iff.mp hrun.symm]
    exact Or.inl ⟨rfl, rfl⟩
  | some r =>
    rw [hx] at hrun
    obtain ⟨r', hy, heq⟩ := Option.map_eq_some_iff.mp hrun.symm
    obtain ⟨n, hn⟩ := Interpreter.exists_entries_of_run hx
    obtain ⟨n', hn'⟩ := Interpreter.exists_entries_of_run hy
    obtain ⟨⟨x, m, i'⟩, log⟩ := r
    obtain ⟨⟨x', m', j'⟩, log'⟩ := r'
    cases heq
    cases hn
    cases hn'
    rw [hy]
    exact Or.inr ⟨_, _, _, rfl, rfl, rfl,
      ⟨_, _, hi.entered _ n, hj.entered _ n', pace.1, pace.2, pace.3, pace.4⟩, rfl, rfl⟩

lemma adjust (same : h.SameGuest k) (limit : Nat) (f : Processor → Processor) :
    ∃ answer g l, h.serve limit (.adjust f) = some (answer, g) ∧
      k.serve limit (.adjust f) = some (answer, l) ∧ answer.isGuest = true ∧ g.SameGuest l := by
  rw [serve, serve, Session.withProcessor, Session.withProcessor, same.processor]
  exact ⟨_, _, _, rfl, rfl, rfl, same.withProcessor _⟩

lemma step (same : h.SameGuest k) (limit : Nat) (hc : call.isGuest = true) :
    h.serve limit call = none ∧ k.serve limit call = none ∨
    ∃ answer g l, h.serve limit call = some (answer, g) ∧
      k.serve limit call = some (answer, l) ∧ answer.isGuest = true ∧ g.SameGuest l := by
  cases call with
  | compile _ => cases hc
  | resetArena => cases hc
  | hostFault _ _ => cases hc
  | run prepare => exact same.run limit prepare
  | adjust f => exact Or.inr (same.adjust limit f)
  | requestHalt => exact Or.inr (same.adjust limit fun p => { p with running := false })

lemma guestView_eq (same : h.SameGuest k) (limit : Nat) (calls : List (Call β)) :
    (h.serveAll limit calls).map guestView =
      (k.serveAll limit (calls.filter Call.isGuest)).map guestView := by
  induction calls generalizing h k with
  | nil =>
    refine congrArg some ?_
    rw [guestView, guestView, same.processor, same.bus]
  | cons call calls ih =>
    cases hc : call.isGuest with
    | false =>
      -- The other session does not make this call, and stays related to what it leaves.
      obtain ⟨answer, g, hs, ha, hg⟩ := same.skip limit hc
      rw [List.filter_cons_of_neg (Bool.not_eq_true _ ▸ hc), serveAll_cons_of_some hs,
        Option.map_map, ← ih hg]
      exact congrFun (congrArg _ (funext (guestView_cons_of_arena ha))) _
    | true =>
      rw [List.filter_cons_of_pos hc]
      rcases same.step limit hc with ⟨hs, hs'⟩ | ⟨answer, g, l, hs, hs', ha, hg⟩
      · rw [serveAll_cons_of_none hs, serveAll_cons_of_none hs']
      · rw [serveAll_cons_of_some hs, serveAll_cons_of_some hs', Option.map_map, Option.map_map]
        have hview : guestView ∘ Prod.map (answer :: ·) id =
            Prod.map (answer :: ·) id ∘ guestView (β := β) := funext (guestView_cons_of_guest ha)
        rw [hview, ← Option.map_map, ← Option.map_map, ih hg]

end SameGuest

structure SameArena (h k : Hosted (Interpreter β) β) : Prop where
  ready : ∃ i j, h.session.Ready i ∧ k.session.Ready j ∧
    i.unitPlaceholderBytes = j.unitPlaceholderBytes
  arena : h.session.arena = k.session.arena.withId h.session.arena.id

namespace SameArena

lemma skip (same : h.SameArena k) (hc : call.isGuest = true)
    (hs : h.serve limit call = some (answer, g)) : answer.isGuest = true ∧ g.SameArena k := by
  obtain ⟨i, j, hi, hj, hsize⟩ := same.ready
  obtain ⟨ha, p, n, hg⟩ := exists_of_serve_guest hi hc hs
  refine ⟨ha, ⟨{ i with loopEntries := n }, j, hg ▸ hi.entered p n, hj, hsize⟩, ?_⟩
  rw [hg]
  exact same.arena

lemma compile (same : h.SameArena k) (limit limit' : Nat) (block : Block) : ∃ answer g l,
    h.serve limit (.compile block) = some (answer, g) ∧
      k.serve limit' (.compile block) = some (answer, l) ∧ answer.isGuest = false ∧
      g.SameArena l := by
  obtain ⟨i, j, hi, hj, hsize⟩ := same.ready
  rw [serve_compile hi, serve_compile hj, ← hsize]
  have harena := same.arena
  cases hk : k.session.arena.allocate i.unitPlaceholderBytes with
  | ok r =>
    have hid := CodeArena.id_of_allocate hk
    have hh := CodeArena.allocate_withId_of_ok h.session.arena.id hk
    rw [← harena] at hh
    rw [hh]
    exact ⟨_, _, _, rfl, rfl, rfl, ⟨i, j, hi.withArena rfl, hj.withArena hid, hsize⟩, rfl⟩
  | error cause =>
    have hh := CodeArena.allocate_withId_of_error h.session.arena.id hk
    rw [← harena] at hh
    rw [hh]
    exact ⟨_, _, _, rfl, rfl, rfl, same⟩

lemma step (same : h.SameArena k) (limit limit' : Nat) (hc : call.isGuest = false) :
    ∃ answer g l, h.serve limit call = some (answer, g) ∧
      k.serve limit' call = some (answer, l) ∧ answer.isGuest = false ∧ g.SameArena l := by
  obtain ⟨i, j, hi, hj, hsize⟩ := same.ready
  cases call with
  | compile block => exact same.compile limit limit' block
  | resetArena =>
    refine ⟨_, _, _, serve_resetArena hi, serve_resetArena hj, rfl,
      ⟨i, j, hi.withArena rfl, hj.withArena rfl, hsize⟩, ?_⟩
    rw [same.arena]
    rfl
  | hostFault host addr =>
    exact ⟨_, _, _, serve_hostFault hi host addr, serve_hostFault hj host addr, rfl, same⟩
  | run _ => cases hc
  | adjust _ => cases hc
  | requestHalt => cases hc

lemma serveAll (same : h.SameArena k) (limit' : Nat)
    (hs : h.serveAll limit calls = some (answers, g)) : ∃ l,
    k.serveAll limit' (calls.filter (!·.isGuest)) = some (answers.filter (!·.isGuest), l) ∧
      g.SameArena l := by
  induction calls generalizing h k answers with
  | nil =>
    cases hs
    exact ⟨k, rfl, same⟩
  | cons call calls ih =>
    obtain ⟨answer, g', rest, hcall, hrest, rfl⟩ := exists_of_serveAll_cons hs
    cases hc : call.isGuest with
    | true =>
      obtain ⟨ha, hg⟩ := same.skip hc hcall
      rw [List.filter_cons_of_neg (by simp [hc]), List.filter_cons_of_neg (by simp [ha])]
      exact ih hg hrest
    | false =>
      obtain ⟨answer', g'', l, hh, hk, ha, hg⟩ := same.step limit limit' hc
      cases hh.symm.trans hcall
      obtain ⟨l', hl', hlast⟩ := ih hg hrest
      rw [List.filter_cons_of_pos (by simp [hc]), List.filter_cons_of_pos (by simp [ha]),
        serveAll_cons_of_some hk, hl']
      exact ⟨l', rfl, hlast⟩

end SameArena

end Hosted

namespace Session

variable [Bus β]

/-- Sessions that pace their guest alike answer the calls for the guest alike, wherever compiles,
resets and host faults stand between them. Sessions of one configuration answer the calls for the
arena alike and leave the same arena, wherever runs and changes of the processor stand between
them. -/
theorem guest_arena_separate {c c' : Configuration} {isa : InstructionSet β}
    {s s' : Session (Interpreter β)} (created : s.Created c isa) (created' : s'.Created c' isa) :
    (c'.timesliceCycles = c.timesliceCycles → c'.cyclesPerInstruction = c.cyclesPerInstruction →
      c'.exceptionDrainCycles = c.exceptionDrainCycles →
      ∀ limit bus calls calls', calls.filter Call.isGuest = calls'.filter Call.isGuest →
        (Hosted.serveAll limit ⟨s, bus⟩ calls).map Hosted.guestView =
          (Hosted.serveAll limit ⟨s', bus⟩ calls').map Hosted.guestView) ∧
    (c' = c → ∀ limit limit' bus bus' calls calls' answers answers'
        (h h' : Hosted (Interpreter β) β),
      calls.filter (!·.isGuest) = calls'.filter (!·.isGuest) →
      Hosted.serveAll limit ⟨s, bus⟩ calls = some (answers, h) →
      Hosted.serveAll limit' ⟨s', bus'⟩ calls' = some (answers', h') →
        answers.filter (!·.isGuest) = answers'.filter (!·.isGuest) ∧
          h.session.arena = { h'.session.arena with id := h.session.arena.id }) := by
  obtain ⟨supply, ready, hp, harena⟩ := created.exists_ready
  obtain ⟨supply', ready', hp', harena'⟩ := created'.exists_ready
  constructor
  · intro hslice hcost hdrain limit bus calls calls' hcalls
    have pace : (Interpreter.bound isa c supply.next 0).SamePace (.bound isa c' supply'.next 0) :=
      ⟨rfl, hslice, congrArg (max · 1) hcost, congrArg (max · 1) hdrain⟩
    have same : Hosted.SameGuest ⟨s, bus⟩ ⟨s', bus⟩ :=
      ⟨⟨_, _, ready, ready', pace⟩, by rw [hp, hp', hslice], rfl⟩
    have self : Hosted.SameGuest ⟨s', bus⟩ ⟨s', bus⟩ :=
      ⟨⟨_, _, ready', ready', .refl _⟩, rfl, rfl⟩
    rw [same.guestView_eq, hcalls, ← self.guestView_eq]
  · rintro rfl limit limit' bus bus' calls calls' answers answers' h h' hcalls hs hs'
    have same : Hosted.SameArena ⟨s, bus⟩ ⟨s', bus'⟩ :=
      ⟨⟨_, _, ready, ready', rfl⟩, by rw [harena, harena']; rfl⟩
    have self : Hosted.SameArena ⟨s', bus'⟩ ⟨s', bus'⟩ := ⟨⟨_, _, ready', ready', rfl⟩, rfl⟩
    obtain ⟨l, hl, hlast⟩ := same.serveAll limit' hs
    obtain ⟨l', hl', hlast'⟩ := self.serveAll limit' hs'
    rw [hcalls, hl'] at hl
    obtain ⟨hanswers, rfl⟩ := Prod.mk.inj (Option.some.inj hl)
    refine ⟨hanswers.symm, ?_⟩
    calc h.session.arena = l'.session.arena.withId h.session.arena.id := hlast.arena
      _ = (l'.session.arena.withId h'.session.arena.id).withId h.session.arena.id := rfl
      _ = h'.session.arena.withId h.session.arena.id := by rw [← hlast'.arena]

theorem guest_arena_separate_countdown :
    ∃ s s' : Session (Interpreter Countdown), s.Created { timesliceCycles := 2 } counting ∧
      s'.Created
        { timesliceCycles := 2, codeBufferBytes := 3, smcChecks := true, milestoneInterval := 1 }
        counting ∧
      (Hosted.serveAll 3 ⟨s, { updates := 1 }⟩ [.compile { addr := 8 }, .run id]).map
          Hosted.guestView =
        (Hosted.serveAll 3 ⟨s', { updates := 1 }⟩ [.run id, .resetArena]).map Hosted.guestView ∧
      ∃ answers answers', ∃ h h' : Hosted (Interpreter Countdown) Countdown,
        Hosted.serveAll 3 ⟨s, { updates := 1 }⟩ [.compile { addr := 8 }, .run id] =
          some (answers, h) ∧
        Hosted.serveAll 0 ⟨s, { updates := 1 }⟩ [.compile { addr := 8 }] = some (answers', h') ∧
        answers.filter (!·.isGuest) = answers'.filter (!·.isGuest) ∧
        h.session.arena = { h'.session.arena with id := h.session.arena.id } := by
  obtain ⟨s, log, hs⟩ := exists_created (β := Countdown) (c := { timesliceCycles := 2 })
    rfl counting {}
  obtain ⟨s', log', hs'⟩ := exists_created (β := Countdown)
    (c := { timesliceCycles := 2, codeBufferBytes := 3, smcChecks := true, milestoneInterval := 1 })
    rfl counting {}
  have hrun : (Hosted.serveAll 3 (⟨s, { updates := 1 }⟩ : Hosted (Interpreter Countdown) _)
      [.compile { addr := 8 }, .run id]).isSome = true := by
    cases hs
    rfl
  have hcompile : (Hosted.serveAll 0 (⟨s, { updates := 1 }⟩ : Hosted (Interpreter Countdown) _)
      [.compile { addr := 8 }]).isSome = true := rfl
  obtain ⟨⟨answers, h⟩, hrun⟩ := Option.isSome_iff_exists.mp hrun
  obtain ⟨⟨answers', h'⟩, hcompile⟩ := Option.isSome_iff_exists.mp hcompile
  have created : s.Created { timesliceCycles := 2 } counting := ⟨_, _, _, hs⟩
  have created' : s'.Created _ counting := ⟨_, _, _, hs'⟩
  have apart := (guest_arena_separate created created).2 rfl _ _ _ _ _ _ _ _ _ _ (by rfl) hrun
    hcompile
  exact ⟨s, s', created, created',
    (guest_arena_separate created created').1 rfl rfl rfl 3 _ _ _ rfl,
    answers, answers', h, h', hrun, hcompile, apart⟩

end Session

end Recompiler
