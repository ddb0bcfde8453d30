import Recompiler.Proofs.Arena.Bytes
import Recompiler.Proofs.Loop.Result
import Recompiler.Session

/-! A session in the hands of its host, which makes one call after the other. With an interpreter
for its backend, a call is either for the arena or for the guest, and leaves the rest of it. -/

namespace Recompiler

variable {σ β : Type}

lemma exists_of_foldlM_append_cons {α γ : Type} {f : α → γ → Option α} {a b : α} {x : γ}
    {l l' : List γ} (h : (l ++ x :: l').foldlM f a = some b) :
    ∃ c d, l.foldlM f a = some c ∧ f c x = some d ∧ l'.foldlM f d = some b := by
  rw [List.foldlM_append] at h
  obtain ⟨c, past, h⟩ := Option.bind_eq_some_iff.mp h
  rw [List.foldlM_cons] at h
  obtain ⟨d, now, later⟩ := Option.bind_eq_some_iff.mp h
  exact ⟨c, d, past, now, later⟩

inductive Call (β : Type) where
  | compile (block : Block)
  | resetArena
  | hostFault (host : HostState) (addr : UInt64)
  /-- On the bus that the host has made of the one left by the last run. -/
  | run (prepare : β → β)
  | adjust (f : Processor → Processor)
  | requestHalt

inductive Answer (β : Type) where
  | compiled (unit? : Option CodeUnit) (block : Block)
  | emptied
  | faulted (mended : Bool) (host : HostState)
  | ran (result : Except LoopFailure Statistics) (p : Processor) (bus : β)
  | adjusted (p : Processor)

def Call.isGuest : Call β → Bool
  | .compile _ | .resetArena | .hostFault _ _ => false
  | .run _ | .adjust _ | .requestHalt => true

def Answer.isGuest : Answer β → Bool
  | .compiled _ _ | .emptied | .faulted _ _ => false
  | .ran _ _ _ | .adjusted _ => true

structure Hosted (σ β : Type) where
  session : Session σ
  bus : β

namespace Hosted

variable [Backend σ β]

def serve (limit : Nat) (h : Hosted σ β) : Call β → Option (Answer β × Hosted σ β)
  | .compile block =>
    let (unit?, block, session) := (h.session.compile block).value
    some (.compiled unit? block, { h with session })
  | .resetArena => some (.emptied, { h with session := h.session.resetArena.value })
  | .hostFault host addr =>
    let (mended, host, session) := (h.session.handleHostFault host addr).value
    some (.faulted mended host, { h with session })
  | .run prepare => (h.session.run limit (prepare h.bus)).map fun r =>
    let (result, bus, session) := r.value
    (.ran result session.processor bus, ⟨session, bus⟩)
  | .adjust f =>
    let session := h.session.withProcessor f
    some (.adjusted session.processor, { h with session })
  | .requestHalt =>
    let session := h.session.requestHalt
    some (.adjusted session.processor, { h with session })

def serveAll (limit : Nat) : Hosted σ β → List (Call β) → Option (List (Answer β) × Hosted σ β)
  | h, [] => some ([], h)
  | h, call :: calls => (h.serve limit call).bind fun (answer, h) =>
    (serveAll limit h calls).map (Prod.map (answer :: ·) id)

variable {limit : Nat} {h h' g : Hosted σ β} {call : Call β} {calls : List (Call β)}
  {answer : Answer β} {answers : List (Answer β)}

lemma serveAll_cons_of_some (hs : h.serve limit call = some (answer, g)) :
    h.serveAll limit (call :: calls) =
      (g.serveAll limit calls).map (Prod.map (answer :: ·) id) := by
  rw [serveAll, hs, Option.bind_some]

lemma serveAll_cons_of_none (hs : h.serve limit call = none) :
    h.serveAll limit (call :: calls) = none := by
  rw [serveAll, hs]
  rfl

lemma exists_of_serveAll_cons
    (hs : h.serveAll limit (call :: calls) = some (answers, h')) :
    ∃ answer g rest, h.serve limit call = some (answer, g) ∧
      g.serveAll limit calls = some (rest, h') ∧ answers = answer :: rest := by
  obtain ⟨⟨answer, g⟩, hcall, hs⟩ := Option.bind_eq_some_iff.mp hs
  obtain ⟨⟨rest, k⟩, hrest, hs⟩ := Option.map_eq_some_iff.mp hs
  cases hs
  exact ⟨answer, g, rest, hcall, hrest, rfl⟩

end Hosted

namespace Interpreter

variable {i : Interpreter β}

lemma compile_of_bound {arena : CodeArena} (h : i.binding = some arena.id) (block : Block) :
    (i.compile arena block).value = match arena.allocate i.unitPlaceholderBytes with
      | .ok (entry, arena) => (some ⟨entry, block.addr, i.unitPlaceholderBytes⟩, arena,
        { block with code := some entry })
      | .error _ => (none, arena, { block with code := none }) := by
  simp only [compile, h, ne_eq, not_true, if_false]
  cases arena.allocate i.unitPlaceholderBytes <;> rfl

variable [Bus β]

lemma exists_entries_of_run {limit : Nat} {m : Machine β}
    {r : Logged (Except LoopFailure Statistics × Machine β × Interpreter β)}
    (h : i.run limit m = some r) : ∃ n, r.value.2.2 = { i with loopEntries := n } := by
  rw [run] at h
  split at h
  · obtain ⟨⟨_ | _, s⟩, -, rfl⟩ := Option.map_eq_some_iff.mp h <;> exact ⟨_, rfl⟩
  · cases h
    exact ⟨i.loopEntries, rfl⟩

lemma not_unbound_of_run (hb : i.isBound = true) {limit : Nat} {m : Machine β}
    {r : Logged (Except LoopFailure Statistics × Machine β × Interpreter β)}
    (h : i.run limit m = some r) : r.value.1 ≠ .error .unbound := by
  obtain ⟨e, s, -, hout⟩ := exists_loop_of_run hb h
  have hx : r.value.1 = (outcome (e, s)).1 := congrArg Prod.fst hout.symm
  rw [hx]
  rcases e with cause | _ <;> simp [outcome]

end Interpreter

structure Session.Ready (s : Session (Interpreter β)) (i : Interpreter β) : Prop where
  active : s.selection.active = some i
  binding : i.binding = some s.arena.id

namespace Session

def Created [Bus β] (s : Session (Interpreter β)) (c : Configuration) (isa : InstructionSet β) :
    Prop :=
  ∃ supply supply' log, withInterpreter c isa supply = .ok ⟨(s, supply'), log⟩

lemma exists_created [Bus β] {c : Configuration} (valid : c.validate = .ok ())
    (isa : InstructionSet β) (supply : CodeArena.Supply) :
    ∃ s log, withInterpreter c isa supply =
      .ok ⟨(s, (supply.create c.codeBufferBytes).2), log⟩ := by
  rw [withInterpreter, create, valid]
  exact ⟨_, _, rfl⟩

lemma Created.exists_ready [Bus β] {c : Configuration} {isa : InstructionSet β}
    {s : Session (Interpreter β)} (created : s.Created c isa) : ∃ supply : CodeArena.Supply,
      s.Ready (.bound isa c supply.next 0) ∧ s.processor = .withBudget c.timesliceCycles ∧
      s.arena = (supply.create c.codeBufferBytes).1 := by
  obtain ⟨supply, supply', log, hs⟩ := created
  rw [withInterpreter, create] at hs
  cases hv : c.validate with
  | error e =>
    rw [hv] at hs
    cases hs
  | ok u =>
    rw [hv] at hs
    cases hs
    exact ⟨supply, ⟨rfl, rfl⟩, rfl, rfl⟩

namespace Ready

variable {s : Session (Interpreter β)} {i : Interpreter β} (ready : s.Ready i)
include ready

lemma isBound : i.isBound = true := by
  rw [Interpreter.isBound, ready.binding]
  rfl

lemma select_eq : { s with selection := ⟨some i⟩ } = s := by
  rw [← ready.active]

lemma withArena {arena : CodeArena} (hid : arena.id = s.arena.id) :
    ({ s with arena } : Session (Interpreter β)).Ready i :=
  ⟨ready.active, ready.binding.trans (congrArg some hid.symm)⟩

lemma entered (p : Processor) (n : UInt64) :
    ({ s with processor := p, selection := ⟨some { i with loopEntries := n }⟩ } :
      Session (Interpreter β)).Ready { i with loopEntries := n } :=
  ⟨rfl, ready.binding⟩

variable [Bus β]

lemma compile (block : Block) : (s.compile block).value =
    match s.arena.allocate i.unitPlaceholderBytes with
    | .ok (entry, arena) => (some ⟨entry, block.addr, i.unitPlaceholderBytes⟩,
      { block with code := some entry }, { s with arena })
    | .error _ => (none, { block with code := none }, s) := by
  have hc : (s.compile block).value = ((i.compile s.arena block).value.1,
      (i.compile s.arena block).value.2.2,
      { s with arena := (i.compile s.arena block).value.2.1, selection := ⟨some i⟩ }) := by
    rw [Session.compile, ready.active]
    rfl
  have hs := ready.select_eq
  rw [hc, i.compile_of_bound ready.binding]
  cases s.arena.allocate i.unitPlaceholderBytes with
  | ok r => rw [← hs]
  | error cause => rw [← hs]

lemma resetArena : s.resetArena.value = { s with arena := s.arena.reset } := by
  have hr : s.resetArena.value = { s with arena := s.arena.reset, selection := ⟨some i⟩ } := by
    simp only [Session.resetArena, ready.active]
    rfl
  rw [hr, ← ready.select_eq]

lemma handleHostFault (host : HostState) (addr : UInt64) :
    (s.handleHostFault host addr).value = (false, host, s) := by
  have hf : (s.handleHostFault host addr).value =
      (false, host, { s with selection := ⟨some i⟩ }) := by
    rw [Session.handleHostFault, ready.active]
    rfl
  rw [hf, ready.select_eq]

lemma run (limit : Nat) (bus : β) : s.run limit bus =
    (i.run limit ⟨{ s.processor with running := true }, bus⟩).map fun r => do
      let (result, m, j) ← r
      return (result, m.bus, { s with processor := m.processor, selection := ⟨some j⟩ }) := by
  rw [Session.run, ready.active]
  rfl

end Ready

end Session

namespace Hosted

variable [Bus β] {limit : Nat} {h g : Hosted (Interpreter β) β} {i : Interpreter β} {call : Call β}
  {answer : Answer β} (ready : h.session.Ready i)
include ready

lemma serve_compile (block : Block) : h.serve limit (.compile block) = some
    (match h.session.arena.allocate i.unitPlaceholderBytes with
    | .ok (entry, arena) => (.compiled (some ⟨entry, block.addr, i.unitPlaceholderBytes⟩)
      { block with code := some entry }, { h with session := { h.session with arena } })
    | .error _ => (.compiled none { block with code := none }, h)) := by
  rw [serve, ready.compile]
  cases h.session.arena.allocate i.unitPlaceholderBytes <;> rfl

lemma serve_resetArena : h.serve limit .resetArena =
    some (.emptied, { h with session := { h.session with arena := h.session.arena.reset } }) := by
  rw [serve, ready.resetArena]

lemma serve_hostFault (host : HostState) (addr : UInt64) :
    h.serve limit (.hostFault host addr) = some (.faulted false host, h) := by
  rw [serve, ready.handleHostFault]

lemma serve_run (prepare : β → β) : h.serve limit (.run prepare) =
    (i.run limit ⟨{ h.session.processor with running := true }, prepare h.bus⟩).map fun r =>
      (.ran r.value.1 r.value.2.1.processor r.value.2.1.bus,
        ⟨{ h.session with
          processor := r.value.2.1.processor, selection := ⟨some r.value.2.2⟩ },
          r.value.2.1.bus⟩) := by
  rw [serve, ready.run, Option.map_map]
  rfl

lemma exists_of_serve_arena (limit : Nat) (hc : call.isGuest = false) : ∃ answer arena,
    h.serve limit call = some (answer, { h with session := { h.session with arena } }) ∧
      arena.id = h.session.arena.id ∧ answer.isGuest = false := by
  cases call with
  | compile block =>
    rw [serve_compile ready]
    cases ha : h.session.arena.allocate i.unitPlaceholderBytes with
    | ok r => exact ⟨_, _, rfl, CodeArena.id_of_allocate ha, rfl⟩
    | error cause => exact ⟨_, _, rfl, rfl, rfl⟩
  | resetArena => exact ⟨_, _, serve_resetArena ready, rfl, rfl⟩
  | hostFault host addr => exact ⟨_, _, serve_hostFault ready host addr, rfl, rfl⟩
  | run _ => cases hc
  | adjust _ => cases hc
  | requestHalt => cases hc

lemma exists_of_serve_guest (hc : call.isGuest = true)
    (hs : h.serve limit call = some (answer, g)) : answer.isGuest = true ∧
      ∃ p n, g.session =
        { h.session with processor := p, selection := ⟨some { i with loopEntries := n }⟩ } := by
  cases call with
  | compile _ => cases hc
  | resetArena => cases hc
  | hostFault _ _ => cases hc
  | run prepare =>
    rw [serve_run ready] at hs
    obtain ⟨r, hr, hs⟩ := Option.map_eq_some_iff.mp hs
    obtain ⟨n, hn⟩ := Interpreter.exists_entries_of_run hr
    cases hs
    refine ⟨rfl, r.value.2.1.processor, n, ?_⟩
    rw [← hn]
  | adjust f =>
    cases hs
    exact ⟨rfl, f h.session.processor, i.loopEntries, by rw [← ready.active]; rfl⟩
  | requestHalt =>
    cases hs
    exact ⟨rfl, _, i.loopEntries, by rw [← ready.active]; rfl⟩

lemma not_unbound_of_serve {p : Processor} {bus : β} :
    h.serve limit call ≠ some (.ran (.error .unbound) p bus, g) := by
  intro hs
  cases call with
  | compile block =>
    rw [serve_compile ready] at hs
    cases ha : h.session.arena.allocate i.unitPlaceholderBytes <;> rw [ha] at hs <;> cases hs
  | resetArena => cases hs
  | hostFault _ _ => cases hs
  | run prepare =>
    rw [serve_run ready] at hs
    obtain ⟨r, hr, hs⟩ := Option.map_eq_some_iff.mp hs
    exact Interpreter.not_unbound_of_run ready.isBound hr (Answer.ran.inj (Prod.mk.inj hs).1).1
  | adjust _ => cases hs
  | requestHalt => cases hs

end Hosted

end Recompiler
