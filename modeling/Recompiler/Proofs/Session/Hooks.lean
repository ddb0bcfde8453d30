import Recompiler.Proofs.Loop.Countdown
import Recompiler.Proofs.Session.Calls

/-! The hooks that a session calls of its backend. A backend that notes its own calls shows them as
it sees them, and the session with a record shows with each of them the arena as it then stands.
Both hold for every backend, whatever its hooks do.

Two things in a record do not come from the notes and are written into it here. A hook that is not
given the arena cannot note it, so the arena beside it is the one that the session holds at the call.
And a rejected configuration gives back no backend to read notes from, so its record is empty because
the session is left before any hook is called. -/

namespace Recompiler

variable {σ β : Type}

inductive Hook (β : Type) where
  | bindTo (p : Processor) (arena : CodeArena)
  | compile (arena : CodeArena) (block : Block) (smcChecks optimise : Bool)
  | run (m : Machine β)
  | handleFault (host : HostState)
  | mendFault (host : HostState) (addr : UInt64)
  | onArenaReset
  | canonStart (op : Ir.Operation)
  | canonParam (op : Ir.Operation) (operand : Ir.Operand) (passing : Ir.Passing)
  | canonCall (op : Ir.Operation) (f : Ir.Canonical)
  | canonFinish (op : Ir.Operation)

/-- A backend that notes the calls of its hooks. -/
structure Observed (σ β : Type) where
  backend : σ
  hooks : List (Hook β) := []

def Observed.note (b : Observed σ β) (hook : Hook β) (backend : σ) : Observed σ β :=
  ⟨backend, b.hooks ++ [hook]⟩

instance [Backend σ β] : Backend (Observed σ β) β where
  name b := Backend.name b.backend
  bindTo b p arena := b.note (.bindTo p arena) <$> Backend.bindTo b.backend p arena
  compile b arena block smcChecks optimise := do
    let hook := .compile arena block smcChecks optimise
    let (unit?, arena, block, backend) ←
      Backend.compile b.backend arena block smcChecks optimise
    return (unit?, arena, block, b.note hook backend)
  run b limit m := (Backend.run b.backend limit m).map fun r => do
    let (result, n, backend) ← r
    return (result, n, b.note (.run m) backend)
  handleFault b host := do
    let (host', backend) ← Backend.handleFault b.backend host
    return (host', b.note (.handleFault host) backend)
  mendFault b host addr := do
    let (mended, host', backend) ← Backend.mendFault b.backend host addr
    return (mended, host', b.note (.mendFault host addr) backend)
  onArenaReset b := b.note .onArenaReset <$> Backend.onArenaReset b.backend
  canonStart b op := b.note (.canonStart op) <$> Backend.canonStart b.backend op
  canonParam b op operand passing :=
    b.note (.canonParam op operand passing) <$> Backend.canonParam b.backend op operand passing
  canonCall b op f := b.note (.canonCall op f) <$> Backend.canonCall b.backend op f
  canonFinish b op := b.note (.canonFinish op) <$> Backend.canonFinish b.backend op

structure Visit (β : Type) where
  hook : Hook β
  arena : CodeArena

namespace Session

def forget (s : Session (Observed σ β)) : Session σ :=
  { s with selection := ⟨s.selection.active.map Observed.backend⟩ }

def hooks (s : Session (Observed σ β)) : List (Hook β) :=
  (s.selection.active.map Observed.hooks).getD []

section

variable {t : Session (Observed σ β)} {b : Observed σ β} (active : t.selection.active = some b)
include active

lemma hooks_of_active : t.hooks = b.hooks := by
  rw [hooks, active]
  rfl

lemma active_forget : t.forget.selection.active = some b.backend :=
  congrArg (Option.map Observed.backend) active

end

variable [Backend σ β]

def recordCreate (c : Configuration) (backend : σ) (supply : CodeArena.Supply) :
    List (Visit β) × Except Configuration.Rejection (Session σ × CodeArena.Supply) :=
  match c.validate with
  -- Written in: there is no backend whose notes could say so.
  | .error e => ([], .error e)
  | .ok () =>
    let processor := Processor.withBudget c.timesliceCycles
    let (arena, supply) := supply.create c.codeBufferBytes
    ([⟨.bindTo processor arena, arena⟩],
      .ok (⟨c, processor, arena, ⟨some (Backend.bindTo backend processor arena).value⟩⟩, supply))

lemma recordCreate_snd (c : Configuration) (backend : σ) (supply : CodeArena.Supply) :
    (recordCreate c backend supply).2 = (create c backend supply).map Logged.value := by
  rw [recordCreate, create]
  cases c.validate <;> rfl

variable {s : Session σ} {b b' : σ} {host host' : HostState} {addr : UInt64}

lemma handleHostFault_of_mended (active : s.selection.active = some b)
    (mended : (Backend.mendFault b host addr).value = (true, host', b')) :
    (s.handleHostFault host addr).value = (true, host', { s with selection := ⟨some b'⟩ }) := by
  rw [handleHostFault, active]
  dsimp only
  generalize Backend.mendFault b host addr = x at mended
  obtain ⟨v, log⟩ := x
  cases mended
  rfl

lemma handleHostFault_of_refused (active : s.selection.active = some b)
    (refused : (Backend.mendFault b host addr).value = (false, host', b')) :
    (s.handleHostFault host addr).value = (false, (Backend.handleFault b' host').value.1,
      { s with selection := ⟨some (Backend.handleFault b' host').value.2⟩ }) := by
  rw [handleHostFault, active]
  dsimp only
  generalize Backend.mendFault b host addr = x at refused
  obtain ⟨v, log⟩ := x
  cases refused
  rfl

end Session

namespace Hosted

def forget (k : Hosted (Observed σ β) β) : Hosted σ β := ⟨k.session.forget, k.bus⟩

variable [Backend σ β]

def recordWith (limit : Nat) (h : Hosted σ β) (b : σ) :
    Call β → List (Visit β) × Option (Answer β × Hosted σ β)
  | .compile block =>
    let s := h.session
    let (unit?, arena, block', b) :=
      (Backend.compile b s.arena block s.config.smcChecks s.config.optimise).value
    ([⟨.compile s.arena block s.config.smcChecks s.config.optimise, s.arena⟩],
      some (.compiled unit? block', { h with session := { s with arena, selection := ⟨some b⟩ } }))
  | .resetArena =>
    let s := { h.session with arena := h.session.arena.reset }
    let b := (Backend.onArenaReset b).value
    -- The hook is not given the arena. What stands beside it is the arena already emptied.
    ([⟨.onArenaReset, s.arena⟩],
      some (.emptied, { h with session := { s with selection := ⟨some b⟩ } }))
  | .hostFault host addr =>
    let s := h.session
    let tried : Visit β := ⟨.mendFault host addr, s.arena⟩
    match (Backend.mendFault b host addr).value with
    | (true, host, b) =>
      ([tried], some (.faulted true host, { h with session := { s with selection := ⟨some b⟩ } }))
    | (false, host, b) =>
      let (host', b) := (Backend.handleFault b host).value
      ([tried, ⟨.handleFault host, s.arena⟩],
        some (.faulted false host', { h with session := { s with selection := ⟨some b⟩ } }))
  | .run prepare =>
    let s := h.session.withProcessor fun p => { p with running := true }
    let m : Machine β := ⟨s.processor, prepare h.bus⟩
    ([⟨.run m, s.arena⟩], (Backend.run b limit m).map fun r =>
      let (result, n, b) := r.value
      (.ran result n.processor n.bus,
        ⟨{ s with processor := n.processor, selection := ⟨some b⟩ }, n.bus⟩))
  | .adjust f =>
    let s := h.session.withProcessor f
    ([], some (.adjusted s.processor, { h with session := s }))
  | .requestHalt =>
    let s := h.session.requestHalt
    ([], some (.adjusted s.processor, { h with session := s }))

def record (limit : Nat) (h : Hosted σ β) (call : Call β) :
    List (Visit β) × Option (Answer β × Hosted σ β) :=
  match h.session.selection.active with
  | some b => h.recordWith limit b call
  | none => ([], h.serve limit call)

variable {limit : Nat} {h g : Hosted σ β} {call : Call β} {answer : Answer β} {b : σ}

lemma recordWith_snd (active : h.session.selection.active = some b) :
    (h.recordWith limit b call).2 = h.serve limit call := by
  cases call with
  | compile block =>
    rw [serve, Session.compile, active]
    rfl
  | resetArena =>
    simp only [serve, Session.resetArena, active]
    rfl
  | hostFault host addr =>
    rw [serve]
    rcases hm : (Backend.mendFault b host addr).value with ⟨_ | _, host', b'⟩
    · simp only [recordWith, hm, Session.handleHostFault_of_refused active hm]
    · simp only [recordWith, hm, Session.handleHostFault_of_mended active hm]
  | run prepare =>
    rw [serve, Session.run, active]
    simp only [recordWith, Option.map_map]
    rfl
  | adjust f => rfl
  | requestHalt => rfl

lemma record_snd : (h.record limit call).2 = h.serve limit call := by
  rw [record]
  split
  · rename_i active
    exact recordWith_snd active
  · rfl

structure Drives (c : Configuration) (h : Hosted σ β) : Prop where
  config : h.session.config = c
  selected : ∃ b, h.session.selection.active = some b

lemma Drives.serve {c : Configuration} (hd : h.Drives c)
    (hs : h.serve limit call = some (answer, g)) : g.Drives c := by
  obtain ⟨b, active⟩ := hd.selected
  rw [← recordWith_snd active] at hs
  cases call with
  | hostFault host addr =>
    rw [recordWith] at hs
    rcases hm : (Backend.mendFault b host addr).value with ⟨_ | _, host', b'⟩ <;>
      rw [hm] at hs <;> cases hs <;> exact ⟨hd.config, _, rfl⟩
  | run prepare =>
    obtain ⟨r, -, hs⟩ := Option.map_eq_some_iff.mp hs
    cases hs
    exact ⟨hd.config, _, rfl⟩
  | adjust f =>
    cases hs
    exact ⟨hd.config, b, active⟩
  | requestHalt =>
    cases hs
    exact ⟨hd.config, b, active⟩
  | _ =>
    cases hs
    exact ⟨hd.config, _, rfl⟩

inductive Calls (h : Hosted σ β) : Call β → List (Visit β) → Prop
  | compile (block : Block) : Calls h (.compile block)
      [⟨.compile h.session.arena block h.session.config.smcChecks h.session.config.optimise,
        h.session.arena⟩]
  | resetArena {arena : CodeArena} (same : arena.id = h.session.arena.id) (empty : arena.cursor = 0)
      (next : arena.generation = h.session.arena.generation + 1) :
      Calls h .resetArena [⟨.onArenaReset, arena⟩]
  | run (prepare : β → β) : Calls h (.run prepare)
      [⟨.run ⟨{ h.session.processor with running := true }, prepare h.bus⟩, h.session.arena⟩]
  | mended {b b' : σ} {host host' : HostState} {addr : UInt64}
      (active : h.session.selection.active = some b)
      (mended : (Backend.mendFault b host addr).value = (true, host', b')) :
      Calls h (.hostFault host addr) [⟨.mendFault host addr, h.session.arena⟩]
  | refused {b b' : σ} {host host' : HostState} {addr : UInt64}
      (active : h.session.selection.active = some b)
      (refused : (Backend.mendFault b host addr).value = (false, host', b')) :
      Calls h (.hostFault host addr)
        [⟨.mendFault host addr, h.session.arena⟩, ⟨.handleFault host', h.session.arena⟩]
  | adjust (f : Processor → Processor) : Calls h (.adjust f) []
  | requestHalt : Calls h .requestHalt []

lemma calls_recordWith (active : h.session.selection.active = some b) :
    h.Calls call (h.recordWith limit b call).1 := by
  cases call with
  | compile block => exact .compile block
  | resetArena => exact .resetArena rfl rfl rfl
  | hostFault host addr =>
    rw [recordWith]
    rcases hm : (Backend.mendFault b host addr).value with ⟨_ | _, host', b'⟩
    · exact .refused active hm
    · exact .mended active hm
  | run prepare => exact .run prepare
  | adjust f => exact .adjust f
  | requestHalt => exact .requestHalt

def seen (r : Answer β × Hosted (Observed σ β) β) : Answer β × Hosted σ β × List (Hook β) :=
  (r.1, r.2.forget, r.2.session.hooks)

lemma recordWith_observed {k : Hosted (Observed σ β) β} {b : Observed σ β}
    (active : k.session.selection.active = some b) (limit : Nat) (call : Call β) :
    (k.recordWith limit b call).2.map seen =
      (k.forget.recordWith limit b.backend call).2.map fun r =>
        (r.1, r.2, b.hooks ++ (k.forget.recordWith limit b.backend call).1.map Visit.hook) := by
  cases call with
  | compile block => rfl
  | resetArena => rfl
  | hostFault host addr =>
    rcases hm : (Backend.mendFault b.backend host addr).value with ⟨mended, host', b'⟩
    have hm' : (Backend.mendFault b host addr).value =
        (mended, host', b.note (.mendFault host addr) b') :=
      congrArg (fun v => (v.1, v.2.1, b.note (.mendFault host addr) v.2.2)) hm
    cases mended with
    | true =>
      simp only [recordWith, hm, hm']
      rfl
    | false =>
      simp only [recordWith, hm, hm']
      exact congrArg (fun l => some (_, _, l)) (List.append_assoc _ _ _)
  | run prepare =>
    simp only [recordWith, Option.map_map]
    exact Option.map_map _ _ _
  | adjust f =>
    simp only [recordWith, Option.map_some, List.map_nil, List.append_nil,
      ← Session.hooks_of_active active]
    rfl
  | requestHalt =>
    simp only [recordWith, Option.map_some, List.map_nil, List.append_nil,
      ← Session.hooks_of_active active]
    rfl

structure Entry (σ β : Type) where
  before : Hosted σ β
  call : Call β
  visits : List (Visit β)

def Entry.hooks (e : Entry σ β) : List (Hook β) := e.visits.map Visit.hook

def recordAll (limit : Nat) :
    Hosted σ β → List (Call β) → List (Entry σ β) × Option (List (Answer β) × Hosted σ β)
  | h, [] => ([], some ([], h))
  | h, call :: calls =>
    let r := h.record limit call
    match r.2 with
    | some (answer, g) =>
      (recordAll limit g calls).map (⟨h, call, r.1⟩ :: ·) (Option.map (Prod.map (answer :: ·) id))
    | none => ([⟨h, call, r.1⟩], none)

variable {calls : List (Call β)}

lemma recordAll_of_some (hs : h.serve limit call = some (answer, g)) :
    h.recordAll limit (call :: calls) = (g.recordAll limit calls).map
      (⟨h, call, (h.record limit call).1⟩ :: ·) (Option.map (Prod.map (answer :: ·) id)) := by
  rw [recordAll, record_snd, hs]

lemma recordAll_of_none (hs : h.serve limit call = none) :
    h.recordAll limit (call :: calls) = ([⟨h, call, (h.record limit call).1⟩], none) := by
  rw [recordAll, record_snd, hs]

lemma recordAll_snd : (h.recordAll limit calls).2 = h.serveAll limit calls := by
  induction calls generalizing h with
  | nil => rfl
  | cons call calls ih =>
    rcases hs : h.serve limit call with _ | ⟨answer, g⟩
    · rw [recordAll_of_none hs, serveAll_cons_of_none hs]
    · rw [recordAll_of_some hs, serveAll_cons_of_some hs, ← ih]
      rfl

lemma recordAll_prefix : (h.recordAll limit calls).1.map Entry.call <+: calls := by
  induction calls generalizing h with
  | nil => exact List.prefix_rfl
  | cons call calls ih =>
    rcases hs : h.serve limit call with _ | ⟨answer, g⟩
    · rw [recordAll_of_none hs]
      exact List.prefix_append [call] calls
    · rw [recordAll_of_some hs]
      exact (List.prefix_cons_inj call).mpr ih

lemma calls_of_recordAll {answers : List (Answer β)}
    (hs : h.serveAll limit calls = some (answers, g)) :
    (h.recordAll limit calls).1.map Entry.call = calls := by
  induction calls generalizing h answers with
  | nil => rfl
  | cons call calls ih =>
    obtain ⟨answer, k, rest, hcall, hrest, -⟩ := exists_of_serveAll_cons hs
    rw [recordAll_of_some hcall]
    exact congrArg (call :: ·) (ih hrest)

lemma Drives.recordAll {c : Configuration} (hd : h.Drives c) {past future : List (Entry σ β)}
    {e : Entry σ β} (he : (h.recordAll limit calls).1 = past ++ e :: future) :
    (∃ answers, h.serveAll limit (past.map Entry.call) = some (answers, e.before)) ∧
      e.before.Drives c ∧ e.before.Calls e.call e.visits := by
  induction calls generalizing h past with
  | nil => cases past <;> cases he
  | cons call calls ih =>
    obtain ⟨b, active⟩ := hd.selected
    have hrecord : h.record limit call = h.recordWith limit b call := by
      rw [record, active]
    have hfirst : h.Calls call (h.record limit call).1 := hrecord ▸ calls_recordWith active
    rcases hs : h.serve limit call with _ | ⟨answer, g⟩
    · rw [recordAll_of_none hs] at he
      cases past with
      | nil =>
        cases he
        exact ⟨⟨[], rfl⟩, hd, hfirst⟩
      | cons first past => simp at he
    · rw [recordAll_of_some hs] at he
      cases past with
      | nil =>
        cases he
        exact ⟨⟨[], rfl⟩, hd, hfirst⟩
      | cons first past =>
        obtain ⟨rfl, hrest⟩ := List.cons.inj he
        obtain ⟨⟨answers, hall⟩, hrest⟩ := ih (hd.serve hs) hrest
        refine ⟨⟨answer :: answers, ?_⟩, hrest⟩
        rw [List.map_cons, serveAll_cons_of_some hs, hall]
        rfl

-- The notes do not change the answers, and they are what the record shows.
lemma serveAll_observed {k : Hosted (Observed σ β) β} {c : Configuration} (hd : k.Drives c)
    (limit : Nat) (calls : List (Call β)) :
    (k.serveAll limit calls).map (fun r => (r.1, r.2.forget, r.2.session.hooks)) =
      (k.forget.serveAll limit calls).map fun r => (r.1, r.2,
        k.session.hooks ++ (k.forget.recordAll limit calls).1.flatMap Entry.hooks) := by
  induction calls generalizing k with
  | nil => simp [serveAll, recordAll]
  | cons call calls ih =>
    obtain ⟨b, active⟩ := hd.selected
    have active' : k.forget.session.selection.active = some b.backend :=
      Session.active_forget active
    have hrecord : k.forget.record limit call = k.forget.recordWith limit b.backend call := by
      rw [record, active']
    have h := recordWith_observed active limit call
    rw [recordWith_snd active, recordWith_snd active', ← hrecord] at h
    rcases hs : k.serve limit call with _ | ⟨answer, g⟩
    · rw [hs] at h
      have hs' : k.forget.serve limit call = none := Option.map_eq_none_iff.mp h.symm
      rw [serveAll_cons_of_none hs, serveAll_cons_of_none hs']
      rfl
    · rw [hs] at h
      obtain ⟨⟨answer', g'⟩, hs', hg⟩ := Option.map_eq_some_iff.mp h.symm
      simp only [seen, Prod.mk.injEq] at hg
      obtain ⟨rfl, rfl, hnotes⟩ := hg
      have hrest := congrArg (Option.map (Prod.map (answer' :: ·) id)) (ih (hd.serve hs))
      rw [← hnotes] at hrest
      rw [serveAll_cons_of_some hs, serveAll_cons_of_some hs', recordAll_of_some hs',
        Session.hooks_of_active active]
      simp only [Option.map_map, Prod.map_fst, List.flatMap_cons, ← List.append_assoc] at hrest ⊢
      exact hrest

end Hosted

namespace Session

open Hosted

variable [Backend σ β]

lemma released (s : Session σ) : s.selection.teardown.value.1 = s.selection.active := by
  rw [Selection.teardown]
  cases s.selection.active <;> rfl

lemma exists_released {t : Session (Observed σ β)} {c : Configuration} {limit : Nat} {bus : β}
    {calls : List (Call β)} {answers : List (Answer β)} {h : Hosted σ β} {hook : Hook β}
    (drives : (⟨t, bus⟩ : Hosted _ β).Drives c) (first : t.hooks = [hook])
    (hs : serveAll limit ⟨t.forget, bus⟩ calls = some (answers, h)) :
    ∃ g b, serveAll limit ⟨t, bus⟩ calls = some (answers, g) ∧ g.forget = h ∧
      g.session.selection.teardown.value.1 = some b ∧
      g.session.teardown.value = (h.session.processor, h.session.arena) ∧
      b.hooks = hook :: (recordAll limit ⟨t.forget, bus⟩ calls).1.flatMap Entry.hooks := by
  have hseen := serveAll_observed drives limit calls
  have hforget : (⟨t, bus⟩ : Hosted _ β).forget = ⟨t.forget, bus⟩ := rfl
  rw [hforget, hs] at hseen
  obtain ⟨⟨answers', g⟩, hg, hsame⟩ := Option.map_eq_some_iff.mp hseen
  simp only [Prod.mk.injEq, first] at hsame
  obtain ⟨rfl, rfl, hhooks⟩ := hsame
  cases active : g.session.selection.active with
  | none =>
    rw [hooks, active] at hhooks
    cases hhooks
  | some b =>
    rw [hooks_of_active active] at hhooks
    exact ⟨g, b, hg, rfl, (released _).trans active, rfl, hhooks⟩

/-- A rejected configuration calls no hook. Otherwise the backend is bound once, to the reset
processor and to the arena of the session, and then sees what the calls of the host make of the
hooks, call by call in order, and nothing else until it is released. What only reads a session
leaves it the same and has no part in this. -/
theorem hooks_in_contract_order (c : Configuration) (backend : σ) (supply : CodeArena.Supply) :
    let p := Processor.withBudget c.timesliceCycles
    let arena := (supply.create c.codeBufferBytes).1
    (recordCreate c backend supply).2 = (create c backend supply).map Logged.value ∧
    (∀ e, c.validate = .error e → recordCreate c backend supply = ([], .error e)) ∧
    (c.validate = .ok () → ∃ (s : Session σ) (t : Session (Observed σ β)) (supply' : _),
      recordCreate c backend supply = ([⟨.bindTo p arena, arena⟩], .ok (s, supply')) ∧
      s.processor = p ∧ s.arena = arena ∧
      (create c (⟨backend, []⟩ : Observed σ β) supply).map Logged.value = .ok (t, supply') ∧
      t.forget = s ∧
      ∀ limit bus calls,
        let r := recordAll limit ⟨s, bus⟩ calls
        r.2 = serveAll limit ⟨s, bus⟩ calls ∧
        r.1.map Entry.call <+: calls ∧
        (∀ past e future, r.1 = past ++ e :: future →
          (∃ answers, serveAll limit ⟨s, bus⟩ (past.map Entry.call) = some (answers, e.before)) ∧
          e.before.session.config = c ∧ e.before.Calls e.call e.visits) ∧
        ∀ answers h, serveAll limit ⟨s, bus⟩ calls = some (answers, h) →
          r.1.map Entry.call = calls ∧ ∃ g b, serveAll limit ⟨t, bus⟩ calls = some (answers, g) ∧
            g.forget = h ∧ g.session.selection.teardown.value.1 = some b ∧
            g.session.teardown.value = (h.session.processor, h.session.arena) ∧
            b.hooks = .bindTo p arena :: r.1.flatMap Entry.hooks) := by
  intro p arena
  refine ⟨recordCreate_snd c backend supply, fun e rejected => ?_, fun valid => ?_⟩
  · rw [recordCreate, rejected]
  · have hobserved : (create c (⟨backend, []⟩ : Observed σ β) supply).map Logged.value = _ :=
      (recordCreate_snd c _ supply).symm
    rw [recordCreate, valid] at hobserved
    rw [recordCreate, valid]
    refine ⟨_, _, _, rfl, rfl, rfl, hobserved, rfl, ?_⟩
    intro limit bus calls r
    refine ⟨recordAll_snd, recordAll_prefix, fun past e future he => ?_, fun answers h hs => ?_⟩
    · obtain ⟨hbefore, drives, hcalls⟩ := Drives.recordAll ⟨rfl, _, rfl⟩ he
      exact ⟨hbefore, drives.config, hcalls⟩
    · exact ⟨calls_of_recordAll hs, exists_released ⟨rfl, _, rfl⟩ rfl hs⟩

def checking : Configuration := { timesliceCycles := 2, codeBufferBytes := 8, smcChecks := true }

def counter : Interpreter Countdown := .create counting checking

def errand : List (Call Countdown) :=
  [.compile { addr := 8 }, .resetArena, .run id, .hostFault ⟨0x1000, 0x2000⟩ 0x40, .requestHalt]

theorem hooks_in_contract_order_countdown :
    let arena := (({} : CodeArena.Supply).create 8).1
    recordCreate { checking with timesliceCycles := 0 } counter {} =
        ([], .error (.nonPositiveTimeslice 0)) ∧
      checking.validate = .ok () ∧ ∃ (t : Session (Observed _ Countdown)) (supply : _),
        (create checking (⟨counter, []⟩ : Observed _ Countdown) {}).map Logged.value =
          .ok (t, supply) ∧
        ∃ answers g b, serveAll 3 ⟨t, { updates := 1 }⟩ errand = some (answers, g) ∧
          g.session.selection.teardown.value.1 = some b ∧
          b.hooks = [.bindTo (.withBudget 2) arena, .compile arena { addr := 8 } true true,
            .onArenaReset, .run ⟨{ Processor.withBudget 2 with running := true }, { updates := 1 }⟩,
            .mendFault ⟨0x1000, 0x2000⟩ 0x40, .handleFault ⟨0x1000, 0x2000⟩] := by
  intro arena
  obtain ⟨-, rejected, -⟩ :=
    hooks_in_contract_order { checking with timesliceCycles := 0 } counter {}
  obtain ⟨-, -, accepted⟩ := hooks_in_contract_order checking counter {}
  obtain ⟨s, t, supply, hs, -, -, ht, -, hcalls⟩ := accepted rfl
  refine ⟨rejected _ rfl, rfl, t, supply, ht, ?_⟩
  obtain ⟨-, -, -, hserve⟩ := hcalls 3 { updates := 1 } errand
  have hrun : (serveAll 3 (⟨s, { updates := 1 }⟩ : Hosted _ Countdown) errand).isSome = true := by
    cases hs
    rfl
  obtain ⟨⟨answers, h⟩, hrun⟩ := Option.isSome_iff_exists.mp hrun
  obtain ⟨-, g, b, hg, -, hb, -, hhooks⟩ := hserve answers h hrun
  cases hs
  exact ⟨answers, g, b, hg, hb, hhooks⟩

end Session

end Recompiler
