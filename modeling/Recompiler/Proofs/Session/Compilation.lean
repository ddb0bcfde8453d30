import Recompiler.Proofs.Loop.Countdown
import Recompiler.Proofs.Session.Calls

/-! Compilation over a whole session of the interpreter. Every compile since the last reset of the
arena takes the next placeholder, one behind the other, until there is no room for another one. -/

namespace Recompiler

variable {β : Type}

lemma Configuration.placeholder_pos {c : Configuration} (h : c.validate = .ok ()) :
    0 < c.unitPlaceholderBytes.toNat := by
  simp only [validate] at h
  split at h
  · cases h
  split at h
  · cases h
  split at h
  · cases h
  split at h
  · cases h
  rename_i hne
  exact Nat.pos_of_ne_zero fun hzero => hne (UInt32.toNat_inj.mp hzero)

namespace CodeArena

def rooms (a : CodeArena) (size : UInt32) : Nat := a.capacity.toNat / size.toNat

structure Filled (size : UInt32) (k : Nat) (a : CodeArena) : Prop where
  cursor : a.cursor.toNat = min k (a.rooms size) * size.toNat
  blank : a.writes = []

variable {a b : CodeArena} {size len : UInt32} {k : Nat} {e : Entry}

lemma filled_of_empty (hcursor : a.cursor = 0) (blank : a.writes = []) (size : UInt32) :
    a.Filled size 0 := by
  refine ⟨?_, blank⟩
  rw [hcursor, Nat.zero_min, Nat.zero_mul]
  rfl

namespace Filled

variable (h : a.Filled size k)
include h

lemma region?_of_holds (hholds : a.Holds e len) :
    a.region? e len = some (List.replicate len.toNat 0) := by
  rw [region?, if_pos hholds]
  refine congrArg some (List.eq_replicate_iff.mpr ⟨by simp, ?_⟩)
  intro byte hbyte
  obtain ⟨n, -, rfl⟩ := List.mem_map.mp hbyte
  rw [byteAt, h.blank]
  rfl

variable (pos : 0 < size.toNat)
include pos

lemma allocate_of_fits (fits : (k + 1) * size.toNat ≤ a.capacity.toNat) :
    ∃ b, a.allocate size = .ok (a.current, b) ∧ b.capacity = a.capacity ∧
      b.generation = a.generation ∧ b.Filled size (k + 1) ∧ b.Holds a.current size ∧
      a.current.offset.toNat = k * size.toNat := by
  have hroom : k + 1 ≤ a.rooms size := (Nat.le_div_iff_mul_le pos).mpr fits
  have hcursor := h.cursor
  rw [Nat.min_eq_left (Nat.le_of_succ_le hroom)] at hcursor
  have hfree : size ≤ a.freeSpace := by
    rw [UInt32.le_iff_toNat_le, toNat_freeSpace, hcursor]
    rw [Nat.succ_mul] at fits
    omega
  obtain ⟨b, hb, hcap, hgen, hnext, -⟩ := allocate_of_le hfree
  have hholds : b.Holds a.current size := by
    refine ⟨(b.isLive_iff _).mpr ⟨hgen.symm, ?_⟩, Nat.le_of_eq hnext.symm⟩
    change a.cursor.toNat < b.cursor.toNat
    omega
  refine ⟨b, hb, hcap, hgen, ⟨?_, ?_⟩, hholds, hcursor⟩
  · rw [hnext, hcursor, rooms, hcap, ← rooms, Nat.min_eq_left hroom, Nat.succ_mul]
  · rw [writes_of_allocate hb, h.blank]

lemma allocate_of_full (full : a.capacity.toNat < (k + 1) * size.toNat) :
    a.allocate size = .error ⟨size, a.freeSpace⟩ ∧ a.Filled size (k + 1) := by
  have hroom : a.rooms size < k + 1 := (Nat.div_lt_iff_lt_mul pos).mpr full
  have hcursor := h.cursor
  rw [Nat.min_eq_right (Nat.le_of_lt_succ hroom)] at hcursor
  have hover : a.capacity.toNat < (a.rooms size + 1) * size.toNat :=
    (Nat.div_lt_iff_lt_mul pos).mp (Nat.lt_succ_self _)
  refine ⟨allocate_of_lt ?_, ⟨?_, h.blank⟩⟩
  · rw [UInt32.lt_iff_toNat_lt, toNat_freeSpace, hcursor]
    rw [Nat.succ_mul] at hover
    omega
  · rw [hcursor, Nat.min_eq_right (Nat.le_of_lt hroom)]

end Filled

end CodeArena

def CodeUnit.Row (size : UInt32) (n : Nat) (generation : UInt32) (units : List CodeUnit) : Prop :=
  units.map (fun u => (u.entry.generation, u.entry.offset.toNat, u.size)) =
    (List.range n).map fun k => (generation, k * size.toNat, size)

namespace CodeUnit.Row

variable {size : UInt32} {n : Nat} {generation : UInt32} {units : List CodeUnit}
  (h : Row size n generation units)
include h

lemma push {entry : CodeArena.Entry} (hgen : entry.generation = generation)
    (hoff : entry.offset.toNat = n * size.toNat) (addr : UInt32) :
    Row size (n + 1) generation (units ++ [⟨entry, addr, size⟩]) := by
  rw [Row] at h ⊢
  rw [List.map_append, h, List.range_succ, List.map_append, List.map_singleton, hgen, hoff]
  rfl

lemma exists_of_mem {u : CodeUnit} (hu : u ∈ units) : u.entry.generation = generation ∧
    u.size = size ∧ ∃ k < n, u.entry.offset.toNat = k * size.toNat := by
  have hmem := List.mem_map_of_mem (f := fun u : CodeUnit =>
    (u.entry.generation, u.entry.offset.toNat, u.size)) hu
  rw [h] at hmem
  obtain ⟨k, hk, heq⟩ := List.mem_map.mp hmem
  obtain ⟨hgen, hrest⟩ := Prod.mk.inj heq
  obtain ⟨hoff, hsize⟩ := Prod.mk.inj hrest
  exact ⟨hgen.symm, hsize.symm, k, List.mem_range.mp hk, hoff.symm⟩

lemma pairwise : units.Pairwise fun u v =>
    u.entry.offset.toNat + u.size.toNat ≤ v.entry.offset.toNat := by
  have hrange : ((List.range n).map fun k => (generation, k * size.toNat, size)).Pairwise
      fun x y => x.2.1 + x.2.2.toNat ≤ y.2.1 := by
    refine List.pairwise_map.mpr (List.pairwise_lt_range.imp ?_)
    intro k l hkl
    dsimp only
    rw [← Nat.succ_mul]
    exact Nat.mul_le_mul_right _ hkl
  rw [← h] at hrange
  exact List.pairwise_map.mp hrange

end CodeUnit.Row

lemma CodeUnit.not_overlaps_of_le {u v : CodeUnit}
    (h : u.entry.offset.toNat + u.size.toNat ≤ v.entry.offset.toNat) :
    u.overlaps v = false ∧ v.overlaps u = false := by
  have hbound : u.bound ≤ v.entry.offset := by
    rw [UInt32.le_iff_toNat_le, bound, Saturating.toNat_word32]
    omega
  have hlt : ¬ v.entry.offset < u.bound := UInt32.not_lt.mpr hbound
  simp [overlaps, hlt]

def Call.compiles (k : Nat) : Call β → Nat
  | .compile _ => k + 1
  | .resetArena => 0
  | _ => k

def compilesSinceReset (calls : List (Call β)) : Nat := calls.foldl Call.compiles 0

def Answer.stand (units : List CodeUnit) : Answer β → List CodeUnit
  | .compiled unit? _ => units ++ unit?.toList
  | .emptied => []
  | _ => units

def unitsSinceReset (answers : List (Answer β)) : List CodeUnit := answers.foldl Answer.stand []

lemma Call.compiles_of_guest {call : Call β} (h : call.isGuest = true) (k : Nat) :
    call.compiles k = k := by
  cases call <;> simp_all [Call.isGuest, Call.compiles]

lemma Answer.stand_of_guest {answer : Answer β} (h : answer.isGuest = true)
    (units : List CodeUnit) : answer.stand units = units := by
  cases answer <;> simp_all [Answer.isGuest, Answer.stand]

namespace Session

structure Places {σ : Type} (s : Session σ) (entry : CodeArena.Entry) (offset : Nat)
    (size : UInt32) (t : Session σ) : Prop where
  offset : entry.offset.toNat = offset
  generation : entry.generation = s.arena.generation
  kept : t.arena.generation = s.arena.generation
  live : t.arena.isLive entry = true
  zero : t.arena.region? entry size = some (List.replicate size.toNat 0)

/-- `k` compiles since the last reset have left the `units` in the arena. -/
structure Fills (c : Configuration) (k : Nat) (units : List CodeUnit)
    (s : Session (Interpreter β)) : Prop where
  ready : ∃ i, s.Ready i ∧ i.unitPlaceholderBytes = c.unitPlaceholderBytes
  capacity : s.arena.capacity = c.codeBufferBytes
  filled : s.arena.Filled c.unitPlaceholderBytes k
  row : CodeUnit.Row c.unitPlaceholderBytes (min k (s.arena.rooms c.unitPlaceholderBytes))
    s.arena.generation units

namespace Fills

variable {c : Configuration} {k : Nat} {units : List CodeUnit} {s : Session (Interpreter β)}
  (h : s.Fills c k units)
include h

lemma reset : ({ s with arena := s.arena.reset } : Session (Interpreter β)).Fills c 0 [] := by
  obtain ⟨i, ready, hsize⟩ := h.ready
  refine ⟨⟨i, ready.withArena rfl, hsize⟩, h.capacity, CodeArena.filled_of_empty rfl rfl _, ?_⟩
  rw [Nat.zero_min]
  rfl

lemma entered {i : Interpreter β} (ready : s.Ready i) (p : Processor) (n : UInt64) :
    ({ s with processor := p, selection := ⟨some { i with loopEntries := n }⟩ } :
      Session (Interpreter β)).Fills c k units := by
  obtain ⟨j, ready', hsize⟩ := h.ready
  have hj : i = j := Option.some.inj (ready.active.symm.trans ready'.active)
  exact ⟨⟨_, ready.entered p n, hj ▸ hsize⟩, h.capacity, h.filled, h.row⟩

variable [Bus β] (pos : 0 < c.unitPlaceholderBytes.toNat)
include pos

lemma compile_of_fits (block : Block)
    (fits : (k + 1) * c.unitPlaceholderBytes.toNat ≤ c.codeBufferBytes.toNat) :
    ∃ entry t, (s.compile block).value =
        (some ⟨entry, block.addr, c.unitPlaceholderBytes⟩, { block with code := some entry }, t) ∧
      s.Places entry (k * c.unitPlaceholderBytes.toNat) c.unitPlaceholderBytes t ∧
      t.Fills c (k + 1) (units ++ [⟨entry, block.addr, c.unitPlaceholderBytes⟩]) := by
  obtain ⟨i, ready, hsize⟩ := h.ready
  obtain ⟨b, hb, hcap, hgen, hfilled, hholds, hoff⟩ :=
    h.filled.allocate_of_fits pos (h.capacity ▸ fits)
  have hcompile := ready.compile block
  rw [hsize, hb] at hcompile
  refine ⟨s.arena.current, { s with arena := b }, hcompile,
    ⟨hoff, rfl, hgen, hholds.1, hfilled.region?_of_holds hholds⟩,
    ⟨i, ready.withArena (CodeArena.id_of_allocate hb), hsize⟩, hcap.trans h.capacity, hfilled, ?_⟩
  have hroom : k + 1 ≤ s.arena.rooms c.unitPlaceholderBytes :=
    (Nat.le_div_iff_mul_le pos).mpr (h.capacity ▸ fits)
  have hrooms : b.rooms c.unitPlaceholderBytes = s.arena.rooms c.unitPlaceholderBytes := by
    rw [CodeArena.rooms, hcap, CodeArena.rooms]
  have hrow := h.row
  rw [Nat.min_eq_left (Nat.le_of_succ_le hroom)] at hrow
  dsimp only
  rw [hrooms, Nat.min_eq_left hroom, hgen]
  exact hrow.push rfl hoff block.addr

lemma compile_of_full (block : Block)
    (full : c.codeBufferBytes.toNat < (k + 1) * c.unitPlaceholderBytes.toNat) :
    (s.compile block).value = (none, { block with code := none }, s) ∧
      s.Fills c (k + 1) units := by
  obtain ⟨i, ready, hsize⟩ := h.ready
  obtain ⟨hb, hfilled⟩ := h.filled.allocate_of_full pos (h.capacity ▸ full)
  have hcompile := ready.compile block
  rw [hsize, hb] at hcompile
  have hroom : s.arena.rooms c.unitPlaceholderBytes < k + 1 :=
    (Nat.div_lt_iff_lt_mul pos).mpr (h.capacity ▸ full)
  have hrow := h.row
  rw [Nat.min_eq_right (Nat.le_of_lt_succ hroom)] at hrow
  refine ⟨hcompile, ⟨i, ready, hsize⟩, h.capacity, hfilled, ?_⟩
  rw [Nat.min_eq_right (Nat.le_of_lt hroom)]
  exact hrow

end Fills

end Session

namespace Hosted

variable [Bus β] {c : Configuration} {k limit : Nat} {units : List CodeUnit}
  {h g : Hosted (Interpreter β) β} {call : Call β} {answer : Answer β}

lemma fills_of_serve (pos : 0 < c.unitPlaceholderBytes.toNat) (fills : h.session.Fills c k units)
    (hs : h.serve limit call = some (answer, g)) :
    g.session.Fills c (call.compiles k) (answer.stand units) := by
  obtain ⟨i, ready, -⟩ := fills.ready
  -- A call for the guest moves neither the arena nor the binding to it.
  cases hc : call.isGuest with
  | true =>
    obtain ⟨ha, p, n, hg⟩ := exists_of_serve_guest ready hc hs
    rw [call.compiles_of_guest hc, answer.stand_of_guest ha, hg]
    exact fills.entered ready p n
  | false =>
    cases call with
    | compile block =>
      rw [serve] at hs
      rcases Nat.lt_or_ge c.codeBufferBytes.toNat ((k + 1) * c.unitPlaceholderBytes.toNat) with
        full | fits
      · obtain ⟨hcompile, hnext⟩ := fills.compile_of_full pos block full
        rw [hcompile] at hs
        cases hs
        rw [Answer.stand, Option.toList, List.append_nil]
        exact hnext
      · obtain ⟨entry, t, hcompile, -, hnext⟩ := fills.compile_of_fits pos block fits
        rw [hcompile] at hs
        cases hs
        exact hnext
    | resetArena =>
      rw [serve_resetArena ready] at hs
      cases hs
      exact fills.reset
    | hostFault host addr =>
      rw [serve_hostFault ready] at hs
      cases hs
      exact fills
    | run _ => cases hc
    | adjust _ => cases hc
    | requestHalt => cases hc

lemma fills_of_serveAll (pos : 0 < c.unitPlaceholderBytes.toNat)
    {calls : List (Call β)} {answers : List (Answer β)} (fills : h.session.Fills c k units)
    (hs : h.serveAll limit calls = some (answers, g)) :
    g.session.Fills c (calls.foldl Call.compiles k) (answers.foldl Answer.stand units) ∧
      ∀ p bus, Answer.ran (.error .unbound) p bus ∉ answers := by
  induction calls generalizing h k units answers with
  | nil =>
    cases hs
    exact ⟨fills, fun _ _ => List.not_mem_nil⟩
  | cons call calls ih =>
    obtain ⟨answer, g', rest, hcall, hrest, rfl⟩ := exists_of_serveAll_cons hs
    obtain ⟨i, ready, -⟩ := fills.ready
    have hnext := fills_of_serve pos fills hcall
    obtain ⟨hlast, hbound⟩ := ih hnext hrest
    refine ⟨hlast, ?_⟩
    intro p bus hmem
    rcases List.mem_cons.mp hmem with rfl | hmem
    · exact not_unbound_of_serve ready hcall
    · exact hbound p bus hmem

end Hosted

namespace Session

lemma Fills.units_apart {c : Configuration} {k : Nat} {units : List CodeUnit}
    {s : Session (Interpreter β)} (h : s.Fills c k units)
    (pos : 0 < c.unitPlaceholderBytes.toNat) :
    (∀ u ∈ units, u.entry.offset.toNat + u.size.toNat ≤ c.codeBufferBytes.toNat ∧
      s.arena.isLive u.entry = true ∧
      s.arena.region? u.entry u.size = some (List.replicate u.size.toNat 0)) ∧
    units.Pairwise fun u v => u.identity ≠ v.identity ∧ u.overlaps v = false ∧
      v.overlaps u = false := by
  constructor
  · intro u hu
    obtain ⟨hgen, hsize, n, hn, hoff⟩ := h.row.exists_of_mem hu
    have hend : u.entry.offset.toNat + u.size.toNat ≤ s.arena.cursor.toNat := by
      rw [hoff, hsize, ← Nat.succ_mul, h.filled.cursor]
      exact Nat.mul_le_mul_right _ hn
    have hlive : s.arena.isLive u.entry = true := by
      refine (s.arena.isLive_iff _).mpr ⟨hgen, ?_⟩
      rw [hsize] at hend
      omega
    refine ⟨?_, hlive, h.filled.region?_of_holds ⟨hlive, hend⟩⟩
    rw [← h.capacity]
    exact Nat.le_trans hend s.arena.cursor_le
  · refine h.row.pairwise.imp_of_mem ?_
    intro u v hu _ huv
    refine ⟨?_, CodeUnit.not_overlaps_of_le huv⟩
    have hsize := (h.row.exists_of_mem hu).2.1
    intro heq
    rw [CodeUnit.identity, CodeUnit.identity] at heq
    rw [hsize, heq] at huv
    omega

variable [Bus β]

lemma Created.fills {c : Configuration} {isa : InstructionSet β} {s : Session (Interpreter β)}
    (created : s.Created c isa) : s.Fills c 0 [] := by
  obtain ⟨_, ready, -, harena⟩ := created.exists_ready
  refine ⟨⟨_, ready, rfl⟩, ?_, ?_, ?_⟩
  · rw [harena]
    rfl
  · rw [harena]
    exact CodeArena.filled_of_empty rfl rfl _
  · rw [Nat.zero_min]
    rfl

/-- Compile number `j` since the creation of the session or the last reset receives the placeholder
behind the `j - 1` ones before it, if there is room for it, and else changes nothing but the block,
which has no code then. -/
theorem compiles_exactly {c : Configuration} (valid : c.validate = .ok ()) (isa : InstructionSet β)
    (supply : CodeArena.Supply) :
    ∃ s supply' log, withInterpreter c isa supply = .ok ⟨(s, supply'), log⟩ ∧
      ∀ limit bus calls answers (h : Hosted (Interpreter β) β),
        Hosted.serveAll limit ⟨s, bus⟩ calls = some (answers, h) →
        (∀ p bus', Answer.ran (.error .unbound) p bus' ∉ answers) ∧
        (∀ block,
          let j := compilesSinceReset calls + 1
          (j * c.unitPlaceholderBytes.toNat ≤ c.codeBufferBytes.toNat → ∃ entry t,
            (h.session.compile block).value = (some ⟨entry, block.addr, c.unitPlaceholderBytes⟩,
              { block with code := some entry }, t) ∧
            h.session.Places entry ((j - 1) * c.unitPlaceholderBytes.toNat)
              c.unitPlaceholderBytes t) ∧
          (c.codeBufferBytes.toNat < j * c.unitPlaceholderBytes.toNat →
            (h.session.compile block).value = (none, { block with code := none }, h.session))) ∧
        (∀ u ∈ unitsSinceReset answers,
          u.entry.offset.toNat + u.size.toNat ≤ c.codeBufferBytes.toNat ∧
          h.session.arena.isLive u.entry = true ∧
          h.session.arena.region? u.entry u.size = some (List.replicate u.size.toNat 0)) ∧
        (unitsSinceReset answers).Pairwise fun u v => u.identity ≠ v.identity ∧
          u.overlaps v = false ∧ v.overlaps u = false := by
  have pos := c.placeholder_pos valid
  obtain ⟨s, log, hs⟩ := exists_created valid isa supply
  have created : s.Created c isa := ⟨supply, _, log, hs⟩
  refine ⟨s, _, log, hs, ?_⟩
  intro limit bus calls answers h hserved
  obtain ⟨hfills, hbound⟩ := Hosted.fills_of_serveAll pos (h := ⟨s, bus⟩) created.fills hserved
  refine ⟨hbound, ?_, hfills.units_apart pos⟩
  intro block j
  constructor
  · intro fits
    obtain ⟨entry, t, hcompile, hplaces, -⟩ := hfills.compile_of_fits pos block fits
    exact ⟨entry, t, hcompile, hplaces⟩
  · intro full
    exact (hfills.compile_of_full pos block full).1

theorem compiles_exactly_ten :
    ({ timesliceCycles := 2, codeBufferBytes := 10 } : Configuration).validate = .ok () ∧
    ∃ s supply log, withInterpreter { timesliceCycles := 2, codeBufferBytes := 10 } counting {} =
      .ok ⟨(s, supply), log⟩ ∧
      ∃ answers, ∃ h : Hosted (Interpreter Countdown) Countdown,
        Hosted.serveAll 3 ⟨s, { updates := 1 }⟩ [.compile { addr := 8 }, .resetArena,
          .compile { addr := 8 }, .run id, .compile { addr := 12 }] = some (answers, h) ∧
        ∀ block, (h.session.compile block).value =
          (none, { block with code := none }, h.session) := by
  obtain ⟨s, supply, log, hs, hall⟩ := compiles_exactly (β := Countdown)
    (c := { timesliceCycles := 2, codeBufferBytes := 10 }) rfl counting {}
  have hfinished : (Hosted.serveAll 3 (⟨s, { updates := 1 }⟩ : Hosted (Interpreter Countdown) _)
      [.compile { addr := 8 }, .resetArena, .compile { addr := 8 }, .run id,
        .compile { addr := 12 }]).isSome = true := by
    cases hs
    rfl
  obtain ⟨⟨answers, h⟩, hserved⟩ := Option.isSome_iff_exists.mp hfinished
  refine ⟨rfl, s, supply, log, hs, answers, h, hserved, ?_⟩
  intro block
  exact ((hall _ _ _ answers h hserved).2.1 block).2 (by decide)

end Session

end Recompiler
