import Recompiler.Proofs.Loop.Countdown
import Recompiler.Proofs.Session.Calls

/-! Several arenas and several interpreters in the hands of one host, which does one job after the
other with them. An interpreter compiles into the arena that it was bound to last, and no job
touches more than the arena and the interpreter that it names. -/

namespace Recompiler

variable {β : Type}

structure Workshop (β : Type) where
  supply : CodeArena.Supply := {}
  arenas : List CodeArena := []
  backends : List (Interpreter β) := []

inductive Job (β : Type) where
  | engage (isa : InstructionSet β) (c : Configuration)
  | create (capacity : UInt32)
  | bind (backend arena : Nat) (p : Processor)
  | allocate (arena : Nat) (len : UInt32)
  | write (arena : Nat) (e : CodeArena.Entry) (len : UInt32) (data : List UInt8)
  | reset (arena : Nat)
  | noticeReset (backend : Nat)
  | compile (backend arena : Nat) (block : Block) (smcChecks optimise : Bool)

namespace Job

def isCreate : Job β → Bool
  | .create _ => true
  | _ => false

def boundBy? (j : Nat) : Job β → Option Nat
  | .bind j' k _ => if j' = j then some k else none
  | _ => none

end Job

def CodeArena.Supply.nth (first : CodeArena.Supply) (k : Nat) : UInt64 :=
  first.next + UInt64.ofNat k

lemma CodeArena.Supply.nth_succ (first : CodeArena.Supply) (k : Nat) :
    first.nth (k + 1) = first.nth k + 1 := by
  rw [nth, nth, UInt64.ofNat_add, UInt64.add_assoc]
  rfl

lemma CodeArena.Supply.nth_inj (first : CodeArena.Supply) {k l : Nat} (hk : k < UInt64.size)
    (hl : l < UInt64.size) : first.nth k = first.nth l ↔ k = l := by
  rw [nth, nth, UInt64.add_right_inj, ← UInt64.toNat_inj, UInt64.toNat_ofNat_of_lt' hk,
    UInt64.toNat_ofNat_of_lt' hl]

lemma map_set_eq {α γ : Type} {f : α → γ} {l : List α} {k : Nat} {a b : α} (h : l[k]? = some a)
    (hb : f b = f a) : (l.set k b).map f = l.map f := by
  obtain ⟨hlt, rfl⟩ := List.getElem?_eq_some_iff.mp h
  have hlt' : k < (l.map f).length := by rwa [List.length_map]
  have hself : (l.map f).set k (l.map f)[k] = l.map f := List.set_getElem_self hlt'
  rwa [List.map_set, hb, ← List.getElem_map f]

namespace Workshop

def created (jobs : List (Job β)) : Nat := jobs.countP Job.isCreate

def lastBound? (jobs : List (Job β)) (j : Nat) : Option Nat :=
  (jobs.filterMap (Job.boundBy? j)).getLast?

section

variable (jobs : List (Job β)) (job : Job β)

lemma created_snoc : created (jobs ++ [job]) =
    created jobs + if job.isCreate then 1 else 0 := by
  rw [created, List.countP_append, List.countP_singleton, created]

lemma lastBound?_snoc (j : Nat) :
    lastBound? (jobs ++ [job]) j = (job.boundBy? j).or (lastBound? jobs j) := by
  rw [lastBound?, List.filterMap_append, List.getLast?_append, lastBound?]
  congr 1
  cases h : job.boundBy? j <;> simp [h]

variable {job}

lemma created_snoc_of_other (other : job.isCreate = false) :
    created (jobs ++ [job]) = created jobs := by
  rw [created_snoc, other]
  rfl

lemma lastBound?_snoc_of_quiet (quiet : ∀ j, job.boundBy? j = none) :
    lastBound? (jobs ++ [job]) = lastBound? jobs := by
  funext j
  rw [lastBound?_snoc, quiet, Option.none_or]

end

def exchange (w : Workshop β) (k : Nat) (f : CodeArena → CodeArena) : Option (Workshop β) :=
  w.arenas[k]?.map fun a => { w with arenas := w.arenas.set k (f a) }

variable [Bus β]

-- Nothing can be done with what has not come into being.
def serve (w : Workshop β) : Job β → Option (Workshop β)
  | .engage isa c => some { w with backends := w.backends ++ [.create isa c] }
  | .create capacity =>
    let (a, supply) := w.supply.create capacity
    some { w with supply, arenas := w.arenas ++ [a] }
  | .bind j k p => do
    let i ← w.backends[j]?
    let a ← w.arenas[k]?
    some { w with backends := w.backends.set j (Backend.bindTo i p a).value }
  | .allocate k len => w.exchange k fun a =>
    match a.allocate len with
    | .ok (_, b) => b
    | .error _ => a
  | .write k e len data => w.exchange k fun a => (a.write? e len data).getD a
  | .reset k => w.exchange k CodeArena.reset
  | .noticeReset j => do
    let i ← w.backends[j]?
    some { w with backends := w.backends.set j (Backend.onArenaReset i).value }
  | .compile j k block smcChecks optimise => do
    let i ← w.backends[j]?
    let a ← w.arenas[k]?
    let (_, a, _, i) := (Backend.compile i a block smcChecks optimise).value
    some { w with arenas := w.arenas.set k a, backends := w.backends.set j i }

def serveAll (w : Workshop β) (jobs : List (Job β)) : Option (Workshop β) := jobs.foldlM serve w

end Workshop

namespace Interpreter

variable {i : Interpreter β}

lemma compile_of_fits {a : CodeArena} (block : Block) (h : i.binding = some a.id)
    (fits : i.unitPlaceholderBytes ≤ a.freeSpace) : ∃ b,
      a.allocate i.unitPlaceholderBytes = .ok (a.current, b) ∧ b.generation = a.generation ∧
      b.cursor.toNat = a.cursor.toNat + i.unitPlaceholderBytes.toNat ∧
      (i.compile a block).value = (some ⟨a.current, block.addr, i.unitPlaceholderBytes⟩, b,
        { block with code := some a.current }) := by
  obtain ⟨b, hb, -, hgen, hcursor, -⟩ := CodeArena.allocate_of_le fits
  exact ⟨b, hb, hgen, hcursor, by rw [compile_of_bound h, hb]⟩

lemma compile_of_refused {a : CodeArena} (block : Block)
    (h : ¬ (i.binding = some a.id ∧ i.unitPlaceholderBytes ≤ a.freeSpace)) :
    (i.compile a block).value = (none, a, { block with code := none }) := by
  by_cases hid : i.binding = some a.id
  · have hfull : a.freeSpace < i.unitPlaceholderBytes :=
      UInt32.not_le.mp fun fits => h ⟨hid, fits⟩
    rw [compile_of_bound hid, CodeArena.allocate_of_lt hfull]
  · rw [compile]
    cases hb : i.binding with
    | none => rfl
    | some bound =>
      have hne : bound ≠ a.id := fun hbound => hid (hb.trans (congrArg some hbound))
      simp only [ne_eq, hne, not_false_eq_true, if_true]
      rfl

lemma id_of_compile (i : Interpreter β) (a : CodeArena) (block : Block) :
    (i.compile a block).value.2.1.id = a.id := by
  by_cases h : i.binding = some a.id ∧ i.unitPlaceholderBytes ≤ a.freeSpace
  · obtain ⟨b, hb, -, -, hc⟩ := compile_of_fits block h.1 h.2
    rw [hc]
    exact CodeArena.id_of_allocate hb
  · rw [compile_of_refused block h]

end Interpreter

structure Workshop.Tells (first : CodeArena.Supply) (jobs : List (Job β)) (w : Workshop β) :
    Prop where
  next : w.supply.next = first.nth (created jobs)
  ids : w.arenas.map CodeArena.id = (List.range (created jobs)).map first.nth
  binding (j : Nat) (i : Interpreter β) : w.backends[j]? = some i →
    i.binding = (lastBound? jobs j).map first.nth
  known (j k : Nat) : lastBound? jobs j = some k → j < w.backends.length ∧ k < created jobs

namespace Workshop.Tells

variable {first : CodeArena.Supply} {jobs : List (Job β)} {job : Job β} {w w' : Workshop β}
  {i : Interpreter β} {a : CodeArena} {j k : Nat} (h : w.Tells first jobs)
include h

lemma id_eq (hk : w.arenas[k]? = some a) : k < created jobs ∧ a.id = first.nth k := by
  have hid := congrArg (·[k]?) h.ids
  simp only [List.getElem?_map, hk, Option.map_some] at hid
  by_cases hlt : k < created jobs
  · rw [List.getElem?_range hlt] at hid
    exact ⟨hlt, Option.some_inj.mp hid⟩
  · rw [List.getElem?_eq_none (by simpa using hlt)] at hid
    cases hid

-- A backend is bound to a number, and that is an arena only while no number has been used twice.
lemma binding_eq_id_iff (few : created jobs < UInt64.size) (hj : w.backends[j]? = some i)
    (hk : w.arenas[k]? = some a) : i.binding = some a.id ↔ lastBound? jobs j = some k := by
  obtain ⟨hlt, hid⟩ := h.id_eq hk
  rw [h.binding j i hj, hid]
  cases hl : lastBound? jobs j with
  | none => simp
  | some l =>
    have hl := (h.known j l hl).2
    rw [Option.map_some, Option.some_inj, Option.some_inj]
    exact first.nth_inj (by omega) (by omega)

lemma keep (quiet : ∀ j, job.boundBy? j = none) (other : job.isCreate = false)
    (supply : w'.supply = w.supply) (ids : w'.arenas.map CodeArena.id = w.arenas.map CodeArena.id)
    (bindings : w'.backends.map Interpreter.binding = w.backends.map Interpreter.binding) :
    w'.Tells first (jobs ++ [job]) := by
  have hcreated := created_snoc_of_other jobs other
  have hlast := lastBound?_snoc_of_quiet jobs quiet
  have hlen : w'.backends.length = w.backends.length := by
    have hmap := congrArg List.length bindings
    rwa [List.length_map, List.length_map] at hmap
  constructor
  · rw [supply, hcreated, h.next]
  · rw [ids, hcreated, h.ids]
  · intro j i' hj
    have hmap := congrArg (·[j]?) bindings
    simp only [List.getElem?_map, hj, Option.map_some] at hmap
    obtain ⟨i, hi, heq⟩ := Option.map_eq_some_iff.mp hmap.symm
    rw [hlast, ← heq, h.binding j i hi]
  · rw [hlast, hlen, hcreated]
    exact h.known

lemma engage (isa : InstructionSet β) (c : Configuration) :
    ({ w with backends := w.backends ++ [.create isa c] } : Workshop β).Tells first
      (jobs ++ [.engage isa c]) := by
  have hcreated : created (jobs ++ [.engage isa c]) = created jobs := created_snoc_of_other jobs rfl
  have hlast : lastBound? (jobs ++ [.engage isa c]) = lastBound? jobs :=
    lastBound?_snoc_of_quiet jobs fun _ => rfl
  have hnew : lastBound? jobs w.backends.length = none := by
    cases hl : lastBound? jobs w.backends.length with
    | none => rfl
    | some k => exact (Nat.lt_irrefl _ (h.known _ k hl).1).elim
  constructor
  · rw [hcreated]
    exact h.next
  · rw [hcreated]
    exact h.ids
  · intro j i hj
    rw [hlast]
    rcases Nat.lt_trichotomy j w.backends.length with hlt | rfl | hlt
    · rw [List.getElem?_append_left hlt] at hj
      exact h.binding j i hj
    · rw [List.getElem?_concat_length] at hj
      cases hj
      rw [hnew]
      rfl
    · rw [List.getElem?_eq_none (by rw [List.length_append]; exact hlt)] at hj
      cases hj
  · intro j k hl
    rw [hlast] at hl
    rw [hcreated, List.length_append]
    obtain ⟨hj, hk⟩ := h.known j k hl
    exact ⟨Nat.lt_add_right _ hj, hk⟩

lemma create (capacity : UInt32) :
    ({ w with
        supply := (w.supply.create capacity).2
        arenas := w.arenas ++ [(w.supply.create capacity).1] } : Workshop β).Tells first
      (jobs ++ [.create capacity]) := by
  have hcreated : created (jobs ++ [.create capacity]) = created jobs + 1 := created_snoc _ _
  have hlast : lastBound? (jobs ++ [.create capacity]) = lastBound? jobs :=
    lastBound?_snoc_of_quiet jobs fun _ => rfl
  constructor
  · rw [hcreated, first.nth_succ, ← h.next]
    rfl
  · rw [hcreated, List.range_succ, List.map_append, List.map_append, h.ids, List.map_singleton,
      List.map_singleton, ← h.next]
    rfl
  · rw [hlast]
    exact h.binding
  · intro j k hl
    rw [hlast] at hl
    rw [hcreated]
    obtain ⟨hj, hk⟩ := h.known j k hl
    exact ⟨hj, Nat.lt_succ_of_lt hk⟩

lemma bind (hj : w.backends[j]? = some i) (hk : w.arenas[k]? = some a) (p : Processor)
    {i' : Interpreter β} (hi : i'.binding = some a.id) :
    ({ w with backends := w.backends.set j i' } : Workshop β).Tells first
      (jobs ++ [.bind j k p]) := by
  have hcreated : created (jobs ++ [.bind j k p]) = created jobs := created_snoc_of_other jobs rfl
  have hlast (l : Nat) : lastBound? (jobs ++ [.bind j k p]) l =
      if j = l then some k else lastBound? jobs l := by
    rw [lastBound?_snoc, Job.boundBy?]
    split <;> rfl
  have hlt : j < w.backends.length := (List.getElem?_eq_some_iff.mp hj).1
  obtain ⟨hcreate, hid⟩ := h.id_eq hk
  constructor
  · rw [hcreated]
    exact h.next
  · rw [hcreated]
    exact h.ids
  · intro l i₀ hl
    rw [List.getElem?_set] at hl
    rw [hlast]
    split at hl
    · rename_i hjl
      cases hl
      rw [if_pos hjl, hi, hid, Option.map_some]
    · rename_i hjl
      rw [if_neg hjl]
      exact h.binding l i₀ hl
  · intro l k' hl
    rw [hlast] at hl
    rw [hcreated, List.length_set]
    split at hl
    · rename_i hjl
      cases hl
      exact ⟨hjl ▸ hlt, hcreate⟩
    · exact h.known l k' hl

lemma exchange {f : CodeArena → CodeArena} (quiet : ∀ j, job.boundBy? j = none)
    (other : job.isCreate = false) (hf : ∀ a, (f a).id = a.id) (served : w.exchange k f = some w') :
    w'.Tells first (jobs ++ [job]) := by
  obtain ⟨a, ha, rfl⟩ := Option.map_eq_some_iff.mp served
  exact h.keep quiet other rfl (map_set_eq ha (hf a)) rfl

lemma step [Bus β] (served : w.serve job = some w') : w'.Tells first (jobs ++ [job]) := by
  cases job with
  | engage isa c =>
    cases served
    exact h.engage isa c
  | create capacity =>
    cases served
    exact h.create capacity
  | bind j k p =>
    obtain ⟨i, hi, served⟩ := Option.bind_eq_some_iff.mp served
    obtain ⟨a, ha, served⟩ := Option.bind_eq_some_iff.mp served
    cases served
    exact h.bind hi ha p rfl
  | allocate k len =>
    refine h.exchange (fun _ => rfl) rfl (fun a => ?_) served
    cases ha : a.allocate len with
    | ok r => exact CodeArena.id_of_allocate ha
    | error _ => rfl
  | write k e len data =>
    refine h.exchange (fun _ => rfl) rfl (fun a => ?_) served
    by_cases hw : a.Holds e len
    · rw [CodeArena.write?, dif_pos hw, Option.getD_some]
    · rw [CodeArena.write?_of_not_holds hw, Option.getD_none]
  | reset k =>
    refine h.exchange (fun _ => rfl) rfl (fun a => ?_) served
    rfl
  | noticeReset j =>
    obtain ⟨i, hi, served⟩ := Option.bind_eq_some_iff.mp served
    cases served
    exact h.keep (fun _ => rfl) rfl rfl rfl (map_set_eq hi rfl)
  | compile j k block smcChecks optimise =>
    obtain ⟨i, hi, served⟩ := Option.bind_eq_some_iff.mp served
    obtain ⟨a, ha, served⟩ := Option.bind_eq_some_iff.mp served
    cases served
    exact h.keep (fun _ => rfl) rfl rfl (map_set_eq ha (i.id_of_compile a block))
      (map_set_eq hi rfl)

end Workshop.Tells

namespace Workshop

variable [Bus β] {first : CodeArena.Supply} {jobs : List (Job β)} {w : Workshop β}

lemma tells_of_serveAll (served : serveAll { supply := first } jobs = some w) :
    w.Tells first jobs := by
  induction jobs using List.reverseRecOn generalizing w with
  | nil =>
    cases served
    refine ⟨?_, rfl, nofun, nofun⟩
    exact (UInt64.add_zero _).symm
  | append_singleton jobs job ih =>
    obtain ⟨w₀, w₁, hw₀, hw₁, rest⟩ := exists_of_foldlM_append_cons served
    cases rest
    exact (ih hw₀).step hw₁

lemma serve_compile {j k : Nat} {i : Interpreter β} {a : CodeArena} (hj : w.backends[j]? = some i)
    (hk : w.arenas[k]? = some a) (block : Block) (smcChecks optimise : Bool) :
    w.serve (.compile j k block smcChecks optimise) =
      some { w with arenas := w.arenas.set k (i.compile a block).value.2.1 } := by
  have hset : w.backends.set j i = w.backends := by
    obtain ⟨hlt, rfl⟩ := List.getElem?_eq_some_iff.mp hj
    exact List.set_getElem_self hlt
  rw [serve, hj, hk]
  exact congrArg (fun l => some (Workshop.mk w.supply _ l)) hset

/-- Whatever has been done with them before, an interpreter makes a unit of a block exactly where it
is given the arena that it was bound to last and its placeholder fits. The unit takes its place at
the cursor. Where there is none the block is left without code and the arena as it was, and nothing
else in the workshop changes in either case. -/
theorem compiles_into_last_bound (served : serveAll { supply := first } jobs = some w)
    (few : created jobs < UInt64.size) {j k : Nat} {i : Interpreter β} {a : CodeArena}
    (hj : w.backends[j]? = some i) (hk : w.arenas[k]? = some a) (block : Block)
    (smcChecks optimise : Bool) :
    ∃ unit? b block' w',
      (Backend.compile i a block smcChecks optimise).value = (unit?, b, block', i) ∧
      (unit?.isSome = true ↔
        lastBound? jobs j = some k ∧ i.unitPlaceholderBytes ≤ a.freeSpace) ∧
      (∀ unit, unit? = some unit →
        unit = ⟨a.current, block.addr, i.unitPlaceholderBytes⟩ ∧ block'.code = some unit.entry ∧
        b.cursor.toNat = a.cursor.toNat + unit.size.toNat ∧ b.generation = a.generation ∧
        b.byteAt = a.byteAt) ∧
      (unit? = none → block'.code = none ∧ b = a) ∧
      (block'.addr = block.addr ∧ block'.opcodeCount = block.opcodeCount ∧ block'.ir = block.ir) ∧
      w.serve (.compile j k block smcChecks optimise) = some w' ∧
      w'.arenas[k]? = some b ∧ (∀ l ≠ k, w'.arenas[l]? = w.arenas[l]?) ∧
      w'.backends = w.backends ∧ w'.supply = w.supply := by
  have hbound := (tells_of_serveAll served).binding_eq_id_iff few hj hk
  have hserve := serve_compile hj hk block smcChecks optimise
  have hlt : k < w.arenas.length := (List.getElem?_eq_some_iff.mp hk).1
  have hothers (b : CodeArena) : (w.arenas.set k b)[k]? = some b ∧
      ∀ l ≠ k, (w.arenas.set k b)[l]? = w.arenas[l]? :=
    ⟨List.getElem?_set_self hlt, fun l hl => List.getElem?_set_ne hl.symm⟩
  have hvalue : (Backend.compile i a block smcChecks optimise).value =
      ((i.compile a block).value.1, (i.compile a block).value.2.1,
        (i.compile a block).value.2.2, i) := rfl
  rw [hvalue, hserve, ← hbound]
  by_cases h : i.binding = some a.id ∧ i.unitPlaceholderBytes ≤ a.freeSpace
  · obtain ⟨b, hb, hgen, hcursor, hc⟩ := Interpreter.compile_of_fits block h.1 h.2
    rw [hc]
    refine ⟨_, _, _, _, rfl, iff_of_true rfl h, ?_, nofun, ⟨rfl, rfl, rfl⟩, rfl, (hothers b).1,
      (hothers b).2, rfl, rfl⟩
    rintro unit ⟨⟩
    exact ⟨rfl, rfl, hcursor, hgen, funext (a.byteAt_of_allocate hb)⟩
  · rw [Interpreter.compile_of_refused block h]
    exact ⟨_, _, _, _, rfl, iff_of_false nofun h, nofun, fun _ => ⟨rfl, rfl⟩, ⟨rfl, rfl, rfl⟩,
      rfl, (hothers a).1, (hothers a).2, rfl, rfl⟩

-- Two arenas of one size; the second is bound last and has been reset since.
theorem compiles_into_last_bound_rebound :
    let jobs : List (Job Countdown) := [.create 8, .create 8, .engage counting {}, .bind 0 0 {},
      .bind 0 1 {}, .allocate 1 4, .reset 1, .allocate 1 3]
    let block : Block := { addr := 0x100, code := some ⟨0, 0⟩ }
    ∃ w i a unit b block', serveAll {} jobs = some w ∧ created jobs < UInt64.size ∧
      w.backends[0]? = some i ∧ w.arenas[1]? = some a ∧
      (Backend.compile i a block true true).value = (some unit, b, block', i) ∧
      block'.code = some unit.entry := by
  intro jobs block
  obtain ⟨unit?, b, block', w', hvalue, hsome, hunit, -⟩ := compiles_into_last_bound
    (show serveAll {} jobs = some _ from rfl) (by decide) (j := 0) (k := 1) rfl rfl block true true
  obtain ⟨unit, rfl⟩ := Option.isSome_iff_exists.mp (hsome.mpr (by decide))
  exact ⟨_, _, _, unit, b, block', rfl, by decide, rfl, rfl, hvalue, (hunit unit rfl).2.1⟩

end Workshop

end Recompiler
