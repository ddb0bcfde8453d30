import Recompiler.Proofs.Guest.Depth
import Recompiler.Proofs.Guest.Supply
import Recompiler.Proofs.Loop.Record

/-! Runs on a bus with a limited supply of fetches. Every attempt after which the loop goes on has
used a fetch, and an unanswered one ends the loop, so a run makes no more attempts than the supply
allows. -/

namespace Recompiler

open Bus (Supplies)

variable {β : Type} [Bus β]

namespace Interpreter

variable {i : Interpreter β} {s t : LoopState β} {es : List (LoopEvent β)} {r : Except Fatal Unit}
  {n : Nat}

lemma rollovers_le_instructions (limit : Nat) (s : LoopState β) :
    rollovers (i.historyFrom limit s) ≤ instructions (i.historyFrom limit s) := by
  have hevents (m : Machine β) : rollovers (i.events m) ≤ instructions (i.events m) := by
    rw [events, rollovers, instructions]
    split
    · split <;> simp [LoopEvent.kind]
    · simp [LoopEvent.kind]
    · simp
    · simp
  induction limit generalizing s with
  | zero => exact le_rfl
  | succ limit ih =>
    rw [historyFrom, rollovers_append, instructions_append]
    apply Nat.add_le_add (hevents s.machine)
    cases (i.attempt s).next? with
    | some t => exact ih t
    | none => exact le_rfl

section

variable (spends : i.isa.Spends)
include spends

lemma spend_of_done {opcode : UInt16} {m k : Machine β} (h : i.isa.instruction m = .done opcode k)
    (hm : Supplies n m.bus) : ∃ j, n = j + 1 ∧ Supplies j k.bus := by
  have hs := spends n m hm (h ▸ nofun)
  rwa [h] at hs

lemma spend_of_raised {e : Exception} {m k : Machine β}
    (h : i.isa.instruction m = .fault (.exception e) k) (hm : Supplies n m.bus) :
    ∃ j, n = j + 1 ∧ Supplies j k.bus := by
  have hs := spends n m hm (h ▸ nofun)
  rwa [h] at hs

lemma Advance.spend (h : i.Advance s es t) (hs : Supplies n s.machine.bus) :
    ∃ j, n = j + 1 ∧ Supplies j t.machine.bus := by
  cases h with
  | instruction done left =>
    obtain ⟨j, rfl, hj⟩ := spend_of_done spends done hs
    exact ⟨j, rfl, hj⟩
  | @rollover opcode m p bus done used updated running =>
    obtain ⟨j, rfl, hj⟩ := spend_of_done spends done hs
    have hu : (i.update (i.charged opcode m)).2.2 = bus := by
      rw [updated]
    exact ⟨j, rfl, hu ▸ hj.after (.update _)⟩
  | exception raised running =>
    obtain ⟨j, rfl, hj⟩ := spend_of_raised spends raised hs
    exact ⟨j, rfl, hj⟩

lemma Trace.supplies (h : i.Trace s es t) (hs : Supplies n s.machine.bus) :
    Supplies n t.machine.bus := by
  induction h with
  | nil => exact hs
  | cons first _ ih =>
    obtain ⟨j, rfl, hj⟩ := first.spend spends hs
    exact ih (hj.mono j.le_succ)

lemma Ending.attempts_le (h : i.Ending s es r t) (hs : Supplies n s.machine.bus) :
    attempts es ≤ n := by
  cases h with
  | rollover done _ _ _ =>
    obtain ⟨j, rfl, -⟩ := spend_of_done spends done hs
    exact Nat.le_add_left 1 j
  | failed done _ _ =>
    obtain ⟨j, rfl, -⟩ := spend_of_done spends done hs
    exact Nat.le_add_left 1 j
  | exception raised _ =>
    obtain ⟨j, rfl, -⟩ := spend_of_raised spends raised hs
    exact Nat.le_add_left 1 j
  | fatal _ => exact n.zero_le

lemma attempts_historyFrom_le (limit : Nat) (hs : Supplies n s.machine.bus) :
    attempts (i.historyFrom limit s) ≤ n := by
  induction limit generalizing s n with
  | zero => exact n.zero_le
  | succ limit ih =>
    rcases i.attempt_cases s with ⟨es, t, ha⟩ | ⟨es, r, t, he⟩ | hu
    · obtain ⟨j, rfl, hj⟩ := ha.spend spends hs
      rw [ha.history, attempts_append, ha.attempts, Nat.add_comm]
      exact Nat.succ_le_succ (ih hj)
    · rw [he.history]
      exact he.attempts_le spends hs
    · rw [historyFrom_of_unfinished hu]
      exact n.zero_le

lemma stats_le {limit : Nat} {m : Machine β} (h : i.enterLoop limit m = some (r, t))
    (hm : Supplies n m.bus) :
    t.stats.instructions.toNat + t.stats.exceptions.toNat ≤ n ∧
      t.stats.timeslices ≤ t.stats.instructions := by
  have hattempts : attempts (i.history limit m) ≤ n := by
    rw [history]
    split
    · exact attempts_historyFrom_le spends limit hm
    · exact n.zero_le
  have hrollovers : rollovers (i.history limit m) ≤ instructions (i.history limit m) := by
    rw [history]
    split
    · exact rollovers_le_instructions limit _
    · exact le_rfl
  rw [attempts_eq_counts] at hattempts
  rw [rollovers, instructions] at hrollovers
  rw [stats_of_enterLoop h, UInt64.le_iff_toNat_le, Statistics.instructions_ofKinds,
    Statistics.exceptions_ofKinds, Statistics.timeslices_ofKinds]
  simp only [Saturating.toNat_word64]
  omega

-- The limit is counted in attempts and the supply in fetches, and every attempt uses at least one.
lemma exists_dispatch {k limit : Nat} (finishes : i.isa.instruction.Finishes k) (hk : n ≤ k)
    (hlimit : n < limit) (hs : Supplies n s.machine.bus) : ∃ x, i.dispatch limit s = some x := by
  induction limit generalizing s n with
  | zero => cases hlimit
  | succ limit ih =>
    rcases i.attempt_cases s with ⟨es, t, ha⟩ | ⟨es, r, t, he⟩ | hu
    · obtain ⟨j, rfl, hj⟩ := ha.spend spends hs
      rw [ha.dispatch]
      exact ih (Nat.le_of_succ_le hk) (Nat.lt_of_succ_lt_succ hlimit) hj
    · exact ⟨_, he.dispatch limit⟩
    · exact (finishes s.machine (hs.mono hk) hu).elim

end

section

variable {isa isa' : InstructionSet β} (h : isa.Extends isa') (c : Configuration)
  (arena entries : UInt64)
include h

lemma attempt_extends (s : LoopState β)
    (ends : (bound isa c arena entries).isa.instruction s.machine ≠ .unfinished) :
    (bound isa' c arena entries).attempt s = (bound isa c arena entries).attempt s := by
  obtain ⟨execute, rfl⟩ : ∃ e, isa' = { isa with execute := e } := ⟨_, h.eq_with_execute⟩
  have hs : (bound { isa with execute } c arena entries).isa.instruction s.machine =
      (bound isa c arena entries).isa.instruction s.machine := h.instruction s.machine ends
  rw [attempt_eq, attempt_eq, hs]
  rfl

lemma dispatch_extends {limit limit' : Nat} (hlimit : limit ≤ limit') {s : LoopState β}
    {x : Except Fatal Unit × LoopState β}
    (hx : (bound isa c arena entries).dispatch limit s = some x) :
    (bound isa' c arena entries).dispatch limit' s = some x := by
  induction limit generalizing limit' s with
  | zero => cases hx
  | succ limit ih =>
    obtain ⟨limit', rfl⟩ := Nat.exists_eq_add_one.mpr (Nat.zero_lt_of_lt hlimit)
    have ends : (bound isa c arena entries).isa.instruction s.machine ≠ .unfinished := by
      intro hu
      cases (dispatch_of_unfinished hu _).symm.trans hx
    rw [dispatch_succ] at hx ⊢
    rw [attempt_extends h c arena entries s ends]
    cases hn : ((bound isa c arena entries).attempt s).next? with
    | some t =>
      rw [hn] at hx
      exact ih (Nat.le_of_succ_le_succ hlimit) hx
    | none =>
      rw [hn] at hx
      exact hx

end

/-- Where the supply of fetches is limited, a run comes to its end: whatever limits are set above
the supply, it returns the same, with no more instructions and exceptions than there are fetches and
no more timeslices than instructions. No instruction of the run nests its delay slots deeper than
the supply, where it would be cut off. -/
theorem run_ends_with_supply (t : OpcodeTable) (c : Configuration) (arena entries : UInt64)
    (m : Machine β) (supply : Nat) (rationed : Supplies supply m.bus) :
    let i (depth : Nat) := bound (t.instructionSet (β := β) depth) c arena entries
    (∃ r st n, st.instructions.toNat + st.exceptions.toNat ≤ supply ∧
      st.timeslices ≤ st.instructions ∧
      ∀ depth limit, supply ≤ depth → supply < limit →
        ((i depth).run limit m).map answer = some (reply r st, n)) ∧
    ∀ depth, supply ≤ depth → ∀ es u, (i depth).Trace { machine := m } es u →
      (t.instructionSet supply).instruction u.machine ≠ .unfinished ∧
      (t.instructionSet depth).instruction u.machine =
        (t.instructionSet supply).instruction u.machine := by
  intro i
  have hspends (depth : Nat) : (i depth).isa.Spends := t.instructionSet_spends depth
  have hfinishes : (i supply).isa.instruction.Finishes supply := t.instruction_finishes le_rfl
  constructor
  · have hloop : ∃ r s, ∀ depth limit, supply ≤ depth → supply < limit →
        (i depth).enterLoop limit m = some (r, s) := by
      cases hrun : m.processor.running with
      | false =>
        refine ⟨.ok (), { machine := m }, fun depth limit _ _ => ?_⟩
        rw [enterLoop, hrun]
        rfl
      | true =>
        obtain ⟨⟨r, s⟩, hx⟩ := exists_dispatch (s := { machine := m }) (hspends supply) hfinishes
          le_rfl supply.lt_succ_self rationed
        refine ⟨r, s, fun depth limit hdepth hlimit => ?_⟩
        rw [enterLoop, if_pos hrun]
        exact dispatch_extends (t.instructionSet_extends hdepth) c arena entries hlimit hx
    obtain ⟨r, s, hs⟩ := hloop
    have hle := stats_le (hspends supply) (hs supply _ le_rfl supply.lt_succ_self) rationed
    refine ⟨r, s.stats, (outcome (r, s)).2, hle.1, hle.2, fun depth limit hdepth hlimit => ?_⟩
    rw [run_eq rfl, hs depth limit hdepth hlimit]
    rcases r with _ | _ <;> rfl
  · intro depth hdepth es u htrace
    have hends := hfinishes u.machine (htrace.supplies (hspends depth) rationed)
    exact ⟨hends, (t.instructionSet_extends hdepth).instruction u.machine hends⟩

end Interpreter

structure Script where
  answers : List (Except Exception UInt16)

instance : Bus Script where
  readOpcode bus addr := match bus.answers with
    | [] => (.error (.fatal (.unmappedFetch addr)), bus)
    | .ok opcode :: rest => (.ok opcode, ⟨rest⟩)
    | .error e :: rest => (.error (.exception e), ⟨rest⟩)
  updateSystem bus p := (.ok (), p, bus)

lemma supplies_script (bus : Script) : Supplies bus.answers.length bus := by
  intro qs
  induction qs generalizing bus with
  | nil => exact Nat.zero_le _
  | cons q qs ih =>
    cases q with
    | update p => exact ih bus
    | fetch addr =>
      rw [Bus.answered]
      obtain ⟨_ | ⟨e | opcode, rest⟩⟩ := bus
      · rw [if_neg fun ha => ha _ rfl, Nat.zero_add]
        exact ih ⟨[]⟩
      · rw [List.length_cons, Nat.add_comm]
        exact Nat.add_le_add (ih ⟨rest⟩) (by split <;> omega)
      · rw [List.length_cons, Nat.add_comm]
        exact Nat.add_le_add (ih ⟨rest⟩) (by split <;> omega)

-- Three branches, each in the delay slot of the one before; the last slot cannot be fetched.
theorem Interpreter.run_ends_with_supply_branches :
    let t := OpcodeTable.empty.assign ⟨0, 0⟩ { name := "bra" } fun _ => Action.runDelaySlot
    let c : Configuration := { timesliceCycles := -1, cyclesPerInstruction := 0 }
    let m : Machine Script :=
      ⟨{ running := true }, ⟨[.ok 0xA000, .ok 0xA001, .ok 0xA002, .error ⟨0, .tlbMissRead⟩]⟩⟩
    Supplies 4 m.bus ∧ ∃ r st n, st.instructions.toNat + st.exceptions.toNat ≤ 4 ∧
      st.timeslices ≤ st.instructions ∧
      ∀ depth limit, 4 ≤ depth → 4 < limit →
        ((bound (t.instructionSet depth) c 1 0).run limit m).map answer =
          some (reply r st, n) := by
  intro t c m
  exact ⟨supplies_script m.bus, (run_ends_with_supply t c 1 0 m 4 (supplies_script m.bus)).1⟩

end Recompiler
