import Recompiler.Proofs.Arena.Liveness
import Recompiler.Proofs.Session.Binding
import Recompiler.Proofs.Session.Compilation

/-! Units that overlap. The ends of two units are compared as words that stay at the largest one,
which tells whether they share a byte as long as neither reaches beyond it. No unit of an arena does,
and two units that have been made in an arena between resets share a byte only where they are one.
-/

namespace Recompiler

variable {β : Type}

lemma take_eq_append_cons {α : Type} {l : List α} {n n' : Nat} {x : α} (h : l[n]? = some x)
    (hlt : n < n') : l.take n' = l.take n ++ x :: (l.drop (n + 1)).take (n' - (n + 1)) := by
  obtain ⟨hn, rfl⟩ := List.getElem?_eq_some_iff.mp h
  have hlen : n < (l.take n').length := by
    rw [List.length_take]
    omega
  calc l.take n' = (l.take n').take n ++ (l.take n').drop n := (List.take_append_drop ..).symm
    _ = _ := by
      rw [List.take_take, Nat.min_eq_left (Nat.le_of_lt hlt), List.drop_eq_getElem_cons hlen,
        List.getElem_take, List.drop_take]

namespace CodeUnit

def Covers (u : CodeUnit) (i : Nat) : Prop :=
  u.entry.offset.toNat ≤ i ∧ i < u.entry.offset.toNat + u.size.toNat

structure Fits (u : CodeUnit) : Prop where
  pos : 0 < u.size.toNat
  end_lt : u.entry.offset.toNat + u.size.toNat < UInt32.size

variable {u v : CodeUnit}

lemma Fits.toNat_bound (hu : u.Fits) :
    u.bound.toNat = u.entry.offset.toNat + u.size.toNat := by
  rw [bound, Saturating.toNat_word32]
  exact Nat.min_eq_left (Nat.le_pred_of_lt hu.end_lt)

lemma overlaps_iff_lt (hu : u.Fits) (hv : v.Fits) : u.overlaps v = true ↔
    u.entry.generation = v.entry.generation ∧
      u.entry.offset.toNat < v.entry.offset.toNat + v.size.toNat ∧
      v.entry.offset.toNat < u.entry.offset.toNat + u.size.toNat := by
  simp only [overlaps, Bool.and_eq_true, beq_iff_eq, decide_eq_true_iff, UInt32.lt_iff_toNat_lt,
    hu.toNat_bound, hv.toNat_bound, and_assoc]

lemma exists_covers_iff (hu : u.Fits) (hv : v.Fits) : (∃ i, u.Covers i ∧ v.Covers i) ↔
    u.entry.offset.toNat < v.entry.offset.toNat + v.size.toNat ∧
      v.entry.offset.toNat < u.entry.offset.toNat + u.size.toNat := by
  have hu := hu.pos
  have hv := hv.pos
  constructor
  · rintro ⟨i, ⟨hui, hiu⟩, hvi, hiv⟩
    omega
  · -- The one that starts later shares its first byte.
    intro ⟨huv, hvu⟩
    refine ⟨max u.entry.offset.toNat v.entry.offset.toNat, ⟨?_, ?_⟩, ?_, ?_⟩ <;> omega

lemma overlaps_iff (hu : u.Fits) (hv : v.Fits) : u.overlaps v = true ↔
    u.entry.generation = v.entry.generation ∧ ∃ i, u.Covers i ∧ v.Covers i := by
  rw [overlaps_iff_lt hu hv, exists_covers_iff hu hv]

lemma overlaps_comm (hu : u.Fits) (hv : v.Fits) : u.overlaps v = v.overlaps u := by
  rw [Bool.eq_iff_iff, overlaps_iff hu hv, overlaps_iff hv hu, eq_comm]
  simp only [and_comm]

lemma overlaps_self (hu : u.Fits) : u.overlaps u = true := by
  have hstart : u.Covers u.entry.offset.toNat := ⟨Nat.le_refl _, Nat.lt_add_of_pos_right hu.pos⟩
  exact (overlaps_iff hu hu).mpr ⟨rfl, _, hstart, hstart⟩

end CodeUnit

namespace CodeArena

variable {a : CodeArena}

lemma growsTo_write? (a : CodeArena) (e : Entry) (len : UInt32) (data : List UInt8) :
    a.GrowsTo ((a.write? e len data).getD a) := by
  by_cases h : a.Holds e len
  · obtain ⟨b, hb, -, hgen, hcursor, -⟩ := write?_of_holds h data
    rw [hb]
    exact ⟨hgen, hcursor ▸ Nat.le_refl _⟩
  · rw [write?_of_not_holds h]
    exact .refl a

lemma growsTo_compile (i : Interpreter β) (a : CodeArena) (block : Block) :
    a.GrowsTo (i.compile a block).value.2.1 := by
  by_cases h : i.binding = some a.id ∧ i.unitPlaceholderBytes ≤ a.freeSpace
  · obtain ⟨b, -, hgen, hcursor, hc⟩ := Interpreter.compile_of_fits block h.1 h.2
    rw [hc]
    exact ⟨hgen, hcursor ▸ Nat.le_add_right _ _⟩
  · rw [Interpreter.compile_of_refused block h]
    exact .refl a

lemma growsTo_set {as : List CodeArena} {k l : Nat} {b : CodeArena} (hl : as[l]? = some a)
    (hb : a.GrowsTo b) {c : CodeArena} (hk : as[k]? = some c) :
    ∃ d, (as.set l b)[k]? = some d ∧ c.GrowsTo d := by
  by_cases hkl : l = k
  · subst hkl
    cases hl.symm.trans hk
    exact ⟨b, List.getElem?_set_self (List.getElem?_eq_some_iff.mp hl).1, hb⟩
  · exact ⟨c, (List.getElem?_set_ne hkl).trans hk, .refl c⟩

end CodeArena

namespace Workshop

variable [Bus β] {w w' : Workshop β} {jobs : List (Job β)} {job : Job β} {k n n' : Nat}
  {a : CodeArena} {u v : CodeUnit}

inductive Makes (w : Workshop β) (k : Nat) : Job β → CodeUnit → Prop
  | compile {j : Nat} {i : Interpreter β} {a : CodeArena} (hj : w.backends[j]? = some i)
      (hk : w.arenas[k]? = some a) (block : Block) (smcChecks optimise : Bool) {u : CodeUnit}
      (made : (Backend.compile i a block smcChecks optimise).value.1 = some u) :
      Makes w k (.compile j k block smcChecks optimise) u

/-- Job number `n` has made the unit in arena number `k`, which has not been reset since. -/
def Stands (w : Workshop β) (jobs : List (Job β)) (k n : Nat) (u : CodeUnit) : Prop :=
  ∃ w' job, w.serveAll (jobs.take n) = some w' ∧ jobs[n]? = some job ∧ w'.Makes k job u ∧
    .reset k ∉ jobs.drop (n + 1)

omit [Bus β] in
lemma growsTo_of_exchange {l : Nat} {f : CodeArena → CodeArena}
    (served : w.exchange l f = some w') (hf : ∀ c : CodeArena, c.GrowsTo (f c))
    (hk : w.arenas[k]? = some a) :
    ∃ b, w'.arenas[k]? = some b ∧ a.GrowsTo b := by
  obtain ⟨c, hc, rfl⟩ := Option.map_eq_some_iff.mp served
  exact CodeArena.growsTo_set hc (hf c) hk

lemma growsTo_of_serve (served : w.serve job = some w') (other : job ≠ .reset k)
    (hk : w.arenas[k]? = some a) : ∃ b, w'.arenas[k]? = some b ∧ a.GrowsTo b := by
  cases job with
  | engage isa c =>
    cases served
    exact ⟨a, hk, .refl a⟩
  | create capacity =>
    cases served
    refine ⟨a, ?_, .refl a⟩
    rw [List.getElem?_append_left (List.getElem?_eq_some_iff.mp hk).1, hk]
  | bind j l p =>
    obtain ⟨i, -, served⟩ := Option.bind_eq_some_iff.mp served
    obtain ⟨c, -, served⟩ := Option.bind_eq_some_iff.mp served
    cases served
    exact ⟨a, hk, .refl a⟩
  | allocate l len =>
    have grown (c : CodeArena) : c.GrowsTo (c.move (.allocate len)) := c.growsTo_move nofun
    exact growsTo_of_exchange served grown hk
  | write l e len data =>
    exact growsTo_of_exchange served (fun a => CodeArena.growsTo_write? a e len data) hk
  | reset l =>
    obtain ⟨c, -, rfl⟩ := Option.map_eq_some_iff.mp served
    have hne : l ≠ k := fun heq => other (congrArg Job.reset heq)
    exact ⟨a, (List.getElem?_set_ne hne).trans hk, .refl a⟩
  | noticeReset j =>
    obtain ⟨i, -, served⟩ := Option.bind_eq_some_iff.mp served
    cases served
    exact ⟨a, hk, .refl a⟩
  | compile j l block smcChecks optimise =>
    obtain ⟨i, -, served⟩ := Option.bind_eq_some_iff.mp served
    obtain ⟨c, hc, served⟩ := Option.bind_eq_some_iff.mp served
    cases served
    exact CodeArena.growsTo_set hc (CodeArena.growsTo_compile i c block) hk

lemma growsTo_of_serveAll (served : w.serveAll jobs = some w') (quiet : .reset k ∉ jobs)
    (hk : w.arenas[k]? = some a) : ∃ b, w'.arenas[k]? = some b ∧ a.GrowsTo b := by
  induction jobs generalizing w a with
  | nil =>
    cases served
    exact ⟨a, hk, .refl a⟩
  | cons job jobs ih =>
    obtain ⟨hjob, hjobs⟩ := not_or.mp (mt List.mem_cons.mpr quiet)
    rw [serveAll, List.foldlM_cons] at served
    obtain ⟨w₁, hw₁, served⟩ := Option.bind_eq_some_iff.mp served
    obtain ⟨b, hb, hab⟩ := growsTo_of_serve hw₁ (Ne.symm hjob) hk
    obtain ⟨c, hc, hbc⟩ := ih served hjobs hb
    exact ⟨c, hc, hab.trans hbc⟩

lemma Makes.exists_arenas (h : w.Makes k job u) : ∃ a w' b, w.arenas[k]? = some a ∧
    w.serve job = some w' ∧ w'.arenas[k]? = some b ∧ u.entry = a.current ∧
    b.cursor.toNat = u.entry.offset.toNat + u.size.toNat := by
  cases h with
  | @compile j i a hj hk block smcChecks optimise _ made =>
    have hserve := serve_compile hj hk block smcChecks optimise
    have made : (i.compile a block).value.1 = some u := made
    by_cases h : i.binding = some a.id ∧ i.unitPlaceholderBytes ≤ a.freeSpace
    · obtain ⟨b, hb, hgen, hcursor, hc⟩ := Interpreter.compile_of_fits block h.1 h.2
      rw [hc] at made hserve
      cases made
      have hset := List.getElem?_set_self (a := b) (List.getElem?_eq_some_iff.mp hk).1
      exact ⟨a, _, b, hk, hserve, hset, rfl, hcursor⟩
    · rw [Interpreter.compile_of_refused block h] at made
      cases made

lemma Makes.unique (hu : w.Makes k job u) (hv : w.Makes k job v) : u = v := by
  cases hu with
  | compile hj hk block smcChecks optimise made =>
    cases hv with
    | compile hj' hk' _ _ _ made' =>
      cases hj.symm.trans hj'
      cases hk.symm.trans hk'
      exact Option.some_inj.mp (made.symm.trans made')

namespace Stands

lemma end_lt (hu : w.Stands jobs k n u) :
    u.entry.offset.toNat + u.size.toNat < UInt32.size := by
  obtain ⟨w', job, -, -, makes, -⟩ := hu
  obtain ⟨-, -, b, -, -, -, -, hcursor⟩ := makes.exists_arenas
  rw [← hcursor]
  exact b.cursor.toNat_lt

lemma unique (hu : w.Stands jobs k n u) (hv : w.Stands jobs k n v) : u = v := by
  obtain ⟨w', job, served, hjob, makes, -⟩ := hu
  obtain ⟨w'', job', served', hjob', makes', -⟩ := hv
  cases served.symm.trans served'
  cases hjob.symm.trans hjob'
  exact makes.unique makes'

lemma end_le (hu : w.Stands jobs k n u) (hv : w.Stands jobs k n' v) (hlt : n < n') :
    u.entry.offset.toNat + u.size.toNat ≤ v.entry.offset.toNat := by
  obtain ⟨w₁, job, served, hjob, makes, quiet⟩ := hu
  obtain ⟨w₂, job', served', -, makes', -⟩ := hv
  rw [take_eq_append_cons hjob hlt] at served'
  obtain ⟨w₁', w₃, hw₁, hw₃, rest⟩ := exists_of_foldlM_append_cons served'
  cases served.symm.trans hw₁
  obtain ⟨-, _, b, -, hserve, hb, -, hcursor⟩ := makes.exists_arenas
  cases hw₃.symm.trans hserve
  obtain ⟨c, -, -, hc, -, -, hentry, -⟩ := makes'.exists_arenas
  obtain ⟨_, hc', grown⟩ := growsTo_of_serveAll rest (fun h => quiet (List.mem_of_mem_take h)) hb
  cases hc.symm.trans hc'
  rw [← hcursor, hentry]
  exact grown.cursor

lemma apart (hu : w.Stands jobs k n u) (hv : w.Stands jobs k n' v) (hlt : n < n')
    (pos : 0 < u.size.toNat) : u.overlaps v = false ∧ v.overlaps u = false ∧ u ≠ v := by
  have hend := hu.end_le hv hlt
  obtain ⟨huv, hvu⟩ := CodeUnit.not_overlaps_of_le hend
  refine ⟨huv, hvu, ?_⟩
  rintro rfl
  omega

lemma overlaps_iff (hu : w.Stands jobs k n u) (hv : w.Stands jobs k n' v)
    (hupos : 0 < u.size.toNat) (hvpos : 0 < v.size.toNat) :
    (u.overlaps v = true ↔ n = n') ∧ (u = v ↔ n = n') := by
  rcases Nat.lt_trichotomy n n' with hlt | rfl | hlt
  · obtain ⟨huv, -, hne⟩ := hu.apart hv hlt hupos
    have hn : n ≠ n' := Nat.ne_of_lt hlt
    exact ⟨iff_of_false (Bool.eq_false_iff.mp huv) hn, iff_of_false hne hn⟩
  · obtain rfl := hu.unique hv
    exact ⟨iff_of_true (CodeUnit.overlaps_self ⟨hupos, hu.end_lt⟩) rfl, iff_of_true rfl rfl⟩
  · obtain ⟨-, huv, hne⟩ := hv.apart hu hlt hvpos
    have hn : n ≠ n' := Nat.ne_of_gt hlt
    exact ⟨iff_of_false (Bool.eq_false_iff.mp huv) hn, iff_of_false hne.symm hn⟩

end Stands

/-- Two units that have bytes and end within a word overlap exactly if they are of one generation
and share a byte. No unit of an arena ends beyond a word, and of the units that have been made in an
arena since its last reset, whatever else has been done with it, none overlaps another one. -/
theorem overlaps_iff_share_byte :
    (∀ u v : CodeUnit, u.Fits → v.Fits →
      (u.overlaps v = true ↔
        u.entry.generation = v.entry.generation ∧ ∃ i, u.Covers i ∧ v.Covers i) ∧
      u.overlaps v = v.overlaps u ∧ u.overlaps u = true) ∧
    ∀ (w : Workshop β) (jobs : List (Job β)) (k n n' : Nat) (u v : CodeUnit),
      w.Stands jobs k n u → w.Stands jobs k n' v →
      u.entry.offset.toNat + u.size.toNat < UInt32.size ∧
      (0 < u.size.toNat → 0 < v.size.toNat →
        (u.overlaps v = true ↔ n = n') ∧ (u = v ↔ n = n')) := by
  constructor
  · intro u v hu hv
    exact ⟨CodeUnit.overlaps_iff hu hv, CodeUnit.overlaps_comm hu hv, CodeUnit.overlaps_self hu⟩
  · intro w jobs k n n' u v hu hv
    exact ⟨hu.end_lt, hu.overlaps_iff hv⟩

-- Two interpreters with placeholders of their own share an arena. The first two units end at the
-- largest word.
theorem overlaps_iff_share_byte_shared :
    let edge : CodeUnit := ⟨⟨4294967290, 3⟩, 8, 5⟩
    let within : CodeUnit := ⟨⟨4294967294, 3⟩, 12, 1⟩
    let jobs : List (Job Countdown) := [.create 16, .engage counting {},
      .engage counting { unitPlaceholderBytes := 2 }, .bind 0 0 {}, .bind 1 0 {},
      .compile 0 0 { addr := 4 } true true, .reset 0, .compile 0 0 { addr := 8 } true true,
      .allocate 0 3, .compile 1 0 { addr := 8 } true true]
    (edge.Fits ∧ within.Fits ∧ edge.overlaps within = true ∧ ∃ i, edge.Covers i ∧ within.Covers i) ∧
      ({} : Workshop Countdown).Stands jobs 0 7 ⟨⟨0, 1⟩, 8, 4⟩ ∧
      ({} : Workshop Countdown).Stands jobs 0 9 ⟨⟨7, 1⟩, 8, 2⟩ ∧
      ¬ (⟨⟨0, 1⟩, 8, 4⟩ : CodeUnit).overlaps ⟨⟨7, 1⟩, 8, 2⟩ = true := by
  intro edge within jobs
  have hedge : edge.Fits := ⟨by decide, by decide⟩
  have hwithin : within.Fits := ⟨by decide, by decide⟩
  have hoverlap : edge.overlaps within = true := by decide
  have first : ({} : Workshop Countdown).Stands jobs 0 7 ⟨⟨0, 1⟩, 8, 4⟩ :=
    ⟨_, _, rfl, rfl, .compile rfl rfl _ _ _ rfl, by simp [jobs]⟩
  have second : ({} : Workshop Countdown).Stands jobs 0 9 ⟨⟨7, 1⟩, 8, 2⟩ :=
    ⟨_, _, rfl, rfl, .compile rfl rfl _ _ _ rfl, by simp [jobs]⟩
  obtain ⟨hexact, hstands⟩ := overlaps_iff_share_byte (β := Countdown)
  refine ⟨⟨hedge, hwithin, hoverlap, ?_⟩, first, second, ?_⟩
  · exact ((hexact edge within hedge hwithin).1.mp hoverlap).2
  · rw [((hstands _ jobs 0 7 9 _ _ first second).2 (by decide) (by decide)).1]
    decide

end Workshop

end Recompiler
