import Mathlib.Algebra.GroupWithZero.Nat
import Mathlib.Data.List.Induction
import Mathlib.Tactic.ByCases
import Mathlib.Tactic.Lemma
import Recompiler.Opcode.Table

/-! Patterns bit by bit. A pattern fixes some bits of an opcode and accepts the opcodes that have
them. A written pattern fixes the bits that its digits stand for, from the highest bit down. -/

namespace Recompiler.Pattern

def fixed? (p : Pattern) (j : Nat) : Option Bool :=
  if p.mask.toNat.testBit j then some (p.value.toNat.testBit j) else none

def positions (s : String) : List Char := s.toList.filter (· ≠ '_')

def digit? (c : Char) : Option Bool :=
  if c = '0' then some false else if c = '1' then some true else none

def demand? (cs : List Char) (j : Nat) : Option Bool := cs.reverse[j]?.bind digit?

def Agrees (fixed : Nat → Option Bool) (n x : Nat) : Prop :=
  ∀ j < n, ∀ b ∈ fixed j, x.testBit j = b

instance (fixed : Nat → Option Bool) (n x : Nat) : Decidable (Agrees fixed n x) :=
  inferInstanceAs (Decidable (∀ j < n, ∀ b ∈ fixed j, x.testBit j = b))

lemma accepts_iff (p : Pattern) (opcode : UInt16) :
    p.accepts opcode = true ↔ Agrees p.fixed? 16 opcode.toNat := by
  rw [accepts, beq_iff_eq, ← UInt16.toNat_inj, UInt16.toNat_and, UInt16.toNat_and]
  constructor
  · intro h j _ b hb
    have hj := congrArg (·.testBit j) h
    rw [fixed?] at hb
    split at hb
    · rename_i hm
      cases hb
      simpa [hm] using hj
    · cases hb
  · intro h
    apply Nat.eq_of_testBit_eq
    intro j
    rw [Nat.testBit_and, Nat.testBit_and]
    by_cases hm : p.mask.toNat.testBit j = true
    · have hj : j < 16 := by
        by_contra hj
        have hlt : p.mask.toNat < 2 ^ j :=
          Nat.lt_of_lt_of_le p.mask.toNat_lt (Nat.pow_le_pow_right (by omega) (by omega))
        simp [Nat.testBit_lt_two_pow hlt] at hm
      rw [h j hj (p.value.toNat.testBit j) (by simp [fixed?, hm])]
    · simp [(Bool.not_eq_true _).mp hm]

section

variable {fixed : Nat → Option Bool} {n x : Nat}

lemma agrees_succ :
    Agrees fixed (n + 1) x ↔ Agrees fixed n x ∧ ∀ b ∈ fixed n, x.testBit n = b := by
  constructor
  · intro h
    exact ⟨fun j hj => h j (Nat.lt_succ_of_lt hj), h n (Nat.lt_succ_self n)⟩
  · rintro ⟨h, hn⟩ j hj
    rcases Nat.lt_succ_iff_lt_or_eq.mp hj with hlt | rfl
    · exact h j hlt
    · exact hn

lemma agrees_low (h : x < 2 ^ n) :
    Agrees fixed (n + 1) x ↔ Agrees fixed n x ∧ fixed n ≠ some true := by
  rw [agrees_succ, Nat.testBit_lt_two_pow h]
  cases fixed n <;> simp

lemma agrees_high (h : x < 2 ^ n) :
    Agrees fixed (n + 1) (2 ^ n + x) ↔ Agrees fixed n x ∧ fixed n ≠ some false := by
  have hx : Agrees fixed n (2 ^ n + x) ↔ Agrees fixed n x := by
    refine forall₂_congr fun j hj => ?_
    rw [Nat.testBit_two_pow_add_gt hj]
  rw [agrees_succ, hx, Nat.testBit_two_pow_add_eq, Nat.testBit_lt_two_pow h]
  cases fixed n <;> simp

-- Each bit that is not fixed doubles the number of words that agree.
lemma countP_agrees (n : Nat) : (List.range (2 ^ n)).countP (fun x => Agrees fixed n x) =
    2 ^ (List.range n).countP fun j => (fixed j).isNone := by
  induction n with
  | zero => simp [Agrees]
  | succ n ih =>
    have hlow : (List.range (2 ^ n)).countP (fun x => Agrees fixed (n + 1) x) =
        (List.range (2 ^ n)).countP fun x => Agrees fixed n x ∧ fixed n ≠ some true :=
      List.countP_congr fun x hx => by simp [agrees_low (List.mem_range.mp hx)]
    have hhigh : (List.range (2 ^ n)).countP (fun x => Agrees fixed (n + 1) (2 ^ n + x)) =
        (List.range (2 ^ n)).countP fun x => Agrees fixed n x ∧ fixed n ≠ some false :=
      List.countP_congr fun x hx => by simp [agrees_high (List.mem_range.mp hx)]
    rw [Nat.pow_succ, Nat.mul_two, List.range_add, List.countP_append, List.countP_map,
      List.range_succ, List.countP_append, List.countP_singleton, hlow]
    refine (congrArg _ hhigh).trans ?_
    cases hn : fixed n with
    | none => simp [ih, Nat.pow_succ, Nat.mul_two]
    | some b => cases b <;> simp [ih]

end

lemma countP_isNone (fixed : Nat → Option Bool) (n : Nat) :
    (List.range n).countP (fun j => (fixed j).isNone) =
      n - (List.range n).countP fun j => (fixed j).isSome := by
  have hfun : (fun j => (fixed j).isNone) = fun j => decide ¬ (fixed j).isSome = true := by
    funext j
    cases fixed j <;> rfl
  have hsplit := (List.range n).length_eq_countP_add_countP fun j => (fixed j).isSome
  rw [List.length_range] at hsplit
  rw [hfun]
  omega

lemma coverage_eq (p : Pattern) : OpcodeTable.coverage p =
    2 ^ (16 - (List.range 16).countP fun j => (p.fixed? j).isSome) := by
  rw [← countP_isNone, ← countP_agrees]
  refine List.countP_congr fun x hx => ?_
  have hx : (UInt16.ofNat x).toNat = x := UInt16.toNat_ofNat_of_lt' (List.mem_range.mp hx)
  rw [accepts_iff, hx, decide_eq_true_iff]

structure Reads (cs : List Char) (p : Pattern) : Prop where
  mask (j : Nat) : p.mask.toNat.testBit j = (demand? cs j).isSome
  value (j : Nat) : p.value.toNat.testBit j = (demand? cs j == some true)

lemma demand?_snoc_zero (cs : List Char) (c : Char) : demand? (cs ++ [c]) 0 = digit? c := by
  simp [demand?]

lemma demand?_snoc_succ (cs : List Char) (c : Char) (j : Nat) :
    demand? (cs ++ [c]) (j + 1) = demand? cs j := by
  simp [demand?]

lemma demand?_of_length_le {cs : List Char} {j : Nat} (h : cs.length ≤ j) :
    demand? cs j = none := by
  simp [demand?, h]

lemma demand?_of_length {cs : List Char} (hlen : cs.length = 16) {i : Nat} (hi : i < 16) :
    demand? cs (15 - i) = cs[i]?.bind digit? := by
  rw [demand?, List.getElem?_reverse (by omega), hlen]
  congr 2
  omega

lemma countP_demand? (cs : List Char) :
    (List.range cs.length).countP (fun j => (demand? cs j).isSome) =
      cs.countP fun c => (digit? c).isSome := by
  induction cs using List.reverseRecOn with
  | nil => rfl
  | append_singleton cs c ih =>
    rw [List.length_append, List.length_singleton, List.range_succ_eq_map, List.countP_cons,
      List.countP_map, List.countP_append, List.countP_singleton, demand?_snoc_zero, ← ih]
    simp [Function.comp_def, demand?_snoc_succ]

-- A word that has room for one more bit moves up for it.
lemma testBit_append {w bit : UInt16} {f : Nat → Bool} (hw : ∀ j, w.toNat.testBit j = f j)
    (hroom : ∀ j, 15 ≤ j → f j = false) (hbit : bit.toNat < 2) (j : Nat) :
    (w <<< 1 ||| bit).toNat.testBit j =
      match j with
      | 0 => bit.toNat.testBit 0
      | j + 1 => f j := by
  have hshift : (w <<< 1).toNat = w.toNat <<< 1 % 2 ^ 16 := UInt16.toNat_shiftLeft w 1
  rw [UInt16.toNat_or, Nat.testBit_or, hshift, Nat.testBit_mod_two_pow, Nat.testBit_shiftLeft]
  cases j with
  | zero => simp
  | succ j =>
    have hlow : bit.toNat.testBit (j + 1) = false :=
      Nat.testBit_lt_two_pow (Nat.lt_of_lt_of_le hbit (Nat.le_self_pow (by omega) 2))
    rw [hlow, Bool.or_false, Nat.add_sub_cancel, hw]
    by_cases hj : j + 1 < 16
    · simp [hj]
    · simp [hroom j (by omega)]

namespace Reads

variable {cs past : List Char} {c : Char} {p q : Pattern}

lemma append (h : Reads cs p) (hcs : cs.length < 16) {m v : UInt16} (hm : m.toNat < 2)
    (hv : v.toNat < 2) (hmask : m.toNat.testBit 0 = (digit? c).isSome)
    (hvalue : v.toNat.testBit 0 = (digit? c == some true)) :
    Reads (cs ++ [c]) ⟨p.mask <<< 1 ||| m, p.value <<< 1 ||| v⟩ := by
  have hroom (j : Nat) (hj : 15 ≤ j) : demand? cs j = none := demand?_of_length_le (by omega)
  constructor <;> intro j
  · rw [testBit_append h.mask (fun j hj => by simp [hroom j hj]) hm]
    cases j with
    | zero => rw [demand?_snoc_zero, hmask]
    | succ j => rw [demand?_snoc_succ]
  · rw [testBit_append h.value (fun j hj => by simp [hroom j hj]) hv]
    cases j with
    | zero => rw [demand?_snoc_zero, hvalue]
    | succ j => rw [demand?_snoc_succ]

lemma push (h : Reads cs p) (hcs : cs.length < 16) (hq : p.push? c = some q) :
    Reads (cs ++ [c]) q := by
  rw [push?] at hq
  by_cases h₀ : c = '0'
  · subst h₀
    cases hq
    exact h.append hcs (by decide) (by decide) rfl rfl
  · by_cases h₁ : c = '1'
    · subst h₁
      cases hq
      exact h.append hcs (by decide) (by decide) rfl rfl
    · rw [if_neg h₀, if_neg h₁, Option.ite_none_right_eq_some] at hq
      obtain ⟨-, hq⟩ := hq
      cases hq
      have hd : digit? c = none := by rw [digit?, if_neg h₀, if_neg h₁]
      have happ := h.append (c := c) (m := 0) (v := 0) hcs (by decide) (by decide)
        (by simp [hd]) (by simp [hd])
      rwa [UInt16.or_zero, UInt16.or_zero] at happ

lemma read {total : Nat} (h : Reads past p) (hle : past.length ≤ 16)
    (hq : Pattern.read total cs past.length p = .ok q) :
    Reads (past ++ cs) q ∧ (past ++ cs).length = 16 := by
  induction cs generalizing past p with
  | nil =>
    rw [Pattern.read] at hq
    split at hq
    · rename_i hlen
      cases hq
      simpa using ⟨h, hlen⟩
    · cases hq
  | cons c cs ih =>
    rw [Pattern.read] at hq
    split at hq
    · cases hq
    · have hlt : past.length < 16 := by omega
      cases hp : p.push? c with
      | none =>
        rw [hp] at hq
        cases hq
      | some p' =>
        rw [hp] at hq
        have hlen : (past ++ [c]).length = past.length + 1 := List.length_append
        rw [← List.singleton_append, ← List.append_assoc]
        exact ih (h.push hlt hp) (by omega) (hlen ▸ hq)

lemma fixed?_eq (h : Reads cs p) : p.fixed? = demand? cs := by
  funext j
  rw [fixed?, h.mask, h.value]
  cases demand? cs j with
  | none => rfl
  | some b => cases b <;> rfl

end Reads

lemma reads_of_parse {s : String} {p : Pattern} (h : parse s = .ok p) :
    Reads (positions s) p ∧ (positions s).length = 16 := by
  have hnil : Reads [] ⟨0, 0⟩ := ⟨fun j => by simp [demand?], fun j => by simp [demand?]⟩
  exact hnil.read (Nat.zero_le _) h

end Recompiler.Pattern
