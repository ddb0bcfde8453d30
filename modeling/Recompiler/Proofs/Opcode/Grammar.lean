import Recompiler.Proofs.Opcode.Pattern

/-! What can be written for a pattern. The first of the sixteen positions that holds neither a digit
nor a letter is reported, and only where there is none the number of positions is. -/

namespace Recompiler.Pattern

def IsPosition (c : Char) : Prop :=
  c = '0' ∨ c = '1' ∨ ('A' ≤ c ∧ c ≤ 'Z') ∨ ('a' ≤ c ∧ c ≤ 'z')

instance (c : Char) : Decidable (IsPosition c) :=
  inferInstanceAs (Decidable (c = '0' ∨ c = '1' ∨ ('A' ≤ c ∧ c ≤ 'Z') ∨ ('a' ≤ c ∧ c ≤ 'z')))

lemma isAlpha_iff {c : Char} :
    c.isAlpha = true ↔ ('A' ≤ c ∧ c ≤ 'Z') ∨ ('a' ≤ c ∧ c ≤ 'z') := by
  have hα : c.isAlpha = (c.isUpper || c.isLower) := rfl
  have hu : c.isUpper = true ↔ 'A' ≤ c ∧ c ≤ 'Z' := decide_eq_true_iff
  have hl : c.isLower = true ↔ 'a' ≤ c ∧ c ≤ 'z' := by
    have hand : c.isLower = (decide ('a' ≤ c) && decide (c ≤ 'z')) := rfl
    rw [hand, Bool.and_eq_true, decide_eq_true_iff, decide_eq_true_iff]
  rw [hα, Bool.or_eq_true, hu, hl]

lemma push?_of_isPosition (p : Pattern) {c : Char} (h : IsPosition c) :
    ∃ q, p.push? c = some q := by
  rw [push?]
  split
  · exact ⟨_, rfl⟩
  · split
    · exact ⟨_, rfl⟩
    · rename_i h₀ h₁
      rcases h with h | h | h
      · exact (h₀ h).elim
      · exact (h₁ h).elim
      · exact ⟨_, if_pos (isAlpha_iff.mpr h)⟩

lemma push?_of_not_isPosition (p : Pattern) {c : Char} (h : ¬ IsPosition c) : p.push? c = none := by
  have h₀ : c ≠ '0' := fun hc => h (.inl hc)
  have h₁ : c ≠ '1' := fun hc => h (.inr (.inl hc))
  have hα : ¬ c.isAlpha = true := fun hc => h (.inr (.inr (isAlpha_iff.mp hc)))
  rw [push?, if_neg h₀, if_neg h₁, if_neg hα]

def stray? (cs : List Char) : Option Char := cs.find? fun c => ¬ IsPosition c

lemma stray?_eq_none {cs : List Char} : stray? cs = none ↔ ∀ c ∈ cs, IsPosition c := by
  simp [stray?]

lemma stray?_cons_of_isPosition {c : Char} (cs : List Char) (h : IsPosition c) :
    stray? (c :: cs) = stray? cs :=
  List.find?_cons_of_neg (by simpa using h)

lemma stray?_cons_of_not_isPosition {c : Char} (cs : List Char) (h : ¬ IsPosition c) :
    stray? (c :: cs) = some c :=
  List.find?_cons_of_pos (by simpa using h)

-- With every position read there is one less to come before the sixteenth.
lemma read_cases {total : Nat} (cs : List Char) {done : Nat} (htotal : done + cs.length = total)
    (hdone : done ≤ 16) (p : Pattern) :
    (∃ c, stray? (cs.take (16 - done)) = some c ∧
      read total cs done p = .error (.invalidCharacter c)) ∨
    stray? (cs.take (16 - done)) = none ∧
      (total = 16 ∧ (∃ q, read total cs done p = .ok q) ∨
        total ≠ 16 ∧ read total cs done p = .error (.length total)) := by
  induction cs generalizing done p with
  | nil =>
    obtain rfl : done = total := htotal
    refine .inr ⟨by rw [List.take_nil]; rfl, ?_⟩
    by_cases hd : done = 16
    · exact .inl ⟨hd, p, if_pos hd⟩
    · exact .inr ⟨hd, if_neg hd⟩
  | cons c cs ih =>
    rw [List.length_cons] at htotal
    by_cases hd : done = 16
    · refine .inr ⟨by rw [hd]; rfl, .inr ⟨by omega, if_pos hd⟩⟩
    · have htake : (c :: cs).take (16 - done) = c :: cs.take (16 - (done + 1)) := by
        rw [show 16 - done = 16 - (done + 1) + 1 by omega, List.take_succ_cons]
      rw [htake, read, if_neg hd]
      by_cases hc : IsPosition c
      · obtain ⟨q, hq⟩ := push?_of_isPosition p hc
        rw [hq, stray?_cons_of_isPosition _ hc]
        exact ih (by omega) (by omega) q
      · rw [push?_of_not_isPosition p hc]
        exact .inl ⟨c, stray?_cons_of_not_isPosition _ hc, rfl⟩

lemma bind_digit?_eq_some {x : Option Char} {b : Bool} :
    x.bind digit? = some b ↔ x = some (cond b '1' '0') := by
  cases x with
  | none => simp
  | some c =>
    rw [Option.bind_some, digit?, Option.some_inj]
    split
    · rename_i h₀
      cases b <;> simp [h₀]
    · rename_i h₀
      split
      · rename_i h₁
        cases b <;> simp [h₁]
      · rename_i h₁
        cases b <;> simp [h₀, h₁]

lemma isSome_bind_digit? {x : Option Char} :
    (x.bind digit?).isSome = true ↔ x = some '0' ∨ x = some '1' := by
  have h₀ : x.bind digit? = some false ↔ x = some '0' := bind_digit?_eq_some
  have h₁ : x.bind digit? = some true ↔ x = some '1' := bind_digit?_eq_some
  rw [← h₀, ← h₁]
  rcases x.bind digit? with _ | _ | _ <;> simp

lemma agrees_demand?_iff {cs : List Char} (hlen : cs.length = 16) {x : Nat} :
    Agrees (demand? cs) 16 x ↔ ∀ i < 16, (cs[i]? = some '0' → x.testBit (15 - i) = false) ∧
      (cs[i]? = some '1' → x.testBit (15 - i) = true) := by
  constructor
  · intro h i hi
    have hd := h (15 - i) (by omega)
    rw [demand?_of_length hlen hi] at hd
    exact ⟨fun hc => hd false (bind_digit?_eq_some.mpr hc),
      fun hc => hd true (bind_digit?_eq_some.mpr hc)⟩
  · intro h j hj b hb
    obtain ⟨i, hi, rfl⟩ : ∃ i < 16, j = 15 - i := ⟨15 - j, by omega, by omega⟩
    rw [demand?_of_length hlen hi] at hb
    cases b with
    | false => exact (h i hi).1 (bind_digit?_eq_some.mp hb)
    | true => exact (h i hi).2 (bind_digit?_eq_some.mp hb)

namespace Reads

variable {cs : List Char} {p : Pattern} (h : Reads cs p)
include h

lemma value_and_mask : p.value &&& p.mask = p.value := by
  rw [← UInt16.toNat_inj, UInt16.toNat_and]
  apply Nat.eq_of_testBit_eq
  intro j
  rw [Nat.testBit_and, h.mask, h.value]
  rcases demand? cs j with _ | _ | _ <;> rfl

lemma and_mask_eq_iff (opcode : UInt16) :
    opcode &&& p.mask = p.value ↔ Agrees (demand? cs) 16 opcode.toNat := by
  rw [← h.fixed?_eq, ← accepts_iff, accepts, beq_iff_eq, h.value_and_mask]

variable (hlen : cs.length = 16) {i : Nat} (hi : i < 16)
include hlen hi

lemma mask_iff : p.mask.toNat.testBit (15 - i) = true ↔ cs[i]? = some '0' ∨ cs[i]? = some '1' := by
  rw [h.mask, demand?_of_length hlen hi, isSome_bind_digit?]

lemma value_iff : p.value.toNat.testBit (15 - i) = true ↔ cs[i]? = some '1' := by
  rw [h.value, demand?_of_length hlen hi, beq_iff_eq]
  exact bind_digit?_eq_some

end Reads

lemma parse_cases (s : String) :
    (∃ c, stray? ((positions s).take 16) = some c ∧ parse s = .error (.invalidCharacter c)) ∨
    (stray? ((positions s).take 16) = none ∧ (positions s).length = 16 ∧ ∃ p, parse s = .ok p) ∨
    stray? ((positions s).take 16) = none ∧ (positions s).length ≠ 16 ∧
      parse s = .error (.length (positions s).length) := by
  rcases read_cases (positions s) (Nat.zero_add _) (Nat.zero_le _) ⟨0, 0⟩ with
    h | ⟨hstray, ⟨hlen, h⟩ | ⟨hlen, h⟩⟩
  · exact .inl h
  · exact .inr (.inl ⟨hstray, hlen, h⟩)
  · exact .inr (.inr ⟨hstray, hlen, h⟩)

lemma exists_parse_iff (s : String) : (∃ p, parse s = .ok p) ↔
    (positions s).length = 16 ∧ ∀ c ∈ positions s, IsPosition c := by
  have hall (hlen : (positions s).length = 16) :
      stray? ((positions s).take 16) = none ↔ ∀ c ∈ positions s, IsPosition c := by
    rw [List.take_of_length_le (Nat.le_of_eq hlen), stray?_eq_none]
  rcases parse_cases s with ⟨c, hstray, h⟩ | ⟨hstray, hlen, h⟩ | ⟨hstray, hlen, h⟩
  · rw [h]
    refine iff_of_false (by rintro ⟨p, ⟨⟩⟩) ?_
    rintro ⟨hlen, hvalid⟩
    rw [(hall hlen).mpr hvalid] at hstray
    cases hstray
  · exact iff_of_true h ⟨hlen, (hall hlen).mp hstray⟩
  · rw [h]
    exact iff_of_false (by rintro ⟨p, ⟨⟩⟩) fun hvalid => hlen hvalid.1

lemma parse_eq_invalidCharacter_iff (s : String) (c : Char) :
    parse s = .error (.invalidCharacter c) ↔ stray? ((positions s).take 16) = some c := by
  rcases parse_cases s with ⟨d, hstray, h⟩ | ⟨hstray, _, p, h⟩ | ⟨hstray, _, h⟩ <;>
    rw [hstray, h] <;> simp

lemma parse_eq_length_iff (s : String) (n : Nat) :
    parse s = .error (.length n) ↔
      n = (positions s).length ∧ n ≠ 16 ∧ ∀ c ∈ (positions s).take 16, IsPosition c := by
  rw [← stray?_eq_none]
  rcases parse_cases s with ⟨c, hstray, h⟩ | ⟨hstray, hlen, p, h⟩ | ⟨hstray, hlen, h⟩
  · simp [h, hstray]
  · rw [h]
    refine iff_of_false nofun ?_
    rintro ⟨rfl, hne, -⟩
    exact hne hlen
  · rw [h]
    constructor
    · rintro ⟨⟩
      exact ⟨rfl, hlen, hstray⟩
    · rintro ⟨rfl, -⟩
      rfl

/-- Exactly the strings of sixteen digits and letters, with separators anywhere, are patterns. The
digits of a pattern fix the bits that they stand for, from the highest one down, and no other. Of a
string that is no pattern the first stray position of sixteen is reported, else the length. -/
theorem parse_verdict (s : String) :
    let cs := positions s
    ((∃ p, parse s = .ok p) ↔ cs.length = 16 ∧ ∀ c ∈ cs, IsPosition c) ∧
    (∀ p, parse s = .ok p →
      (∀ i < 16,
        (p.mask.toNat.testBit (15 - i) = true ↔ cs[i]? = some '0' ∨ cs[i]? = some '1') ∧
        (p.value.toNat.testBit (15 - i) = true ↔ cs[i]? = some '1')) ∧
      p.value &&& p.mask = p.value ∧
      ∀ opcode, opcode &&& p.mask = p.value ↔ ∀ i < 16,
        (cs[i]? = some '0' → opcode.toNat.testBit (15 - i) = false) ∧
        (cs[i]? = some '1' → opcode.toNat.testBit (15 - i) = true)) ∧
    (∀ c, parse s = .error (.invalidCharacter c) ↔ stray? (cs.take 16) = some c) ∧
    ∀ n, parse s = .error (.length n) ↔
      n = cs.length ∧ n ≠ 16 ∧ ∀ c ∈ cs.take 16, IsPosition c := by
  intro cs
  refine ⟨exists_parse_iff s, fun p hp => ?_, parse_eq_invalidCharacter_iff s,
    parse_eq_length_iff s⟩
  obtain ⟨hreads, hlen⟩ := reads_of_parse hp
  refine ⟨fun i hi => ⟨hreads.mask_iff hlen hi, hreads.value_iff hlen hi⟩,
    hreads.value_and_mask, fun opcode => ?_⟩
  rw [hreads.and_mask_eq_iff, agrees_demand?_iff hlen]

example : parse "0111_nnnn_iiii_iii?_!" = .error (.invalidCharacter '?') := by decide

example : parse "0111_nnnn_iiii_iiii_!" = .error (.length 17) := by decide

end Recompiler.Pattern
