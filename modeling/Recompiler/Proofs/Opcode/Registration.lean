import Recompiler.Proofs.Opcode.Pattern

/-! A table as the list of its registrations. An opcode is served by the last registration that was
accepted and matches it, and is illegal where there is none. -/

namespace Recompiler

inductive Registration where
  | masked (p : Pattern) (d : Descriptor) (handler : Handler)
  | written (pattern : String) (d : Descriptor) (handler : Handler)

namespace Registration

def descriptor : Registration → Descriptor
  | .masked _ d _ => d
  | .written _ d _ => d

def handler : Registration → Handler
  | .masked _ _ handler => handler
  | .written _ _ handler => handler

/-- The opcode has all the bits that the registration fixes. Those of a written pattern are at its
digits, with the first position for the highest bit. -/
def Matches : Registration → UInt16 → Prop
  | .masked p _ _, opcode => opcode &&& p.mask = p.value &&& p.mask
  | .written s _ _, opcode => ∀ x ∈ (Pattern.positions s).zipIdx, ∀ b ∈ Pattern.digit? x.1,
    opcode.toNat.testBit (15 - x.2) = b

instance : (r : Registration) → (opcode : UInt16) → Decidable (r.Matches opcode)
  | .masked p _ _, opcode => inferInstanceAs (Decidable (opcode &&& p.mask = p.value &&& p.mask))
  | .written s _ _, opcode => inferInstanceAs (Decidable (∀ x ∈ (Pattern.positions s).zipIdx,
    ∀ b ∈ Pattern.digit? x.1, opcode.toNat.testBit (15 - x.2) = b))

def fixedBits : Registration → Nat
  | .masked p _ _ => (List.range 16).countP p.mask.toNat.testBit
  | .written s _ _ => (Pattern.positions s).countP fun c => (Pattern.digit? c).isSome

def parsed : Registration → Except Pattern.Malformed Pattern
  | .masked p _ _ => .ok p
  | .written s _ _ => Pattern.parse s

variable {r : Registration} {p : Pattern} {opcode : UInt16}

lemma matches_written_iff {s : String} {d : Descriptor} {handler : Handler}
    (hlen : (Pattern.positions s).length = 16) :
    (written s d handler).Matches opcode ↔
      Pattern.Agrees (Pattern.demand? (Pattern.positions s)) 16 opcode.toNat := by
  constructor
  · intro h j hj b hb
    obtain ⟨i, hi, rfl⟩ : ∃ i < 16, j = 15 - i := ⟨15 - j, by omega, by omega⟩
    rw [Pattern.demand?_of_length hlen hi] at hb
    obtain ⟨c, hc, hb⟩ := Option.bind_eq_some_iff.mp hb
    exact h (c, i) (List.mem_zipIdx_iff_getElem?.mpr hc) b hb
  · rintro h ⟨c, i⟩ hx b hb
    have hc := List.mem_zipIdx_iff_getElem?.mp hx
    have hi : i < 16 := hlen ▸ (List.getElem?_eq_some_iff.mp hc).1
    apply h (15 - i) (by omega) b
    rw [Pattern.demand?_of_length hlen hi]
    exact Option.bind_eq_some_iff.mpr ⟨c, hc, hb⟩

lemma accepts_iff_matches (hp : r.parsed = .ok p) :
    p.accepts opcode = true ↔ r.Matches opcode := by
  cases r with
  | masked q _ _ =>
    cases hp
    exact beq_iff_eq
  | written s _ _ =>
    obtain ⟨hreads, hlen⟩ := Pattern.reads_of_parse hp
    rw [Pattern.accepts_iff, hreads.fixed?_eq, matches_written_iff hlen]

lemma coverage_eq_countP (hp : r.parsed = .ok p) : OpcodeTable.coverage p =
    (List.range opcodeSpace).countP fun i => r.Matches (UInt16.ofNat i) :=
  List.countP_congr fun i _ => by rw [accepts_iff_matches hp, decide_eq_true_iff]

lemma coverage_eq_two_pow (hp : r.parsed = .ok p) :
    OpcodeTable.coverage p = 2 ^ (16 - r.fixedBits) := by
  rw [Pattern.coverage_eq]
  cases r with
  | masked q _ _ =>
    cases hp
    congr 3
    funext j
    rw [Pattern.fixed?]
    split <;> simp [*]
  | written s _ _ =>
    obtain ⟨hreads, hlen⟩ := Pattern.reads_of_parse hp
    rw [hreads.fixed?_eq, ← hlen, Pattern.countP_demand?, hlen]
    rfl

end Registration

namespace OpcodeTable

def accept (t : OpcodeTable) : Registration → Except Pattern.Malformed Nat × OpcodeTable
  | .masked p d handler => (t.register p d handler).map .ok id
  | .written s d handler =>
    match t.registerPattern s d handler with
    | .ok (n, u) => (.ok n, u)
    | .error e => (.error e, t)

abbrev Call := Registration × Except Pattern.Malformed Nat

def acceptAll : OpcodeTable → List Registration → List Call × OpcodeTable
  | t, [] => ([], t)
  | t, r :: rs =>
    let (answer, u) := t.accept r
    (acceptAll u rs).map ((r, answer) :: ·) id

def serving? (calls : List Call) (opcode : UInt16) : Option Registration :=
  (calls.filter fun call => call.2.isOk ∧ call.1.Matches opcode).getLast?.map Prod.fst

section

variable {β : Type} [Bus β]

def slot (t : OpcodeTable) : (depth : Nat) → Guest β Unit
  | 0 => Guest.unfinished
  | depth + 1 => (t.instructionSet depth).delaySlot

lemma instructionSet_eq (t : OpcodeTable) (depth : Nat) :
    t.instructionSet (β := β) depth = t.withSlot (t.slot depth) := by
  cases depth <;> rfl

end

structure Serves (t : OpcodeTable) (opcode : UInt16) (d : Descriptor) (handler : Handler) :
    Prop where
  descriptor : t.descriptor opcode = d
  isFloatingPoint {β : Type} [Bus β] (depth : Nat) :
    (t.instructionSet (β := β) depth).isFloatingPoint opcode = d.floatingPoint
  cycleCost {β : Type} [Bus β] (depth : Nat) :
    (t.instructionSet (β := β) depth).cycleCost opcode = d.cycles
  execute {β : Type} [Bus β] (depth : Nat) :
    (t.instructionSet (β := β) depth).execute opcode = (handler opcode).run (t.slot depth)

variable {t : OpcodeTable} {r : Registration} {opcode : UInt16} {d : Descriptor} {handler : Handler}

lemma serves_of_entry (h : t.entry opcode = (d, handler)) : t.Serves opcode d handler := by
  have hd : t.descriptor opcode = d := congrArg Prod.fst h
  have hh : t.handler opcode = handler := congrArg Prod.snd h
  constructor
  · exact hd
  · intro β _ depth
    rw [instructionSet_eq, ← hd]
    rfl
  · intro β _ depth
    rw [instructionSet_eq, ← hd]
    rfl
  · intro β _ depth
    rw [instructionSet_eq, ← hh]
    rfl

lemma accept_eq (t : OpcodeTable) (r : Registration) : t.accept r = match r.parsed with
    | .ok p => (.ok (coverage p), t.assign p r.descriptor r.handler)
    | .error e => (.error e, t) := by
  cases r with
  | masked p d handler => rfl
  | written s d handler =>
    rw [accept, registerPattern, Registration.parsed]
    cases Pattern.parse s <;> rfl

lemma parsed_of_accept {n : Nat} (h : (t.accept r).1 = .ok n) :
    ∃ p, r.parsed = .ok p ∧ n = coverage p := by
  rw [accept_eq] at h
  cases hp : r.parsed with
  | ok p =>
    rw [hp] at h
    exact ⟨p, rfl, (Except.ok.inj h).symm⟩
  | error e =>
    rw [hp] at h
    cases h

lemma entry_accept (t : OpcodeTable) (r : Registration) (opcode : UInt16) :
    (t.accept r).2.entry opcode = if (t.accept r).1.isOk ∧ r.Matches opcode
      then (r.descriptor, r.handler) else t.entry opcode := by
  rw [accept_eq]
  cases hp : r.parsed with
  | ok p => simp [entry_assign, Registration.accepts_iff_matches hp, Except.isOk, Except.toBool]
  | error e => simp [Except.isOk, Except.toBool]

lemma serving?_cons (r : Registration) (answer : Except Pattern.Malformed Nat) (calls : List Call)
    (opcode : UInt16) : serving? ((r, answer) :: calls) opcode =
      (serving? calls opcode).or (if answer.isOk ∧ r.Matches opcode then some r else none) := by
  rw [serving?, serving?, List.filter_cons]
  split
  · rename_i h
    rw [List.getLast?_cons, if_pos (of_decide_eq_true h)]
    cases (calls.filter _).getLast? <;> rfl
  · rename_i h
    rw [if_neg (by simpa using h), Option.or_none]

lemma entry_acceptAll (t : OpcodeTable) (rs : List Registration) (opcode : UInt16) :
    (t.acceptAll rs).2.entry opcode =
      ((serving? (t.acceptAll rs).1 opcode).map fun r => (r.descriptor, r.handler)).getD
        (t.entry opcode) := by
  induction rs generalizing t with
  | nil => rfl
  | cons r rs ih =>
    have hs := serving?_cons r (t.accept r).1 ((t.accept r).2.acceptAll rs).1 opcode
    have he := ih (t.accept r).2
    rw [acceptAll]
    refine he.trans ?_
    dsimp only [Prod.map]
    rw [hs, entry_accept]
    cases serving? ((t.accept r).2.acceptAll rs).1 opcode with
    | some r' => rfl
    | none => split <;> rfl

lemma map_fst_acceptAll (t : OpcodeTable) (rs : List Registration) :
    (t.acceptAll rs).1.map Prod.fst = rs := by
  induction rs generalizing t with
  | nil => rfl
  | cons r rs ih => exact congrArg (r :: ·) (ih (t.accept r).2)

/-- Whatever is registered, the last registration that was accepted and matches an opcode serves it
alone, and an opcode without one is illegal. A registration that is accepted tells the number of
opcodes it matches, and one that is refused changes nothing. -/
theorem served_by_last_registration (rs : List Registration) :
    let calls := (empty.acceptAll rs).1
    let t := (empty.acceptAll rs).2
    calls.map Prod.fst = rs ∧
    (∀ opcode r, serving? calls opcode = some r → t.Serves opcode r.descriptor r.handler) ∧
    (∀ opcode, serving? calls opcode = none →
      t.Serves opcode { name := "unknown" } (fun _ => Action.raise .illegalInstruction) ∧
      ∀ (β : Type) [Bus β] (depth : Nat) (m : Machine β),
        (t.instructionSet depth).execute opcode m =
          .fault (.raise (m.processor.pc - 2) .illegalInstruction) m) ∧
    ∀ (u : OpcodeTable) (r : Registration),
      (∀ n, (u.accept r).1 = .ok n →
        n = (List.range opcodeSpace).countP (fun i => r.Matches (UInt16.ofNat i)) ∧
          n = 2 ^ (16 - r.fixedBits)) ∧
      ∀ e, (u.accept r).1 = .error e → (u.accept r).2 = u := by
  intro calls t
  refine ⟨map_fst_acceptAll empty rs, ?_, ?_, ?_⟩
  · intro opcode r hr
    have he : t.entry opcode = _ := entry_acceptAll empty rs opcode
    rw [hr] at he
    exact serves_of_entry he
  · intro opcode hr
    have he : t.entry opcode = _ := entry_acceptAll empty rs opcode
    rw [hr, entry_empty] at he
    have hs := serves_of_entry he
    refine ⟨hs, ?_⟩
    intro β _ depth m
    rw [hs.execute]
    rfl
  · intro u r
    constructor
    · intro n hn
      obtain ⟨p, hp, hcount⟩ := parsed_of_accept hn
      rw [hcount]
      exact ⟨Registration.coverage_eq_countP hp, Registration.coverage_eq_two_pow hp⟩
    · intro e he
      rw [accept_eq] at he ⊢
      cases hp : r.parsed with
      | ok p =>
        rw [hp] at he
        cases he
      | error _ => rfl

theorem served_by_last_registration_overlap :
    let add := Registration.masked ⟨0xF000, 0x7FFF⟩ { name := "add" } fun _ => .pure ()
    let move := Registration.written "0111_0001_nnnn_nnnn" { name := "move", cycles := some 3 }
      fun _ => .pure ()
    let rs := [add, move, .written "0111_0001" { name := "jump" } fun _ => .pure ()]
    let t := (empty.acceptAll rs).2
    t.descriptor 0x7123 = { name := "move", cycles := some 3 } ∧
      t.descriptor 0x7223 = { name := "add" } ∧ t.descriptor 0x6000 = { name := "unknown" } ∧
      ∀ n, (t.accept move).1 = .ok n → n = 256 := by
  intro add move rs t
  obtain ⟨-, hserved, hillegal, haccept⟩ := served_by_last_registration rs
  have hbits : move.fixedBits = 8 := rfl
  refine ⟨(hserved 0x7123 move rfl).descriptor, (hserved 0x7223 add rfl).descriptor,
    (hillegal 0x6000 rfl).1.descriptor, ?_⟩
  intro n hn
  have hn := ((haccept t move).1 n hn).2
  rwa [hbits] at hn

end OpcodeTable

end Recompiler
