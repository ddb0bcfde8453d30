import Mathlib.Tactic.Lemma
import Recompiler.Interpreter.Step

/-! One instruction of the guest apart from its cost, and two ways to relate machines around an
action: `Along` says how it moves a machine, whether it ends with a value or a fault, and `Respects`
that it takes the same course on two machines. -/

namespace Recompiler

variable {α β : Type}

def Outcome.Leaves (P : Machine β → Prop) : Outcome β α → Prop
  | .done _ m => P m
  | .fault _ m => P m
  | .unfinished => True

lemma Outcome.Leaves.mono {P Q : Machine β → Prop} {x : Outcome β α} (h : x.Leaves P)
    (hpq : ∀ m, P m → Q m) : x.Leaves Q := by
  cases x with
  | done _ m => exact hpq m h
  | fault _ m => exact hpq m h
  | unfinished => trivial

def Outcome.Agrees (R : Machine β → Machine β → Prop) : Outcome β α → Outcome β α → Prop
  | .done a m, .done b n => a = b ∧ R m n
  | .fault e m, .fault f n => e = f ∧ R m n
  | .unfinished, .unfinished => True
  | _, _ => False

lemma Outcome.Agrees.of_done {R : Machine β → Machine β → Prop} {x : Outcome β α} {a : α}
    {n : Machine β} (h : x.Agrees R (.done a n)) : ∃ m, x = .done a m ∧ R m n := by
  cases x with
  | done b m =>
    obtain ⟨rfl, hm⟩ := h
    exact ⟨m, rfl, hm⟩
  | fault _ _ => cases h
  | unfinished => cases h

lemma Outcome.Agrees.of_fault {R : Machine β → Machine β → Prop} {x : Outcome β α} {f : Fault}
    {n : Machine β} (h : x.Agrees R (.fault f n)) : ∃ m, x = .fault f m ∧ R m n := by
  cases x with
  | done _ _ => cases h
  | fault e m =>
    obtain ⟨rfl, hm⟩ := h
    exact ⟨m, rfl, hm⟩
  | unfinished => cases h

namespace Guest

def Along (R : Machine β → Machine β → Prop) (x : Guest β α) : Prop := ∀ m, (x m).Leaves (R m)

def Respects (R : Machine β → Machine β → Prop) (x : Guest β α) : Prop :=
  ∀ {m n}, R m n → (x m).Agrees R (x n)

lemma Along.of_done {R : Machine β → Machine β → Prop} {x : Guest β α} (hx : x.Along R)
    {m n : Machine β} {a : α} (h : x m = .done a n) : R m n := by
  have hm := hx m
  rwa [h] at hm

lemma Along.of_fault {R : Machine β → Machine β → Prop} {x : Guest β α} (hx : x.Along R)
    {m n : Machine β} {f : Fault} (h : x m = .fault f n) : R m n := by
  have hm := hx m
  rwa [h] at hm

lemma mapFault_of_fault {x : Guest β α} {m n : Machine β} {f : Fault} {g : Fault → Fault}
    (h : x m = .fault f n) : mapFault g x m = .fault (g f) n := by
  rw [mapFault, h]

lemma mapFault_congr {x y : Guest β α} {m n : Machine β} {g : Fault → Fault} (h : x m = y n) :
    mapFault g x m = mapFault g y n := by
  rw [mapFault, mapFault, h]

lemma leaves_mapFault {P : Machine β → Prop} {x : Guest β α} {m : Machine β} {g : Fault → Fault}
    (h : (x m).Leaves P) : (mapFault g x m).Leaves P := by
  rw [mapFault]
  cases hx : x m <;> rw [hx] at h <;> exact h

instance : LawfulMonad (Guest β) := LawfulMonad.mk' _
  (fun x => funext fun m => by
    cases h : x m with
    | done a n => exact bind_of_done h
    | fault f n => exact bind_of_fault h
    | unfinished => exact bind_of_unfinished h)
  (fun _ _ => rfl)
  (fun x f g => funext fun m => by
    change bind (bind x f) g m = bind x (fun a => bind (f a) g) m
    cases h : x m <;> simp only [bind, h])

end Guest

namespace InstructionSet

variable [Bus β] (isa : InstructionSet β)

def instruction : Guest β UInt16 := do
  let addr := (← Guest.processor).pc
  let opcode ← Guest.fetch addr
  Guest.modify (·.setPc (addr + instructionBytes))
  if (← Guest.processor).fpuDisabled && isa.isFloatingPoint opcode then
    Guest.fail (.raise addr .fpuDisabled)
  else
    isa.execute opcode
    return opcode

def fetched (m : Machine β) (bus : β) : Machine β :=
  ⟨m.processor.setPc (m.processor.pc + instructionBytes), bus⟩

variable {isa}

lemma instruction_of_error {m : Machine β} {f : Fault} {bus : β}
    (h : Bus.readOpcode m.bus m.processor.pc = (.error f, bus)) :
    isa.instruction m = .fault f { m with bus } := by
  have hf : Guest.fetch m.processor.pc m = .fault f { m with bus } := by
    rw [Guest.fetch, h]
  exact (Guest.bind_of_done rfl).trans (Guest.bind_of_fault hf)

lemma instruction_of_ok {m : Machine β} {opcode : UInt16} {bus : β}
    (h : Bus.readOpcode m.bus m.processor.pc = (.ok opcode, bus)) :
    isa.instruction m =
      if (fetched m bus).processor.fpuDisabled && isa.isFloatingPoint opcode then
        .fault (.raise m.processor.pc .fpuDisabled) (fetched m bus)
      else match isa.execute opcode (fetched m bus) with
        | .done _ n => .done opcode n
        | .fault f n => .fault f n
        | .unfinished => .unfinished := by
  have hf : Guest.fetch m.processor.pc m = .done opcode { m with bus } := by
    rw [Guest.fetch, h]
  refine (Guest.bind_of_done rfl).trans ((Guest.bind_of_done hf).trans ?_)
  change (if (fetched m bus).processor.fpuDisabled && isa.isFloatingPoint opcode then _
    else _ : Guest β UInt16) (fetched m bus) = _
  by_cases hd : ((fetched m bus).processor.fpuDisabled && isa.isFloatingPoint opcode) = true
  · rw [if_pos hd, if_pos hd, Guest.fail]
  · rw [if_neg hd, if_neg hd]
    cases hx : isa.execute opcode (fetched m bus) with
    | done _ n => exact Guest.bind_of_done hx
    | fault f n => exact Guest.bind_of_fault hx
    | unfinished => exact Guest.bind_of_unfinished hx

variable (isa) in
def Admits (opcode : UInt16) (p : Processor) : Prop :=
  (p.fpuDisabled && isa.isFloatingPoint opcode) = false

lemma instruction_along_of_admitted {R : Machine β → Machine β → Prop}
    (htrans : ∀ {m n k}, R m n → R n k → R m k)
    (hfault : ∀ m : Machine β, R m { m with bus := (Bus.readOpcode m.bus m.processor.pc).2 })
    (hfetch : ∀ m : Machine β, R m (fetched m (Bus.readOpcode m.bus m.processor.pc).2))
    (hexec : ∀ opcode m, isa.Admits opcode m.processor → (isa.execute opcode m).Leaves (R m)) :
    isa.instruction.Along R := by
  intro m
  rcases h : Bus.readOpcode m.bus m.processor.pc with ⟨f | opcode, bus⟩
  · have hf := hfault m
    rw [h] at hf
    rw [instruction_of_error h]
    exact hf
  · have hf := hfetch m
    rw [h] at hf
    rw [instruction_of_ok h]
    split
    · exact hf
    · rename_i hd
      have hx := hexec opcode (fetched m bus) ((Bool.not_eq_true _).mp hd)
      cases he : isa.execute opcode (fetched m bus) <;> rw [he] at hx <;>
        exact hx.mono fun _ => htrans hf

lemma instruction_along {R : Machine β → Machine β → Prop}
    (htrans : ∀ {m n k}, R m n → R n k → R m k)
    (hfault : ∀ m : Machine β, R m { m with bus := (Bus.readOpcode m.bus m.processor.pc).2 })
    (hfetch : ∀ m : Machine β, R m (fetched m (Bus.readOpcode m.bus m.processor.pc).2))
    (hexec : ∀ opcode, (isa.execute opcode).Along R) : isa.instruction.Along R :=
  instruction_along_of_admitted htrans hfault hfetch fun opcode m _ => hexec opcode m

lemma delaySlot_of_error {m : Machine β} {f : Fault} {bus : β}
    (h : Bus.readOpcode m.bus m.processor.pc = (.error f, bus)) :
    isa.delaySlot m =
      .fault (f.inDelaySlot (m.processor.pc - instructionBytes)) (fetched m bus) := by
  have hf : Guest.fetch m.processor.pc (fetched m m.bus) = .fault f (fetched m bus) := by
    rw [Guest.fetch, fetched, h]
    rfl
  refine (Guest.bind_of_done rfl).trans (Guest.mapFault_of_fault ?_)
  exact (Guest.bind_of_done rfl).trans (Guest.bind_of_fault hf)

lemma delaySlot_of_ok {m : Machine β} {opcode : UInt16} {bus : β}
    (h : Bus.readOpcode m.bus m.processor.pc = (.ok opcode, bus)) :
    isa.delaySlot m = Guest.mapFault (Fault.inDelaySlot (m.processor.pc - instructionBytes))
      (if (fetched m bus).processor.fpuDisabled && isa.isFloatingPoint opcode then
        Guest.fail (.raise m.processor.pc .fpuDisabled)
      else isa.execute opcode) (fetched m bus) := by
  have hf : Guest.fetch m.processor.pc (fetched m m.bus) = .done opcode (fetched m bus) := by
    rw [Guest.fetch, fetched, h]
    rfl
  refine (Guest.bind_of_done rfl).trans (Guest.mapFault_congr ?_)
  exact (Guest.bind_of_done rfl).trans ((Guest.bind_of_done hf).trans (Guest.bind_of_done rfl))

lemma delaySlot_along_of_admitted {R : Machine β → Machine β → Prop}
    (htrans : ∀ {m n k}, R m n → R n k → R m k)
    (hfetch : ∀ m : Machine β, R m (fetched m (Bus.readOpcode m.bus m.processor.pc).2))
    (hexec : ∀ opcode m, isa.Admits opcode m.processor → (isa.execute opcode m).Leaves (R m)) :
    isa.delaySlot.Along R := by
  intro m
  have hf := hfetch m
  rcases h : Bus.readOpcode m.bus m.processor.pc with ⟨f | opcode, bus⟩ <;> rw [h] at hf
  · rw [delaySlot_of_error h]
    exact hf
  · rw [delaySlot_of_ok h]
    refine Guest.leaves_mapFault ?_
    split
    · exact hf
    · rename_i hd
      exact (hexec opcode _ ((Bool.not_eq_true _).mp hd)).mono fun _ => htrans hf

end InstructionSet

namespace Interpreter

variable [Bus β] (i : Interpreter β)

lemma step_eq : i.step = i.instructionCost <$> i.isa.instruction := by
  rw [map_eq_pure_bind, step, InstructionSet.instruction]
  simp only [bind_assoc]
  refine bind_congr fun p => bind_congr fun opcode => bind_congr fun _ => bind_congr fun q => ?_
  split
  · rfl
  · rw [bind_assoc]
    rfl

lemma step_apply (m : Machine β) :
    i.step m = match i.isa.instruction m with
      | .done opcode n => .done (i.instructionCost opcode) n
      | .fault f n => .fault f n
      | .unfinished => .unfinished := by
  rw [step_eq, map_eq_pure_bind]
  cases h : i.isa.instruction m with
  | done opcode n => exact Guest.bind_of_done h
  | fault f n => exact Guest.bind_of_fault h
  | unfinished => exact Guest.bind_of_unfinished h

end Interpreter

end Recompiler
