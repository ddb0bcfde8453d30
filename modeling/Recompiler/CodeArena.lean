/-! The arena that compiled units are reserved in. Bytes are handed out in order from a cursor and
taken back all at once: a reset rewinds the cursor and starts a new generation, so that entries
handed out before it no longer match. -/

namespace Recompiler

namespace CodeArena

structure Entry where
  offset : UInt32
  generation : UInt32
  deriving DecidableEq, Ord, Repr

structure Exhausted where
  requested : UInt32
  available : UInt32
  deriving DecidableEq, Repr

def Exhausted.message (e : Exhausted) : String :=
  s!"code buffer exhausted: requested {e.requested} bytes, {e.available} available"

structure Write where
  start : Nat
  data : Array UInt8

namespace Write

def bound (w : Write) : Nat := w.start + w.data.size

def byteAt? (w : Write) (i : Nat) : Option UInt8 :=
  if w.start ≤ i then w.data[i - w.start]? else none

theorem byteAt?_eq_none {w : Write} {i : Nat} (h : w.bound ≤ i) : w.byteAt? i = none := by
  rw [bound] at h
  rw [byteAt?]
  split
  · exact Array.getElem?_eq_none (by omega)
  · rfl

end Write

end CodeArena

/-- A byte is zero until it is written. Only what was written since the last reset is kept, the
newest first, and it lies below the cursor. -/
structure CodeArena where
  id : UInt64
  capacity : UInt32
  generation : UInt32 := 0
  cursor : UInt32 := 0
  writes : List CodeArena.Write := []
  cursor_le : cursor.toNat ≤ capacity.toNat := by simp
  bound_le : ∀ w ∈ writes, w.bound ≤ cursor.toNat := by simp

namespace CodeArena

structure Supply where
  next : UInt64 := 1

def Supply.create (s : Supply) (capacity : UInt32) : CodeArena × Supply :=
  ({ id := s.next, capacity := capacity }, ⟨s.next + 1⟩)

variable (a : CodeArena)

def freeSpace : UInt32 := a.capacity - a.cursor

@[simp] theorem toNat_freeSpace : a.freeSpace.toNat = a.capacity.toNat - a.cursor.toNat :=
  UInt32.toNat_sub_of_le _ _ (UInt32.le_iff_toNat_le.mpr a.cursor_le)

theorem cursor_add_freeSpace : a.cursor.toNat + a.freeSpace.toNat = a.capacity.toNat := by
  rw [toNat_freeSpace]
  exact Nat.add_sub_cancel' a.cursor_le

def byteAt (i : Nat) : UInt8 := (a.writes.findSome? (·.byteAt? i)).getD 0

theorem byteAt_of_cursor_le {i : Nat} (h : a.cursor.toNat ≤ i) : a.byteAt i = 0 := by
  have hw : a.writes.findSome? (·.byteAt? i) = none := List.findSome?_eq_none_iff.mpr fun w hw =>
    Write.byteAt?_eq_none (Nat.le_trans (a.bound_le w hw) h)
  rw [byteAt, hw]
  rfl

def current : Entry := ⟨a.cursor, a.generation⟩

theorem toNat_cursor_add {len : UInt32} (h : len ≤ a.freeSpace) :
    (a.cursor + len).toNat = a.cursor.toNat + len.toNat := by
  have hle := UInt32.le_iff_toNat_le.mp h
  have hcap := a.capacity.toNat_lt
  have hcur := a.cursor_le
  rw [toNat_freeSpace] at hle
  rw [UInt32.toNat_add, Nat.mod_eq_of_lt (by omega)]

def allocate (len : UInt32) : Except Exhausted (Entry × CodeArena) :=
  if h : len ≤ a.freeSpace then
    .ok (a.current,
      { a with
        cursor := a.cursor + len
        cursor_le := by
          have hle := UInt32.le_iff_toNat_le.mp h
          have hsum := a.cursor_add_freeSpace
          rw [a.toNat_cursor_add h]
          omega
        bound_le := fun w hw => by
          rw [a.toNat_cursor_add h]
          exact Nat.le_add_right_of_le (a.bound_le w hw) })
  else
    .error ⟨len, a.freeSpace⟩

theorem byteAt_of_allocate {len : UInt32} {e : Entry} {b : CodeArena}
    (h : a.allocate len = .ok (e, b)) (i : Nat) : b.byteAt i = a.byteAt i := by
  rw [allocate] at h
  split at h
  · cases h
    rfl
  · cases h

def isLive (e : Entry) : Bool := e.generation == a.generation && e.offset < a.cursor

theorem isLive_iff (e : Entry) :
    a.isLive e = true ↔ e.generation = a.generation ∧ e.offset.toNat < a.cursor.toNat := by
  simp [isLive, UInt32.lt_iff_toNat_lt]

def Holds (e : Entry) (len : UInt32) : Prop :=
  a.isLive e = true ∧ e.offset.toNat + len.toNat ≤ a.cursor.toNat

instance (e : Entry) (len : UInt32) : Decidable (a.Holds e len) :=
  inferInstanceAs (Decidable (_ ∧ _))

def region? (e : Entry) (len : UInt32) : Option (List UInt8) :=
  if a.Holds e len then
    some ((List.range len.toNat).map fun i => a.byteAt (e.offset.toNat + i))
  else none

def write? (e : Entry) (len : UInt32) (data : List UInt8) : Option CodeArena :=
  if h : a.Holds e len then
    some { a with
      writes := ⟨e.offset.toNat, (data.take len.toNat).toArray⟩ :: a.writes
      bound_le := List.forall_mem_cons.mpr ⟨by
        have hlen := h.2
        simp only [Write.bound, List.size_toArray, List.length_take]
        omega, a.bound_le⟩ }
  else none

theorem byteAt_of_write? {e : Entry} {len : UInt32} {data : List UInt8} {b : CodeArena}
    (h : a.write? e len data = some b) (i : Nat) :
    b.byteAt i = ((Write.mk e.offset.toNat (data.take len.toNat).toArray).byteAt? i).getD
      (a.byteAt i) := by
  rw [write?] at h
  split at h
  · cases h
    rw [byteAt, byteAt, List.findSome?_cons]
    split <;> rename_i hw <;> rw [hw] <;> rfl
  · cases h

def reset : CodeArena :=
  { a with
    generation := a.generation + 1
    cursor := 0
    writes := []
    cursor_le := by simp
    bound_le := by simp }

theorem generation_reset : a.reset.generation = a.generation + 1 := rfl

end CodeArena

end Recompiler
