/-! Counters that stay at the largest word instead of wrapping. -/

namespace Recompiler.Saturating

def word32 (n : Nat) : UInt32 := UInt32.ofNat (min n (UInt32.size - 1))

def word64 (n : Nat) : UInt64 := UInt64.ofNat (min n (UInt64.size - 1))

theorem toNat_word32 (n : Nat) : (word32 n).toNat = min n (UInt32.size - 1) := by
  have h : min n (UInt32.size - 1) < UInt32.size :=
    Nat.lt_of_le_of_lt (Nat.min_le_right _ _) (by decide)
  rw [word32, UInt32.toNat_ofNat_of_lt' h]

theorem toNat_word64 (n : Nat) : (word64 n).toNat = min n (UInt64.size - 1) := by
  have h : min n (UInt64.size - 1) < UInt64.size :=
    Nat.lt_of_le_of_lt (Nat.min_le_right _ _) (by decide)
  rw [word64, UInt64.toNat_ofNat_of_lt' h]

end Recompiler.Saturating
