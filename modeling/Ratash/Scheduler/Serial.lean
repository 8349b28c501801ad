import Mathlib.Data.List.Nodup
import Ratash.Domain

namespace Ratash

def nextNonzero (value : UInt64) : UInt64 :=
  let next := value + 1
  if next = 0 then 1 else next

/-- The `k`th number handed out: 1, 2, …, 2⁶⁴ - 1, and from 1 again. -/
def serial (k : Nat) : UInt64 := .ofNat (k % (UInt64.size - 1) + 1)

theorem toNat_serial (k : Nat) : (serial k).toNat = k % (UInt64.size - 1) + 1 := by
  have hlt := Nat.mod_lt k (show 0 < UInt64.size - 1 by decide)
  apply UInt64.toNat_ofNat_of_lt'
  omega

theorem nextNonzero_serial (k : Nat) : nextNonzero (serial k) = serial (k + 1) := by
  have hlt := Nat.mod_lt k (show 0 < UInt64.size - 1 by decide)
  have hsucc := Nat.add_mod k 1 (UInt64.size - 1)
  apply UInt64.toNat_inj.1
  rw [toNat_serial, nextNonzero]
  by_cases hlast : k % (UInt64.size - 1) + 1 = UInt64.size - 1
  · have hzero : serial k + 1 = 0 := by
      apply UInt64.toNat_inj.1
      rw [UInt64.toNat_add, toNat_serial, hlast]
      rfl
    rw [if_pos hzero, hsucc]
    change 1 = (k % (UInt64.size - 1) + 1) % (UInt64.size - 1) + 1
    rw [hlast, Nat.mod_self]
  · have hadd : (serial k + 1).toNat = k % (UInt64.size - 1) + 2 := by
      rw [UInt64.toNat_add, toNat_serial]
      change (k % (UInt64.size - 1) + 1 + 1) % UInt64.size = _
      apply Nat.mod_eq_of_lt
      omega
    have hne : serial k + 1 ≠ 0 := by
      intro hzero
      rw [hzero] at hadd
      cases hadd
    rw [if_neg hne, hadd, hsucc]
    change _ = (k % (UInt64.size - 1) + 1) % (UInt64.size - 1) + 1
    rw [Nat.mod_eq_of_lt (show k % (UInt64.size - 1) + 1 < UInt64.size - 1 by omega)]

theorem nodup_serial (h : n < UInt64.size) : ((List.range n).map serial).Nodup := by
  apply List.Nodup.map_on _ List.nodup_range
  intro i hi j hj heq
  have hmod := congrArg UInt64.toNat heq
  have hi := List.mem_range.1 hi
  have hj := List.mem_range.1 hj
  rw [toNat_serial, toNat_serial, Nat.mod_eq_of_lt (by omega), Nat.mod_eq_of_lt (by omega)] at hmod
  exact Nat.succ.inj hmod

end Ratash
