import Mathlib.Algebra.GroupWithZero.Nat
import Mathlib.Data.List.Basic

/-!
A queue of bounded length and bounded total size that makes room by forgetting its oldest entries.
-/

namespace Bounded

variable (size : α → Nat)

def total (xs : List α) : Nat := (xs.map size).sum

/-- Forget the oldest until `incoming` fits: what is left, its size and how many are gone. -/
def makeRoom (capacity limit incoming : Nat) : List α → Nat → List α × Nat × Nat
  | [], bytes => ([], bytes, 0)
  | x :: xs, bytes =>
    if (x :: xs).length = capacity ∨ limit < bytes + incoming then
      let (left, bytes, dropped) := makeRoom capacity limit incoming xs (bytes - size x)
      (left, bytes, dropped + 1)
    else (x :: xs, bytes, 0)

variable {size}

@[simp] theorem total_nil : total size [] = 0 := rfl

@[simp] theorem total_cons : total size (x :: xs) = size x + total size xs := List.sum_cons

@[simp] theorem total_append : total size (xs ++ ys) = total size xs + total size ys := by
  simp [total]

theorem total_le_of_sublist (h : List.Sublist xs ys) : total size xs ≤ total size ys := by
  induction h with
  | slnil => exact Nat.le_refl _
  | cons y _ ih => exact Nat.le_trans ih (Nat.le_add_left _ (size y))
  | cons_cons y _ ih =>
    rw [total_cons, total_cons]
    exact Nat.add_le_add_left ih _

structure Room (size : α → Nat) (capacity limit incoming : Nat) (xs : List α)
    (room : List α × Nat × Nat) : Prop where
  left_eq : xs.drop room.2.2 = room.1
  bytes_eq : room.2.1 = total size room.1
  length_lt : room.1.length < capacity
  fits : total size room.1 + incoming ≤ limit

theorem makeRoom_spec (hcapacity : 0 < capacity) (hincoming : incoming ≤ limit)
    (hlength : xs.length ≤ capacity) : Room size capacity limit incoming xs
      (makeRoom size capacity limit incoming xs (total size xs)) := by
  induction xs with
  | nil => exact ⟨rfl, rfl, hcapacity, Nat.le_trans (Nat.le_of_eq (Nat.zero_add _)) hincoming⟩
  | cons x xs ih =>
    unfold makeRoom
    split
    · have hrest : total size (x :: xs) - size x = total size xs := by
        rw [total_cons, Nat.add_sub_cancel_left]
      rw [hrest]
      have hroom := ih (Nat.le_of_succ_le hlength)
      exact ⟨hroom.left_eq, hroom.bytes_eq, hroom.length_lt, hroom.fits⟩
    · rename_i hfits
      obtain ⟨hne, hle⟩ := not_or.1 hfits
      exact ⟨rfl, rfl, Nat.lt_of_le_of_ne hlength hne, Nat.not_lt.1 hle⟩

theorem length_makeRoom (size : α → Nat) (capacity limit incoming : Nat) (xs : List α)
    (bytes : Nat) : (makeRoom size capacity limit incoming xs bytes).2.2 +
      (makeRoom size capacity limit incoming xs bytes).1.length = xs.length := by
  induction xs generalizing bytes with
  | nil => rfl
  | cons x xs ih =>
    unfold makeRoom
    split
    · have hrest := ih (bytes - size x)
      rw [List.length_cons, ← hrest]
      exact Nat.add_right_comm ..
    · exact Nat.zero_add _

end Bounded
