import Ratash.Numbered.Pages

namespace Numbered

variable {number : α → Nat}

/-- The list is numbered `n + 1`, `n + 2` and so on. -/
def Consecutive (number : α → Nat) (n : Nat) : List α → Prop
  | [] => True
  | x :: xs => number x = n + 1 ∧ Consecutive number (n + 1) xs

instance decidableConsecutive : (n : Nat) → (xs : List α) → Decidable (Consecutive number n xs)
  | _, [] => isTrue trivial
  | n, _ :: xs =>
    haveI := decidableConsecutive (n + 1) xs
    instDecidableAnd

theorem reached_cons : reached number n (x :: xs) = reached number (number x) xs := by
  rcases List.eq_nil_or_concat xs with rfl | ⟨ys, y, rfl⟩
  · rfl
  · rw [List.concat_eq_append, ← List.cons_append, reached_snoc, reached_snoc]

namespace Consecutive

theorem append (hxs : Consecutive number n xs) (hys : Consecutive number (reached number n xs) ys) :
    Consecutive number n (xs ++ ys) := by
  induction xs generalizing n with
  | nil => exact hys
  | cons x xs ih =>
    rw [reached_cons, hxs.1] at hys
    exact ⟨hxs.1, ih hxs.2 hys⟩

theorem snoc (hxs : Consecutive number n xs) (hx : number x = reached number n xs + 1) :
    Consecutive number n (xs ++ [x]) :=
  hxs.append ⟨hx, trivial⟩

theorem lt (h : Consecutive number n xs) (hx : x ∈ xs) : n < number x := by
  induction xs generalizing n with
  | nil => cases hx
  | cons y ys ih =>
    rcases List.mem_cons.1 hx with rfl | hx
    · exact h.1 ▸ Nat.lt_succ_self n
    · exact Nat.lt_of_succ_lt (ih h.2 hx)

theorem eq_nil (h : Consecutive number n xs) (hreached : reached number n xs = n) : xs = [] := by
  rcases reached_cases number n xs with ⟨hnil, _⟩ | ⟨x, hx, heq⟩
  · exact hnil
  · exact absurd (h.lt hx) (by omega)

theorem after_eq_self (h : Consecutive number n xs) : Numbered.after number n xs = xs := by
  apply List.filter_eq_self.2
  intro x hx
  simpa using h.lt hx

theorem after (h : Consecutive number n xs) (hm : n ≤ m) :
    Consecutive number m (after number m xs) ∧
      reached number m (Numbered.after number m xs) = max m (reached number n xs) := by
  induction xs generalizing n with
  | nil => exact ⟨trivial, (Nat.max_eq_left hm).symm⟩
  | cons x xs ih =>
    have hx := h.1
    by_cases hlt : m < number x
    · obtain rfl : m = n := by omega
      rw [h.after_eq_self]
      have hle : m ≤ reached number m (x :: xs) := le_reached fun y hy => h.lt hy
      exact ⟨h, (Nat.max_eq_right hle).symm⟩
    · have hskip : Numbered.after number m (x :: xs) = Numbered.after number m xs := by
        simp [Numbered.after, hlt]
      rw [hskip, reached_cons, hx]
      exact ih h.2 (by omega)

theorem of_complete (hasc : Ascending number xs) (hlt : ∀ x ∈ xs, n < number x ∧ number x ≤ m)
    (hall : ∀ k, n < k → k ≤ m → ∃ x ∈ xs, number x = k) : Consecutive number n xs := by
  induction xs generalizing n with
  | nil => trivial
  | cons x xs ih =>
    obtain ⟨hhead, htail⟩ := List.pairwise_cons.1 hasc
    obtain ⟨hnx, hxm⟩ := hlt x List.mem_cons_self
    have hx : number x = n + 1 := by
      obtain ⟨y, hy, hyn⟩ := hall (n + 1) (Nat.lt_succ_self n) (by omega)
      rcases List.mem_cons.1 hy with rfl | hy
      · exact hyn
      · have := hhead y hy
        omega
    refine ⟨hx, ih htail (fun y hy => ?_) fun k hk hkm => ?_⟩
    · exact ⟨hx ▸ hhead y hy, (hlt y (List.mem_cons_of_mem _ hy)).2⟩
    · obtain ⟨y, hy, hyk⟩ := hall k (by omega) hkm
      rcases List.mem_cons.1 hy with rfl | hy
      · omega
      · exact ⟨y, hy, hyk⟩

end Consecutive

section

variable {xs : List α} {ys : List β} {number' : β → Nat}

theorem Consecutive.congr (hnumbers : ys.map number' = xs.map number)
    (h : Consecutive number n xs) : Consecutive number' n ys := by
  induction xs generalizing n ys with
  | nil =>
    rw [List.map_eq_nil_iff.1 hnumbers]
    trivial
  | cons x xs ih =>
    cases ys with
    | nil => trivial
    | cons y ys =>
      obtain ⟨hhead, htail⟩ := List.cons.inj hnumbers
      exact ⟨hhead.trans h.1, ih htail h.2⟩

end

end Numbered
