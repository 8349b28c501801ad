import Mathlib.Data.List.Basic
import Mathlib.Order.Interval.Finset.Nat

/-! A reader stands at a number and is given pages of what lies behind it. -/

namespace Numbered

variable (number : α → Nat)

/-- The numbers grow along the list. -/
def Ascending (xs : List α) : Prop := xs.Pairwise fun x y => number x < number y

/-- What a reader at `n` has not been given. -/
def after (n : Nat) (xs : List α) : List α := xs.filter fun x => n < number x

/-- Where a reader from `n` stands when it has been given `xs`. -/
def reached (n : Nat) (xs : List α) : Nat := (xs.getLast?.map number).getD n

variable {number}

theorem mem_after : x ∈ after number n xs ↔ x ∈ xs ∧ n < number x := by
  simp [after]

namespace Ascending

theorem nil : Ascending number ([] : List α) := List.Pairwise.nil

theorem sublist (h : Ascending number xs) (hsub : List.Sublist ys xs) : Ascending number ys :=
  List.Pairwise.sublist hsub h

theorem after (h : Ascending number xs) : Ascending number (after number n xs) :=
  h.sublist List.filter_sublist

theorem append (hxs : Ascending number xs) (hys : Ascending number ys)
    (h : ∀ x ∈ xs, ∀ y ∈ ys, number x < number y) : Ascending number (xs ++ ys) :=
  List.pairwise_append.2 ⟨hxs, hys, h⟩

theorem snoc (hxs : Ascending number xs) (h : ∀ x ∈ xs, number x < number y) :
    Ascending number (xs ++ [y]) := by
  apply hxs.append (List.pairwise_singleton ..)
  intro x hx y' hy'
  cases List.mem_singleton.1 hy'
  exact h x hx

theorem nodup (h : Ascending number xs) : (xs.map number).Nodup := by
  rw [List.Nodup, List.pairwise_map]
  exact h.imp Nat.ne_of_lt

end Ascending

@[simp] theorem reached_nil : reached number n [] = n := rfl

@[simp] theorem reached_snoc : reached number n (xs ++ [x]) = number x := by
  simp [reached]

theorem reached_cases (number : α → Nat) (n : Nat) (xs : List α) :
    (xs = [] ∧ reached number n xs = n) ∨ ∃ x ∈ xs, reached number n xs = number x := by
  rcases List.eq_nil_or_concat xs with rfl | ⟨ys, y, rfl⟩
  · exact .inl ⟨rfl, rfl⟩
  · rw [List.concat_eq_append]
    exact .inr ⟨y, by simp, reached_snoc⟩

theorem le_reached (h : ∀ x ∈ xs, n < number x) : n ≤ reached number n xs := by
  rcases reached_cases number n xs with ⟨_, he⟩ | ⟨x, hx, he⟩
  · exact he.ge
  · exact he ▸ (h x hx).le

theorem Ascending.le_reached (h : Ascending number xs) (hx : x ∈ xs) :
    number x ≤ reached number n xs := by
  rcases List.eq_nil_or_concat xs with rfl | ⟨ys, y, rfl⟩
  · cases hx
  · rw [List.concat_eq_append] at h hx ⊢
    rw [reached_snoc]
    rcases List.mem_append.1 hx with hx | hx
    · exact ((List.pairwise_append.1 h).2.2 x hx y (by simp)).le
    · cases List.mem_singleton.1 hx
      exact Nat.le_refl _

theorem reached_le (h : ∀ x ∈ xs, number x ≤ m) (hn : n ≤ m) : reached number n xs ≤ m := by
  rcases reached_cases number n xs with ⟨_, he⟩ | ⟨x, hx, he⟩
  · exact he.trans_le hn
  · exact he.trans_le (h x hx)

theorem after_eq_append (h : Ascending number xs) (hpage : page <+: after number n xs) :
    after number n xs = page ++ after number (reached number n page) xs := by
  obtain ⟨rest, hrest⟩ := hpage
  have hlt : ∀ x ∈ page, n < number x := fun x hx =>
    (mem_after.1 (hrest ▸ List.mem_append_left _ hx)).2
  have hasc := hrest ▸ h.after (n := n)
  obtain ⟨hpage, _, hcross⟩ := List.pairwise_append.1 hasc
  have hskip : page.filter (fun x => reached number n page < number x) = [] := by
    apply List.filter_eq_nil_iff.2
    intro x hx
    simpa using Ascending.le_reached hpage hx
  have hkeep : rest.filter (fun x => reached number n page < number x) = rest := by
    apply List.filter_eq_self.2
    intro y hy
    rcases reached_cases number n page with ⟨_, he⟩ | ⟨x, hx, he⟩
    · simpa [he] using (mem_after.1 (hrest ▸ List.mem_append_right _ hy)).2
    · simpa [he] using hcross x hx y hy
  have hnarrow : after number (reached number n page) xs =
      (after number n xs).filter fun x => reached number n page < number x := by
    rw [after, after, List.filter_filter]
    apply List.filter_congr
    intro x _
    have := le_reached hlt
    simp only [← Bool.decide_and, decide_eq_decide]
    omega
  rw [hnarrow, ← hrest, List.filter_append, hskip, hkeep, List.nil_append]

theorem after_eq_nil (h : ∀ x ∈ xs, number x ≤ n) : after number n xs = [] := by
  apply List.filter_eq_nil_iff.2
  intro x hx
  simpa using h x hx

theorem Ascending.after_suffix (h : Ascending number xs) (n : Nat) :
    Numbered.after number n xs <:+ xs := by
  induction xs with
  | nil => exact List.suffix_refl _
  | cons x xs ih =>
    obtain ⟨hhead, htail⟩ := List.pairwise_cons.1 h
    by_cases hlt : n < number x
    · have hall : Numbered.after number n (x :: xs) = x :: xs := by
        apply List.filter_eq_self.2
        intro y hy
        rcases List.mem_cons.1 hy with rfl | hy
        · simpa using hlt
        · simpa using hlt.trans (hhead y hy)
      rw [hall]
    · have hskip : Numbered.after number n (x :: xs) = Numbered.after number n xs := by
        simp [Numbered.after, hlt]
      rw [hskip]
      exact (ih htail).trans (List.suffix_cons x xs)

theorem card_missing (h : Ascending number page) (hlt : ∀ x ∈ page, n < number x ∧ number x ≤ m) :
    ((Finset.Ioc n m).filter fun k => k ∉ page.map number).card = m - n - page.length := by
  have hsub : (page.map number).toFinset ⊆ Finset.Ioc n m := by
    intro k hk
    obtain ⟨x, hx, rfl⟩ := List.mem_map.1 (List.mem_toFinset.1 hk)
    exact Finset.mem_Ioc.2 (hlt x hx)
  have hsdiff : (Finset.Ioc n m).filter (fun k => k ∉ page.map number) =
      Finset.Ioc n m \ (page.map number).toFinset := by
    ext k
    simp [Finset.mem_sdiff]
  rw [hsdiff, Finset.card_sdiff_of_subset hsub, Nat.card_Ioc, List.toFinset_card_of_nodup h.nodup,
    List.length_map]

end Numbered
