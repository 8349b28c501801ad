import Mathlib.Data.List.DropRight

namespace Text

section

variable (p : α → Bool)

def trimStart (text : List α) : List α := text.dropWhile p

def trim (text : List α) : List α := (trimStart p text).rdropWhile p

variable {p}

theorem trim_prefix_of (p : α → Bool) (text : List α) : trim p text <+: trimStart p text :=
  List.rdropWhile_prefix p (trimStart p text)

theorem trim_sublist (p : α → Bool) (text : List α) : List.Sublist (trim p text) text :=
  (trim_prefix_of p text).sublist.trans (List.dropWhile_suffix p).sublist

theorem mem_of_mem_trim (h : x ∈ trim p text) : x ∈ text := (trim_sublist p text).subset h

theorem mem_trim (hx : p x = false) : x ∈ trim p text ↔ x ∈ text := by
  have hstart : ∀ text : List α, x ∈ text.dropWhile p ↔ x ∈ text := by
    intro text
    induction text with
    | nil => exact Iff.rfl
    | cons y text ih =>
      by_cases hy : p y = true
      · rw [List.dropWhile_cons_of_pos hy, ih, List.mem_cons]
        refine ⟨.inr, fun h => h.resolve_left ?_⟩
        rintro rfl
        rw [hx] at hy
        cases hy
      · rw [List.dropWhile_cons_of_neg hy]
  rw [trim, List.rdropWhile, List.mem_reverse, hstart, List.mem_reverse]
  exact hstart text

/-- A text without anything to trim at its ends. -/
structure Trimmed (p : α → Bool) (text : List α) : Prop where
  start : text.dropWhile p = text
  finish : text.rdropWhile p = text

theorem Trimmed.trim_eq (h : Trimmed p text) : trim p text = text := by
  rw [trim, trimStart, h.start, h.finish]

theorem trimmed_snoc (hstart : (text ++ [y]).dropWhile p = text ++ [y]) (hy : p y = false) :
    Trimmed p (text ++ [y]) :=
  ⟨hstart, List.rdropWhile_concat_neg _ _ _ (Bool.not_eq_true _ ▸ hy)⟩

theorem dropWhile_cut {left text : List α} (hleft : left <+: text)
    (h : text.dropWhile p = text) : left.dropWhile p = left := by
  obtain ⟨rest, rfl⟩ := hleft
  cases left with
  | nil => rfl
  | cons x left =>
    by_cases hx : p x = true
    · -- then the whole text would start with something to trim
      rw [List.cons_append, List.dropWhile_cons_of_pos hx] at h
      have hle := (List.dropWhile_suffix p (l := left ++ rest)).length_le
      rw [h, List.length_cons] at hle
      omega
    · exact List.dropWhile_cons_of_neg hx

theorem dropWhile_append_left {left : List α} (h : left.dropWhile p = left) (hne : left ≠ [])
    (rest : List α) : (left ++ rest).dropWhile p = left ++ rest := by
  cases left with
  | nil => exact absurd rfl hne
  | cons x left =>
    by_cases hx : p x = true
    · rw [List.dropWhile_cons_of_pos hx] at h
      have hle := (List.dropWhile_suffix p (l := left)).length_le
      rw [h, List.length_cons] at hle
      omega
    · exact List.dropWhile_cons_of_neg hx

theorem trimmed_trim (p : α → Bool) (text : List α) : Trimmed p (trim p text) :=
  ⟨dropWhile_cut (trim_prefix_of p text) (List.dropWhile_idempotent p text),
    List.rdropWhile_idempotent p _⟩

theorem trim_trim (p : α → Bool) (text : List α) : trim p (trim p text) = trim p text :=
  (trimmed_trim p text).trim_eq

end

section

variable [DecidableEq α]

def splitOnce (separator : α) : List α → Option (List α × List α)
  | [] => none
  | x :: text =>
    if x = separator then some ([], text)
    else (splitOnce separator text).map fun (head, tail) => (x :: head, tail)

def rsplitOnce (separator : α) (text : List α) : Option (List α × List α) :=
  (splitOnce separator text.reverse).map fun (tail, head) => (head.reverse, tail.reverse)

variable {separator : α}

theorem splitOnce_append (h : separator ∉ head) (tail : List α) :
    splitOnce separator (head ++ separator :: tail) = some (head, tail) := by
  induction head with
  | nil => exact if_pos rfl
  | cons x head ih =>
    rw [List.mem_cons, not_or] at h
    rw [List.cons_append, splitOnce, if_neg (Ne.symm h.1), ih h.2]
    rfl

theorem splitOnce_eq_some (h : splitOnce separator text = some (head, tail)) :
    text = head ++ separator :: tail ∧ separator ∉ head := by
  induction text generalizing head with
  | nil => cases h
  | cons x text ih =>
    unfold splitOnce at h
    split at h
    · rename_i hx
      cases h
      exact ⟨by rw [hx]; rfl, List.not_mem_nil⟩
    · rename_i hx
      obtain ⟨⟨head', tail'⟩, hsplit, heq⟩ := Option.map_eq_some_iff.1 h
      cases heq
      obtain ⟨rfl, hhead⟩ := ih hsplit
      exact ⟨rfl, List.not_mem_cons_of_ne_of_not_mem (Ne.symm hx) hhead⟩

theorem rsplitOnce_append (head : List α) (h : separator ∉ tail) :
    rsplitOnce separator (head ++ separator :: tail) = some (head, tail) := by
  rw [rsplitOnce, List.reverse_append, List.reverse_cons, List.append_assoc, List.singleton_append,
    splitOnce_append (List.mem_reverse.not.2 h)]
  simp

theorem rsplitOnce_eq_some (h : rsplitOnce separator text = some (head, tail)) :
    text = head ++ separator :: tail ∧ separator ∉ tail := by
  obtain ⟨⟨tail', head'⟩, hsplit, heq⟩ := Option.map_eq_some_iff.1 h
  cases heq
  obtain ⟨htext, htail⟩ := splitOnce_eq_some hsplit
  refine ⟨?_, List.mem_reverse.not.2 htail⟩
  have := congrArg List.reverse htext
  simpa using this

theorem length_rsplitOnce (h : rsplitOnce separator text = some (head, tail)) :
    head.length < text.length := by
  obtain ⟨rfl, _⟩ := rsplitOnce_eq_some h
  rw [List.length_append, List.length_cons]
  omega

theorem not_mem_of_mem_splitOn (h : field ∈ List.splitOn separator text) : separator ∉ field := by
  induction text generalizing field with
  | nil =>
    rw [List.splitOn_nil, List.mem_singleton] at h
    exact h ▸ List.not_mem_nil
  | cons x text ih =>
    rw [List.splitOn_cons_eq_if_modifyHead] at h
    split at h
    · rcases List.mem_cons.1 h with rfl | h
      · exact List.not_mem_nil
      · exact ih h
    · rename_i hx
      cases hfields : List.splitOn separator text with
      | nil => exact absurd hfields (List.splitOn_ne_nil _ _)
      | cons first rest =>
        rw [hfields] at h ih
        rcases List.mem_cons.1 h with rfl | h
        · have hne : separator ≠ x := fun he => hx (beq_iff_eq.2 he.symm)
          exact List.not_mem_cons_of_ne_of_not_mem hne (ih List.mem_cons_self)
        · exact ih (List.mem_cons_of_mem _ h)

end

/-- The fields with a separator between each two. -/
def join (separator : α) (fields : List (List α)) : List α := [separator].intercalate fields

@[simp] theorem join_singleton : join separator [field] = field := List.intercalate_singleton

@[simp] theorem join_cons_cons : join separator (field :: next :: rest) =
    field ++ separator :: join separator (next :: rest) := by
  rw [join, List.intercalate_cons_cons, List.append_assoc]
  rfl

theorem join_sublist (p : α → Bool) (separator : α) (fields : List (List α)) :
    List.Sublist (join separator (fields.map (trim p))) (join separator fields) := by
  induction fields with
  | nil => exact List.Sublist.refl _
  | cons field rest ih =>
    cases rest with
    | nil => simpa using trim_sublist p field
    | cons next rest =>
      simp only [List.map_cons, join_cons_cons] at ih ⊢
      exact (trim_sublist p field).append (ih.cons_cons separator)

theorem join_splitOn [DecidableEq α] (separator : α) (text : List α) :
    join separator (text.splitOn separator) = text := List.intercalate_splitOn separator

theorem splitOn_join [DecidableEq α] {fields : List (List α)}
    (h : ∀ field ∈ fields, separator ∉ field) (hne : fields ≠ []) :
    (join separator fields).splitOn separator = fields := List.splitOn_intercalate separator h hne

end Text
