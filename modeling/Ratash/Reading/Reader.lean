import Mathlib.Data.List.TakeDrop

/-! A reader gives its content in pieces at a pace of its own, and some of its reads may fail. -/

namespace Reading

/-- `pace` says how the next reads end: in an error, or with one byte and so many more. A reader at
the end of its pace gives what it can. -/
structure Reader (ε α : Type) where
  content : List α
  pace : List (Except ε Nat)

namespace Reader

def size (reader : Reader ε α) : Nat := reader.content.length + reader.pace.length

/-- `Read::read` into a buffer with some room. An empty piece is the end. -/
def read (room : Nat) (reader : Reader ε α) : Except ε (List α) × Reader ε α :=
  match reader.pace with
  | [] => (.ok (reader.content.take room), ⟨reader.content.drop room, []⟩)
  | .error e :: pace => (.error e, ⟨reader.content, pace⟩)
  | .ok n :: pace =>
    (.ok (reader.content.take (min (n + 1) room)), ⟨reader.content.drop (min (n + 1) room), pace⟩)

theorem read_cases (reader : Reader ε α) (hroom : 0 < room) :
    (∃ e pace, reader.pace = .error e :: pace ∧
      reader.read room = (.error e, ⟨reader.content, pace⟩)) ∨
    ∃ n pace, 0 < n ∧ n ≤ room ∧ pace ⊆ reader.pace ∧ pace.length ≤ reader.pace.length ∧
      (∀ e, reader.pace.head? ≠ some (.error e)) ∧
      reader.read room = (.ok (reader.content.take n), ⟨reader.content.drop n, pace⟩) := by
  obtain ⟨content, pace⟩ := reader
  cases pace with
  | nil => exact .inr ⟨room, [], hroom, Nat.le_refl _, by simp, Nat.le_refl _, by simp, rfl⟩
  | cons step pace =>
    cases step with
    | error e => exact .inl ⟨e, pace, rfl, rfl⟩
    | ok n =>
      exact .inr ⟨min (n + 1) room, pace, by omega, by omega, by simp, by simp, by simp, rfl⟩

end Reader

structure Take (ε α : Type) where
  reader : Reader ε α
  limit : Nat

namespace Take

def read (room : Nat) (source : Take ε α) : Except ε (List α) × Take ε α :=
  if source.limit = 0 then (.ok [], source)
  else
    match source.reader.read (min room source.limit) with
    | (.ok piece, reader) => (.ok piece, ⟨reader, source.limit - piece.length⟩)
    | (.error e, reader) => (.error e, ⟨reader, source.limit⟩)

def rest (source : Take ε α) : List α := source.reader.content.take source.limit

structure Gives (source : Take ε α) (piece : List α) (source' : Take ε α) : Prop where
  rest_eq : source.rest = piece ++ source'.rest
  ends : piece = [] → source'.rest = []
  pace : source'.reader.pace ⊆ source.reader.pace
  size_lt : piece ≠ [] → source'.reader.size < source.reader.size

theorem read_cases (source : Take ε α) (hroom : 0 < room) :
    (∃ e pace, source.reader.pace = .error e :: pace ∧
      source.read room = (.error e, ⟨⟨source.reader.content, pace⟩, source.limit⟩)) ∨
    ∃ piece source', source.read room = (.ok piece, source') ∧ source.Gives piece source' := by
  unfold read
  split
  · rename_i hlimit
    have hrest : source.rest = [] := by rw [rest, hlimit, List.take_zero]
    exact .inr ⟨[], source, rfl, rfl, fun _ => hrest, fun _ h => h, absurd rfl⟩
  · rename_i hlimit
    rcases source.reader.read_cases (show 0 < min room source.limit by omega) with
      ⟨e, pace, hpace, hread⟩ | ⟨n, pace, hpos, hle, hsub, hlength, _, hread⟩
    · rw [hread]
      exact .inl ⟨e, pace, hpace, rfl⟩
    · rw [hread]
      refine .inr ⟨_, _, rfl, ?_, fun hnil => ?_, hsub, fun hne => ?_⟩
      · simp only [rest, List.length_take]
        by_cases hlong : n ≤ source.reader.content.length
        · rw [Nat.min_eq_left hlong, ← List.take_add, Nat.add_sub_cancel' (by omega)]
        · rw [List.drop_eq_nil_of_le (by omega), List.take_nil, List.append_nil,
            List.take_of_length_le (by omega), List.take_of_length_le (by omega)]
      · have hcontent : source.reader.content = [] :=
          (List.take_eq_nil_iff.1 hnil).resolve_left (Nat.ne_of_gt hpos)
        simp only [rest, hcontent, List.drop_nil, List.take_nil]
      · have hcontent : 0 < source.reader.content.length :=
          List.length_pos_iff.2 fun hnil => hne (by rw [hnil, List.take_nil])
        simp only [Reader.size, List.length_drop]
        omega

end Take

end Reading
