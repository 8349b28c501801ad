import Ratash.Domain
import Ratash.Reading.Reader

namespace Ratash

open Reading

def streamBufferBytes : Nat := 8 * 1024

/-- How a read fails; `interrupted` is an error of the kind `Interrupted`. -/
inductive ReadError where
  | interrupted
  | failed (error : IoError)
deriving DecidableEq

/-- `sha2::Sha256`: a digest that can be computed piece by piece. -/
structure Sha256Hasher where
  State : Type
  new : State
  update : State → Bytes → State
  finalize : State → Bytes
  digest : Bytes → Bytes
  finalize_foldl : ∀ pieces : List Bytes, finalize (pieces.foldl update new) = digest pieces.flatten

def encodeSha256 (digest : Bytes) : String :=
  .ofList (digest.flatMap fun byte =>
    [Nat.digitChar (byte.toNat / 16), Nat.digitChar (byte.toNat % 16)])

def sha256Hex (H : Sha256Hasher) (content : Bytes) : String := encodeSha256 (H.digest content)

def exceedsLimit : IoError := invalidData "stream exceeds its size limit"

def copyLoop (H : Sha256Hasher) (maxBytes : Nat) (source : Take ReadError UInt8) (hasher : H.State)
    (copied : Nat) (written : Bytes) : Except IoError String × Bytes :=
  match hread : source.read streamBufferBytes with
  | (.error .interrupted, source') => copyLoop H maxBytes source' hasher copied written
  | (.error (.failed e), _) => (.error e, written)
  | (.ok piece, source') =>
    if hend : piece = [] then (.ok (encodeSha256 (H.finalize hasher)), written)
    else if piece.length > maxBytes - copied then (.error exceedsLimit, written)
    else
      copyLoop H maxBytes source' (H.update hasher piece) (copied + piece.length)
        (written ++ piece)
termination_by source.reader.size
decreasing_by
  all_goals
    rcases source.read_cases (show 0 < streamBufferBytes by decide) with
      ⟨e, pace, hpace, hread'⟩ | ⟨piece, after, hread', hgives⟩
    all_goals cases hread.symm.trans hread'
  · simp only [Reader.size, hpace, List.length_cons]
    omega
  · exact hgives.size_lt hend

/-- On a target with pointers of 64 bits. -/
def copyAndSha256HexBounded (H : Sha256Hasher) (reader : Reader ReadError UInt8)
    (maxBytes : UInt64) : Except IoError String × Bytes :=
  copyLoop H maxBytes.toNat ⟨reader, (saturatingAdd64 maxBytes 1).toNat⟩ H.new 0 []

/-- No read fails but for an interruption. -/
def SteadyPace (pace : List (Except ReadError Nat)) : Prop :=
  ∀ e, .error (.failed e) ∉ pace

structure Copied (H : Sha256Hasher) (maxBytes : Nat) (content : Bytes)
    (out : Except IoError String × Bytes) : Prop where
  whole : content.length ≤ maxBytes → out = (.ok (sha256Hex H content), content)
  part : maxBytes < content.length →
    out.1 = .error exceedsLimit ∧ out.2 <+: content ∧ out.2.length ≤ maxBytes

theorem copyLoop_copied (H : Sha256Hasher) (maxBytes : Nat) (source : Take ReadError UInt8)
    (pieces : List Bytes) (hsteady : SteadyPace source.reader.pace)
    (hwithin : pieces.flatten.length ≤ maxBytes) : Copied H maxBytes (pieces.flatten ++ source.rest)
      (copyLoop H maxBytes source (pieces.foldl H.update H.new) pieces.flatten.length
        pieces.flatten) := by
  induction hsize : source.reader.size using Nat.strongRecOn generalizing source pieces with
  | ind size ih =>
  subst hsize
  unfold copyLoop
  rcases source.read_cases (show 0 < streamBufferBytes by decide) with
    ⟨e, pace, hpace, hread⟩ | ⟨piece, after, hread, hgives⟩
  · have hmem : .error e ∈ source.reader.pace := hpace ▸ List.mem_cons_self
    split
    · rename_i source' hread'
      cases hread.symm.trans hread'
      have hless : (⟨source.reader.content, pace⟩ : Reader ReadError UInt8).size <
          source.reader.size := by
        simp only [Reader.size, hpace, List.length_cons]
        omega
      exact ih _ hless ⟨⟨_, pace⟩, source.limit⟩ pieces
        (fun e he => hsteady e (hpace ▸ List.mem_cons_of_mem _ he)) hwithin rfl
    · rename_i e _ hread'
      cases hread.symm.trans hread'
      exact absurd hmem (hsteady e)
    · rename_i hread'
      cases hread.symm.trans hread'
  · split
    · rename_i hread'
      cases hread.symm.trans hread'
    · rename_i hread'
      cases hread.symm.trans hread'
    rename_i hread'
    cases hread.symm.trans hread'
    split
    · rename_i hend
      rw [hgives.rest_eq, hend, hgives.ends hend, List.nil_append, List.append_nil,
        H.finalize_foldl]
      exact ⟨fun _ => rfl, fun hlong => absurd hwithin (Nat.not_le_of_lt hlong)⟩
    · rename_i hmore
      split
      · rename_i hlong
        refine ⟨fun hshort => ?_, fun _ => ⟨rfl, List.prefix_append .., hwithin⟩⟩
        rw [hgives.rest_eq, List.length_append, List.length_append] at hshort
        omega
      · rename_i hfits
        have hnext := ih _ (hgives.size_lt hmore) after (pieces ++ [piece])
          (fun e he => hsteady e (hgives.pace he))
        simp only [List.flatten_append, List.flatten_singleton, List.foldl_append, List.foldl_cons,
          List.foldl_nil, List.length_append, List.append_assoc] at hnext
        rw [hgives.rest_eq]
        exact hnext (by omega) trivial

theorem copyAndSha256HexBounded_copied (H : Sha256Hasher) (reader : Reader ReadError UInt8)
    (hsteady : SteadyPace reader.pace) (maxBytes : UInt64) :
    Copied H maxBytes.toNat (reader.content.take (min (maxBytes.toNat + 1) (UInt64.size - 1)))
      (copyAndSha256HexBounded H reader maxBytes) := by
  unfold copyAndSha256HexBounded
  rw [toNat_saturatingAdd64]
  exact copyLoop_copied H maxBytes.toNat ⟨reader, _⟩ [] hsteady (Nat.zero_le _)

/-- A stream is copied and hashed just if it is within the limit, and nothing beyond the limit is
written. The largest limit is none for streams that are longer still. -/
theorem stream_hashed_within_limit (H : Sha256Hasher) (reader : Reader ReadError UInt8)
    (hsteady : SteadyPace reader.pace) (maxBytes : UInt64)
    (hlimit : maxBytes.toNat + 1 < UInt64.size ∨ reader.content.length ≤ maxBytes.toNat) :
    (copyAndSha256HexBounded H reader maxBytes =
        (.ok (sha256Hex H reader.content), reader.content) ↔
      reader.content.length ≤ maxBytes.toNat) ∧ (¬ reader.content.length ≤ maxBytes.toNat →
      ∃ e written, copyAndSha256HexBounded H reader maxBytes = (.error e, written) ∧
        written <+: reader.content ∧ written.length ≤ maxBytes.toNat) := by
  have hcopied := copyAndSha256HexBounded_copied H reader hsteady maxBytes
  have hlong (hlong : ¬ reader.content.length ≤ maxBytes.toNat) :
      ∃ e written, copyAndSha256HexBounded H reader maxBytes = (.error e, written) ∧
        written <+: reader.content ∧ written.length ≤ maxBytes.toNat := by
    obtain ⟨herror, hprefix, hlength⟩ := hcopied.part (by
      rw [List.length_take]
      omega)
    exact ⟨_, _, Prod.ext herror rfl, hprefix.trans (List.take_prefix ..), hlength⟩
  refine ⟨⟨fun hok => Classical.byContradiction fun hnot => ?_, fun hshort => ?_⟩, hlong⟩
  · obtain ⟨e, written, herror, _⟩ := hlong hnot
    cases hok.symm.trans herror
  · have htake : reader.content.take (min (maxBytes.toNat + 1) (UInt64.size - 1)) =
        reader.content := by
      apply List.take_of_length_le
      have := maxBytes.toNat_lt
      unfold UInt64.size
      omega
    rw [htake] at hcopied
    exact hcopied.whole hshort

/-- A stand-in for SHA-256 that keeps everything. Pieces hashed one by one give the digest of the
whole, as they do there; a digest is as long as the stream, which the copy never looks at. -/
def keepingHasher : Sha256Hasher where
  State := Bytes
  new := []
  update := (· ++ ·)
  finalize := id
  digest := id
  finalize_foldl pieces := by
    suffices h : ∀ start : Bytes, pieces.foldl (· ++ ·) start = start ++ pieces.flatten from h []
    induction pieces with
    | nil => exact fun start => (List.append_nil start).symm
    | cons piece pieces ih =>
      intro start
      rw [List.foldl_cons, ih, List.flatten_cons, List.append_assoc]

theorem stream_hashed_within_limit_three :
    copyAndSha256HexBounded keepingHasher ⟨[1, 2, 3], [.ok 0, .error .interrupted]⟩ 3 =
      (.ok "010203", [1, 2, 3]) := by
  refine ((stream_hashed_within_limit keepingHasher ⟨[1, 2, 3], [.ok 0, .error .interrupted]⟩ ?_ 3
    (.inl (by decide))).1.2 (by decide)).trans rfl
  simp [SteadyPace]

/-- Under the largest limit a stream of 2⁶⁴ bytes is cut off, and it is not an error. -/
theorem longest_stream_cut_off : ∃ digest written, copyAndSha256HexBounded keepingHasher
        ⟨List.replicate UInt64.size 0, []⟩ (.ofNat (UInt64.size - 1)) = (.ok digest, written) ∧
      written.length < (List.replicate UInt64.size (0 : UInt8)).length := by
  have hcopied := copyAndSha256HexBounded_copied keepingHasher ⟨List.replicate UInt64.size 0, []⟩
    (fun _ => List.not_mem_nil) (.ofNat (UInt64.size - 1))
  have hlength : (List.replicate UInt64.size (0 : UInt8)).length = UInt64.size :=
    List.length_replicate
  generalize List.replicate UInt64.size (0 : UInt8) = content at hcopied hlength
  have hmax : (UInt64.ofNat (UInt64.size - 1)).toNat = UInt64.size - 1 := by decide
  rw [hmax] at hcopied
  refine ⟨_, _, hcopied.whole ?_, ?_⟩
  · rw [List.length_take]
    omega
  · rw [List.length_take, hlength]
    decide

end Ratash
