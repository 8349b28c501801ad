import Ratash.Domain

namespace Ratash

def ipcFrameMaxBytes : Nat := (128 + 4) * 1024 * 1024

inductive FrameError where
  | io (error : IoError)
  | json
  | frameTooLarge (limit actual : Nat)
deriving DecidableEq

/-- `serde_json` for the values of one type. -/
structure FrameCodec (T : Type) where
  toVec : T → Option Bytes
  fromSlice : Bytes → Option T
  fromSlice_toVec : ∀ value payload, toVec value = some payload → fromSlice payload = some value

/-- `u32::to_be_bytes` -/
def frameHeader (length : Nat) : Bytes :=
  [3, 2, 1, 0].map fun i => .ofNat (length / 256 ^ i)

/-- `u32::from_be_bytes` -/
def frameLength (header : Bytes) : Nat :=
  header.foldl (fun length byte => 256 * length + byte.toNat) 0

/-- `Read::read_exact`, from a stream of which this much will come. -/
def readExact (count : Nat) (stream : Bytes) : Except FrameError (Bytes × Bytes) :=
  if stream.length < count then .error (.io ⟨.other, "failed to fill whole buffer"⟩)
  else .ok (stream.take count, stream.drop count)

variable {T : Type} (J : FrameCodec T)

/-- What `write_frame` writes. -/
def writeFrame (value : T) : Except FrameError Bytes := do
  let some payload := J.toVec value | .error .json
  if ipcFrameMaxBytes < payload.length ∨ 2 ^ 32 ≤ payload.length then
    .error (.frameTooLarge ipcFrameMaxBytes payload.length)
  else .ok (frameHeader payload.length ++ payload)

def readFrameWithLimit (limit : Nat) (stream : Bytes) : Except FrameError (T × Bytes) := do
  let (header, stream) ← readExact 4 stream
  if limit < frameLength header then .error (.frameTooLarge limit (frameLength header))
  else do
    let (payload, stream) ← readExact (frameLength header) stream
    let some value := J.fromSlice payload | .error .json
    return (value, stream)

def readFrame (stream : Bytes) : Except FrameError (T × Bytes) :=
  readFrameWithLimit J ipcFrameMaxBytes stream

/-- The stream begins with a frame of the value; the rest is what follows. -/
def BeginsWith (limit : Nat) (value : T) (rest stream : Bytes) : Prop :=
  ∃ payload, payload.length ≤ limit ∧ payload.length < 2 ^ 32 ∧ J.fromSlice payload = some value ∧
    stream = frameHeader payload.length ++ (payload ++ rest)

variable {J}

theorem readExact_eq_ok : readExact count stream = .ok (bytes, rest) ↔
    bytes.length = count ∧ stream = bytes ++ rest := by
  unfold readExact
  constructor
  · intro h
    split at h <;> cases h
    simp
    omega
  · rintro ⟨rfl, rfl⟩
    simp

theorem frameLength_frameHeader (h : length < 2 ^ 32) :
    frameLength (frameHeader length) = length := by
  simp only [frameLength, frameHeader, List.map_cons, List.map_nil, List.foldl_cons,
    List.foldl_nil, UInt8.toNat_ofNat']
  omega

theorem frameHeader_frameLength (h : header.length = 4) :
    frameLength header < 2 ^ 32 ∧ frameHeader (frameLength header) = header := by
  match header with
  | [a, b, c, d] =>
    have ha := a.toNat_lt
    have hb := b.toNat_lt
    have hc := c.toNat_lt
    have hd := d.toNat_lt
    simp only [frameLength, frameHeader, List.map_cons, List.map_nil, List.foldl_cons,
      List.foldl_nil, List.cons.injEq, ← UInt8.toNat_inj, UInt8.toNat_ofNat', and_true]
    omega

theorem readFrameWithLimit_eq_ok :
    readFrameWithLimit J limit stream = .ok (value, rest) ↔
      BeginsWith J limit value rest stream := by
  constructor
  · intro hok
    obtain ⟨⟨header, stream'⟩, hread, h⟩ := bind_eq_ok.1 hok
    obtain ⟨hheader, rfl⟩ := readExact_eq_ok.1 hread
    obtain ⟨hlength, hheader⟩ := frameHeader_frameLength hheader
    dsimp only at h
    split at h
    · cases h
    · rename_i hlimit
      obtain ⟨⟨payload, rest'⟩, hread, hvalue⟩ := bind_eq_ok.1 h
      obtain ⟨hpayload, rfl⟩ := readExact_eq_ok.1 hread
      dsimp only at hvalue
      split at hvalue
      · cases hvalue
        rw [← hpayload] at hlimit hlength hheader
        exact ⟨payload, Nat.not_lt.1 hlimit, hlength, ‹_›, by rw [hheader]⟩
      · cases hvalue
  · rintro ⟨payload, hlimit, hlength, hvalue, rfl⟩
    refine bind_eq_ok.2 ⟨_, readExact_eq_ok.2 ⟨rfl, rfl⟩, ?_⟩
    simp only [frameLength_frameHeader hlength, if_neg (Nat.not_lt.2 hlimit)]
    refine bind_eq_ok.2 ⟨_, readExact_eq_ok.2 ⟨rfl, rfl⟩, ?_⟩
    simp only [hvalue]
    rfl

/-- A reader accepts just what a frame within its limit looks like, and takes no byte behind it;
every frame that is written is read back as the value it was written for. -/
theorem frames_read_back (J : FrameCodec T) (limit : Nat) (stream : Bytes) :
    (∀ value rest, readFrameWithLimit J limit stream = .ok (value, rest) ↔
      BeginsWith J limit value rest stream) ∧
    ∀ value frame, writeFrame J value = .ok frame →
      readFrame J (frame ++ stream) = .ok (value, stream) := by
  refine ⟨fun _ _ => readFrameWithLimit_eq_ok, fun value frame h => ?_⟩
  unfold writeFrame at h
  split at h
  · split at h
    · cases h
    · rename_i hsmall
      cases h
      rw [not_or, Nat.not_lt, Nat.not_le] at hsmall
      exact readFrameWithLimit_eq_ok.2 ⟨_, hsmall.1, hsmall.2, J.fromSlice_toVec _ _ ‹_›,
        List.append_assoc ..⟩
  · cases h

/-- The JSON of a Boolean, with blanks around it where it is read. -/
def boolFrames : FrameCodec Bool where
  toVec value := some (if value then "true" else "false").toUTF8.toList
  fromSlice payload :=
    let blank (byte : UInt8) : Bool := byte ∈ [9, 10, 13, 32]
    let text := ((payload.dropWhile blank).reverse.dropWhile blank).reverse
    if text = "true".toUTF8.toList then some true
    else if text = "false".toUTF8.toList then some false
    else none
  fromSlice_toVec value payload h := by
    cases h
    revert value
    decide +kernel

theorem frames_read_back_bool :
    writeFrame boolFrames true = .ok [0, 0, 0, 4, 116, 114, 117, 101] ∧
      readFrame boolFrames [0, 0, 0, 4, 116, 114, 117, 101, 0, 0] = .ok (true, [0, 0]) ∧
      readFrame boolFrames [0, 0, 0, 5, 32, 116, 114, 117, 101, 7] = .ok (true, [7]) := by
  have hframe : writeFrame boolFrames true = .ok [0, 0, 0, 4, 116, 114, 117, 101] := by
    decide +kernel
  refine ⟨hframe, (frames_read_back boolFrames 0 [0, 0]).2 true _ hframe, ?_⟩
  refine ((frames_read_back boolFrames ipcFrameMaxBytes _).1 true [7]).2
    ⟨[32, 116, 114, 117, 101], ?_⟩
  decide +kernel

end Ratash
