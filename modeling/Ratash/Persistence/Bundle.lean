import Ratash.Domain

namespace Ratash

structure ObjectId (D : Type) where
  digest : D
deriving DecidableEq

structure TransactionId (D : Type) where
  digest : D
deriving DecidableEq

structure TransactionBundle (D : Type) where
  supervisorState : ObjectId D
  profileSnapshot : ObjectId D
  localRuleSet : ObjectId D
  effectiveConfiguration : ObjectId D
  profileRevision : ProfileRevision
  localRuleSetRevision : LocalRuleSetRevision
  activeProfileId : ProfileId
  runtimeGeneration : RuntimeGeneration
deriving DecidableEq

structure TransactionBundleDto (D : Type) where
  schemaVersion : UInt16
  supervisorState : ObjectId D
  profileSnapshot : ObjectId D
  localRuleSet : ObjectId D
  effectiveConfiguration : ObjectId D
  profileRevision : UInt64
  localRuleSetRevision : UInt64
  activeProfileId : String
  runtimeGeneration : UInt64
deriving DecidableEq

inductive Json where
  | null
  | bool (b : Bool)
  | number (text : String)
  | string (s : String)
  | array (values : List Json)
  | object (fields : List (String × Json))

/-- SHA-256, JSON and UUID text, which the store takes from other crates. The digest type is
abstract: distinct contents have distinct digests. -/
structure Codec (D : Type) where
  sha256Hex : Bytes → D
  sha256Hex_injective : Function.Injective sha256Hex
  /-- The digest a text denotes: sixty-four lower-case hexadecimal digits. -/
  parseDigest : String → Option D
  parseJson : Bytes → Option Json
  encodeBundle : TransactionBundleDto D → Bytes
  decodeBundle : Bytes → Option (TransactionBundleDto D)
  decode_encodeBundle : ∀ dto, decodeBundle (encodeBundle dto) = some dto
  formatUuid : BitVec 128 → String
  parseUuid : String → Option (BitVec 128)
  parse_formatUuid : ∀ u, parseUuid (formatUuid u) = some u

variable {D : Type} (X : Codec D)

def ObjectId.forContent (content : Bytes) : ObjectId D :=
  ⟨X.sha256Hex content⟩

def TransactionId.forContent (content : Bytes) : TransactionId D :=
  ⟨X.sha256Hex content⟩

def ProfileId.parse (value : String) : Option ProfileId :=
  (X.parseUuid value).map ProfileId.mk

def ProfileId.toText (id : ProfileId) : String :=
  X.formatUuid id.uuid

@[simp] theorem ProfileId.parse_toText (id : ProfileId) :
    ProfileId.parse X (id.toText X) = some id := by
  simp [ProfileId.parse, ProfileId.toText, X.parse_formatUuid]

def TransactionBundle.toDto (bundle : TransactionBundle D) : TransactionBundleDto D where
  schemaVersion := 1
  supervisorState := bundle.supervisorState
  profileSnapshot := bundle.profileSnapshot
  localRuleSet := bundle.localRuleSet
  effectiveConfiguration := bundle.effectiveConfiguration
  profileRevision := bundle.profileRevision
  localRuleSetRevision := bundle.localRuleSetRevision
  activeProfileId := bundle.activeProfileId.toText X
  runtimeGeneration := bundle.runtimeGeneration

def TransactionBundleDto.tryInto (dto : TransactionBundleDto D) :
    IoResult (TransactionBundle D) :=
  if dto.schemaVersion ≠ 1 then
    .error (invalidData "unsupported transaction bundle schema version")
  else
    match ProfileId.parse X dto.activeProfileId with
    | none => .error (invalidData "transaction bundle contains an invalid Profile ID")
    | some activeProfileId => .ok {
        supervisorState := dto.supervisorState
        profileSnapshot := dto.profileSnapshot
        localRuleSet := dto.localRuleSet
        effectiveConfiguration := dto.effectiveConfiguration
        profileRevision := dto.profileRevision
        localRuleSetRevision := dto.localRuleSetRevision
        activeProfileId := activeProfileId
        runtimeGeneration := dto.runtimeGeneration }

def TransactionBundle.serialize (bundle : TransactionBundle D) : Bytes :=
  X.encodeBundle (bundle.toDto X)

def TransactionBundle.deserialize (content : Bytes) : IoResult (TransactionBundle D) :=
  match X.decodeBundle content with
  | none => .error (invalidData "stored content is not a transaction bundle")
  | some dto => dto.tryInto X

def TransactionBundle.id (bundle : TransactionBundle D) : TransactionId D :=
  .forContent X (bundle.serialize X)

@[simp] theorem TransactionBundle.deserialize_serialize (bundle : TransactionBundle D) :
    TransactionBundle.deserialize X (bundle.serialize X) = .ok bundle := by
  simp [TransactionBundle.deserialize, TransactionBundle.serialize, X.decode_encodeBundle,
    TransactionBundleDto.tryInto, TransactionBundle.toDto]

/-! A codec that satisfies the laws: the digest of a content is the content itself, and a record is
a sequence of framed fields. -/

namespace Plain

def frame (content : Bytes) : Bytes :=
  content.flatMap (fun byte => [1, byte]) ++ [0]

def unframes : Bytes → Option (List Bytes)
  | [] => some []
  | 0 :: rest => (unframes rest).map ([] :: ·)
  | 1 :: byte :: rest =>
    match unframes rest with
    | some (content :: contents) => some ((byte :: content) :: contents)
    | _ => none
  | _ => none

theorem unframes_frame (content rest : Bytes) :
    unframes (frame content ++ rest) = (unframes rest).map (content :: ·) := by
  induction content with
  | nil => rfl
  | cons byte content ih =>
    have happ : frame (byte :: content) ++ rest = 1 :: byte :: (frame content ++ rest) := rfl
    rw [happ, unframes, ih]
    cases unframes rest <;> rfl

def frames (contents : List Bytes) : Bytes :=
  contents.flatMap frame

theorem unframes_frames (contents : List Bytes) : unframes (frames contents) = some contents := by
  induction contents with
  | nil => rfl
  | cons content contents ih =>
    rw [frames, List.flatMap_cons, unframes_frame]
    exact congrArg (Option.map _) ih

/-- Eight base-256 digits, the least significant first. -/
def number (n : Nat) : Bytes :=
  (List.range 8).map fun i => .ofNat (n / 256 ^ i)

def value (digits : Bytes) : Nat :=
  digits.foldr (fun digit rest => digit.toNat + 256 * rest) 0

theorem value_number (h : n < 2 ^ 64) : value (number n) = n := by
  simp only [number, List.range, List.range.loop, List.map, value, List.foldr, UInt8.toNat_ofNat']
  omega

def encodeBundle (dto : TransactionBundleDto Bytes) : Bytes :=
  frames ([number dto.schemaVersion.toNat, dto.supervisorState.digest, dto.profileSnapshot.digest,
    dto.localRuleSet.digest, dto.effectiveConfiguration.digest, number dto.profileRevision.toNat,
    number dto.localRuleSetRevision.toNat, number dto.runtimeGeneration.toNat] ++
    dto.activeProfileId.toList.map fun c => number c.toNat)

def decodeBundle (content : Bytes) : Option (TransactionBundleDto Bytes) :=
  match unframes content with
  | some (version :: state :: snapshot :: rules :: configuration :: profile :: revision ::
      generation :: chars) =>
    some ⟨.ofNat (value version), ⟨state⟩, ⟨snapshot⟩, ⟨rules⟩, ⟨configuration⟩,
      .ofNat (value profile), .ofNat (value revision),
      .ofList (chars.map fun c => .ofNat (value c)), .ofNat (value generation)⟩
  | _ => none

theorem value_number_char (c : Char) : value (number c.toNat) = c.toNat := by
  apply value_number
  have hlt : c.toNat < 2 ^ 32 := c.val.toNat_lt
  omega

theorem decode_encodeBundle (dto : TransactionBundleDto Bytes) :
    decodeBundle (encodeBundle dto) = some dto := by
  have hversion : value (number dto.schemaVersion.toNat) = dto.schemaVersion.toNat :=
    value_number (by have := dto.schemaVersion.toNat_lt; omega)
  rw [decodeBundle, encodeBundle, unframes_frames]
  simp [hversion, value_number (UInt64.toNat_lt _), value_number_char, Function.comp_def]

def codec : Codec Bytes where
  sha256Hex := id
  sha256Hex_injective := Function.injective_id
  parseDigest _ := none
  parseJson _ := none
  encodeBundle := encodeBundle
  decodeBundle := decodeBundle
  decode_encodeBundle := decode_encodeBundle
  formatUuid u := .ofList (List.replicate u.toNat 'a')
  parseUuid text := some (.ofNat 128 text.length)
  parse_formatUuid u := by simp

end Plain

end Ratash
