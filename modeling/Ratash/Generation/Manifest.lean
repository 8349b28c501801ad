import Mathlib.Data.List.Sort
import Ratash.Config.Effective
import Ratash.Persistence.Bundle

namespace Ratash

def manifestMaxBytes : Nat := 64 * 1024
def mihomoBinaryMaxBytes : Nat := 128 * 1024 * 1024

def runtimeCoreExecutableName : String := "ratash-mihomo"

structure RuntimeManifestFile where
  path : String
  sha256 : String
  size : UInt64
deriving DecidableEq

structure RuntimeManifest where
  schemaVersion : UInt16
  runtimeGeneration : UInt64
  compilerPolicySha256 : String
  mihomoBinarySha256 : String
  configurationSha256 : String
  executable : String
  configuration : String
  providerFiles : List RuntimeManifestFile
deriving DecidableEq

def RuntimeManifest.new (generation : RuntimeGeneration)
    (compilerPolicySha256 mihomoBinarySha256 configurationSha256 : String) : RuntimeManifest where
  schemaVersion := 1
  runtimeGeneration := generation
  compilerPolicySha256
  mihomoBinarySha256
  configurationSha256
  executable := runtimeCoreExecutableName
  configuration := "config.yaml"
  providerFiles := []

def RuntimeManifest.withProviderFiles (manifest : RuntimeManifest)
    (providerFiles : List RuntimeManifestFile) : RuntimeManifest :=
  { manifest with
    providerFiles := providerFiles.insertionSort fun left right => left.path ≤ right.path }

def isLowerSha256Hex (text : String) : Bool :=
  text.toList.length = 64 &&
    text.toList.all fun c => '0' ≤ c && c ≤ '9' || 'a' ≤ c && c ≤ 'f'

/-- SHA-256 as text and the JSON form of a manifest. A manifest is at least as long as the digests
of its files, if those are digests. -/
structure ManifestCodec where
  sha256Hex : Bytes → String
  isLower_sha256Hex : ∀ content, isLowerSha256Hex (sha256Hex content) = true
  encodeManifest : RuntimeManifest → Bytes
  decodeManifest : Bytes → Option RuntimeManifest
  decode_encodeManifest : ∀ manifest, decodeManifest (encodeManifest manifest) = some manifest
  length_encodeManifest : ∀ manifest,
    (∀ file ∈ manifest.providerFiles, isLowerSha256Hex file.sha256 = true) →
      64 * manifest.providerFiles.length ≤ (encodeManifest manifest).length

/-! A codec that satisfies the laws: all digests are alike, and a manifest is a sequence of framed
fields. -/

namespace Plain

def charBytes (c : Char) : Bytes :=
  [.ofNat c.toNat, .ofNat (c.toNat / 256), .ofNat (c.toNat / 65536)]

def chars : Bytes → List Char
  | a :: b :: c :: rest => .ofNat (a.toNat + 256 * b.toNat + 65536 * c.toNat) :: chars rest
  | _ => []

theorem chars_charBytes (c : Char) (rest : Bytes) :
    chars (charBytes c ++ rest) = c :: chars rest := by
  have hlt : c.toNat < 256 ^ 3 := by
    cases c.valid with
    | inl h => exact Nat.lt_trans h (by decide)
    | inr h => exact Nat.lt_trans h.2 (by decide)
  have hvalue : (UInt8.ofNat c.toNat).toNat + 256 * (UInt8.ofNat (c.toNat / 256)).toNat +
      65536 * (UInt8.ofNat (c.toNat / 65536)).toNat = c.toNat := by
    simp only [UInt8.toNat_ofNat']
    omega
  change Char.ofNat _ :: chars rest = _
  rw [hvalue, Char.ofNat_toNat]

def text (s : String) : Bytes :=
  s.toList.flatMap charBytes

def untext (content : Bytes) : String :=
  .ofList (chars content)

theorem untext_text (s : String) : untext (text s) = s := by
  have hchars : chars (text s) = s.toList := by
    unfold text
    induction s.toList with
    | nil => rfl
    | cons c cs ih => rw [List.flatMap_cons, chars_charBytes, ih]
  rw [untext, hchars, String.ofList_toList]

theorem length_le_frame (content : Bytes) : content.length ≤ (frame content).length := by
  rw [frame, List.length_append, List.length_flatMap]
  simp
  omega

theorem length_le_text (s : String) : s.toList.length ≤ (text s).length := by
  unfold text
  induction s.toList with
  | nil => exact Nat.le_refl 0
  | cons c cs ih =>
    rw [List.flatMap_cons, List.length_append, List.length_cons, Nat.add_comm]
    exact Nat.add_le_add (by decide : 1 ≤ 3) ih

def encodeFiles (files : List RuntimeManifestFile) : List Bytes :=
  files.flatMap fun file => [text file.path, text file.sha256, number file.size.toNat]

def decodeFiles : List Bytes → Option (List RuntimeManifestFile)
  | [] => some []
  | path :: sha256 :: size :: rest =>
    (decodeFiles rest).map (⟨untext path, untext sha256, .ofNat (value size)⟩ :: ·)
  | _ => none

theorem decode_encodeFiles (files : List RuntimeManifestFile) :
    decodeFiles (encodeFiles files) = some files := by
  induction files with
  | nil => rfl
  | cons file rest ih =>
    change decodeFiles (_ :: _ :: _ :: encodeFiles rest) = _
    rw [decodeFiles, untext_text, untext_text, ih, value_number (UInt64.toNat_lt _)]
    simp

def encodeManifest (manifest : RuntimeManifest) : Bytes :=
  frames ([number manifest.schemaVersion.toNat, number manifest.runtimeGeneration.toNat,
    text manifest.compilerPolicySha256, text manifest.mihomoBinarySha256,
    text manifest.configurationSha256, text manifest.executable, text manifest.configuration] ++
    encodeFiles manifest.providerFiles)

def decodeManifest (content : Bytes) : Option RuntimeManifest := do
  match ← unframes content with
  | version :: generation :: policy :: binary :: digest :: executable :: configuration :: files =>
    return {
      schemaVersion := .ofNat (value version)
      runtimeGeneration := .ofNat (value generation)
      compilerPolicySha256 := untext policy
      mihomoBinarySha256 := untext binary
      configurationSha256 := untext digest
      executable := untext executable
      configuration := untext configuration
      providerFiles := ← decodeFiles files }
  | _ => none

theorem decode_encodeManifest (manifest : RuntimeManifest) :
    decodeManifest (encodeManifest manifest) = some manifest := by
  have hversion : value (number manifest.schemaVersion.toNat) = manifest.schemaVersion.toNat :=
    value_number (by have := manifest.schemaVersion.toNat_lt; omega)
  rw [decodeManifest, encodeManifest, unframes_frames]
  simp [hversion, value_number (UInt64.toNat_lt _), untext_text, decode_encodeFiles]

theorem length_encodeFiles (files : List RuntimeManifestFile)
    (h : ∀ file ∈ files, isLowerSha256Hex file.sha256 = true) :
    64 * files.length ≤ (frames (encodeFiles files)).length := by
  induction files with
  | nil => exact Nat.le_refl 0
  | cons file rest ih =>
    have hrest := ih fun f hf => h f (List.mem_cons_of_mem _ hf)
    have hdigest : file.sha256.toList.length = 64 := by
      have hlower := h file List.mem_cons_self
      simp only [isLowerSha256Hex, Bool.and_eq_true, decide_eq_true_eq] at hlower
      exact hlower.1
    have hframe := Nat.le_trans (length_le_text file.sha256) (length_le_frame _)
    change _ ≤ (frames (text file.path :: text file.sha256 :: number file.size.toNat ::
      encodeFiles rest)).length
    simp only [frames, List.flatMap_cons, List.length_append, List.length_cons] at hrest ⊢
    omega

theorem length_encodeManifest (manifest : RuntimeManifest)
    (h : ∀ file ∈ manifest.providerFiles, isLowerSha256Hex file.sha256 = true) :
    64 * manifest.providerFiles.length ≤ (encodeManifest manifest).length := by
  have hfiles := length_encodeFiles manifest.providerFiles h
  simp only [frames, encodeManifest, List.flatMap_append, List.length_append] at hfiles ⊢
  omega

def manifestCodec : ManifestCodec where
  sha256Hex _ := .ofList (List.replicate 64 '0')
  isLower_sha256Hex _ := by decide
  encodeManifest := encodeManifest
  decodeManifest := decodeManifest
  decode_encodeManifest := decode_encodeManifest
  length_encodeManifest := length_encodeManifest

end Plain

end Ratash
