import Ratash.Profile.SubscriptionUrl
import Ratash.Rule.Parse
import Ratash.Scheduler.Probe
import Ratash.Supervisor.Errors
import Ratash.Text.Utf8

/-!
A profile is named after what its source says, else after the file in its address, else after its
host.
-/

namespace Ratash

open Text (ascii_of_utf8ByteSize_le utf8ByteSize_ofList_cons utf8ByteSize_le_of_sublist
  utf8ByteSize_of_ascii utf8ByteSize_replicate)

def profileMetadataNameMaxBytes : Nat := 80

def refreshErrorMaxBytes : Nat := 1024

inductive ProfileNameSource where
  | metadata
  | filename
  | hostAndShortId
deriving DecidableEq

structure DerivedProfileName where
  value : String
  source : ProfileNameSource
deriving DecidableEq

def normalizeName (value : String) : Option String :=
  let value := trim value.toList
  if value = [] ∨ value.any isControl = true then none
  else some (String.ofList (value.take 80))

def stripYaml (text : List Char) : List Char :=
  ((stripSuffix text ".yaml".toList).or (stripSuffix text ".yml".toList)).getD text

/-- The last segment of the path, without its extension. -/
def filenameName (subscription : SubscriptionUrl) : Option String := do
  let segments ← subscription.url.pathSegments
  let filename ← segments.getLast?
  if isTokenLikePathSegment filename then none
  else normalizeName (String.ofList (stripYaml filename.toList))

/-- The digits of the identifier, in groups of 8, 4, 4, 4 and 12. -/
def ProfileId.display (id : ProfileId) : List Char :=
  let digits := (List.range 32).map fun i => Nat.digitChar (id.uuid.toNat / 16 ^ (31 - i) % 16)
  digits.take 8 ++ '-' :: ((digits.drop 8).take 4 ++ '-' :: ((digits.drop 12).take 4 ++
    '-' :: ((digits.drop 16).take 4 ++ '-' :: digits.drop 20)))

def deriveProfileName (metadataName : Option String) (subscription : SubscriptionUrl)
    (id : ProfileId) : DerivedProfileName :=
  match metadataName.bind normalizeName with
  | some value => ⟨value, .metadata⟩
  | none =>
    match filenameName subscription with
    | some value => ⟨value, .filename⟩
    | none =>
      let host := subscription.url.host.getD "profile"
      ⟨host ++ "-" ++ String.ofList (id.display.take 8), .hostAndShortId⟩

/-- The check of the profile source, on a header or a file name. -/
def validateMetadataName (value : String) (maxBytes : Nat) (stripYamlSuffix : Bool) :
    Option String :=
  let value := trim value.toList
  let value := if stripYamlSuffix then stripYaml value else value
  if value = [] ∨ maxBytes < (String.ofList value).utf8ByteSize ∨ value.any isControl = true then
    none
  else some (String.ofList value)

def AdmittedName (name : String) : Prop :=
  ∃ value stripYamlSuffix,
    validateMetadataName value profileMetadataNameMaxBytes stripYamlSuffix = some name

inductive StateStoreError where
  | invalidState
deriving DecidableEq

def validateName (name : String) : Except StateStoreError Unit :=
  if name.isEmpty = true ∨ profileMetadataNameMaxBytes < name.utf8ByteSize ∨
      name.toList.any isControl = true then
    .error .invalidState
  else .ok ()

/-- The condition under which a stored refresh failure is refused. -/
def RefreshFailure.invalid (error : RefreshFailure) : Bool :=
  decide (refreshErrorMaxBytes < error.safeMessage.utf8ByteSize) ||
    error.safeMessage.toList.any isControl

def validateProfile (profile : Profile U S) : Except StateStoreError Unit := do
  validateName profile.name
  if profile.revision = 0 ∨ maxActiveNodes < profile.selections.size ∨
      profile.lastError.any RefreshFailure.invalid = true then
    .error .invalidState
  else .ok ()

theorem validateName_eq_ok : validateName name = .ok () ↔
      name ≠ "" ∧ name.utf8ByteSize ≤ profileMetadataNameMaxBytes ∧
        name.toList.any isControl = false := by
  unfold validateName
  by_cases h : name.isEmpty = true ∨ profileMetadataNameMaxBytes < name.utf8ByteSize ∨
      name.toList.any isControl = true
  · rw [if_pos h]
    constructor
    · intro hok
      cases hok
    · rintro ⟨hne, hsize, hplain⟩
      rcases h with h | h | h
      · exact absurd (String.isEmpty_iff.1 h) hne
      · omega
      · rw [hplain] at h
        cases h
  · rw [if_neg h]
    rw [String.isEmpty_iff, not_or, not_or, Nat.not_lt, Bool.not_eq_true] at h
    exact ⟨fun _ => h, fun _ => rfl⟩

theorem normalizeName_eq_some (h : normalizeName value = some name) :
    trim value.toList ≠ [] ∧ (trim value.toList).any isControl = false ∧
      name = String.ofList ((trim value.toList).take 80) := by
  unfold normalizeName at h
  dsimp only at h
  split at h
  · cases h
  · rename_i hgood
    rw [not_or, Bool.not_eq_true] at hgood
    exact ⟨hgood.1, hgood.2, (Option.some.inj h).symm⟩

theorem validateName_of_normalizeName (h : normalizeName value = some name) :
    validateName name = .ok () ↔ name.utf8ByteSize ≤ profileMetadataNameMaxBytes := by
  obtain ⟨hne, hplain, rfl⟩ := normalizeName_eq_some h
  rw [validateName_eq_ok]
  constructor
  · exact fun hok => hok.2.1
  · intro hsize
    refine ⟨?_, hsize, ?_⟩
    · intro hempty
      have htake : (trim value.toList).take 80 = [] := by
        rw [← String.toList_ofList (l := (trim value.toList).take 80), hempty]
        rfl
      rcases List.take_eq_nil_iff.1 htake with h80 | hnil
      · cases h80
      · exact hne hnil
    · rw [String.toList_ofList, List.any_eq_false]
      rw [List.any_eq_false] at hplain
      exact fun c hc => hplain c (List.mem_of_mem_take hc)

theorem utf8ByteSize_normalizeName_le (h : normalizeName value = some name) :
    name.utf8ByteSize ≤ value.utf8ByteSize := by
  obtain ⟨-, -, rfl⟩ := normalizeName_eq_some h
  have hsub : List.Sublist ((trim value.toList).take 80) value.toList :=
    (List.take_sublist 80 _).trans (Text.trim_sublist isWhitespace value.toList)
  have hle := utf8ByteSize_le_of_sublist hsub
  rwa [String.ofList_toList] at hle

theorem stripSuffix_eq_some [DecidableEq α] {text suffix : List α}
    (h : stripSuffix text suffix = some stem) : stem <+: text := by
  unfold stripSuffix at h
  split at h
  · rw [← Option.some.inj h]
    exact List.take_prefix _ _
  · cases h

theorem stripYaml_start (text : List Char) : stripYaml text <+: text := by
  unfold stripYaml
  rcases hyaml : stripSuffix text ".yaml".toList with _ | stem
  · rcases hyml : stripSuffix text ".yml".toList with _ | stem
    · exact List.prefix_refl text
    · exact stripSuffix_eq_some hyml
  · exact stripSuffix_eq_some hyaml

theorem trim_ne_nil_of_start (hne : start ≠ []) (h : start <+: trim text) : trim start ≠ [] := by
  obtain ⟨rest, hrest⟩ := h
  rcases start with _ | ⟨c, start⟩
  · exact absurd rfl hne
  · have hhead : isWhitespace c = false := by
      have hdrop : (trim text).dropWhile isWhitespace = trim text :=
        (Text.trimmed_trim isWhitespace text).start
      rw [← hrest] at hdrop
      by_contra hc
      rw [List.cons_append, List.dropWhile_cons_of_pos (by simpa using hc)] at hdrop
      have hlength := (List.dropWhile_suffix (l := start ++ rest) isWhitespace).length_le
      rw [hdrop, List.length_cons] at hlength
      omega
    intro hnil
    have hmem : c ∈ trim (c :: start) := (Text.mem_trim hhead).2 List.mem_cons_self
    rw [hnil] at hmem
    cases hmem

theorem AdmittedName.normalizeName_isSome (h : AdmittedName name) :
    ∃ value, normalizeName name = some value ∧ name.utf8ByteSize ≤ profileMetadataNameMaxBytes := by
  obtain ⟨value, stripYamlSuffix, h⟩ := h
  unfold validateMetadataName at h
  dsimp only at h
  have hstart : (if stripYamlSuffix = true then stripYaml (trim value.toList)
      else trim value.toList) <+: trim value.toList := by
    split
    · exact stripYaml_start _
    · exact List.prefix_refl _
  generalize (if stripYamlSuffix = true then stripYaml (trim value.toList)
      else trim value.toList) = chosen at h hstart
  split at h
  · cases h
  · rename_i hgood
    rw [not_or, not_or, Nat.not_lt, Bool.not_eq_true] at hgood
    obtain ⟨hne, hsize, hplain⟩ := hgood
    rw [← Option.some.inj h]
    refine ⟨String.ofList ((trim chosen).take 80), ?_, hsize⟩
    have hblank := trim_ne_nil_of_start hne hstart
    have hclear : (trim chosen).any isControl = false := by
      rw [List.any_eq_false] at hplain ⊢
      exact fun c hc => hplain c (Text.mem_of_mem_trim hc)
    unfold normalizeName
    dsimp only
    rw [String.toList_ofList, if_neg]
    rintro (hnil | hcontrol)
    · exact hblank hnil
    · rw [hclear] at hcontrol
      cases hcontrol

theorem validateName_filenameName (h : filenameName subscription = some name) :
    validateName name = .ok () := by
  unfold filenameName at h
  obtain ⟨segments, hsegments, h⟩ := Option.bind_eq_some_iff.1 h
  obtain ⟨filename, hlast, h⟩ := Option.bind_eq_some_iff.1 h
  split at h
  · cases h
  · rw [validateName_of_normalizeName h]
    obtain ⟨-, -, rfl⟩ := normalizeName_eq_some h
    rw [String.toList_ofList]
    have hmem : filename ∈ segments := List.mem_of_getLast? hlast
    have hascii : ∀ c ∈ (trim (stripYaml filename.toList)).take 80, c.toNat < 0x80 := by
      intro c hc
      have hstem := Text.mem_of_mem_trim (List.mem_of_mem_take hc)
      have hfile := (stripYaml_start filename.toList).subset hstem
      have := subscription.url.path_encoded segments hsegments filename hmem c hfile
      omega
    rw [utf8ByteSize_of_ascii hascii]
    exact List.length_take_le 80 _

theorem digitChar_plain (n : Nat) (h : n < 16) :
    n.digitChar.toNat < 0x80 ∧ isControl n.digitChar = false := by
  revert n
  decide

theorem ProfileId.display_take (id : ProfileId) : id.display.take 8 =
      (List.range 8).map fun i => Nat.digitChar (id.uuid.toNat / 16 ^ (31 - i) % 16) := rfl

theorem ProfileId.shortId_plain (id : ProfileId) :
    ∀ c ∈ id.display.take 8, c.toNat < 0x80 ∧ isControl c = false := by
  intro c hc
  rw [id.display_take] at hc
  obtain ⟨i, -, rfl⟩ := List.mem_map.1 hc
  exact digitChar_plain _ (Nat.mod_lt _ (by decide))

theorem validateName_hostAndShortId (subscription : SubscriptionUrl) (id : ProfileId) :
    validateName (subscription.url.host.getD "profile" ++ "-" ++
        String.ofList (id.display.take 8)) = .ok () ↔
      (subscription.url.host.getD "profile").utf8ByteSize + 9 ≤ profileMetadataNameMaxBytes := by
  obtain ⟨host, hhost⟩ := Option.isSome_iff_exists.1 subscription.hasHost
  have hplain := subscription.url.host_plain host hhost
  have hshort := id.shortId_plain
  have hlength : (id.display.take 8).length = 8 := rfl
  rw [hhost, Option.getD_some, validateName_eq_ok, String.utf8ByteSize_append,
    String.utf8ByteSize_append, utf8ByteSize_of_ascii fun c hc => (hshort c hc).1, hlength]
  have hdash : "-".utf8ByteSize = 1 := rfl
  rw [hdash]
  constructor
  · exact fun h => h.2.1
  · intro hsize
    refine ⟨?_, hsize, ?_⟩
    · intro hempty
      have hzero := congrArg String.utf8ByteSize hempty
      rw [String.utf8ByteSize_append, String.utf8ByteSize_append, hdash] at hzero
      change _ + 1 + _ = 0 at hzero
      omega
    · have hany : (String.ofList (id.display.take 8)).toList.any isControl = false := by
        rw [String.toList_ofList, List.any_eq_false]
        intro c hc
        rw [(hshort c hc).2]
        exact Bool.false_ne_true
      rw [String.toList_append, String.toList_append, List.any_append, List.any_append,
        hplain, hany]
      rfl

theorem utf8ByteSize_boundedMessage_le_iff (message : String) :
    (boundedMessage message).utf8ByteSize ≤ refreshErrorMaxBytes ↔
      message.utf8ByteSize ≤ 1024 ∨ ∀ c ∈ message.toList.take 1024, c.toNat < 0x80 := by
  rw [boundedMessage, refreshErrorMaxBytes]
  constructor
  · intro hle
    by_cases hshort : message.toList.length ≤ 1024
    · rw [List.take_of_length_le hshort, String.ofList_toList] at hle
      exact .inl hle
    · refine .inr (ascii_of_utf8ByteSize_le ?_)
      rw [List.length_take_of_le (by omega)]
      exact hle
  · rintro (hle | hascii)
    · have hsub := utf8ByteSize_le_of_sublist (List.take_sublist 1024 message.toList)
      rw [String.ofList_toList] at hsub
      exact hsub.trans hle
    · rw [utf8ByteSize_of_ascii hascii]
      exact List.length_take_le 1024 _

/-- A name is refused just if it comes from a host of more than 71 bytes; a message, without control
characters, just if it takes more than 1024 bytes and is not ASCII up to its cut. -/
theorem generated_text_storable (metadataName : Option String)
    (hadmitted : ∀ name ∈ metadataName, AdmittedName name) (subscription : SubscriptionUrl)
    (id : ProfileId) (message : String) (stage : RefreshStage) :
    (validateName (deriveProfileName metadataName subscription id).value = .ok () ↔
      metadataName.isSome = true ∨ (filenameName subscription).isSome = true ∨
        (subscription.url.host.getD "profile").utf8ByteSize ≤ 71) ∧
    ((boundedMessage message).toList.any isControl = false →
      (RefreshFailure.invalid ⟨stage, boundedMessage message⟩ = false ↔
        message.utf8ByteSize ≤ 1024 ∨ ∀ c ∈ message.toList.take 1024, c.toNat < 0x80)) := by
  constructor
  · unfold deriveProfileName
    rcases metadataName with _ | metadata
    · rw [Option.bind_none]
      dsimp only
      rcases hfile : filenameName subscription with _ | name
      · dsimp only
        rw [validateName_hostAndShortId]
        simp only [Option.isSome_none, Bool.false_eq_true, false_or, profileMetadataNameMaxBytes]
        omega
      · have hok := validateName_filenameName hfile
        exact ⟨fun _ => .inr (.inl rfl), fun _ => hok⟩
    · obtain ⟨value, hvalue, hsize⟩ := (hadmitted metadata rfl).normalizeName_isSome
      rw [Option.bind_some, hvalue]
      dsimp only
      rw [validateName_of_normalizeName hvalue]
      exact ⟨fun _ => .inl rfl, fun _ => (utf8ByteSize_normalizeName_le hvalue).trans hsize⟩
  · intro hplain
    unfold RefreshFailure.invalid
    dsimp only
    rw [hplain, Bool.or_false, decide_eq_false_iff_not, Nat.not_lt]
    exact utf8ByteSize_boundedMessage_le_iff message

theorem home_admitted : AdmittedName "Home" := ⟨" Home", false, by decide +kernel⟩

theorem generated_text_storable_home :
    validateName (deriveProfileName (some "Home") (exampleUrl "a=b" none) ⟨7⟩).value = .ok () ∧
    RefreshFailure.invalid ⟨.download, boundedMessage "timed out"⟩ = false := by
  obtain ⟨hname, hmessage⟩ := generated_text_storable (some "Home")
    (fun name hname => Option.some.inj hname ▸ home_admitted) (exampleUrl "a=b" none) ⟨7⟩
    "timed out" .download
  exact ⟨hname.2 (.inl rfl), (hmessage (by decide +kernel)).2 (.inl (by decide +kernel))⟩

def longHost : String := String.ofList (List.replicate 60 'a') ++ ".example.com"

theorem longHost_plain : longHost.toList.any isControl = false := by decide +kernel

theorem root_encoded : ∀ c ∈ "".toList, 0x21 ≤ c.toNat ∧ c.toNat < 0x7f := by simp

def longHostUrl : SubscriptionUrl := .ofHost longHost "" longHost_plain root_encoded none none

/-- Neither the name of a profile at the root of a long host nor a message of 1024 characters of two
bytes can be stored. -/
theorem generated_text_refused :
    validateName (deriveProfileName none longHostUrl ⟨7⟩).value = .error .invalidState ∧
    (boundedMessage (String.ofList (List.replicate 1024 'é'))).toList.any isControl = false ∧
    RefreshFailure.invalid
      ⟨.download, boundedMessage (String.ofList (List.replicate 1024 'é'))⟩ = true := by
  have htake : boundedMessage (String.ofList (List.replicate 1024 'é')) =
      String.ofList (List.replicate 1024 'é') := by
    rw [boundedMessage, String.toList_ofList, List.take_replicate, Nat.min_self]
  refine ⟨by decide +kernel, ?_, ?_⟩
  · rw [htake, String.toList_ofList, List.any_eq_false]
    intro c hc
    rw [List.eq_of_mem_replicate hc]
    decide
  · unfold RefreshFailure.invalid
    rw [htake]
    dsimp only
    rw [utf8ByteSize_replicate]
    rfl

end Ratash
