import Ratash.Interaction.Yields
import Ratash.Service.Calls

/-!
The lock file and the state file are there, they are the service's own, and no file operation fails.
-/

namespace Ratash

open Interaction Attempt

def ControlCall.reads : ControlCall → Bool
  | .setCounters _ => false
  | _ => true

structure ControlFiles (J : GenerationCodec) where
  uid : Nat
  root : ControlMetadata
  lock : ControlMetadata
  state : ControlMetadata
  content : Bytes
  persisted : ServiceGenerationState
  root_valid : root.isDirectory = true ∧ root.uid = uid ∧
    root.mode % 0o10000 = serviceDirectoryMode
  lock_valid : lock.isFile = true ∧ lock.length = 0 ∧ lock.uid = uid ∧
    lock.mode % 0o10000 = generationStateMode ∧ lock.links = 1
  state_shape : state.isFile = true ∧ 0 < state.length ∧ state.length ≤ generationStateMaxBytes
  state_valid : state.uid = uid ∧ state.mode % 0o10000 = generationStateMode ∧ state.links = 1
  content_parsed : parseGenerationState J content = .ok persisted

namespace ControlFiles

def holding (J : GenerationCodec) (counters : GenerationCounters) : ControlFiles J where
  uid := 0
  root := ⟨false, true, 0, 0, serviceDirectoryMode, 2, 1, 1⟩
  lock := ⟨true, false, 0, 0, generationStateMode, 1, 1, 2⟩
  state := ⟨true, false, 64, 0, generationStateMode, 1, 1, 3⟩
  content := J.encode (.new counters)
  persisted := .new counters
  root_valid := by decide
  lock_valid := by decide
  state_shape := by decide
  state_valid := by decide
  content_parsed := parseGenerationState_encode J counters

variable {J : GenerationCodec} (files : ControlFiles J)

def Finds : (c : FileCall) → c.Value → Prop
  | .rootMetadata, v => v = files.root
  | .metadata .generationLock, v => v = some files.lock
  | .metadata .generationState, v => v = some files.state
  | .openMetadata .generationLock, v => v = files.lock
  | .openMetadata .generationState, v => v = files.state
  | .read .generationState, v => v = files.content
  | _, _ => True

def Responds (counters : GenerationCounters) : (c : ControlCall) → c.Reply → Prop
  | .counters, r => r = counters
  | .takeCommitFault, r => r = none
  | .effectiveUid, r => r = files.uid
  | .file c, r => ∃ v, r = .ok v ∧ files.Finds c v
  | _, _ => True

def environment : Environment controlCalls GenerationCounters :=
  fun counters c r counters' => files.Responds counters c r ∧
    counters' = match c with
      | .setCounters new => new
      | _ => counters

theorem anyControl_of_environment (h : files.environment counters c r counters') :
    anyControl counters c r counters' := by
  obtain ⟨hresponds, rfl⟩ := h
  cases c with
  | counters => exact ⟨hresponds, rfl⟩
  | _ => rfl

theorem finds_total (c : FileCall) : ∃ v, files.Finds c v := by
  cases c with
  | rootMetadata => exact ⟨_, rfl⟩
  | metadata name =>
    cases name with
    | generationLock => exact ⟨_, rfl⟩
    | generationState => exact ⟨_, rfl⟩
    | _ => exact ⟨none, trivial⟩
  | openMetadata name =>
    cases name with
    | generationLock => exact ⟨_, rfl⟩
    | generationState => exact ⟨_, rfl⟩
    | _ => exact ⟨files.state, trivial⟩
  | read name =>
    cases name with
    | generationState => exact ⟨_, rfl⟩
    | _ => exact ⟨[], trivial⟩
  | createNew _ _ => exact ⟨files.state, trivial⟩
  | readDir => exact ⟨[], trivial⟩
  | _ => exact ⟨(), trivial⟩

theorem environment_total (counters : GenerationCounters) (c : ControlCall) :
    ∃ r counters', files.environment counters c r counters' := by
  cases c with
  | counters => exact ⟨_, _, rfl, rfl⟩
  | takeCommitFault => exact ⟨none, _, rfl, rfl⟩
  | effectiveUid => exact ⟨_, _, rfl, rfl⟩
  | newUuid => exact ⟨0, _, trivial, rfl⟩
  | file c =>
    obtain ⟨v, hv⟩ := files.finds_total c
    exact ⟨.ok v, _, ⟨v, rfl, hv⟩, rfl⟩
  | setCounters _ => exact ⟨(), _, trivial, rfl⟩
  | unlock => exact ⟨(), _, trivial, rfl⟩

variable {files} {P : GenerationCounters → Prop}

theorem control_yields {c : ControlCall} (hc : c.reads = true) :
    Yields files.environment P (control c)
      fun r counters => P counters ∧ files.Responds counters c r := by
  intro counters hP
  refine ⟨trivial, ?_⟩
  rintro r _ ⟨hresponds, rfl⟩
  cases c with
  | setCounters new => cases hc
  | _ => exact ⟨trivial, r, rfl, hP, hresponds⟩

theorem setCounters_yields (new : GenerationCounters) :
    Yields files.environment P (control (.setCounters new)) fun _ counters => counters = new := by
  intro counters hP
  refine ⟨trivial, ?_⟩
  rintro r _ ⟨_, rfl⟩
  exact ⟨trivial, r, rfl, rfl⟩

theorem counters_yields (counters : GenerationCounters) :
    Yields files.environment (· = counters) (control .counters)
      fun r counters' => counters' = counters ∧ r = counters := by
  apply (control_yields rfl).mono (fun _ h => h)
  rintro r _ ⟨rfl, hr⟩
  exact ⟨rfl, hr⟩

theorem uid_yields : Yields files.environment P (control .effectiveUid)
    fun r counters => P counters ∧ r = files.uid :=
  control_yields rfl

theorem file_yields (c : FileCall) (message : String) : Yields files.environment P (file c message)
      fun v counters => P counters ∧ files.Finds c v := by
  apply (control_yields rfl).seq
  intro reply
  apply yields_of_fact
  rintro ⟨v, rfl, hv⟩
  exact yields_pure v fun _ hP => ⟨hP, hv⟩

theorem validateServiceDirectoryMetadata_yields :
    Yields files.environment P (validateServiceDirectoryMetadata files.root message)
      fun _ => P := by
  apply uid_yields.seq
  intro uid
  apply yields_of_fact
  rintro rfl
  exact yields_require files.root_valid _

theorem validateControlRoot_yields : Yields files.environment P validateControlRoot fun _ => P := by
  apply (file_yields _ _).seq
  intro metadata
  apply yields_of_fact
  rintro rfl
  exact validateServiceDirectoryMetadata_yields

theorem syncPrivateServiceDirectory_yields :
    Yields files.environment P syncPrivateServiceDirectory fun _ => P := by
  apply (file_yields _ _).seq
  intro metadata
  apply yields_of_fact
  rintro rfl
  apply validateServiceDirectoryMetadata_yields.seq
  intro _
  exact (file_yields _ _).mono (fun _ h => h) fun _ _ h => h.1

theorem validateGenerationLockMetadata_yields :
    Yields files.environment P (validateGenerationLockMetadata files.lock) fun _ => P := by
  apply uid_yields.seq
  intro uid
  apply yields_of_fact
  rintro rfl
  exact yields_require files.lock_valid _

theorem openGenerationStateLock_yields :
    Yields files.environment P openGenerationStateLock fun _ => P := by
  apply validateControlRoot_yields.seq
  intro _
  have honce : Yields files.environment P openGenerationStateLockOnce
      fun opened counters => P counters ∧ opened = true := by
    apply (file_yields _ _).seq
    intro found
    apply yields_of_fact
    rintro rfl
    apply validateGenerationLockMetadata_yields.seq
    intro _
    apply (file_yields _ _).seq
    intro metadata
    apply yields_of_fact
    rintro rfl
    apply validateGenerationLockMetadata_yields.seq
    intro _
    apply (yields_require ⟨rfl, rfl⟩ _).seq
    intro _
    exact yields_pure true fun _ hP => ⟨hP, rfl⟩
  apply honce.seq
  intro opened
  apply yields_of_fact
  rintro rfl
  exact yields_pure () fun _ hP => hP

theorem withGenerationStateLock_yields {operation : ControlAttempt α}
    {Q : α → GenerationCounters → Prop} (h : Yields files.environment P operation Q) :
    Yields files.environment P (withGenerationStateLock operation) Q := by
  apply openGenerationStateLock_yields.seq
  intro _
  apply (file_yields _ _).seq
  intro _
  apply (h.mono (fun _ h => h.1) fun _ _ h => h).result.seq
  intro result
  apply (control_yields rfl).seq
  rintro _ counters ⟨⟨a, rfl, hQ⟩, _⟩
  exact ⟨trivial, a, rfl, hQ⟩

theorem validateGenerationStateMetadata_yields :
    Yields files.environment P (validateGenerationStateMetadata files.state) fun _ => P := by
  apply (yields_require files.state_shape _).seq
  intro _
  apply uid_yields.seq
  intro uid
  apply yields_of_fact
  rintro rfl
  exact yields_require files.state_valid _

theorem loadGenerationState_yields : Yields files.environment P (loadGenerationState J)
      fun state counters => P counters ∧ state = files.persisted := by
  apply validateControlRoot_yields.seq
  intro _
  apply (file_yields _ _).seq
  intro found
  apply yields_of_fact
  rintro rfl
  apply validateGenerationStateMetadata_yields.seq
  intro _
  apply (file_yields _ _).seq
  intro metadata
  apply yields_of_fact
  rintro rfl
  apply validateGenerationStateMetadata_yields.seq
  intro _
  apply (yields_require ⟨rfl, rfl⟩ _).seq
  intro _
  apply (file_yields _ _).seq
  intro content
  apply yields_of_fact
  rintro rfl
  exact yields_ofExcept files.content_parsed

theorem commitGenerationState_yields :
    Yields files.environment P (commitGenerationState temporary bytes none) fun _ => P := by
  have hfile : ∀ c message, Yields files.environment P (file c message) fun _ => P :=
    fun c message => (file_yields c message).mono (fun _ h => h) fun _ _ h => h.1
  have hinject : ∀ stage, Yields files.environment P
      (injectGenerationStateCommitFault none stage) fun _ => P :=
    fun _ => yields_require nofun _
  apply (hfile _ _).seq
  intro _
  apply (hinject _).seq
  intro _
  apply (hfile _ _).seq
  intro _
  apply (hinject _).seq
  intro _
  apply (hfile _ _).seq
  intro _
  apply (hinject _).seq
  intro _
  apply (hfile _ _).seq
  intro _
  apply (hinject _).seq
  intro _
  exact syncPrivateServiceDirectory_yields

theorem persistGenerationState_yields :
    Yields files.environment P (persistGenerationState J) fun _ => P := by
  apply (control_yields rfl).seq
  intro fault
  apply yields_of_fact
  rintro rfl
  have hcounters : Yields files.environment P (control .counters) fun _ => P :=
    (control_yields rfl).mono (fun _ h => h) fun _ _ h => h.1
  apply hcounters.seq
  intro counters
  apply validateControlRoot_yields.seq
  intro _
  apply (yields_require ⟨J.encode_ne_nil _, J.length_encode _⟩ _).seq
  intro _
  apply (file_yields _ _).seq
  intro found
  apply yields_of_fact
  rintro rfl
  apply validateGenerationStateMetadata_yields.seq
  intro _
  apply (control_yields rfl).seq
  intro uuid
  apply (file_yields _ _).seq
  intro staged
  apply (commitGenerationState_yields.mono (fun _ h => h.1.1) fun _ _ h => h).result.seq
  rintro result counters ⟨_, rfl, hP⟩
  exact ⟨trivial, (), rfl, hP⟩

theorem reserveCoreInstanceGeneration_yields
    (hleft : checkedSucc (max counters.coreInstanceGeneration
      files.persisted.coreInstanceGeneration) = some instanceGeneration) :
    Yields files.environment (· = counters) (reserveCoreInstanceGeneration J) fun _ _ => True := by
  apply withGenerationStateLock_yields
  apply loadGenerationState_yields.seq
  intro persisted
  apply yields_of_fact
  rintro rfl
  apply (counters_yields counters).seq
  intro found
  apply yields_of_fact
  rintro rfl
  apply (setCounters_yields _).seq
  intro _
  simp only [hleft]
  apply (setCounters_yields _).seq
  intro _
  apply persistGenerationState_yields.seq
  intro _
  exact yields_pure _ fun _ _ => trivial

end ControlFiles

end Ratash
