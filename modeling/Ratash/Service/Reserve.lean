import Ratash.Interaction.Only
import Ratash.Service.Calls
import Ratash.Service.ControlRoot

/-!
The counters in memory only grow, a reserved owner generation is above all earlier ones, and every
failure is reported as `unavailable`.
-/

namespace Ratash

open Interaction Attempt

def GenerationCounters.Le (a b : GenerationCounters) : Prop :=
  a.ownerGeneration ≤ b.ownerGeneration ∧ a.coreInstanceGeneration ≤ b.coreInstanceGeneration

theorem GenerationCounters.Le.refl (a : GenerationCounters) : a.Le a :=
  ⟨UInt64.le_refl _, UInt64.le_refl _⟩

theorem GenerationCounters.Le.trans {a b c : GenerationCounters} (h : a.Le b) (h' : b.Le c) :
    a.Le c :=
  ⟨UInt64.le_trans h.1 h'.1, UInt64.le_trans h.2 h'.2⟩

def Unavailing (r : Except CoreRuntimeError α) : Prop :=
  ∀ e, r = .error e → e.kind = .unavailable

def Passive (x : ControlAttempt α) : Prop :=
  ∀ n, x.run.Ensures anyControl (· = n) (fun r _ => Unavailing r) n

theorem passive_pure (a : α) : Passive (pure a) :=
  fun _ => ⟨rfl, nofun⟩

theorem passive_unavailable (message : String) :
    Passive (throw (unavailable message) : ControlAttempt α) := by
  refine fun _ => ⟨rfl, ?_⟩
  rintro _ ⟨⟩
  rfl

theorem Passive.seq {x : ControlAttempt α} {f : α → ControlAttempt β} (hx : Passive x)
    (hf : ∀ a, Passive (f a)) : Passive (x >>= f) := by
  intro n
  apply Attempt.ensures_seq (hx n)
  · rintro a n' rfl _
    exact hf a n'
  · rintro e n' rfl h _ ⟨⟩
    exact h e rfl

theorem passive_control (hc : ∀ n, c ≠ .setCounters n) : Passive (control c) := by
  intro n
  refine ⟨rfl, ?_⟩
  intro r n' hstep
  have hsame : n' = n := by
    cases c <;> first | exact hstep.2 | exact hstep | exact absurd rfl (hc _)
  exact ⟨hsame, nofun⟩

theorem passive_file (c : FileCall) (message : String) : Passive (file c message) := by
  apply (passive_control (c := .file c) nofun).seq
  intro reply
  cases reply with
  | ok a => exact passive_pure a
  | error e => exact passive_unavailable message

def ControlCall.plain : ControlCall → Bool
  | .setCounters _ | .unlock | .file .flock => false
  | _ => true

def ControlCall.touches : ControlCall → List ControlName
  | .file c => c.touches
  | _ => []

/-- A plain call that leaves the files of some names alone. -/
def ControlCall.Spares (names : ControlName → Prop) (c : ControlCall) : Prop :=
  c.plain = true ∧ ∀ name ∈ c.touches, ¬ names name

structure Tame (names : ControlName → Prop) (x : ControlAttempt α) : Prop where
  only : Only (ControlCall.Spares names) x
  steady : Passive x

theorem Tame.passive {x : ControlAttempt α} (h : Tame (fun _ => False) x) : Passive x :=
  h.steady

section Tame

variable {names : ControlName → Prop}

theorem tame_pure (a : α) : Tame names (pure a) :=
  ⟨only_pure a, passive_pure a⟩

theorem tame_unavailable (message : String) :
    Tame names (throw (unavailable message) : ControlAttempt α) :=
  ⟨only_throw _, passive_unavailable message⟩

theorem Tame.seq {x : ControlAttempt α} {f : α → ControlAttempt β} (hx : Tame names x)
    (hf : ∀ a, Tame names (f a)) : Tame names (x >>= f) :=
  ⟨hx.only.seq fun a => (hf a).only, hx.steady.seq fun a => (hf a).steady⟩

theorem Tame.whenever {p : Prop} [Decidable p] {x : ControlAttempt Unit} (hx : Tame names x) :
    Tame names (whenever p x) := by
  unfold Attempt.whenever
  split
  · exact hx
  · exact tame_pure ()

theorem tame_require {p : Prop} [Decidable p] (message : String) :
    Tame names (require p (unavailable message)) := by
  unfold require
  split
  · exact tame_pure ()
  · exact tame_unavailable message

theorem tame_control {c : ControlCall} (hc : c.Spares names) : Tame names (control c) := by
  refine ⟨only_lift hc, passive_control ?_⟩
  rintro n rfl
  cases hc.1

theorem tame_file {c : FileCall} (hc : (ControlCall.file c).Spares names) (message : String) :
    Tame names (file c message) :=
  ⟨(tame_control hc).only.seq fun _ => only_okOr _ _, passive_file c message⟩

theorem tame_effectiveUid : Tame names (control .effectiveUid) :=
  tame_control ⟨rfl, nofun⟩

theorem tame_validateServiceDirectoryMetadata (metadata : ControlMetadata) (diagnostic : String) :
    Tame names (validateServiceDirectoryMetadata metadata diagnostic) :=
  tame_effectiveUid.seq fun _ => tame_require diagnostic

theorem tame_validateControlRoot : Tame names validateControlRoot :=
  (tame_file ⟨rfl, nofun⟩ _).seq fun _ => tame_validateServiceDirectoryMetadata _ _

theorem tame_syncPrivateServiceDirectory : Tame names syncPrivateServiceDirectory :=
  (tame_file ⟨rfl, nofun⟩ _).seq fun _ =>
    (tame_validateServiceDirectoryMetadata _ _).seq fun _ => tame_file ⟨rfl, nofun⟩ _

theorem tame_validateGenerationLockMetadata (metadata : ControlMetadata) :
    Tame names (validateGenerationLockMetadata metadata) :=
  tame_effectiveUid.seq fun _ => tame_require _

theorem tame_openGenerationStateLockOnce (hlock : ¬ names .generationLock) :
    Tame names openGenerationStateLockOnce := by
  have hspared : ∀ name ∈ [ControlName.generationLock], ¬ names name :=
    fun _ hmem => List.mem_singleton.1 hmem ▸ hlock
  apply (tame_file ⟨rfl, nofun⟩ _).seq
  intro found
  cases found with
  | some pathMetadata =>
    apply (tame_validateGenerationLockMetadata _).seq
    intro _
    apply (tame_file ⟨rfl, nofun⟩ _).seq
    intro openedMetadata
    apply (tame_validateGenerationLockMetadata _).seq
    intro _
    exact (tame_require _).seq fun _ => tame_pure true
  | none =>
    refine Tame.seq (tame_control ⟨rfl, hspared⟩) ?_
    intro created
    cases created with
    | ok _ =>
      apply (tame_file (c := .setPermissions .generationLock _) ⟨rfl, hspared⟩ _).seq
      intro _
      apply (tame_file ⟨rfl, nofun⟩ _).seq
      intro metadata
      apply (tame_validateGenerationLockMetadata _).seq
      intro _
      apply (tame_file ⟨rfl, nofun⟩ _).seq
      intro _
      exact tame_syncPrivateServiceDirectory.seq fun _ => tame_pure true
    | error e =>
      dsimp only
      split
      · exact tame_pure false
      · exact tame_unavailable _

theorem tame_openGenerationStateLock (hlock : ¬ names .generationLock) :
    Tame names openGenerationStateLock := by
  apply tame_validateControlRoot.seq
  intro _
  apply (tame_openGenerationStateLockOnce hlock).seq
  intro opened
  cases opened with
  | true => exact tame_pure ()
  | false => exact (tame_openGenerationStateLockOnce hlock).seq fun _ => tame_require _

theorem tame_validateGenerationStateMetadata (metadata : ControlMetadata) :
    Tame names (validateGenerationStateMetadata metadata) :=
  (tame_require _).seq fun _ => tame_effectiveUid.seq fun _ => tame_require _

theorem tame_validateReplacedGenerationState (found : Option ControlMetadata) :
    Tame names (validateReplacedGenerationState found) := by
  cases found with
  | some metadata => exact tame_validateGenerationStateMetadata metadata
  | none => exact tame_pure ()

theorem tame_removeCreatedPendingGenerationState (temporary : ControlName)
    (staged : ControlMetadata) (htemporary : ¬ names temporary) :
    Tame names (removeCreatedPendingGenerationState temporary staged) := by
  apply (tame_control (c := .file _) ⟨rfl, nofun⟩).seq
  intro found
  split
  · split
    · apply (tame_control (c := .file _) ⟨rfl, ?_⟩).seq fun _ => tame_pure ()
      exact fun _ hmem => List.mem_singleton.1 hmem ▸ htemporary
    · exact tame_pure ()
  · exact tame_pure ()

end Tame

variable (J : GenerationCodec)

theorem unavailing_parseGenerationState (content : Bytes) :
    Unavailing (parseGenerationState J content) := by
  intro e he
  unfold parseGenerationState at he
  split at he
  · cases he
    rfl
  · split at he
    · cases he
      rfl
    · split at he
      · cases he
        rfl
      · cases he

theorem passive_readGenerationState (metadata : ControlMetadata) :
    Passive (readGenerationState J metadata) := by
  apply (tame_validateGenerationStateMetadata _).passive.seq
  intro _
  apply (passive_file _ _).seq
  intro openedMetadata
  apply (tame_validateGenerationStateMetadata _).passive.seq
  intro _
  apply (tame_require _).passive.seq
  intro _
  apply (passive_file _ _).seq
  intro content
  exact fun _ => ⟨rfl, unavailing_parseGenerationState J content⟩

theorem passive_loadGenerationState : Passive (loadGenerationState J) := by
  apply tame_validateControlRoot.passive.seq
  intro _
  apply (passive_file _ _).seq
  intro found
  cases found with
  | some metadata => exact passive_readGenerationState J metadata
  | none => exact passive_unavailable _

theorem passive_injectGenerationStateCommitFault (armed : Option CommitFault)
    (stage : CommitFault) : Passive (injectGenerationStateCommitFault armed stage) :=
  (tame_require _).passive

theorem passive_commitGenerationState (temporary : ControlName) (content : Bytes)
    (fault : Option CommitFault) : Passive (commitGenerationState temporary content fault) := by
  apply (passive_file _ _).seq
  intro _
  apply (passive_injectGenerationStateCommitFault _ _).seq
  intro _
  apply (passive_file _ _).seq
  intro _
  apply (passive_injectGenerationStateCommitFault _ _).seq
  intro _
  apply (passive_file _ _).seq
  intro _
  apply (passive_injectGenerationStateCommitFault _ _).seq
  intro _
  apply (passive_file _ _).seq
  intro _
  exact (passive_injectGenerationStateCommitFault _ _).seq fun _ =>
    tame_syncPrivateServiceDirectory.passive

theorem passive_persistGenerationStateWithFault (state : ServiceGenerationState)
    (fault : Option CommitFault) : Passive (persistGenerationStateWithFault J state fault) := by
  apply tame_validateControlRoot.passive.seq
  intro _
  apply (tame_require _).passive.seq
  intro _
  apply (passive_file _ _).seq
  intro found
  apply (tame_validateReplacedGenerationState found).passive.seq
  intro _
  apply (passive_control (c := .newUuid) nofun).seq
  intro uuid
  apply (passive_file _ _).seq
  intro staged n
  apply ensures_result_seq (passive_commitGenerationState _ _ fault n)
  rintro r n' rfl hr
  cases r with
  | ok _ => exact passive_pure () n'
  | error e =>
    apply Attempt.ensures_seq ((tame_removeCreatedPendingGenerationState _ staged id).passive n')
    · rintro _ n'' rfl _
      refine ⟨rfl, ?_⟩
      rintro _ ⟨⟩
      exact hr e rfl
    · rintro e' n'' rfl he' _ ⟨⟩
      exact he' e' rfl

theorem passive_persistGenerationState : Passive (persistGenerationState J) := by
  apply (passive_control (c := .takeCommitFault) nofun).seq
  intro fault
  apply (passive_control (c := .counters) nofun).seq
  intro counters
  exact passive_persistGenerationStateWithFault J _ fault

section Lock

variable {I : GenerationCounters → Prop} {Q : Except CoreRuntimeError α → GenerationCounters → Prop}

theorem Passive.ensures_seq {x : ControlAttempt β} {f : β → ControlAttempt α} (hx : Passive x)
    (hI : I n) (hok : ∀ b, (f b).run.Ensures anyControl I Q n)
    (herr : ∀ e, e.kind = .unavailable → Q (.error e) n) :
    (x >>= f).run.Ensures anyControl I Q n := by
  apply Attempt.ensures_seq ((hx n).mono (fun _ hn => hn ▸ hI) fun _ _ hn h => And.intro hn h)
  · rintro b _ _ ⟨rfl, _⟩
    exact hok b
  · rintro e _ _ ⟨rfl, h⟩
    exact herr e (h e rfl)

theorem counters_seq {f : GenerationCounters → ControlAttempt α} (hI : I n)
    (hf : (f n).run.Ensures anyControl I Q n) :
    (control .counters >>= f).run.Ensures anyControl I Q n := by
  refine ensures_bind.2 ⟨hI, ?_⟩
  rintro _ _ ⟨rfl, rfl⟩
  exact ⟨hI, hf⟩

theorem setCounters_seq {f : Unit → ControlAttempt α} (hI : I n) (hI' : I n')
    (hf : (f ()).run.Ensures anyControl I Q n') :
    (control (.setCounters n') >>= f).run.Ensures anyControl I Q n := by
  refine ensures_bind.2 ⟨hI, ?_⟩
  rintro _ n'' hset
  obtain rfl : n'' = n' := hset
  exact ⟨hI', hf⟩

theorem withGenerationStateLock_ensures {operation : ControlAttempt α} (hI : I n)
    (hoperation : operation.run.Ensures anyControl I Q n)
    (herr : ∀ e, e.kind = .unavailable → Q (.error e) n) :
    (withGenerationStateLock operation).run.Ensures anyControl I Q n := by
  apply (tame_openGenerationStateLock id).passive.ensures_seq hI (fun _ => ?_) herr
  apply (passive_file _ _).ensures_seq hI (fun _ => ?_) herr
  apply ensures_result_seq hoperation
  intro r n' hI' hQ
  refine ⟨hI', ?_⟩
  rintro _ n'' hsame
  obtain rfl : n'' = n' := hsame
  exact ⟨hI', hQ⟩

end Lock

theorem le_max_left64 (a b : UInt64) : a ≤ max a b := by
  change a ≤ if a ≤ b then b else a
  split
  · assumption
  · exact UInt64.le_refl a

theorem lt_of_checkedSucc (h : checkedSucc (max a b) = some m) : a < m := by
  have hm := checkedSucc_eq_some h
  have hle := le_max_left64 a b
  rw [UInt64.le_iff_toNat_le] at hle
  rw [UInt64.lt_iff_toNat_lt]
  omega

theorem unavailing_error {e : CoreRuntimeError} (he : e.kind = .unavailable) :
    Unavailing (.error e : Except _ α) := by
  rintro _ ⟨⟩
  exact he

theorem reserveOwnerGeneration_ensures (n : GenerationCounters) :
    (reserveOwnerGeneration J).run.Ensures anyControl n.Le (fun r n' => Unavailing r ∧
        ∀ g, r = .ok g → n.ownerGeneration < g ∧ g ≤ n'.ownerGeneration) n := by
  apply withGenerationStateLock_ensures (.refl n) ?_ fun e he => ⟨unavailing_error he, nofun⟩
  apply (passive_loadGenerationState J).ensures_seq (.refl n) ?_
    fun e he => ⟨unavailing_error he, nofun⟩
  intro persisted
  apply counters_seq (.refl n)
  split
  · exact ⟨.refl n, unavailing_error rfl, nofun⟩
  · rename_i owner howner
    have hlt := lt_of_checkedSucc howner
    have hle : n.Le ⟨owner, max n.coreInstanceGeneration persisted.coreInstanceGeneration⟩ :=
      ⟨UInt64.le_of_lt hlt, le_max_left64 ..⟩
    apply setCounters_seq (.refl n) hle
    apply (passive_persistGenerationState J).ensures_seq hle ?_
      fun e he => ⟨unavailing_error he, nofun⟩
    intro _
    refine ⟨hle, nofun, ?_⟩
    rintro _ ⟨⟩
    exact ⟨hlt, UInt64.le_refl _⟩

theorem reserveCoreInstanceGeneration_ensures (n : GenerationCounters) :
    (reserveCoreInstanceGeneration J).run.Ensures anyControl n.Le (fun r _ => Unavailing r) n := by
  apply withGenerationStateLock_ensures (.refl n) ?_ fun e he => unavailing_error he
  apply (passive_loadGenerationState J).ensures_seq (.refl n) ?_ fun e he => unavailing_error he
  intro persisted
  apply counters_seq (.refl n)
  have howner :
      n.Le { n with ownerGeneration := max n.ownerGeneration persisted.ownerGeneration } :=
    ⟨le_max_left64 .., UInt64.le_refl _⟩
  apply setCounters_seq (.refl n) howner
  split
  · exact ⟨howner, unavailing_error rfl⟩
  · rename_i instanceGeneration hinstance
    have hle : n.Le ⟨max n.ownerGeneration persisted.ownerGeneration, instanceGeneration⟩ :=
      ⟨le_max_left64 .., UInt64.le_of_lt (lt_of_checkedSucc hinstance)⟩
    apply setCounters_seq howner hle
    apply (passive_persistGenerationState J).ensures_seq hle ?_ fun e he => unavailing_error he
    exact fun _ => ⟨hle, nofun⟩

end Ratash
