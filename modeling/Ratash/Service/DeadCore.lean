import Ratash.Service.Script
import Ratash.Service.Unfailing

/-!
Both begin with a look at the Core they are about to end, and refuse to go on when it is not the
process in the record.
-/

namespace Ratash

open Interaction Attempt

variable {Answers : UInt32 → Option String → Prop} {J : GenerationCodec} {files : ControlFiles J}

def Unreported (Answers : UInt32 → Option String → Prop) (process : OwnedProcessIdentity) : Prop :=
  ∀ identity, Answers process.pid identity → identity ≠ some process.processStartIdentity

def Beside (room room' : ServiceRoom) : Prop :=
  room'.2.state = room.2.state ∧ (room'.1, room'.2.cancellation) = (room.1, room.2.cancellation)

theorem Beside.within (h : Beside room room') (hA : A room.2.state) :
    Within A (room.1, room.2.cancellation) room' :=
  ⟨h.1 ▸ hA, h.2⟩

theorem Beside.trans (h : Beside room room') (h' : Beside room' room'') : Beside room room'' :=
  ⟨h'.1.trans h.1, h'.2.trans h.2⟩

theorem getState_beside {Q : Except CoreRuntimeError β → ServiceRoom → Prop}
    {f : ServiceState → ServiceAttempt β} (hf : ∀ room', Beside room room' →
      Unfailingly Answers files (f room.2.state) Q room') :
    Unfailingly Answers files (service .getState >>= f) Q room := by
  apply service_seq
  rintro state hstate _
  obtain rfl : state = room.2.state := hstate
  exact hf _ ⟨rfl, rfl⟩

theorem ownedProcessIsLive_unfailing : Unfailingly Answers files (ownedProcessIsLive process)
      (fun r room' => Beside room room' ∧ (r = .ok true ∧ ¬Unreported Answers process ∨
        r = .ok false ∧ process ∉ outstanding room'.2.history)) room := by
  apply service_seq
  rintro _ _ ⟨exited, rfl⟩
  refine ensures_ofExcept_seq trivial ?_ (fun e he => by cases he)
  rintro _ ⟨⟩
  cases exited with
  | true =>
    refine ⟨trivial, ⟨rfl, rfl⟩, .inr ⟨rfl, ?_⟩⟩
    exact not_mem_outstanding_of_ends rfl (by simp [ServiceEvent.ends])
  | false =>
    apply service_seq
    rintro _ _ ⟨identity, rfl, hanswer⟩
    refine ensures_ofExcept_seq trivial ?_ (fun e he => by cases he)
    rintro _ ⟨⟩
    refine ⟨trivial, ⟨rfl, rfl⟩, ?_⟩
    by_cases hsame : identity = some process.processStartIdentity
    · exact .inl ⟨congrArg Except.ok (decide_eq_true hsame), fun hgone => hgone _ hanswer hsame⟩
    · refine .inr ⟨congrArg Except.ok (decide_eq_false hsame), ?_⟩
      exact not_mem_outstanding_of_ends rfl (by simp [ServiceEvent.ends, hsame])

def coreIdentityMismatch : CoreRuntimeError :=
  serviceError .processIdentityMismatch "owned Core identity mismatch"

theorem requireOwnedProcess_unfailing : Unfailingly Answers files (requireOwnedProcess record)
      (fun r room' => Beside room room' ∧ (r = .ok () ∧ ¬Unreported Answers record.ownedIdentity ∨
        r = .error coreIdentityMismatch ∧
          record.ownedIdentity ∉ outstanding room'.2.history)) room := by
  apply ensures_seq ownedProcessIsLive_unfailing
  · rintro live room' _ ⟨hbeside, ⟨hlive, hgone⟩ | ⟨hlive, hended⟩⟩ <;> cases hlive
    · exact ensures_require.2
        ⟨trivial, fun _ => ⟨hbeside, .inl ⟨rfl, hgone⟩⟩, fun hn => absurd rfl hn⟩
    · exact ensures_require.2 ⟨trivial, nofun, fun _ => ⟨hbeside, .inr ⟨rfl, hended⟩⟩⟩
  · rintro e room' _ ⟨_, ⟨h, _⟩ | ⟨h, _⟩⟩ <;> cases h

/-- The request is turned down because the Core has exited, and nothing has changed. -/
def Refused (room : ServiceRoom) (r : Except CoreRuntimeError α) (room' : ServiceRoom) : Prop :=
  r = .error coreIdentityMismatch ∧ room'.2.state = room.2.state ∧
    ∃ record, room.2.state.managedCore = some (.active record) ∧
      record.ownedIdentity ∉ outstanding room'.2.history

def ActiveGone (Answers : UInt32 → Option String → Prop) (state : ServiceState) : Prop :=
  ∃ record, state.managedCore = some (.active record) ∧ Unreported Answers record.ownedIdentity

theorem stable_owner (owner : ServiceOwner) : Stable fun s => s.owner = some owner :=
  fun _ _ halike hs => halike.owner.trans hs

theorem authenticate_beside {Q : Except CoreRuntimeError β → ServiceRoom → Prop}
    {f : ServiceOwner → ServiceAttempt β} (howner : room.2.state.owner = some owner)
    (hf : ∀ room', Beside room room' → Unfailingly Answers files (f owner) Q room') :
    Unfailingly Answers files (authenticate owner.proof >>= f) Q room := by
  have hyields : Yields (unfailing Answers files)
      (Within (· = room.2.state) (room.1, room.2.cancellation)) (authenticate owner.proof) _ :=
    authenticate_yields fun _ hs => hs ▸ howner
  apply hyields.ensures ⟨rfl, rfl⟩
  rintro _ room' ⟨⟨hstate, hfixed⟩, rfl⟩
  exact hf room' ⟨hstate, hfixed⟩

theorem not_activeGone (h : ∀ record, state.managedCore ≠ some (.active record)) :
    ¬ActiveGone Answers state := by
  rintro ⟨record, hactive, _⟩
  exact h record hactive

theorem requireIfActive_unfailing (hcore : room.2.state.managedCore = some core) :
    Unfailingly Answers files (requireIfActive core)
      (fun r room' => Beside room room' ∧ (r = .ok () ∧ ¬ActiveGone Answers room.2.state ∨
        Refused room r room')) room := by
  cases core with
  | cleanupPending record =>
    refine ⟨trivial, ⟨rfl, rfl⟩, .inl ⟨rfl, not_activeGone ?_⟩⟩
    rw [hcore]
    exact nofun
  | active record =>
    apply requireOwnedProcess_unfailing.mono (fun _ h => h)
    rintro r room' _ ⟨hbeside, ⟨hok, halive⟩ | ⟨hrefused, hended⟩⟩
    · refine ⟨hbeside, .inl ⟨hok, ?_⟩⟩
      rintro ⟨record', hactive, hgone⟩
      cases hcore.symm.trans hactive
      exact halive hgone
    · exact ⟨hbeside, .inr ⟨hrefused, hbeside.1, record, hcore, hended⟩⟩

theorem Refused.of_beside (h : Refused room' r room'') (hbeside : Beside room room') :
    Refused room r room'' := by
  obtain ⟨hr, hstate, hcore⟩ := h
  rw [hbeside.1] at hstate hcore
  exact ⟨hr, hstate, hcore⟩

theorem stop_unfailing (howner : room.2.state.owner = some owner) :
    Unfailingly Answers files (stop config owner.proof)
      (fun r room' => (∃ result, r = .ok result) ∧ room'.2.state.managedCore = none ∧
        ¬ActiveGone Answers room.2.state ∨ Refused room r room') room := by
  apply authenticate_beside howner
  intro room₁ hbeside₁
  apply getState_beside
  intro room₂ hbeside
  have hbeside₂ := hbeside₁.trans hbeside
  rw [← hbeside.1]
  split
  · rename_i hcore
    refine ⟨trivial, .inl ⟨⟨_, rfl⟩, hcore, not_activeGone ?_⟩⟩
    rw [← hbeside₂.1, hcore]
    exact nofun
  · rename_i core hcore
    apply ensures_seq (requireIfActive_unfailing hcore)
    · rintro _ room₃ _ ⟨hbeside₃, ⟨_, halive⟩ | ⟨h, _⟩⟩
      · have howner₃ : room₃.2.state.owner = some owner := by
          rw [hbeside₃.1, hbeside₂.1, howner]
        apply (stopOwnedRecord_yields (stable_owner owner)).ensures ⟨howner₃, rfl⟩
        intro _ room₄ hwithin
        have hstopped : Yields (unfailing Answers files)
            (Within (·.owner = some owner) (room₃.1, room₃.2.cancellation)) (modifyState .stopped)
            fun _ => Within (·.managedCore = none) (room₃.1, room₃.2.cancellation) :=
          modifyState_yields fun _ _ => rfl
        apply hstopped.ensures hwithin
        intro _ room' hnone
        exact ⟨trivial, .inl ⟨⟨_, rfl⟩, hnone.1, hbeside₂.1 ▸ halive⟩⟩
      · cases h
    · rintro e room₃ _ ⟨hbeside₃, ⟨h, _⟩ | hrefused⟩
      · cases h
      · obtain ⟨hr, hrest⟩ := hrefused.of_beside hbeside₂
        cases hr
        exact .inr ⟨rfl, hrest⟩

def startsCore : List HistoryEvent → Bool
  | [] => false
  | .began _ :: _ => false
  | .made e :: older => e.isSpawn || startsCore older
  | .cancelled _ _ :: older | .returned _ _ :: older => startsCore older

theorem startsCore_store (w : ServiceWorld) (c : ServiceCall) (r : c.Reply)
    (h : startsCore w.history = true) : startsCore ((w.record c r).store c).history = true := by
  rw [ServiceWorld.history_store, startsCore, h, Bool.or_true]

theorem startsCore_keeps (x : ServiceAttempt α) :
    Keeps (unfailing Answers files) (fun room => startsCore room.2.history = true) x := by
  apply keeps_of_step
  rintro ⟨counters, w⟩ c r ⟨counters', w'⟩ hstarts hstep
  cases c with
  | inl c =>
    obtain rfl : w' = w := hstep.2
    exact hstarts
  | inr c =>
    obtain ⟨⟨_, _, rfl⟩, _⟩ := hstep
    exact startsCore_store w c r hstarts

theorem spawnVerified_unfailing (hwithin : Within A fixed room)
    (hleft : checkedSucc (max fixed.1.coreInstanceGeneration
      files.persisted.coreInstanceGeneration) = some instanceGeneration)
    {f : ManagedCoreRecord → ServiceAttempt β} :
    Unfailingly Answers files (spawnVerified config J owner verified >>= f)
      (fun _ room' => startsCore room'.2.history = true) room := by
  obtain ⟨counters, w⟩ := room
  obtain ⟨_, rfl⟩ := hwithin
  rw [spawnVerified, bind_assoc]
  apply ((ControlFiles.reserveCoreInstanceGeneration_yields hleft).left w).ensures ⟨rfl, rfl⟩
  rintro reserved ⟨counters', _⟩ ⟨_, rfl⟩
  rw [bind_assoc]
  apply service_seq
  intro reply _ _
  exact (startsCore_keeps _ _ rfl).mono (fun _ _ => trivial) fun _ _ hstarts _ => hstarts

theorem replaceActive_unfailing (hwithin : Within (·.owner = some owner) fixed room)
    (hproof : fixed.2.owner = some owner.proof) (hactive : fixed.2.requested = false) :
    Unfailingly Answers files (replaceActive config owner.proof room.2.state.managedCore)
      (fun r room' => r = .ok () ∧ Within (·.owner = some owner) fixed room' ∧
        ¬ActiveGone Answers room.2.state ∨ Refused room r room') room := by
  unfold replaceActive
  split
  · rename_i record hcore
    apply ensures_seq requireOwnedProcess_unfailing
    · rintro _ room₁ _ ⟨hbeside, ⟨_, halive⟩ | ⟨h, _⟩⟩
      · have hgone : ¬ActiveGone Answers room.2.state := by
          rintro ⟨record', hactive', hgone⟩
          cases hcore.symm.trans hactive'
          exact halive hgone
        have hdemoted : Yields (unfailing Answers files)
            (Within (·.owner = some owner) fixed)
            (modifyState fun s => { s with managedCore := some (.cleanupPending record) })
            fun _ => Within (·.owner = some owner) fixed :=
          modifyState_yields fun _ hs => hs
        apply hdemoted.ensures ⟨hbeside.1 ▸ hwithin.1, hbeside.2.trans hwithin.2⟩
        intro _ room₂ hwithin₂
        apply (cleanupPendingCore_yields (stable_owner owner) fun _ hs => hs).ensures hwithin₂
        intro _ room₃ hwithin₃
        apply (ensureApplyActive_yields hproof hactive room₃ hwithin₃).mono (fun _ h => h)
        rintro _ room' _ ⟨_, rfl, hwithin'⟩
        exact .inl ⟨rfl, hwithin', hgone⟩
      · cases h
    · rintro e room₁ _ ⟨hbeside, ⟨h, _⟩ | ⟨h, hended⟩⟩
      · cases h
      · cases h
        exact .inr ⟨rfl, hbeside.1, record, hcore, hended⟩
  · rename_i hcore
    exact ⟨trivial, .inl ⟨rfl, hwithin, not_activeGone hcore⟩⟩

theorem cleanupPendingCore_unfailing (howner : room.2.state.owner = some owner) :
    Unfailingly Answers files (cleanupPendingCore config) (fun r room' => r = .ok () ∧
        Within (·.owner = some owner) (room.1, room.2.cancellation) room' ∧
        (room'.2.state = room.2.state ∨
          room.2.state.active = none ∧ room'.2.state.active = none)) room := by
  apply getState_beside
  intro room₁ hbeside
  split
  · rename_i record hcore
    apply (stopOwnedRecord_yields (stable_owner owner)).ensures (hbeside.within howner)
    intro _ room₂ hwithin
    have hcleared : Yields (unfailing Answers files)
        (Within (·.owner = some owner) (room.1, room.2.cancellation))
        (modifyState fun s => { s with managedCore := none })
        fun _ => Within (fun s => s.owner = some owner ∧ s.active = none)
          (room.1, room.2.cancellation) :=
      modifyState_yields fun _ hs => ⟨hs, rfl⟩
    apply (hcleared room₂ hwithin).mono (fun _ h => h)
    rintro _ room' _ ⟨_, rfl, ⟨howner', hnone⟩, hfixed⟩
    refine ⟨rfl, ⟨howner', hfixed⟩, .inr ⟨?_, hnone⟩⟩
    rw [ServiceState.active, hcore]
    rfl
  · exact ⟨trivial, rfl, hbeside.within howner, .inl hbeside.1⟩

theorem Refused.of_cleaned (h : Refused room' r room'') (hcleaned : room'.2.state = room.2.state ∨
      room.2.state.active = none ∧ room'.2.state.active = none) : Refused room r room'' := by
  obtain ⟨hr, hstate, record, hcore, hended⟩ := h
  obtain hsame | ⟨_, hnone⟩ := hcleaned
  · rw [hsame] at hstate hcore
    exact ⟨hr, hstate, record, hcore, hended⟩
  · rw [ServiceState.active_eq_some.2 hcore] at hnone
    cases hnone

theorem activeGone_of_cleaned {room room' : ServiceRoom} (hgone : ¬ActiveGone Answers room'.2.state)
    (hcleaned : room'.2.state = room.2.state ∨
      room.2.state.active = none ∧ room'.2.state.active = none) :
    ¬ActiveGone Answers room.2.state := by
  obtain hsame | ⟨hnone, _⟩ := hcleaned
  · exact hsame ▸ hgone
  · apply not_activeGone
    intro record hcore
    rw [ServiceState.active_eq_some.2 hcore] at hnone
    cases hnone

theorem applyCandidate_unfailing (howner : room.2.state.owner = some owner)
    (hproof : room.2.cancellation.owner = some owner.proof)
    (hactive : room.2.cancellation.requested = false)
    (hleft : checkedSucc (max room.1.coreInstanceGeneration
      files.persisted.coreInstanceGeneration) = some instanceGeneration) :
    Unfailingly Answers files (applyCandidate config J owner.proof bundle)
      (fun r room' => startsCore room'.2.history = true ∧
        ¬ActiveGone Answers room.2.state ∨ Refused room r room') room := by
  apply authenticate_beside howner
  intro room₁ hbeside₁
  apply ensures_seq (cleanupPendingCore_unfailing (hbeside₁.1 ▸ howner))
  case herr =>
    rintro e room₂ _ ⟨h, _⟩
    cases h
  intro _ room₂ _ ⟨_, hwithin₂, hcleaned⟩
  rw [hbeside₁.1] at hcleaned
  rw [hbeside₁.2] at hwithin₂
  -- from here to the look at the Core the state stays as it is
  have hactive_yields : Yields (unfailing Answers files)
      (Within (· = room₂.2.state) (room.1, room.2.cancellation)) (ensureApplyActive owner.proof)
      fun _ => Within (· = room₂.2.state) (room.1, room.2.cancellation) :=
    ensureApplyActive_yields hproof hactive
  apply hactive_yields.ensures ⟨rfl, hwithin₂.2⟩
  intro _ room₃ hwithin₃
  apply (service_yields _ rfl).ensures hwithin₃
  rintro reply room₄ ⟨hwithin₄, verified, rfl⟩
  apply ensures_ofExcept_seq trivial ?_ nofun
  rintro _ ⟨⟩
  apply hactive_yields.ensures hwithin₄
  intro _ room₅ hwithin₅
  apply (service_yields _ rfl).ensures hwithin₅
  rintro reply room₆ ⟨hwithin₆, rfl⟩
  apply ensures_ofExcept_seq trivial ?_ nofun
  rintro _ ⟨⟩
  apply hactive_yields.ensures hwithin₆
  intro _ room₇ hwithin₇
  apply getState_beside
  intro room₈ hbeside₈
  have hsame : room₈.2.state = room₂.2.state := hbeside₈.1.trans hwithin₇.1
  rw [← hbeside₈.1]
  apply ensures_seq (replaceActive_unfailing
    ⟨hsame ▸ hwithin₂.1, hbeside₈.2.trans hwithin₇.2⟩ hproof hactive)
  · rintro _ room₉ _ (⟨_, hwithin₉, hgone⟩ | ⟨h, _⟩)
    · apply (spawnVerified_unfailing hwithin₉ hleft).mono (fun _ h => h)
      exact fun _ _ _ hstarts =>
        .inl ⟨hstarts, activeGone_of_cleaned (hsame ▸ hgone) hcleaned⟩
    · cases h
  · rintro e room₉ _ (⟨h, _⟩ | hrefused)
    · cases h
    · obtain ⟨hr, hrest⟩ := hrefused.of_cleaned (hsame ▸ hcleaned)
      cases hr
      exact .inr ⟨rfl, hrest⟩

/-- Only the process in the record is signalled, right after it was seen under its identity. -/
def SignalsOwn (e : ServiceEvent) (older : List HistoryEvent) : Prop :=
  ∀ process, e.call = .stop process →
    e.before.tracked = some process ∧ observedLive process older = true

theorem kept_signalsOwn (config : PrivilegedServiceConfig) :
    Kept config fun room => True ∧ Throughout SignalsOwn room.2.history := by
  apply Kept.throughout ⟨fun _ => trivial, fun _ _ _ _ => trivial, fun _ _ _ _ _ => trivial⟩
  intro room c r _ _ hpermit _
  cases hpermit with
  | stop htracked hlive =>
    rintro _ ⟨⟩
    exact ⟨htracked, hlive⟩
  | _ => exact fun _ h => by cases h

/-- For the owner of the session, whose applies are not cancelled, while no platform call fails: a
stop succeeds and leaves no Core, and an apply gets to the start of a Core, unless the Core in use
is found to have exited; then both are refused and change nothing, and they do so whenever its
start identity is not reported any more. In every run only the process in the record is signalled,
under the identity it is recorded with. -/
theorem stop_or_replace_core (config : PrivilegedServiceConfig) (J : GenerationCodec) :
    (∀ room owner, Served config J room → room.2.state.owner = some owner →
      room.2.cancellation.requested = false →
      ∀ (Answers : UInt32 → Option String → Prop) (files : ControlFiles J),
      (∀ r room', Finishes (unfailing Answers files) (stop config owner.proof).run
          (room.asked (.stop owner.proof)) r room' →
        (∃ result, r = .ok result) ∧ room'.2.state.managedCore = none ∧
          ¬ActiveGone Answers room.2.state ∨ Refused room r room') ∧
      ∀ bundle r room', (checkedSucc (max room.1.coreInstanceGeneration
          files.persisted.coreInstanceGeneration)).isSome = true →
        Finishes (unfailing Answers files) (applyCandidate config J owner.proof bundle).run
          (room.asked (.applyCandidate owner.proof bundle)) r room' →
        startsCore room'.2.history = true ∧ ¬ActiveGone Answers room.2.state ∨
          Refused room r room') ∧
    ∀ room, Serving config J room → Throughout SignalsOwn room.2.history := by
  refine ⟨?_, fun room h => ((kept_signalsOwn config).serving h).2⟩
  intro room owner hserved howner hactive Answers files
  have hproof : room.2.cancellation.owner = some owner.proof := by
    rw [hserved.sound.settled.owner, howner]
    rfl
  constructor
  · intro r room' hfinishes
    have hstop : Unfailingly Answers files (stop config owner.proof) _
        (room.asked (.stop owner.proof)) := stop_unfailing howner
    exact hstop.finishes hfinishes
  · intro bundle r room' hsome hfinishes
    obtain ⟨instanceGeneration, hleft⟩ := Option.isSome_iff_exists.1 hsome
    have happly : Unfailingly Answers files (applyCandidate config J owner.proof bundle) _
        (room.asked (.applyCandidate owner.proof bundle)) :=
      applyCandidate_unfailing howner hproof hactive hleft
    exact happly.finishes hfinishes

def firstOwner : ServiceOwner where
  ownerUid := 501
  supervisorPid := 10
  supervisorStartIdentity := "supervisor"
  instanceToken := "token"
  generation := 1
  proof := firstProof
  endpoint := ⟨"/run/ratash/owner-1.sock", "secret"⟩

def firstFiles : ControlFiles numberedCodec :=
  .holding numberedCodec ⟨1, 1⟩

/-- A stop of the Core of the first apply, which is alive. -/
theorem stop_or_replace_core_firstApply :
    ∃ r room', Finishes (unfailing (fun pid identity => pid = 7 → identity = some "core")
        firstFiles) (stop threeRestarts firstProof).run
        ((play threeRestarts numberedCodec firstApply unused).asked (.stop firstProof)) r room' ∧
      ((∃ result, r = .ok result) ∧ room'.2.state.managedCore = none ∨
        r = .error coreIdentityMismatch) := by
  obtain ⟨r, room', hfinishes⟩ := Finishes.exists_of_total
    (unfailing_total (fun pid identity => pid = 7 → identity = some "core") firstFiles
      fun _ => ⟨some "core", fun _ => rfl⟩) (stop threeRestarts firstProof).run
    ((play threeRestarts numberedCodec firstApply unused).asked (.stop firstProof))
  refine ⟨r, room', hfinishes, ?_⟩
  have hstop := ((stop_or_replace_core threeRestarts numberedCodec).1 _ firstOwner
    (play_served _ _ firstApply) (by decide +kernel) (by decide +kernel) _ firstFiles).1 r room'
    hfinishes
  obtain ⟨hok, hnone, _⟩ | ⟨herror, _⟩ := hstop
  · exact .inl ⟨hok, hnone⟩
  · exact .inr herror

/-- The Core of the first apply has exited, no call fails, and it can not be stopped. -/
theorem dead_core_not_stopped :
    ∃ room, Served threeRestarts numberedCodec room ∧ room.2.state.owner = some firstOwner ∧
      room.2.cancellation.requested = false ∧
      ∃ r room', Finishes (unfailing (fun pid identity => pid = 7 → identity = none) firstFiles)
          (stop threeRestarts firstProof).run (room.asked (.stop firstProof)) r room' ∧
        r = .error coreIdentityMismatch ∧ room'.2.state.tracked = some ⟨7, "core", 1⟩ := by
  have howner : (play threeRestarts numberedCodec firstApply unused).2.state.owner =
      some firstOwner := by
    decide +kernel
  have hactive : (play threeRestarts numberedCodec firstApply unused).2.state.active.map
      (·.ownedIdentity) = some ⟨7, "core", 1⟩ := by
    decide +kernel
  obtain ⟨record, hcore, hidentity⟩ := Option.map_eq_some_iff.1 hactive
  rw [ServiceState.active_eq_some] at hcore
  refine ⟨_, play_served _ _ firstApply, howner, by decide +kernel, ?_⟩
  obtain ⟨r, room', hfinishes⟩ := Finishes.exists_of_total
    (unfailing_total (fun pid identity => pid = 7 → identity = none) firstFiles
      fun _ => ⟨none, fun _ => rfl⟩) (stop threeRestarts firstProof).run
    ((play threeRestarts numberedCodec firstApply unused).asked (.stop firstProof))
  refine ⟨r, room', hfinishes, ?_⟩
  have hstop : (stop threeRestarts firstOwner.proof).run.Ensures
      (unfailing (fun pid identity => pid = 7 → identity = none) firstFiles) (fun _ => True) _
      ((play threeRestarts numberedCodec firstApply unused).asked (.stop firstProof)) :=
    stop_unfailing howner
  obtain ⟨_, _, hgone⟩ | ⟨herror, hstate, _⟩ := hstop.finishes hfinishes
  · refine absurd ⟨record, hcore, fun identity hanswer => ?_⟩ hgone
    rw [hidentity] at hanswer ⊢
    rw [hanswer rfl]
    exact nofun
  · refine ⟨herror, ?_⟩
    have hkept : room'.2.state.managedCore = some (.active record) :=
      (congrArg ServiceState.managedCore hstate).trans hcore
    rw [ServiceState.tracked, hkept]
    exact congrArg some hidentity

end Ratash
