import Ratash.Service.ControlFiles
import Ratash.Service.Conforms

/-!
The platform answers every call with success, the control files are in order, and nobody cancels
meanwhile.
-/

namespace Ratash

open Interaction Attempt

def Unfailing (Answers : UInt32 → Option String → Prop) : (c : ServiceCall) → c.Reply → Prop
  | .startIdentity pid, r => ∃ identity, r = .ok identity ∧ Answers pid identity
  | .reapIfExited _, r => ∃ exited, r = .ok exited
  | .generateSecret, r => ∃ secret, r = .ok secret ∧ secret ≠ ""
  | .verifyBundle _ _, r => ∃ verified, r = .ok verified
  | .spawn _ _ _, r => ∃ spawned, r = .ok spawned
  | .takeLogs _ _, r => ∃ batch, r = .ok batch
  -- an endpoint that is not there any more is not a failure
  | .inspectEndpoint _, r => ∀ kind, r = .error kind → kind = .notFound
  | .validateCredentials _, r | .checkTun _, r | .stop _, r | .readiness _ _, r
  | .grantEndpointAccess _ _, r => r = .ok ()
  | .removeEndpoint _, r => r = .ok ()
  | _, _ => True

def unfailing (Answers : UInt32 → Option String → Prop) (files : ControlFiles J) :
    Environment serviceCalls ServiceRoom :=
  files.environment.sum fun w c r w' =>
    w.Replies c r ∧ Unfailing Answers c r ∧ w' = (w.record c r).store c

variable {Answers : UInt32 → Option String → Prop} {J : GenerationCodec} {files : ControlFiles J}

theorem anyService_of_unfailing (room : ServiceRoom) (c : serviceCalls.Call)
    (r : serviceCalls.Reply c) (room' : ServiceRoom)
    (h : unfailing Answers files room c r room') : anyService room c r room' := by
  cases c with
  | inl c => exact ⟨files.anyControl_of_environment h.1, h.2⟩
  | inr c =>
    obtain ⟨⟨hreply, _, hstore⟩, hsame⟩ := h
    exact ⟨⟨room.2, .refl, hreply, hstore⟩, hsame⟩

theorem unfailing_total (Answers : UInt32 → Option String → Prop) (files : ControlFiles J)
    (hanswers : ∀ pid, ∃ identity, Answers pid identity) (room : ServiceRoom)
    (c : serviceCalls.Call) : ∃ r room', unfailing Answers files room c r room' := by
  cases c with
  | inl c =>
    obtain ⟨r, counters', h⟩ := files.environment_total room.1 c
    exact ⟨r, (counters', room.2), h, rfl⟩
  | inr c =>
    suffices hreply : ∃ r, room.2.Replies c r ∧ Unfailing Answers c r by
      obtain ⟨r, hr, hu⟩ := hreply
      exact ⟨r, (room.1, _), ⟨hr, hu, rfl⟩, rfl⟩
    cases c with
    | getState => exact ⟨_, rfl, trivial⟩
    | lockCancellation => exact ⟨_, rfl, trivial⟩
    | startIdentity pid =>
      obtain ⟨identity, h⟩ := hanswers pid
      exact ⟨.ok identity, trivial, identity, rfl, h⟩
    | verifyBundle bundle endpoint =>
      refine ⟨.ok ⟨bundle, "", "", ""⟩, ⟨nofun, ?_⟩, _, rfl⟩
      rintro _ ⟨⟩
      rfl
    | spawn bundle endpoint instanceGeneration =>
      refine ⟨.ok ⟨1, "core"⟩, ⟨?_, nofun⟩, _, rfl⟩
      rintro _ ⟨⟩
      decide
    | reapIfExited process => exact ⟨.ok false, trivial, _, rfl⟩
    | takeLogs process limit => exact ⟨.ok ⟨[], 0⟩, trivial, _, rfl⟩
    | generateSecret => exact ⟨.ok "secret", trivial, _, rfl, by decide⟩
    | captureEndpointIdentity path => exact ⟨none, trivial, trivial⟩
    | inspectEndpoint path => exact ⟨.ok none, trivial, nofun⟩
    | readiness process endpoint => exact ⟨.ok (), nofun, rfl⟩
    | removeEndpoint path => exact ⟨.ok (), trivial, rfl⟩
    | validateCredentials request => exact ⟨.ok (), trivial, rfl⟩
    | checkTun uid => exact ⟨.ok (), trivial, rfl⟩
    | stop process => exact ⟨.ok (), trivial, rfl⟩
    | grantEndpointAccess endpoint uid => exact ⟨.ok (), trivial, rfl⟩
    | _ => exact ⟨(), trivial, trivial⟩

def Within (A : ServiceState → Prop) (fixed : GenerationCounters × ApplyCancellationState)
    (room : ServiceRoom) : Prop :=
  A room.2.state ∧ (room.1, room.2.cancellation) = fixed

def ServiceCall.keepsMemory : ServiceCall → Bool
  | .putState _ | .putCancellation _ => false
  | _ => true

abbrev Unfailingly (Answers : UInt32 → Option String → Prop) (files : ControlFiles J)
    (x : ServiceAttempt α) (Q : Except CoreRuntimeError α → ServiceRoom → Prop)
    (room : ServiceRoom) : Prop :=
  x.run.Ensures (unfailing Answers files) (fun _ => True) Q room

theorem service_seq {f : c.Reply → ServiceAttempt β} {Q : Except CoreRuntimeError β → _ → Prop}
    (h : ∀ r, room.2.Replies c r → Unfailing Answers c r →
      Unfailingly Answers files (f r) Q (room.1, (room.2.record c r).store c)) :
    Unfailingly Answers files (service c >>= f) Q room := by
  refine ensures_bind.2 ⟨trivial, ?_⟩
  rintro r ⟨counters, w⟩ ⟨⟨hreply, hunfailing, rfl⟩, rfl⟩
  exact ⟨trivial, h r hreply hunfailing⟩

section Yields

variable {A : ServiceState → Prop} {fixed : GenerationCounters × ApplyCancellationState}

abbrev YieldsWithin (Answers : UInt32 → Option String → Prop) (files : ControlFiles J)
    (A : ServiceState → Prop) (fixed : GenerationCounters × ApplyCancellationState)
    (x : ServiceAttempt α) (Q : α → ServiceRoom → Prop) : Prop :=
  Yields (unfailing Answers files) (Within A fixed) x Q

theorem service_yields (c : ServiceCall) (hc : c.keepsMemory = true) :
    YieldsWithin Answers files A fixed (service c)
      fun r room => Within A fixed room ∧ Unfailing Answers c r := by
  intro room h
  refine ⟨trivial, ?_⟩
  rintro r ⟨counters, w⟩ ⟨⟨hreply, hunfailing, rfl⟩, rfl⟩
  refine ⟨trivial, r, rfl, ?_, hunfailing⟩
  cases c with
  | putState _ => cases hc
  | putCancellation _ => cases hc
  | _ => exact h

theorem getState_yields : YieldsWithin Answers files A fixed (service .getState)
      fun r room => Within A fixed room ∧ A r := by
  intro room h
  refine ⟨trivial, ?_⟩
  rintro r ⟨counters, w⟩ ⟨⟨hreply, _, rfl⟩, rfl⟩
  exact ⟨trivial, r, rfl, h, (show r = room.2.state from hreply) ▸ h.1⟩

theorem lockCancellation_yields : YieldsWithin Answers files A fixed (service .lockCancellation)
      fun r room => Within A fixed room ∧ r = fixed.2 := by
  intro room h
  refine ⟨trivial, ?_⟩
  rintro r ⟨counters, w⟩ ⟨⟨hreply, _, rfl⟩, rfl⟩
  exact ⟨trivial, r, rfl, h,
    (show r = room.2.cancellation from hreply).trans (congrArg Prod.snd h.2)⟩

theorem putState_yields {B : ServiceState → Prop} (hs : B s) :
    YieldsWithin Answers files A fixed (service (.putState s)) fun _ => Within B fixed := by
  intro room h
  refine ⟨trivial, ?_⟩
  rintro r ⟨counters, w⟩ ⟨⟨_, _, rfl⟩, rfl⟩
  exact ⟨trivial, r, rfl, hs, h.2⟩

theorem modifyState_yields {B : ServiceState → Prop} {g : ServiceState → ServiceState}
    (hg : ∀ s, A s → B (g s)) :
    YieldsWithin Answers files A fixed (modifyState g) fun _ => Within B fixed := by
  apply getState_yields.seq
  intro state
  apply yields_of_fact
  intro hstate
  exact putState_yields (hg state hstate)

theorem ownedProcessIsLive_yields :
    YieldsWithin Answers files A fixed (ownedProcessIsLive process) fun _ => Within A fixed := by
  apply (service_yields _ rfl).seq
  intro reply
  apply yields_of_fact
  rintro ⟨exited, rfl⟩
  apply (yields_ofExcept rfl).seq
  intro _
  apply yields_of_fact
  rintro rfl
  split
  · exact yields_pure _ fun _ h => h
  · apply (service_yields _ rfl).seq
    intro reply
    apply yields_of_fact
    rintro ⟨identity, rfl, _⟩
    apply (yields_ofExcept rfl).seq
    intro _
    exact yields_pure _ fun _ h => h.1

def Stable (A : ServiceState → Prop) : Prop :=
  ∀ s t, s.Alike t → A s → A t

theorem drainLogs_yields (hA : Stable A) :
    YieldsWithin Answers files A fixed (drainLogs config record) fun _ => Within A fixed := by
  apply (service_yields _ rfl).seq
  intro reply
  apply yields_of_fact
  rintro ⟨batch, rfl⟩
  apply (yields_ofExcept rfl).seq
  intro _
  apply yields_of_fact
  rintro rfl
  exact modifyState_yields fun s hs => hA s _ (ServiceState.alike_acceptBatch ..) hs

theorem removeOwnedEndpoint_yields :
    YieldsWithin Answers files A fixed (removeOwnedEndpoint record) fun _ => Within A fixed := by
  unfold removeOwnedEndpoint
  split
  · exact yields_pure _ fun _ h => h
  · apply (service_yields _ rfl).seq
    intro found
    apply yields_of_fact
    intro hfound
    split
    · exact yields_require (hfound _ rfl) _
    · split
      · apply (service_yields _ rfl).seq
        intro removed
        apply yields_of_fact
        rintro rfl
        exact (yields_ofExcept rfl).mono (fun _ h => h) fun _ _ h => h.1
      · exact yields_pure _ fun _ h => h

theorem captureEndpoint_yields (hA : Stable A) :
    YieldsWithin Answers files A fixed (captureEndpoint record) fun _ => Within A fixed := by
  unfold captureEndpoint
  split
  · exact yields_pure _ fun _ h => h
  · apply (service_yields _ rfl).seq
    intro captured
    apply yields_of_fact
    intro _
    apply (modifyState_yields fun s hs => hA s _ (s.alike_captured _ captured) hs).seq
    intro _
    exact yields_pure _ fun _ h => h

theorem stopIfLive_yields :
    YieldsWithin Answers files A fixed (stopIfLive process) fun _ => Within A fixed := by
  apply ownedProcessIsLive_yields.seq
  intro live
  split
  · apply (service_yields _ rfl).seq
    intro stopped
    apply yields_of_fact
    rintro rfl
    exact (yields_ofExcept rfl).mono (fun _ h => h) fun _ _ h => h.1
  · exact yields_pure _ fun _ h => h

theorem stopOwnedRecord_yields (hA : Stable A) :
    YieldsWithin Answers files A fixed (stopOwnedRecord config record) fun _ => Within A fixed := by
  apply (captureEndpoint_yields hA).seq
  intro record
  apply stopIfLive_yields.seq
  intro _
  apply (drainLogs_yields hA).seq
  intro _
  exact removeOwnedEndpoint_yields

theorem cleanupPendingCore_yields (hA : Stable A)
    (hnone : ∀ s, A s → A { s with managedCore := none }) :
    YieldsWithin Answers files A fixed (cleanupPendingCore config) fun _ => Within A fixed := by
  apply getState_yields.seq
  intro state
  apply yields_of_fact
  intro _
  split
  · apply (stopOwnedRecord_yields hA).seq
    intro _
    exact modifyState_yields hnone
  · exact yields_pure _ fun _ h => h

theorem ensureApplyActive_yields (howner : fixed.2.owner = some proof)
    (hactive : fixed.2.requested = false) :
    YieldsWithin Answers files A fixed (ensureApplyActive proof) fun _ => Within A fixed := by
  have hguard :
      YieldsWithin Answers files A fixed (activeApplyGuard proof) fun _ => Within A fixed := by
    apply lockCancellation_yields.seq
    intro found
    apply yields_of_fact
    rintro rfl
    rw [if_neg (not_not.2 howner), if_neg (hactive ▸ Bool.false_ne_true)]
    exact yields_pure _ fun _ h => h
  apply hguard.seq
  intro _
  exact (service_yields _ rfl).mono (fun _ h => h) fun _ _ h => h.1

theorem authenticate_yields (hA : ∀ s, A s → s.owner = some owner) :
    YieldsWithin Answers files A fixed (authenticate owner.proof)
      fun found room => Within A fixed room ∧ found = owner := by
  apply getState_yields.seq
  intro state
  apply yields_of_fact
  intro hstate
  apply yields_ofExcept
  simp [ServiceState.authenticatedOwner, hA state hstate, Option.filter]

end Yields

end Ratash
