import Ratash.Service.Script

namespace Ratash

variable {config : PrivilegedServiceConfig} {J : GenerationCodec}

theorem kept_alone (config : PrivilegedServiceConfig) :
    Kept config fun room => True ∧ Throughout (fun e _ => e.isSpawn = true →
      e.before.managedCore = none) room.2.history := by
  apply Kept.throughout ⟨fun _ => trivial, fun _ _ _ _ => trivial, fun _ _ _ _ _ => trivial⟩
  intro room c r _ _ hpermit _
  cases hpermit with
  | spawn hcore _ _ _ => exact fun _ => hcore
  | _ => exact nofun

/-- At every point of every run: a Core was only ever started while none was in the records; at
most one process has been started and not been shown to have ended; it is in the record, or the
operation that runs has started it and not stored a state since. Between two operations it is in the
record. -/
theorem at_most_one_owned_core (config : PrivilegedServiceConfig) (J : GenerationCodec)
    (room : ServiceRoom) : (Serving config J room →
      (∀ e older, .made e :: older <:+ room.2.history → e.isSpawn = true →
        e.before.managedCore = none) ∧ (outstanding room.2.history).length ≤ 1 ∧
      ∀ p ∈ outstanding room.2.history,
        room.2.state.tracked = some p ∨ held room.2.history = some p) ∧ (Served config J room →
      ∀ p ∈ outstanding room.2.history, room.2.state.tracked = some p) := by
  constructor
  · intro h
    exact ⟨((kept_alone config).serving h).2, h.custody.single, h.custody.accounted⟩
  · intro h p hp
    have hsound := h.sound
    exact hsound.custody.tracked_of_held_none hsound.settled.held hp

theorem at_most_one_owned_core_firstApply :
    let room := play threeRestarts numberedCodec firstApply unused
    outstanding room.2.history = [⟨7, "core", 1⟩] ∧ room.2.state.tracked = some ⟨7, "core", 1⟩ := by
  have hserved := play_served threeRestarts numberedCodec firstApply
  have hout : outstanding (play threeRestarts numberedCodec firstApply unused).2.history =
      [⟨7, "core", 1⟩] := by
    decide +kernel
  refine ⟨hout, (at_most_one_owned_core _ _ _).2 hserved _ ?_⟩
  rw [hout]
  exact List.mem_singleton_self _

/-- A Core is started for an owner only, because a candidate is applied or a restart is due. -/
def Warranted (e : ServiceEvent) : Prop :=
  e.before.owner.isSome ∧ ((∃ proof bundle, e.request = .applyCandidate proof bundle) ∨
    (∃ now, e.request = .maintenanceStep now) ∧ e.before.restartDueAt.isSome)

theorem kept_warranted (config : PrivilegedServiceConfig) :
    Kept config fun room => True ∧
      Throughout (fun e _ => e.isSpawn = true → Warranted e) room.2.history := by
  apply Kept.throughout ⟨fun _ => trivial, fun _ _ _ _ => trivial, fun _ _ _ _ _ => trivial⟩
  intro room c r _ _ hpermit _
  cases hpermit with
  | spawn _ _ hstart howner => exact fun _ => ⟨howner, hstart⟩
  | _ => exact nofun

/-- No process outlives its owner: where there is no owner, none that was started is left, and none
is to be started. A restart is due only where no Core is active and the bundle is known. -/
theorem cores_have_owners (h : Serving config J room) :
    (∀ e older, .made e :: older <:+ room.2.history → e.isSpawn = true → Warranted e) ∧
    (room.2.state.owner = none →
      outstanding room.2.history = [] ∧ room.2.state.restartDueAt = none) ∧
    (room.2.state.restartDueAt.isSome → room.2.state.active = none ∧
      room.2.state.lastBundle.isSome ∧ room.2.state.degraded = false) := by
  refine ⟨((kept_warranted config).serving h).2, fun howner => ?_, h.custody.due⟩
  obtain ⟨hcore, _, hdue, hheld⟩ := h.custody.ownerless howner
  exact ⟨h.custody.nothing_outstanding hcore hheld, hdue⟩

def closedSession : List (Conduct × ServiceRequest) :=
  firstApply ++ [(.flawless, .closeOwnerSession firstProof)]

theorem cores_have_owners_closed :
    let room := play threeRestarts numberedCodec closedSession unused
    room.2.state.owner = none ∧ outstanding room.2.history = [] := by
  have hserving : Serving threeRestarts numberedCodec
      (play threeRestarts numberedCodec closedSession unused) := ⟨_, play_served .., .inl rfl⟩
  have howner : (play threeRestarts numberedCodec closedSession unused).2.state.owner = none := by
    decide +kernel
  exact ⟨howner, ((cores_have_owners hserving).2.1 howner).1⟩

end Ratash
