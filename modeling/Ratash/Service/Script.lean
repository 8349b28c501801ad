import Ratash.Persistence.Bundle
import Ratash.Service.Runs

namespace Ratash

open Interaction

structure Conduct where
  bundleIsValid : Bool := true
  tunIsAvailable : Bool := true
  coreIsLive : Bool := true
  /-- Another thread gets its cancellation in just before such a call. -/
  cancelsAt : ServiceCall → Bool := fun _ => false

namespace Conduct

def flawless : Conduct := {}

/-- The replies: one Core, with pid 7, and every other process alive under the name "supervisor". -/
def reply (conduct : Conduct) (w : ServiceWorld) : (c : ServiceCall) → c.Reply
  | .getState => w.state
  | .lockCancellation => w.cancellation
  | .startIdentity pid =>
    .ok (if pid ≠ 7 then some "supervisor" else if conduct.coreIsLive then some "core" else none)
  | .verifyBundle bundle _ =>
    if conduct.bundleIsValid then
      .ok ⟨bundle, bundle.generationRoot ++ "/manifest.json", bundle.generationRoot ++ "/mihomo",
        bundle.generationRoot ++ "/config.yaml"⟩
    else .error (serviceError .invalidBundle "runtime bundle directory is invalid")
  | .generateSecret => .ok "secret"
  | .spawn _ _ _ => .ok ⟨7, "core"⟩
  | .reapIfExited _ => .ok !conduct.coreIsLive
  | .takeLogs _ _ => .ok ⟨[], 0⟩
  | .captureEndpointIdentity _ => none
  | .inspectEndpoint _ => .error .notFound
  | .removeEndpoint _ => .ok ()
  | .checkTun _ => if conduct.tunIsAvailable then .ok () else .error ⟨.tunUnavailable⟩
  | .validateCredentials _ | .stop _ | .readiness _ _ | .grantEndpointAccess _ _ => .ok ()
  | .putState _ | .putCancellation _ | .unlockCancellation | .resetApplyCancellation _ => ()

theorem reply_replies (conduct : Conduct) (w : ServiceWorld) (c : ServiceCall) :
    w.Replies c (conduct.reply w c) := by
  cases c with
  | getState => rfl
  | lockCancellation => rfl
  | verifyBundle bundle endpoint =>
    simp only [ServiceWorld.Replies, reply]
    split
    · exact ⟨nofun, fun _ hverified => by cases hverified; rfl⟩
    · exact ⟨fun _ herror => by cases herror; rfl, nofun⟩
  | spawn bundle endpoint instanceGeneration =>
    exact ⟨fun _ hspawned => by cases hspawned; decide, nofun⟩
  | readiness process endpoint => exact nofun
  | _ => trivial

end Conduct

def ServiceWorld.cancelled (w : ServiceWorld) : ServiceWorld :=
  match w.cancellationLocked, w.cancellation.owner, w.cancellation.ownerGeneration with
  | false, some owner, some ownerGeneration =>
    { w with
      cancellation := { w.cancellation with requested := true }
      controller := w.controller.cancelPendingApply ownerGeneration
      history := .returned owner ownerGeneration :: .cancelled owner ownerGeneration :: w.history }
  | _, _, _ => w

theorem ServiceWorld.interferes_cancelled (w : ServiceWorld) : Interferes w w.cancelled := by
  unfold ServiceWorld.cancelled
  split
  · rename_i owner ownerGeneration hfree howner hgeneration
    have haccept : w.cancellation.cancelPendingApply owner =
        .ok ({ w.cancellation with requested := true }, ownerGeneration) := by
      simp [ApplyCancellationState.cancelPendingApply, howner, hgeneration]
    have hdelivered := Cancels.deliver (w := { w with
        cancellation := { w.cancellation with requested := true }
        undelivered := (owner, ownerGeneration) :: w.undelivered
        history := .cancelled owner ownerGeneration :: w.history }) List.mem_cons_self
    rw [List.erase_cons_head] at hdelivered
    exact .step (.accept hfree haccept) (.step hdelivered .refl)
  · exact .refl

def fileReply (J : GenerationCodec) (counters : GenerationCounters) : (c : FileCall) → c.Value
  | .rootMetadata => ⟨false, true, 0, 0, serviceDirectoryMode, 2, 1, 1⟩
  | .metadata .generationLock => some lock
  | .metadata .generationState => some state
  | .metadata _ => none
  | .openMetadata .generationLock => lock
  | .openMetadata _ => state
  | .createNew _ _ => state
  | .read _ => J.encode (.new counters)
  | .readDir => [.generationState, .generationLock]
  | .setPermissions _ _ | .write _ _ | .sync _ | .rename _ _ | .remove _ | .syncRoot | .flock => ()
where
  lock : ControlMetadata := ⟨true, false, 0, 0, generationStateMode, 1, 1, 2⟩
  state : ControlMetadata := ⟨true, false, 64, 0, generationStateMode, 1, 1, 3⟩

def controlReply (J : GenerationCodec) (counters : GenerationCounters) :
    (c : ControlCall) → c.Reply
  | .counters => counters
  | .setCounters _ | .unlock => ()
  | .takeCommitFault => none
  | .newUuid => 0
  | .effectiveUid => 0
  | .file c => .ok (fileReply J counters c)

def scripted (J : GenerationCodec) (conduct : Conduct) : Handler serviceCalls ServiceRoom
  | (counters, w), .inl c =>
    (controlReply J counters c, (match c with | .setCounters new => new | _ => counters, w))
  | (counters, w), .inr c =>
    let w := if conduct.cancelsAt c then w.cancelled else w
    (conduct.reply w c, (counters, (w.record c (conduct.reply w c)).store c))

theorem scripted_anyService (J : GenerationCodec) (conduct : Conduct) (room : ServiceRoom)
    (c : serviceCalls.Call) (r : serviceCalls.Reply c) (room' : ServiceRoom)
    (h : (scripted J conduct).reliable room c r room') : anyService room c r room' := by
  obtain ⟨rfl, rfl⟩ := Prod.mk.inj h
  cases c with
  | inl c => cases c <;> exact ⟨by first | exact ⟨rfl, rfl⟩ | rfl, rfl⟩
  | inr c =>
    refine ⟨⟨_, ?_, conduct.reply_replies _ c, rfl⟩, rfl⟩
    split
    · exact ServiceWorld.interferes_cancelled _
    · exact .refl

variable (config : PrivilegedServiceConfig) (J : GenerationCodec)

def serve (conduct : Conduct) (q : ServiceRequest) (room : ServiceRoom) :
    Except CoreRuntimeError q.Answer × ServiceRoom :=
  (q.perform config J).run.run (scripted J conduct) (room.asked q)

theorem serve_handles (conduct : Conduct) (q : ServiceRequest) (room : ServiceRoom) :
    Handles config J room q (serve config J conduct q room).1 (serve config J conduct q room).2 :=
  (Prog.finishes_reliable.2 rfl).map id (scripted_anyService J conduct)

variable {config J} in
theorem handles_of_serve {answer : Except CoreRuntimeError q.Answer}
    (h : (serve config J conduct q room).1 = answer) :
    Handles config J room q answer (serve config J conduct q room).2 :=
  h ▸ serve_handles config J conduct q room

def play : List (Conduct × ServiceRequest) → ServiceRoom → ServiceRoom
  | [], room => room
  | (conduct, q) :: script, room => play script (serve config J conduct q room).2

/-- The rooms before and after each request. -/
def stages : List (Conduct × ServiceRequest) → ServiceRoom → List (ServiceRoom × ServiceRoom)
  | [], _ => []
  | (conduct, q) :: script, room =>
    (room, (serve config J conduct q room).2) :: stages script (serve config J conduct q room).2

theorem play_steps {R : ServiceRoom → ServiceRoom → Prop} (script : List (Conduct × ServiceRequest))
    (room : ServiceRoom) (h : ∀ stage ∈ stages config J script room, ∀ q answer,
      Handles config J stage.1 q answer stage.2 → R stage.1 stage.2) :
    Relation.ReflTransGen R room (play config J script room) := by
  induction script generalizing room with
  | nil => exact .refl
  | cons step script ih =>
    have hhandles := serve_handles config J step.1 step.2 room
    exact .head (h _ List.mem_cons_self _ _ hhandles)
      (ih _ fun stage hstage => h stage (List.mem_cons_of_mem _ hstage))

def unused : ServiceRoom := (⟨0, 0⟩, .initial)

theorem play_served (script : List (Conduct × ServiceRequest)) :
    Served config J (play config J script unused) :=
  ⟨⟨0, 0⟩, play_steps config J script unused fun _ _ _ _ hhandles => .request hhandles⟩

open Plain in
def numberedCodec : GenerationCodec where
  encode state := number state.schemaVersion.toNat ++ number state.ownerGeneration.toNat ++
    number state.coreInstanceGeneration.toNat
  decode content := some ⟨.ofNat (value (content.take 8)),
    .ofNat (value ((content.drop 8).take 8)), .ofNat (value (content.drop 16))⟩
  decode_encode state := by
    have hversion : state.schemaVersion.toNat < 2 ^ 64 := by
      have := state.schemaVersion.toNat_lt
      omega
    have htake (m n : Nat) (rest : Bytes) : (number m ++ number n ++ rest).take 8 = number m := rfl
    have hmiddle (m n : Nat) (rest : Bytes) :
        ((number m ++ number n ++ rest).drop 8).take 8 = number n := rfl
    have hdrop (m n : Nat) (rest : Bytes) : (number m ++ number n ++ rest).drop 16 = rest := rfl
    rw [htake, hmiddle, hdrop, value_number hversion, value_number (UInt64.toNat_lt _),
      value_number (UInt64.toNat_lt _), UInt16.ofNat_toNat, UInt64.ofNat_toNat, UInt64.ofNat_toNat]
  encode_ne_nil _ := List.cons_ne_nil _ _
  length_encode _ := by simp [number, generationStateMaxBytes]

def threeRestarts : PrivilegedServiceConfig := .productDefaults "/run/ratash"

def firstProof : OwnerSessionProof :=
  ⟨"owner-1-secret", "secret"⟩

def appliedBundle : RuntimeBundle :=
  ⟨1, "/run/ratash/generations/1", "m", "p", "b"⟩

def firstApply : List (Conduct × ServiceRequest) :=
  [(.flawless, .openOwnerSession ⟨1, 501, 10, "supervisor", "token"⟩),
    (.flawless, .applyCandidate firstProof appliedBundle)]

def crash : List (Conduct × ServiceRequest) :=
  firstApply ++ [(.flawless, .maintenanceStep (seconds 5)),
    ({ coreIsLive := false }, .maintenanceStep (seconds 10))]

end Ratash
