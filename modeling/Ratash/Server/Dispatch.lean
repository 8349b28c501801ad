import Ratash.Server.Retention
import Ratash.Service.Operations

/-!
Worker threads handle requests. Every operation of the service runs under the state lock, so one
of them is under way at a time; an `ApplyCandidate` holds the lock of the retention slots from its
plan to its answer, so one of those is under way at a time. Everything else interleaves freely.
-/

namespace Ratash

open Interaction

inductive ContextCall where
  | retention
  | setRetention (retention : ServiceRuntimeRetention)
  | applyCandidate (owner : OwnerSessionProof) (bundle : RuntimeBundle)

@[reducible] def ContextCall.Reply : ContextCall → Type
  | .retention => ServiceRuntimeRetention
  | .setRetention _ => Unit
  | .applyCandidate _ _ => Except CoreRuntimeError ApplyCandidateResult

abbrev contextCalls : Signature := ⟨ContextCall, ContextCall.Reply⟩

abbrev serverCalls : Signature := rootCalls.sum contextCalls

abbrev ServerAttempt := Attempt serverCalls CoreRuntimeError

def context (c : ContextCall) : ServerAttempt c.Reply :=
  ExceptT.lift (Prog.call (S := serverCalls) (.inr c))

def runtimeApplyIsIndeterminate (kind : CoreRuntimeErrorKind) : Bool :=
  kind = .reloadTimeout || kind = .unavailable

def BundleIngressError.intoCore : BundleIngressError → CoreRuntimeError
  | .invalid => serviceError .invalidBundle "bundle ingress failed"
  | .unavailable => serviceError .unavailable "bundle staging is unavailable"

/-- The parts of the server's configuration that an apply reads, and the user it runs as. -/
structure CoreServiceServerConfig where
  runtimeStagingRoot : Path
  installedGeoData : Option GeoDataIngress
  effectiveUid : Nat

section Dispatch

variable {D : Type} (X : Codec D) (M : ManifestCodec) (server : CoreServiceServerConfig)

def ingress (x : IngressAttempt α) : ServerAttempt α := do
  let result ← x.left.result (δ := CoreRuntimeError)
  Attempt.ofExcept (result.mapError BundleIngressError.intoCore)

def pruneRetained (retention : ServiceRuntimeRetention) : ServerAttempt Unit := do
  let _ ← (pruneRuntimeGenerationsWithReserved X retention reservedServiceDirectories).left.orThrow
    (unavailable "Core service Runtime Generation cleanup failed")
  return ()

def settleRetention (planned : ServiceRuntimeRetention) (generation : RuntimeGeneration) :
    Except CoreRuntimeError ApplyCandidateResult → ServerAttempt ApplyCandidateResult
  | .ok result => return result
  | .error error =>
    if runtimeApplyIsIndeterminate error.kind then throw error
    else do
      let retained := planned.discardFailed generation
      pruneRetained X retained
      context (.setRetention retained)
      throw error

/-- `ApplyCandidate` of an authorized peer, from where it has locked the retention slots. -/
def dispatchApplyCandidate (peerUid : Nat) (owner : OwnerSessionProof) (bundle : RuntimeBundle) :
    ServerAttempt ApplyCandidateResult := do
  let retention ← context .retention
  let planned ← Attempt.ofExcept
    ((retention.plan bundle.generation).mapError BundleIngressError.intoCore)
  let staged ← ingress (stageRuntimeBundle X M server.runtimeStagingRoot server.effectiveUid peerUid
    bundle server.installedGeoData)
  pruneRetained X planned
  context (.setRetention planned)
  let answer ← context (.applyCandidate owner staged)
  settleRetention X planned bundle.generation answer

end Dispatch

/-- An operation of the service under the state lock, with what is left of it. -/
structure ServiceOperation where
  request : ServiceRequest
  rest : Prog serviceCalls (Except CoreRuntimeError request.Answer)

structure ServerSystem where
  root : GenerationRoot
  retention : ServiceRuntimeRetention
  room : ServiceRoom
  operation : Option ServiceOperation
  /-- What is left of the `ApplyCandidate` that has locked the retention slots. -/
  dispatch : Option (Prog serverCalls (Except CoreRuntimeError ApplyCandidateResult))

structure ServerSetting (D : Type) where
  config : PrivilegedServiceConfig
  generationCodec : GenerationCodec
  codec : Codec D
  manifestCodec : ManifestCodec
  server : CoreServiceServerConfig
  outside : OutsideFiles
  /-- The generations that may be asked for when the slots and the state are as they are. -/
  Asks : ServiceRuntimeRetention → ServiceState → RuntimeGeneration → Prop

def ServiceRequest.operation (q : ServiceRequest) (config : PrivilegedServiceConfig)
    (J : GenerationCodec) : ServiceOperation :=
  ⟨q, (q.perform config J).run⟩

variable {D : Type} (σ : ServerSetting D)

inductive ServerStep (s : ServerSystem) : ServerSystem → Prop where
  | begin (hidle : s.operation = none) (hq : q.isApply = false) :
      ServerStep s { s with
        room := s.room.asked q
        operation := some (q.operation σ.config σ.generationCodec) }
  | call (hrest : s.operation = some ⟨q, .ask c next⟩) (hcall : anyService s.room c r room') :
      ServerStep s { s with room := room', operation := some ⟨q, next r⟩ }
  | finish (hrest : s.operation = some ⟨q, .ret answer⟩) (hq : q.isApply = false) :
      ServerStep s { s with operation := none }
  | cancel (hidle : s.operation = none) (hroom : s.room = (counters, w)) (hcancel : Cancels w w') :
      ServerStep s { s with room := (counters, w') }
  | dispatch (hidle : s.dispatch = none)
      (hasks : σ.Asks s.retention s.room.2.state bundle.generation) :
      ServerStep s { s with
        dispatch := some
          (dispatchApplyCandidate σ.codec σ.manifestCodec σ.server peerUid owner bundle).run }
  | root (hrest : s.dispatch = some (.ask (.inl c) next))
      (hcall : failingRoot σ.outside s.root c r root') :
      ServerStep s { s with root := root', dispatch := some (next r) }
  | retention (hrest : s.dispatch = some (.ask (.inr .retention) next)) :
      ServerStep s { s with dispatch := some (next s.retention) }
  | setRetention (hrest : s.dispatch = some (.ask (.inr (.setRetention retention)) next)) :
      ServerStep s { s with retention := retention, dispatch := some (next ()) }
  | apply (hrest : s.dispatch = some (.ask (.inr (.applyCandidate owner bundle)) next))
      (hidle : s.operation = none) :
      ServerStep s { s with
        room := s.room.asked (.applyCandidate owner bundle)
        operation := some
          ((ServiceRequest.applyCandidate owner bundle).operation σ.config σ.generationCodec) }
  | applied (hrest : s.dispatch = some (.ask (.inr (.applyCandidate owner bundle)) next))
      (hanswer : s.operation = some ⟨.applyCandidate owner bundle, .ret answer⟩) :
      ServerStep s { s with operation := none, dispatch := some (next answer) }
  | respond (hrest : s.dispatch = some (.ret answer)) : ServerStep s { s with dispatch := none }

/-- The server has just loaded its retention slots. -/
inductive ServerStarts : ServerSystem → Prop where
  | load (hload : Finishes (failingRoot σ.outside) (loadServiceRuntimeRetention σ.codec).run root₀
      (.ok retention) root) :
      ServerStarts ⟨root, retention, (counters, .initial), none, none⟩

def ServerRuns (s : ServerSystem) : Prop :=
  ∃ s₀, ServerStarts σ s₀ ∧ Relation.ReflTransGen (ServerStep σ) s₀ s

end Ratash
