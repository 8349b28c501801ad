import Ratash.Server.Dispatch
import Ratash.Service.Script

namespace Ratash

open Interaction

variable {D : Type} {σ : ServerSetting D}

def undisturbed (config : PrivilegedServiceConfig) (J : GenerationCodec) :
    Environment contextCalls (ServiceRuntimeRetention × ServiceRoom)
  | v, .retention, r, v' => r = v.1 ∧ v' = v
  | v, .setRetention retention, _, v' => v' = (retention, v.2)
  | v, .applyCandidate owner bundle, r, v' =>
    Handles config J v.2 (.applyCandidate owner bundle) r v'.2 ∧ v'.1 = v.1

theorem operation_steps {p : Prog serviceCalls (Except CoreRuntimeError q.Answer)}
    {answer : Except CoreRuntimeError q.Answer} (h : Finishes anyService p room answer room') :
    Relation.ReflTransGen (ServerStep σ) ⟨root, retention, room, some ⟨q, p⟩, dispatch⟩
      ⟨root, retention, room', some ⟨q, .ret answer⟩, dispatch⟩ := by
  induction p generalizing room with
  | ret _ =>
    cases h
    exact .refl
  | ask c next ih =>
    cases h with
    | ask hcall hrest => exact .head (.call rfl hcall) (ih _ hrest)

theorem handles_steps {answer : Except CoreRuntimeError q.Answer} (hq : q.isApply = false)
    (h : Handles σ.config σ.generationCodec room q answer room') :
    Relation.ReflTransGen (ServerStep σ) ⟨root, retention, room, none, dispatch⟩
      ⟨root, retention, room', none, dispatch⟩ :=
  .head (.begin rfl hq) (.tail (operation_steps h) (.finish rfl hq))

theorem dispatch_steps {p : Prog serverCalls (Except CoreRuntimeError ApplyCandidateResult)}
    (h : Finishes ((failingRoot σ.outside).sum (undisturbed σ.config σ.generationCodec)) p w answer
      w') : Relation.ReflTransGen (ServerStep σ) ⟨w.1, w.2.1, w.2.2, none, some p⟩
      ⟨w'.1, w'.2.1, w'.2.2, none, some (.ret answer)⟩ := by
  induction p generalizing w with
  | ret _ =>
    cases h
    exact .refl
  | ask c next ih =>
    cases h with
    | ask hcall hrest =>
      rename_i v _
      obtain ⟨root, retention, room⟩ := w
      obtain ⟨root', retention', room'⟩ := v
      have hnext := ih _ hrest
      cases c with
      | inl c =>
        obtain ⟨hroot, hcontext⟩ := hcall
        cases hcontext
        exact .head (.root rfl hroot) hnext
      | inr c =>
        cases c with
        | retention =>
          obtain ⟨⟨hslots, hcontext⟩, hroot⟩ := hcall
          cases hslots
          cases hcontext
          cases hroot
          exact .head (.retention rfl) hnext
        | setRetention _ =>
          obtain ⟨hcontext, hroot⟩ := hcall
          cases hcontext
          cases hroot
          exact .head (.setRetention rfl) hnext
        | applyCandidate _ _ =>
          obtain ⟨⟨hhandles, hslots⟩, hroot⟩ := hcall
          cases hslots
          cases hroot
          exact .head (.apply rfl rfl)
            (.trans (operation_steps hhandles) (.head (.applied rfl rfl) hnext))

def scriptedContext (config : PrivilegedServiceConfig) (J : GenerationCodec) (conduct : Conduct) :
    Handler contextCalls (ServiceRuntimeRetention × ServiceRoom)
  | v, .retention => (v.1, v)
  | v, .setRetention retention => ((), (retention, v.2))
  | v, .applyCandidate owner bundle =>
    let served := serve config J conduct (.applyCandidate owner bundle) v.2
    (served.1, (v.1, served.2))

theorem scriptedContext_undisturbed (config : PrivilegedServiceConfig) (J : GenerationCodec)
    (conduct : Conduct) (v : ServiceRuntimeRetention × ServiceRoom) (c : ContextCall) :
    undisturbed config J v c (scriptedContext config J conduct v c).1
      (scriptedContext config J conduct v c).2 := by
  cases c with
  | retention => exact ⟨rfl, rfl⟩
  | setRetention _ => rfl
  | applyCandidate owner bundle => exact ⟨serve_handles .., rfl⟩

inductive ServerRequest where
  | service (conduct : Conduct) (q : ServiceRequest) (hq : q.isApply = false)
  | apply (conduct : Conduct) (peerUid : Nat) (owner : OwnerSessionProof) (bundle : RuntimeBundle)

abbrev ServerRest := GenerationRoot × ServiceRuntimeRetention × ServiceRoom

def ServerRest.system (v : ServerRest) : ServerSystem :=
  ⟨v.1, v.2.1, v.2.2, none, none⟩

variable (σ : ServerSetting D)

def dispatched (conduct : Conduct) (peerUid : Nat) (owner : OwnerSessionProof)
    (bundle : RuntimeBundle) (v : ServerRest) :
    Except CoreRuntimeError ApplyCandidateResult × ServerRest :=
  (dispatchApplyCandidate σ.codec σ.manifestCodec σ.server peerUid owner bundle).run.run
    ((performRoot σ.outside).sum (scriptedContext σ.config σ.generationCodec conduct)) v

theorem dispatched_finishes (conduct : Conduct) (peerUid : Nat) (owner : OwnerSessionProof)
    (bundle : RuntimeBundle) (v : ServerRest) :
    Finishes ((failingRoot σ.outside).sum (undisturbed σ.config σ.generationCodec))
      (dispatchApplyCandidate σ.codec σ.manifestCodec σ.server peerUid owner bundle).run v
      (dispatched σ conduct peerUid owner bundle v).1
      (dispatched σ conduct peerUid owner bundle v).2 := by
  apply Finishes.map id _ (Prog.finishes_reliable.2 rfl)
  intro w c r w' hstep
  obtain ⟨rfl, rfl⟩ := Prod.mk.inj hstep
  cases c with
  | inl c => exact ⟨.inl rfl, rfl⟩
  | inr c => exact ⟨scriptedContext_undisturbed .., rfl⟩

def ServerRequest.serve : ServerRequest → ServerRest → ServerRest
  | service conduct q _, (root, retention, room) =>
    (root, retention, (Ratash.serve σ.config σ.generationCodec conduct q room).2)
  | apply conduct peerUid owner bundle, v => (dispatched σ conduct peerUid owner bundle v).2

def ServerRequest.Asked (v : ServerRest) : ServerRequest → Prop
  | service _ _ _ => True
  | apply _ _ _ bundle => σ.Asks v.2.1 v.2.2.2.state bundle.generation

theorem ServerRequest.steps (request : ServerRequest) (v : ServerRest) (h : request.Asked σ v) :
    Relation.ReflTransGen (ServerStep σ) v.system (request.serve σ v).system := by
  cases request with
  | service conduct q hq => exact handles_steps hq (serve_handles ..)
  | apply conduct peerUid owner bundle =>
    exact .head (.dispatch rfl h)
      (.tail (dispatch_steps (dispatched_finishes σ conduct peerUid owner bundle v)) (.respond rfl))

def MayAsk : List ServerRequest → ServerRest → Prop
  | [], _ => True
  | request :: script, v => request.Asked σ v ∧ MayAsk script (request.serve σ v)

def playServer : List ServerRequest → ServerRest → ServerRest
  | [], v => v
  | request :: script, v => playServer script (request.serve σ v)

def loaded (root : GenerationRoot) : Option ServerRest :=
  match (loadServiceRuntimeRetention σ.codec).run.run (performRoot σ.outside) root with
  | (.ok retention, root') => some (root', retention, unused)
  | _ => none

theorem playServer_runs (script : List ServerRequest) (hloaded : loaded σ root = some v)
    (hscript : MayAsk σ script v) : ServerRuns σ (playServer σ script v).system := by
  refine ⟨v.system, ?_, ?_⟩
  · unfold loaded at hloaded
    split at hloaded
    · rename_i retention root' hload
      cases hloaded
      exact .load ((Prog.finishes_reliable.2 hload).map id fun _ _ _ _ h => .inl h)
    · cases hloaded
  · clear hloaded
    induction script generalizing v with
    | nil => exact .refl
    | cons request script ih => exact (request.steps σ v hscript.1).trans (ih hscript.2)

end Ratash
