import Ratash.Server.Housed
import Ratash.Server.Script

/-! A generation comes into use by an apply only, and an apply that fails brings none into use. -/

namespace Ratash

open Interaction

variable {config : PrivilegedServiceConfig} {J : GenerationCodec}

def ServiceRequest.Brings (q : ServiceRequest) (generation : RuntimeGeneration) : Prop :=
  ∃ proof bundle, q = .applyCandidate proof bundle ∧ bundle.generation = generation

theorem ServiceRequest.not_brings {q : ServiceRequest} (hq : q.isApply = false) :
    ¬ q.Brings generation := by
  rintro ⟨proof, bundle, rfl, _⟩
  cases hq

theorem Move.request_eq (h : Move config room room') : room'.2.request = room.2.request := by
  cases h with
  | reserve _ => rfl
  | cancel hcancel => cases hcancel <;> rfl
  | call _ _ => exact ServiceWorld.request_store ..

theorem Course.request_eq (h : Course config room room') : room'.2.request = room.2.request :=
  h.keeps (P := fun room' => room'.2.request = room.2.request)
    (fun _ _ ha hmove => hmove.request_eq.trans ha) rfl

def BringsOnly (e : ServiceEvent) (_ : List HistoryEvent) : Prop :=
  ∀ s generation, e.stores = some s → s.Uses generation →
    e.before.Uses generation ∨ e.request.Brings generation

theorem kept_bringsOnly (config : PrivilegedServiceConfig) :
    Kept config fun room => True ∧ Throughout BringsOnly room.2.history := by
  apply Kept.throughout ⟨fun _ => trivial, fun _ _ _ _ => trivial, fun _ _ _ _ _ => trivial⟩
  intro room c r hcustody _ hpermit _ s generation hstores huses
  cases hpermit with
  | putState hstored =>
    obtain rfl := Option.some.inj hstores
    exact hstored.uses hcustody huses
  | _ => cases hstores

def Answered (config : PrivilegedServiceConfig) (base : ServiceRoom) (q : ServiceRequest)
    (answer : Except CoreRuntimeError q.Answer) (room : ServiceRoom) : Prop :=
  Finished config room ∧
    ∀ e, q.isApply = true → answer = .error e → base.2.state.Lessens room.2.state

theorem perform_answers (config : PrivilegedServiceConfig) (J : GenerationCodec)
    (hsound : Sound base) (q : ServiceRequest) :
    (q.perform config J).run.Ensures anyService (Course config (base.asked q))
      (Answered config base q) (base.asked q) := by
  have hends := perform_ends config J hsound.settled hsound.custody hsound.epochs q
  cases q with
  | applyCandidate proof bundle =>
    apply (hends.and (applyCandidate_done .refl (hsound.settled.asked _) rfl)).mono
    · exact fun _ h => h.1
    · intro answer room _ h
      exact ⟨h.1, fun e _ he => h.2.2 e he⟩
  | _ => exact hends.mono (fun _ h => h) fun _ _ _ h => ⟨h, nofun⟩

structure UnderWay (config : PrivilegedServiceConfig) (base : ServiceRoom) (op : ServiceOperation)
    (room : ServiceRoom) : Prop where
  sound : Sound base
  brings : Throughout BringsOnly base.2.history
  rest : op.rest.Ensures anyService (Course config (base.asked op.request))
    (Answered config base op.request) room

theorem UnderWay.begin (hsound : Sound base) (hbrings : Throughout BringsOnly base.2.history)
    (q : ServiceRequest) : UnderWay config base (q.operation config J) (base.asked q) :=
  ⟨hsound, hbrings, perform_answers config J hsound q⟩

theorem Interferes.brings {r : c.Reply} (h : Interferes w w₁) (hrequest : w.request = q)
    (hstore : w' = (w₁.record c r).store c) (hbrings : Throughout BringsOnly w'.history)
    (huses : w'.state.Uses generation) : w.state.Uses generation ∨ q.Brings generation := by
  have hcalm : Calm (⟨0, 0⟩, w) (⟨0, 0⟩, w₁) := h.calm
  subst hstore
  rw [ServiceWorld.history_store] at hbrings
  rw [ServiceWorld.state_store w₁ c r _ rfl] at huses
  cases hstores : (⟨w₁.request, w₁.state, c, r⟩ : ServiceEvent).stores with
  | none =>
    rw [hstores, Option.getD_none, h.state_eq] at huses
    exact .inl huses
  | some s =>
    rw [hstores, Option.getD_some] at huses
    have hevent := hbrings _ _ List.suffix_rfl s generation hstores huses
    rw [← h.state_eq, ← hrequest]
    exact hcalm.request ▸ hevent

section UnderWay

variable {base room : ServiceRoom} {q : ServiceRequest}

theorem UnderWay.call (h : UnderWay config base ⟨q, .ask c next⟩ room)
    (hcall : anyService room c r room') : UnderWay config base ⟨q, next r⟩ room' :=
  ⟨h.sound, h.brings, h.rest.2 r room' hcall⟩

theorem UnderWay.course (h : UnderWay config base op room) :
    Course config (base.asked op.request) room :=
  h.rest.here

theorem UnderWay.custody (h : UnderWay config base op room) : Custody room.2 :=
  (h.sound.custody.asked _).course h.course

theorem UnderWay.throughout (h : UnderWay config base op room) :
    Throughout BringsOnly room.2.history := by
  have hkept := kept_bringsOnly config
  exact (hkept.course h.course (h.sound.custody.asked _)
    (hkept.asked base op.request h.sound ⟨trivial, h.brings⟩)).2

theorem UnderWay.call_uses (h : UnderWay config base ⟨q, .ask c next⟩ room)
    (hcall : anyService room c r room') (huses : room'.2.state.Uses generation) :
    room.2.state.Uses generation ∨ q.Brings generation := by
  have hrequest : room.2.request = q := h.course.request_eq
  cases c with
  | inl c =>
    rw [hcall.2] at huses
    exact .inl huses
  | inr c =>
    have hbrings := (h.call hcall).throughout
    obtain ⟨counters, w'⟩ := room'
    obtain ⟨⟨w, hinterferes, _, hstore⟩, _⟩ := hcall
    exact hinterferes.brings hrequest hstore hbrings huses

theorem UnderWay.finished (h : UnderWay config base ⟨q, .ret answer⟩ room) : Sound room :=
  ⟨h.rest.2.1.1, h.custody, (h.sound.epochs.asked q).course h.course⟩

end UnderWay

inductive OperationSound (config : PrivilegedServiceConfig) (bound : RuntimeGeneration → Prop)
    (s : ServerSystem) : Prop where
  | idle (hidle : s.operation = none) (hsound : Sound s.room)
      (hbrings : Throughout BringsOnly s.room.2.history)
      (hbound : ∀ n, s.room.2.state.Uses n → bound n)
  | other (hop : s.operation = some op) (hq : op.request.isApply = false)
      (hunder : UnderWay config base op s.room) (hbound : ∀ n, s.room.2.state.Uses n → bound n)
  /-- The apply of the dispatch that waits for its answer. -/
  | apply (hop : s.operation = some op) (hq : op.request = .applyCandidate owner bundle)
      (hdispatch : s.dispatch = some (.ask (.inr (.applyCandidate owner bundle)) next))
      (hunder : UnderWay config base op s.room) (hbase : ∀ n, base.2.state.Uses n → bound n)
      (hbound : ∀ n, s.room.2.state.Uses n → bound n ∨ n = bundle.generation)

def DispatchSound (σ : ServerSetting D) (bound : RuntimeGeneration → Prop) (s : ServerSystem) :
    Prop :=
  match s.dispatch with
  | none => Housed (s.root, s.retention, bound)
  | some rest => rest.Ensures ((failingRoot σ.outside).sum retentionOutside) Housed
      (fun _ _ => True) (s.root, s.retention, bound)

def ServerSound (σ : ServerSetting D) (s : ServerSystem) : Prop :=
  ∃ bound, OperationSound σ.config bound s ∧ DispatchSound σ bound s

section Server

variable {D : Type} {σ : ServerSetting D} {s s' : ServerSystem}

theorem DispatchSound.housed (h : DispatchSound σ bound s) :
    Housed (s.root, s.retention, bound) := by
  unfold DispatchSound at h
  split at h
  · exact h
  · exact h.here

theorem DispatchSound.ensures (h : DispatchSound σ bound s) (hrest : s.dispatch = some rest) :
    rest.Ensures ((failingRoot σ.outside).sum retentionOutside) Housed (fun _ _ => True)
      (s.root, s.retention, bound) := by
  rw [DispatchSound, hrest] at h
  exact h

def ServerSystem.Unawaited (s : ServerSystem) : Prop :=
  ∀ owner bundle next, s.dispatch ≠ some (.ask (.inr (.applyCandidate owner bundle)) next)

theorem OperationSound.rebound (h : OperationSound config bound s) (hnot : s.Unawaited)
    (hroom : s'.room = s.room) (hop : s'.operation = s.operation)
    (hbound' : ∀ n, s.room.2.state.Uses n → bound n → bound' n) :
    OperationSound config bound' s' := by
  rw [← hroom] at hbound'
  cases h with
  | idle hidle hsound hbrings hbound =>
    rw [← hroom] at hsound hbrings hbound
    exact .idle (hop.trans hidle) hsound hbrings fun n hn => hbound' n hn (hbound n hn)
  | other hother hq hunder hbound =>
    rw [← hroom] at hunder hbound
    exact .other (hop.trans hother) hq hunder fun n hn => hbound' n hn (hbound n hn)
  | apply _ _ hdispatch => exact absurd hdispatch (hnot _ _ _)

theorem OperationSound.begin (h : OperationSound σ.config bound s) (hidle : s.operation = none)
    (hq : q.isApply = false) :
    OperationSound σ.config bound { s with
      room := s.room.asked q
      operation := some (q.operation σ.config σ.generationCodec) } := by
  cases h with
  | idle _ hsound hbrings hbound => exact .other rfl hq (.begin hsound hbrings q) hbound
  | other hop | apply hop => cases hidle.symm.trans hop

theorem OperationSound.call (h : OperationSound config bound s)
    (hrest : s.operation = some ⟨q, .ask c next⟩) (hcall : anyService s.room c r room') :
    OperationSound config bound { s with room := room', operation := some ⟨q, next r⟩ } := by
  cases h with
  | idle hidle => cases hidle.symm.trans hrest
  | other hop hq hunder hbound =>
    obtain rfl := Option.some.inj (hop.symm.trans hrest)
    refine .other rfl hq (hunder.call hcall) fun n hn => ?_
    obtain hused | hbrings := hunder.call_uses hcall hn
    · exact hbound n hused
    · exact absurd hbrings (ServiceRequest.not_brings hq)
  | apply hop hq hdispatch hunder hbase hbound =>
    obtain rfl := Option.some.inj (hop.symm.trans hrest)
    obtain rfl : q = _ := hq
    refine .apply rfl rfl hdispatch (hunder.call hcall) hbase fun n hn => ?_
    obtain hused | ⟨_, _, heq, hn⟩ := hunder.call_uses hcall hn
    · exact hbound n hused
    · cases heq
      exact .inr hn.symm

theorem OperationSound.finish (h : OperationSound config bound s)
    (hrest : s.operation = some ⟨q, .ret answer⟩) (hq : q.isApply = false) :
    OperationSound config bound { s with operation := none } := by
  cases h with
  | idle hidle => cases hidle.symm.trans hrest
  | other hop _ hunder hbound =>
    obtain rfl := Option.some.inj (hop.symm.trans hrest)
    exact .idle rfl hunder.finished hunder.throughout hbound
  | apply hop happly =>
    obtain rfl := Option.some.inj (hop.symm.trans hrest)
    rw [show q = _ from happly] at hq
    cases hq

theorem OperationSound.cancel (h : OperationSound config bound s) (hidle : s.operation = none)
    (hroom : s.room = (counters, w)) (hcancel : Cancels w w') :
    OperationSound config bound { s with room := (counters, w') } := by
  cases h with
  | idle _ hsound hbrings hbound =>
    rw [hroom] at hsound hbrings hbound
    have hmove : Move config (counters, w) (counters, w') := .cancel hcancel
    have hkept := (kept_bringsOnly config).move _ _ hsound.custody ⟨trivial, hbrings⟩ hmove
    refine .idle hidle ⟨hsound.settled.of_calm hcancel.calm, hsound.custody.move hmove,
      hsound.epochs.move hmove⟩ hkept.2 fun n hn => hbound n ?_
    rw [(Interferes.step hcancel .refl).state_eq] at hn
    exact hn
  | other hop | apply hop => cases hidle.symm.trans hop

theorem OperationSound.apply_begin (h : OperationSound σ.config bound s)
    (hrest : s.dispatch = some (.ask (.inr (.applyCandidate owner bundle)) next))
    (hidle : s.operation = none) :
    OperationSound σ.config bound { s with
      room := s.room.asked (.applyCandidate owner bundle)
      operation := some
        ((ServiceRequest.applyCandidate owner bundle).operation σ.config σ.generationCodec) } := by
  cases h with
  | idle _ hsound hbrings hbound =>
    exact .apply rfl rfl hrest (.begin hsound hbrings _) hbound fun n hn => .inl (hbound n hn)
  | other hop | apply hop => cases hidle.symm.trans hop

theorem OperationSound.applied (h : OperationSound config bound s)
    (hanswer : s.operation = some ⟨.applyCandidate owner bundle, .ret answer⟩) :
    ∃ bound', retentionOutside (s.retention, bound) (.applyCandidate owner bundle) answer
        (s.retention, bound') ∧
      OperationSound config bound' { s with operation := none, dispatch := dispatch' } := by
  cases h with
  | idle hidle => cases hidle.symm.trans hanswer
  | other hop hq =>
    obtain rfl := Option.some.inj (hop.symm.trans hanswer)
    cases hq
  | apply hop hq hdispatch hunder hbase hbound =>
    obtain rfl := Option.some.inj (hop.symm.trans hanswer)
    obtain ⟨rfl, rfl⟩ := ServiceRequest.applyCandidate.inj hq
    cases answer with
    | ok result =>
      exact ⟨fun n => bound n ∨ n = bundle.generation, rfl,
        .idle rfl hunder.finished hunder.throughout hbound⟩
    | error error =>
      exact ⟨bound, rfl, .idle rfl hunder.finished hunder.throughout
        fun n hn => hbase n (hunder.rest.2.2 error rfl rfl n hn)⟩

/-- Every apply that is asked for spares what is in use then. -/
def ServerSetting.Sparing (σ : ServerSetting D) : Prop :=
  ∀ retention state generation, σ.Asks retention state generation →
    ∀ inUse, state.Uses inUse → retention.Spares generation inUse

theorem ServerStep.sound (hstep : ServerStep σ s s') (hasks : σ.Sparing)
    (h : ServerSound σ s) : ServerSound σ s' := by
  obtain ⟨bound, hop, hd⟩ := h
  -- the steps of the service leave the dispatch, its root and its slots alone
  cases hstep with
  | begin hidle hq => exact ⟨bound, hop.begin hidle hq, hd⟩
  | call hrest hcall => exact ⟨bound, hop.call hrest hcall, hd⟩
  | finish hrest hq => exact ⟨bound, hop.finish hrest hq, hd⟩
  | cancel hidle hroom hcancel => exact ⟨bound, hop.cancel hidle hroom hcancel, hd⟩
  | apply hrest hidle => exact ⟨bound, hop.apply_begin hrest hidle, hd⟩
  | dispatch hidle hask =>
    have hnot : s.Unawaited := fun _ _ _ h => nomatch hidle.symm.trans h
    have hhoused : Housed (s.root, s.retention, fun n => s.room.2.state.Uses n ∧ bound n) :=
      fun n hn => hd.housed n hn.2
    exact ⟨_, hop.rebound hnot rfl rfl fun n hn hb => ⟨hn, hb⟩,
      dispatchApplyCandidate_housed _ _ _ _ hhoused fun n hn => hasks _ _ _ hask n hn.1⟩
  | root hrest hcall =>
    have hnot : s.Unawaited := fun _ _ _ h => nomatch Option.some.inj (hrest.symm.trans h)
    exact ⟨bound, hop.rebound hnot rfl rfl fun _ _ => id,
      (hd.ensures hrest).2 _ (_, _) ⟨hcall, rfl⟩⟩
  | retention hrest =>
    have hnot : s.Unawaited := fun _ _ _ h => nomatch Option.some.inj (hrest.symm.trans h)
    exact ⟨bound, hop.rebound hnot rfl rfl fun _ _ => id,
      (hd.ensures hrest).2 _ (_, _) ⟨⟨rfl, rfl⟩, rfl⟩⟩
  | setRetention hrest =>
    have hnot : s.Unawaited := fun _ _ _ h => nomatch Option.some.inj (hrest.symm.trans h)
    exact ⟨bound, hop.rebound hnot rfl rfl fun _ _ => id,
      (hd.ensures hrest).2 _ (_, _) ⟨rfl, rfl⟩⟩
  | applied hrest hanswer =>
    obtain ⟨bound', hreply, hop'⟩ := hop.applied hanswer
    exact ⟨bound', hop', (hd.ensures hrest).2 _ (_, _) ⟨hreply, rfl⟩⟩
  | respond hrest =>
    have hnot : s.Unawaited := fun _ _ _ h => nomatch Option.some.inj (hrest.symm.trans h)
    exact ⟨bound, hop.rebound hnot rfl rfl fun _ _ => id, (hd.ensures hrest).1⟩

theorem ServerStarts.sound (h : ServerStarts σ s) : ServerSound σ s := by
  cases h with
  | load _ =>
    have hunused : ∀ n, ¬ ServiceState.initial.Uses n := by
      rintro n (⟨_, hhandle, _⟩ | ⟨hdue, _⟩)
      · cases hhandle
      · cases hdue
    exact ⟨fun _ => False, .idle rfl (.initial _) ((kept_bringsOnly σ.config).initial _).2 hunused,
      nofun⟩

theorem ServerSound.retained (h : ServerSound σ s) (huses : s.room.2.state.Uses generation) :
    generation ∈ s.retention.retained ∧ Houses s.root generation := by
  obtain ⟨bound, hop, hd⟩ := h
  cases hop with
  | idle _ _ _ hbound | other _ _ _ hbound => exact hd.housed _ (hbound _ huses)
  | apply _ _ hdispatch hunder _ hbound =>
    obtain hb | rfl := hbound _ huses
    · exact hd.housed _ hb
    · -- the answer may be that the apply has succeeded, and then the generation is in use
      have hanswered := (hd.ensures hdispatch).2 (.ok ⟨.spawned, ⟨0, "", ⟨"", ""⟩, 0, 0⟩⟩)
        (s.root, s.retention, _) ⟨rfl, rfl⟩
      exact hanswered.here _ (.inr rfl)

theorem ServerRuns.sound (hruns : ServerRuns σ s) (hasks : σ.Sparing) : ServerSound σ s := by
  obtain ⟨s₀, hstarts, hsteps⟩ := hruns
  induction hsteps with
  | refl => exact hstarts.sound
  | tail _ hstep ih => exact hstep.sound hasks ih

/-- In every run whose applies all spare what is in use when they are dispatched, the generation
of the Core in use and the generation a pending restart is to start have a slot and a directory. -/
theorem generations_in_use_retained (hasks : σ.Sparing) (hruns : ServerRuns σ s)
    (generation : RuntimeGeneration) (huses : s.room.2.state.Uses generation) :
    generation ∈ s.retention.retained ∧ Houses s.root generation :=
  (hruns.sound hasks).retained huses

end Server

def sampleSetting (Asks : ServiceRuntimeRetention → ServiceState → RuntimeGeneration → Prop) :
    ServerSetting Bytes where
  config := threeRestarts
  generationCodec := numberedCodec
  codec := Plain.codec
  manifestCodec := Plain.manifestCodec
  server := ⟨"/run/ratash", none, 501⟩
  outside _ _ := none
  Asks := Asks

def secondRoot : GenerationRoot :=
  emptyRoot.setEntry (generationName 2) ⟨⟨.directory, 501, 0o700, 0, 0⟩, ∅⟩

def secondBundle : RuntimeBundle :=
  ⟨2, "/home/ratash/generation-2", zeroDigest, zeroDigest, zeroDigest⟩

def secondApply : List ServerRequest :=
  [.service .flawless (.openOwnerSession ⟨1, 501, 10, "supervisor", "token"⟩) rfl,
    .apply .flawless 501 firstProof secondBundle]

def permissiveSetting : ServerSetting Bytes :=
  sampleSetting fun _ _ _ => True

def sparingSetting : ServerSetting Bytes :=
  sampleSetting fun retention state generation =>
    ∀ inUse, state.Uses inUse → retention.Spares generation inUse

theorem loaded_sample (h : (loaded permissiveSetting root).isSome) :
    loaded (sampleSetting Asks) root = some ((loaded permissiveSetting root).get h) :=
  (Option.some_get h).symm

def secondStart : ServerRest :=
  (loaded permissiveSetting secondRoot).get (by decide +kernel)

def secondHandle : ManagedCoreHandle :=
  ⟨7, "core", ⟨"/run/ratash/owner-1.sock", "secret"⟩, 1, 2⟩

def secondReapply : List ServerRequest :=
  secondApply ++ [.apply { tunIsAvailable := false } 501 firstProof secondBundle]

/-- With a newer generation in the root, generation 2 is loaded as the current one. -/
def thirdRoot : GenerationRoot :=
  secondRoot.setEntry (generationName 3) ⟨⟨.directory, 501, 0o700, 0, 0⟩, ∅⟩

def thirdStart : ServerRest :=
  (loaded permissiveSetting thirdRoot).get (by decide +kernel)

/-- After some of the three requests. -/
def thirdRest (served : Nat) : ServerRest :=
  playServer sparingSetting (secondReapply.take served) thirdStart

theorem ServiceState.Uses.handle {s : ServiceState} (h : s.Uses generation)
    (hdue : s.restartDueAt = none) :
    ∃ handle, s.activeHandle = some handle ∧ handle.runtimeGeneration = generation := by
  obtain hhandle | ⟨hpending, _⟩ := h
  · exact hhandle
  · rw [hdue] at hpending
    cases hpending

/-- The second apply finds the Core of the first one in use, and fails. -/
theorem generations_in_use_retained_second :
    (thirdRest 2).system.room.2.state.Uses 2 ∧ ServerRuns sparingSetting (thirdRest 3).system ∧
      (thirdRest 3).system.room.2.state.Uses 2 ∧ 2 ∈ (thirdRest 3).system.retention.retained ∧
      Houses (thirdRest 3).system.root 2 := by
  have hopened : (thirdRest 1).2.2.2.state.restartDueAt = none ∧
      (thirdRest 1).2.2.2.state.activeHandle = none := by decide +kernel
  have happlied : (thirdRest 2).2.2.2.state.restartDueAt = none ∧
      (thirdRest 2).2.2.2.state.activeHandle = some secondHandle ∧
      (thirdRest 2).2.1 = ⟨some 2, none, none⟩ := by decide +kernel
  have hfirst : ∀ inUse, (thirdRest 1).2.2.2.state.Uses inUse →
      (thirdRest 1).2.1.Spares 2 inUse := by
    intro inUse huses
    obtain ⟨handle, hhandle, _⟩ := huses.handle hopened.1
    cases hopened.2.symm.trans hhandle
  have hsecond : ∀ inUse, (thirdRest 2).2.2.2.state.Uses inUse →
      (thirdRest 2).2.1.Spares 2 inUse := by
    intro inUse huses
    obtain ⟨handle, hhandle, rfl⟩ := huses.handle happlied.1
    obtain rfl := Option.some.inj (happlied.2.1.symm.trans hhandle)
    rw [happlied.2.2]
    unfold ServiceRuntimeRetention.Spares
    decide
  have hruns : ServerRuns sparingSetting (thirdRest 3).system :=
    playServer_runs sparingSetting secondReapply (loaded_sample _)
      ⟨trivial, hfirst, hsecond, trivial⟩
  have huses : (thirdRest 3).system.room.2.state.Uses 2 :=
    .inl ⟨secondHandle, by decide +kernel, rfl⟩
  exact ⟨.inl ⟨secondHandle, happlied.2.1, rfl⟩, hruns, huses,
    generations_in_use_retained (fun _ _ _ h => h) hruns 2 huses⟩

/-- The generation in use is asked for again, and no TUN device is available: the Core stays and
its directory goes. -/
theorem failed_reapply_prunes_generation_in_use :
    ∃ s, ServerRuns permissiveSetting s ∧ s.room.2.state.Uses 2 ∧ 2 ∉ s.retention.retained ∧
      ¬ Houses s.root 2 := by
  refine ⟨(playServer permissiveSetting secondReapply secondStart).system,
    playServer_runs permissiveSetting secondReapply (loaded_sample _)
      ⟨trivial, trivial, trivial, trivial⟩,
    .inl ⟨secondHandle, by decide +kernel, rfl⟩, ?_⟩
  unfold Houses
  decide +kernel

end Ratash
