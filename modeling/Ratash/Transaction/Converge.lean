import Ratash.Transaction.Steps

namespace Ratash

open Interaction Attempt

variable {D ρ : Type} [DecidableEq D] {X : Codec D}
variable {fails : Prop} {prunes : Prunes ρ} {K P : Store D → Prop} {s : Store D} {v : PortWorld ρ}
  {seen : Prop}

def CoreMoved (s : Store D) (v : PortWorld ρ) (seen : Prop) (view : RuntimeView → Prop)
    (u : Watched D ρ) : Prop :=
  ∃ applied runtime, u = ((s, { v with applied := applied, runtime := runtime }), seen) ∧
    view runtime

omit [DecidableEq D] in
theorem CoreMoved.mono {view view' : RuntimeView → Prop} (h : CoreMoved s v seen view u)
    (hview : ∀ r, view r → view' r) : CoreMoved s v seen view' u := by
  obtain ⟨applied, runtime, hu, hruntime⟩ := h
  exact ⟨applied, runtime, hu, hview runtime hruntime⟩

omit [DecidableEq D] in
theorem CoreMoved.trans {applied : Bool} {runtime : RuntimeView} {view : RuntimeView → Prop}
    (h : CoreMoved s { v with applied := applied, runtime := runtime } seen view u) :
    CoreMoved s v seen view u := h

def TalksToCore (K P : Store D → Prop) (fails : Prop) (prunes : Prunes ρ)
    (x : CoordinatorAttempt D ε α) (view : α → RuntimeView → Prop) : Prop :=
  ∀ s v seen, Safe K P ((s, v), seen) →
    x.run.Ensures (watchedOutcome fails prunes P) (Safe K P)
      (fun r u => CoreMoved s v seen (fun runtime => ∀ a, r = .ok a → view a runtime) u)
      ((s, v), seen)

theorem TalksToCore.seq {x : CoordinatorAttempt D ε α} {f : α → CoordinatorAttempt D ε β}
    {view : α → RuntimeView → Prop} {view' : β → RuntimeView → Prop}
    (hx : TalksToCore K P fails prunes x view)
    (hf : ∀ a, TalksToCore K P fails prunes (f a) view') :
    TalksToCore K P fails prunes (x >>= f) view' := by
  intro s v seen hu
  apply ensures_seq (hx s v seen hu)
  · intro a u hsafe hmoved
    obtain ⟨applied, runtime, rfl, _⟩ := hmoved
    exact (hf a s _ seen hsafe).mono (fun _ h => h) fun _ _ _ h => h.trans
  · intro e u _ hmoved
    exact hmoved.mono fun _ _ _ h => by cases h

theorem TalksToCore.okOr (r : Except δ α) (e : ε) :
    TalksToCore K P fails prunes (Attempt.okOr r e : CoordinatorAttempt D ε α) (fun _ _ => True) :=
  fun _ v _ hu => Attempt.ensures_okOr hu (fun _ _ => ⟨v.applied, v.runtime, rfl, by simp⟩)
    ⟨v.applied, v.runtime, rfl, by simp⟩

theorem TalksToCore.ofExcept (r : Except ε α) :
    TalksToCore K P fails prunes (Attempt.ofExcept r : CoordinatorAttempt D ε α)
      (fun _ _ => True) :=
  fun _ v _ hu => ⟨hu, v.applied, v.runtime, rfl, by simp⟩

def PortCall.IsCore : PortCall D → Bool
  | .applyCandidate _ | .status | .stop | .confirmReady _ | .resolve _ => true
  | _ => false

omit [DecidableEq D] in
theorem PortWorld.Allows.core {c : PortCall D} {r : c.Reply} {v' : PortWorld ρ}
    (h : v.Allows prunes c r v') (hc : c.IsCore = true) :
    ∃ applied runtime, v' = { v with applied := applied, runtime := runtime } := by
  cases c with
  | applyCandidate bundle => exact ⟨_, _, h⟩
  | status => exact ⟨v.applied, v.runtime, h⟩
  | stop => exact ⟨_, _, h⟩
  | confirmReady core => exact ⟨_, _, h⟩
  | resolve transaction => exact ⟨v.applied, v.runtime, h⟩
  | _ => cases hc

theorem TalksToCore.port {c : PortCall D} (hc : c.IsCore = true) :
    TalksToCore K P fails prunes (port c : CoordinatorAttempt D ε c.Reply) (fun _ _ => True) := by
  intro s v seen hu
  apply ensures_port hu
  intro r v' hv'
  obtain ⟨applied, runtime, rfl⟩ := hv'.core hc
  exact ⟨applied, runtime, rfl, fun _ _ => trivial⟩

theorem TalksToCore.stop : TalksToCore K P fails prunes
      (do let stopped ← Ratash.port .stop; Attempt.okOr stopped () : CoordinatorAttempt D Unit Unit)
      (fun _ runtime => runtime = .stopped) := by
  intro s v seen hu
  apply ensures_port_seq hu
  intro r v' hv'
  obtain rfl := hv'
  refine Attempt.ensures_okOr hu ?_ ⟨_, _, rfl, by simp⟩
  intro _ hr
  obtain rfl : r = .ok _ := hr
  exact ⟨_, _, rfl, fun _ _ => rfl⟩

theorem TalksToCore.confirmReady (core : ManagedCoreHandle) : TalksToCore K P fails prunes
      (do let ready ← Ratash.port (.confirmReady core); Attempt.okOr ready () :
        CoordinatorAttempt D Unit Unit)
      (fun _ runtime => runtime = .healthy core.runtimeGeneration) := by
  intro s v seen hu
  apply ensures_port_seq hu
  intro r v' hv'
  obtain rfl := hv'
  refine Attempt.ensures_okOr hu ?_ ⟨_, _, rfl, by simp⟩
  intro _ hr
  obtain rfl : r = .ok _ := hr
  exact ⟨_, _, rfl, fun _ _ => rfl⟩

theorem confirm_talks (applied : ApplyCandidateResult) (generation : RuntimeGeneration) :
    TalksToCore K P fails prunes (confirm applied generation : CoordinatorAttempt D Unit Unit)
      (fun _ runtime => runtime = .healthy generation) := by
  apply TalksToCore.seq (.port rfl)
  intro status
  apply TalksToCore.seq (.okOr _ _)
  intro status
  apply TalksToCore.seq (.ofExcept _)
  intro actual s v seen hu
  refine ensures_require_seq hu ?_ ?_
  · intro hsame
    have hgeneration : actual.runtimeGeneration = generation := hsame.2.2.2.2.1
    subst hgeneration
    exact TalksToCore.confirmReady actual s v seen hu
  · intro _
    exact ⟨v.applied, v.runtime, rfl, by simp⟩

theorem restartCandidate_talks (bundle : RuntimeBundle) : TalksToCore K P fails prunes
      (restartCandidate bundle : CoordinatorAttempt D Unit ApplyCandidateResult)
      (fun _ runtime => runtime = .healthy bundle.generation) := by
  apply TalksToCore.seq (.port rfl)
  intro stopped
  apply TalksToCore.seq (.okOr _ _)
  intro _
  apply TalksToCore.seq (.port rfl)
  intro applied
  apply TalksToCore.seq (.okOr _ _)
  intro applied s v seen hu
  apply ensures_seq (confirm_talks applied bundle.generation s v seen hu)
  · intro _ u hsafe hmoved
    obtain ⟨applied', runtime, rfl, hruntime⟩ := hmoved
    exact ⟨hsafe, applied', runtime, rfl, fun _ _ => hruntime () rfl⟩
  · intro _ u _ hmoved
    exact hmoved.mono fun _ _ _ h => by cases h

theorem alreadyConverged_talks (generation : RuntimeGeneration) :
    TalksToCore K P fails prunes (alreadyConverged generation : CoordinatorAttempt D Unit Bool)
      (fun converged runtime => converged = true → runtime = .healthy generation) := by
  have hfalse : TalksToCore K P fails prunes (pure false : CoordinatorAttempt D Unit Bool)
      (fun converged runtime => converged = true → runtime = .healthy generation) :=
    fun _ v _ hu => ⟨hu, v.applied, v.runtime, rfl, fun _ h ht => by cases h; cases ht⟩
  apply TalksToCore.seq (.port rfl)
  intro status
  cases status with
  | error e => exact hfalse
  | ok status =>
    cases hcore : status.managedCore with
    | none => simpa only [hcore] using hfalse
    | some core =>
      by_cases hgeneration : core.runtimeGeneration = generation
      · simp only [hcore, hgeneration, if_true]
        intro s v seen hu
        apply ensures_port_seq hu
        intro r v' hv'
        obtain rfl := hv'
        refine ⟨hu, _, _, rfl, ?_⟩
        intro converged hconverged htrue
        cases hconverged
        cases r with
        | ok _ => rw [← hgeneration]
        | error _ => cases htrue
      · simpa only [hcore, hgeneration, if_false] using hfalse

/-- What the Core was last seen to be is what a transaction asks for. -/
def ViewOf (X : Codec D) (s : Store D) : Option (TransactionId D) → RuntimeView → Prop
  | none, runtime => runtime = .stopped
  | some id, runtime =>
    ∃ t, s.transactionAt X id = some t ∧ runtime = .healthy t.runtimeGeneration

theorem convergeToTransaction_spec (hu : Safe K P ((s, v), seen)) (id : Option (TransactionId D)) :
    (convergeToTransaction X id).run.Ensures (watchedOutcome fails prunes P) (Safe K P)
      (fun r u => CoreMoved s v seen (fun runtime => r = .ok () → ViewOf X s id runtime) u)
      ((s, v), seen) := by
  cases id with
  | none =>
    apply (TalksToCore.stop s v seen hu).mono (fun _ h => h)
    intro r u _ hmoved
    exact hmoved.mono fun runtime h hr => h () hr
  | some id =>
    apply ensures_orThrow_seq (ensures_store_frozen (loadTransaction_spec X s id) hu)
    · intro transaction u _ hload
      obtain ⟨rfl, hload⟩ := hload
      have hat := hload transaction rfl
      apply ensures_seq (TalksToCore.port rfl s v seen hu)
      · intro bundle u hsafe hmoved
        obtain ⟨applied, runtime, rfl, _⟩ := hmoved
        refine ensures_okOr_seq hsafe ?_ ⟨_, _, rfl, by simp⟩
        intro bundle _
        refine ensures_require_seq hsafe ?_ (fun _ => ⟨_, _, rfl, by simp⟩)
        intro hgeneration
        apply ensures_seq (alreadyConverged_talks bundle.generation s _ seen hsafe)
        · intro converged u hsafe hmoved
          obtain ⟨applied, runtime, rfl, hconverged⟩ := hmoved
          apply ensures_whenever
          · intro _
            apply ensures_seq (restartCandidate_talks bundle s _ seen hsafe)
            · intro applied u hsafe hmoved
              obtain ⟨applied', runtime, rfl, hruntime⟩ := hmoved
              refine ⟨hsafe, applied', runtime, rfl, fun _ => ⟨transaction, hat, ?_⟩⟩
              rw [hruntime applied rfl, hgeneration]
            · intro _ u _ hmoved
              exact hmoved.mono fun _ _ h => by cases h
          · intro hnot
            have htrue : converged = true := by simpa using hnot
            refine ⟨hsafe, applied, runtime, rfl, fun _ => ⟨transaction, hat, ?_⟩⟩
            rw [hconverged converged rfl htrue, hgeneration]
        · intro _ u _ hmoved
          exact hmoved.mono fun _ _ h => by cases h
      · intro _ u _ hmoved
        exact hmoved.mono fun _ _ h => by cases h
    · intro _ u _ hload
      obtain ⟨rfl, _⟩ := hload
      exact ⟨v.applied, v.runtime, rfl, by simp⟩

end Ratash
