import Ratash.Interaction.Bound
import Ratash.Interaction.Yields
import Ratash.Production.Drained
import Ratash.Transaction.Atomicity

/-!
Whatever is installed when a shutdown is requested, or while it is, is invoked: by the request or by
the installation, whichever comes later.
-/

namespace Ratash

open Interaction Interaction.Processes Attempt

namespace Production

variable {D : Type} {threads mainWaker : Nat} {i : Thread} {w w' : ShutdownWorld}

def ShutdownCall.silent : ShutdownCall → Bool
  | .setRequested | .setWaker _ | .setCancellation _ => false
  | _ => true

def Silent : (threadCalls D).Call → Prop
  | .inl c => c.silent = true
  | .inr _ => True

def CancellationReplies (id : Nat) :
    (c : (threadCalls D).Call) → (threadCalls D).Reply c → Prop
  | .inl .cancellation, r => r = some id
  | .inl .isRequested, r => r = true
  | _, _ => True

def WakerReplies : (c : (threadCalls D).Call) → (threadCalls D).Reply c → Prop
  | .inl .isRequested, r => r = true
  | _, _ => True

def Cancels (id : Nat) (c : (threadCalls D).Call) : Prop := c = .inl (.cancel id)

def Wakes (id : Nat) (c : (threadCalls D).Call) : Prop :=
  c = .inl .wakeInstalled ∨ c = .inl (.wake id)

def Careful : Follows (threadCalls D)
  | _, .inl .setRequested, next =>
    (∀ id, (next true).Bound (CancellationReplies id) (Cancels id)) ∧
      ∀ r id, (next r).Bound WakerReplies (Wakes id)
  | _, .inl (.setCancellation id), next =>
    (next ()).Bound (CancellationReplies id) (Cancels id)
  | _, .inl (.setWaker id), next => (next ()).Bound WakerReplies (Wakes id)
  | _, _, _ => True

theorem careful_extends : Follows.Extends (Careful : Follows (threadCalls D)) := by
  intro α β c next f h
  rcases c with c | c
  · cases c with
    | setRequested => exact ⟨fun id => (h.1 id).bind f, fun r id => (h.2 r id).bind f⟩
    | setCancellation id => exact Prog.Bound.bind h f
    | setWaker id => exact Prog.Bound.bind h f
    | _ => trivial
  · trivial

theorem careful_of_silent {c : (threadCalls D).Call} {next : (threadCalls D).Reply c →
    Prog (threadCalls D) α} (h : Silent c) : Careful α c next := by
  rcases c with c | c
  · cases c with
    | setRequested => cases h
    | setCancellation id => cases h
    | setWaker id => cases h
    | _ => trivial
  · trivial

theorem careful_of_only {p : Prog (threadCalls D) α} (h : p.Only Silent) : p.Everywhere Careful :=
  h.everywhere fun _ _ h => careful_of_silent h

theorem only_silent {c : ShutdownCall} (hc : c.silent = true) :
    Only Silent (call c : ThreadAttempt D c.Reply) :=
  only_lift hc

theorem cancelInstalled_bound (id : Nat) :
    (cancelInstalled : ThreadAttempt D Unit).run.Bound (CancellationReplies id) (Cancels id) := by
  refine .inr fun r hr => ?_
  obtain rfl := hr
  exact .inl rfl

theorem careful_request : (request : ThreadAttempt D Unit).run.Everywhere Careful := by
  have hcancel : Only Silent (cancelInstalled : ThreadAttempt D Unit) := by
    apply (only_silent rfl).seq
    intro cancellation
    split
    · exact only_silent rfl
    · exact only_pure ()
  have hrest : ∀ firstRequest : Bool, Only Silent (do
      whenever (firstRequest = true) cancelInstalled
      call .wakeInstalled : ThreadAttempt D Unit) :=
    fun _ => hcancel.whenever.seq fun _ => only_silent rfl
  refine ⟨⟨fun id => ?_, fun r id => ?_⟩, fun r => ?_⟩
  · exact bound_seq _ (cancelInstalled_bound id)
  · cases r with
    | false => exact .inl (.inl rfl)
    | true =>
      refine .inr fun cancellation _ => ?_
      cases cancellation with
      | none => exact .inl (.inl rfl)
      | some cancellation => exact .inr fun _ _ => .inl (.inl rfl)
  · exact careful_of_only (hrest r)

theorem careful_installWaker (waker : Nat) :
    (installWaker waker : ThreadAttempt D Unit).run.Everywhere Careful := by
  refine ⟨.inr fun r hr => ?_, fun _ => ?_⟩
  · obtain rfl := hr
    exact .inl (.inr rfl)
  · apply careful_of_only
    apply Only.seq (only_silent rfl)
    intro requested
    split
    · exact only_silent rfl
    · exact only_pure ()

theorem careful_installCancellation (cancellation : Nat) :
    (installCancellation cancellation : ThreadAttempt D Unit).run.Everywhere Careful := by
  refine ⟨.inr fun r hr => ?_, fun _ => ?_⟩
  · obtain rfl := hr
    exact .inl rfl
  · apply careful_of_only
    apply Only.seq (only_silent rfl)
    intro requested
    split
    · exact only_silent rfl
    · exact only_pure ()

theorem silent_transact (transactions : Transactions D) : Only Silent (transact transactions) := by
  induction transactions with
  | nil => exact only_pure ()
  | cons transaction transactions ih =>
    exact (only_right fun _ => trivial).result.seq fun _ => (only_silent rfl).seq fun _ => ih

theorem silent_mutation (transactions : Transactions D) : Only Silent (mutation transactions) := by
  apply (only_silent rfl).seq
  intro begun
  split
  · exact (silent_transact transactions).seq fun _ => only_silent rfl
  · exact only_pure ()

theorem silent_backgroundTask (transactions : Transactions D) :
    Only Silent (backgroundTask transactions) := by
  apply (only_silent rfl).seq
  intro stopping
  split
  · exact only_pure _
  · exact (silent_transact transactions).seq fun _ => only_pure _

theorem silent_remainingShutdownBudget (deadline : Nat) :
    Only Silent (remainingShutdownBudget deadline : ThreadAttempt D Nat) :=
  (only_silent rfl).seq fun _ => (only_require _).seq fun _ => only_pure _

theorem silent_waitUntilFinished {isFinished : ThreadAttempt D Bool} (deadline : Nat)
    (h : Only Silent isFinished) : Only Silent (waitUntilFinished isFinished deadline) := by
  apply h.seq
  intro finished
  split
  · exact only_pure _
  · apply (only_silent rfl).seq
    intro now
    split
    · exact only_pure _
    · exact (only_silent rfl).seq fun _ => only_pure _

theorem silent_coreDone (results : ShutdownResults) (drain : IoResult) :
    Only Silent (coreDone results drain : ThreadAttempt D MainPhase) :=
  Only.seq (only_silent rfl).whenever fun _ => only_pure _

theorem silent_beginDrain (deadline : Nat) (results : ShutdownResults) :
    Only Silent (beginDrain deadline results : ThreadAttempt D MainPhase) := by
  apply (silent_remainingShutdownBudget deadline).result.seq
  rintro (_ | _)
  · exact silent_coreDone _ _
  · exact (only_silent rfl).seq fun _ => (only_silent rfl).seq fun _ => only_pure _

def MainPhase.early : MainPhase → Bool
  | .starting | .waiting => true
  | _ => false

theorem silent_round {phase : MainPhase} (h : phase.early = false) :
    Only Silent (phase.round threads mainWaker : ThreadAttempt D MainPhase) := by
  cases phase with
  | starting | waiting => cases h
  | cancelling =>
    apply (only_silent rfl).seq
    intro now
    apply Only.seq
    · exact ((silent_remainingShutdownBudget _).seq fun _ => (only_silent rfl).seq fun _ =>
        only_okOr _ _).result
    · exact fun _ => (only_silent rfl).seq fun _ => only_pure _
  | joining deadline cancel rest timedOut panicked =>
    cases rest with
    | nil => exact (only_silent rfl).seq fun _ => only_pure _
    | cons thread rest =>
      apply (silent_waitUntilFinished deadline (only_silent rfl)).seq
      rintro (_ | _ | _)
      · exact only_pure _
      · exact only_pure _
      · exact (only_silent rfl).seq fun _ => only_pure _
  | observing deadline results =>
    apply (silent_waitUntilFinished deadline (only_silent rfl)).seq
    rintro (_ | _ | _)
    · exact only_pure _
    · exact silent_beginDrain _ _
    · exact (only_silent rfl).seq fun _ => silent_beginDrain _ _
  | draining deadline waitDeadline active results =>
    simp only [MainPhase.round]
    split
    · exact only_pure _
    apply (only_silent rfl).seq
    intro now
    split
    · exact silent_coreDone _ _
    apply (only_silent rfl).seq
    intro timedOut
    apply (only_silent rfl).seq
    intro active'
    split
    · exact silent_coreDone _ _
    · exact only_pure _
  | locking deadline results =>
    apply (only_silent rfl).seq
    rintro (_ | _ | _)
    · exact only_pure _
    · exact only_pure _
    · apply (silent_remainingShutdownBudget deadline).result.seq
      rintro (_ | _)
      · exact only_pure _
      · exact (only_silent rfl).seq fun _ => only_pure _
  | stopping deadline results =>
    apply Only.seq
    · exact ((silent_remainingShutdownBudget _).seq fun _ => (only_silent rfl).seq fun _ =>
        only_okOr _ _).result
    · exact fun _ => (only_silent rfl).seq fun _ => only_pure _
  | closing deadline stop results =>
    apply (silent_remainingShutdownBudget deadline).result.seq
    rintro (_ | _)
    · exact silent_coreDone _ _
    · exact (only_silent rfl).seq fun _ => silent_coreDone _ _
  | servers results =>
    exact (only_silent rfl).seq fun _ => (only_silent rfl).seq fun _ => only_pure _
  | ended result => exact only_pure _

theorem careful_round (phase : MainPhase) :
    (phase.round threads mainWaker : ThreadAttempt D MainPhase).run.Everywhere Careful := by
  cases hearly : phase.early with
  | false => exact careful_of_only (silent_round hearly)
  | true =>
    cases phase with
    | starting =>
      exact everywhere_seq careful_extends (careful_installWaker _) fun _ => trivial
    | waiting =>
      apply everywhere_seq careful_extends (careful_of_only (only_silent rfl))
      intro signalled
      apply everywhere_seq careful_extends
      · unfold whenever
        split
        · exact careful_request
        · trivial
      · intro _
        apply careful_of_only
        apply Only.seq (only_silent rfl)
        intro requested
        split
        · exact only_pure _
        · exact (only_silent rfl).seq fun _ => only_pure _
    | cancelling | joining _ _ _ _ _ | observing _ _ | draining _ _ _ _ | locking _ _
    | stopping _ _ | closing _ _ _ | servers _ | ended _ => cases hearly

/-- Something is installed that is to be invoked, with the replies that lead there and the calls
that do it. -/
structure Duty (D : Type) where
  slot : DrainController → Option Nat
  done : ShutdownWorld → List Nat
  replies : Nat → (c : (threadCalls D).Call) → (threadCalls D).Reply c → Prop
  serves : Nat → (threadCalls D).Call → Prop
  slot_same : ∀ {d d' : DrainController}, d'.cancellation = d.cancellation →
    d'.waker = d.waker → slot d' = slot d
  done_same : ∀ {w w'}, w'.cancelled = w.cancelled → w'.woken = w.woken → done w' = done w
  done_mono : ∀ {i w} {c : (threadCalls D).Call} {r w'}, threadCall i w c r w' →
    ∀ {id}, id ∈ done w → id ∈ done w'
  served : ∀ {i w} {c : (threadCalls D).Call} {r w'}, threadCall i w c r w' →
    ∀ {id}, slot w.drain = some id → serves id c → id ∈ done w'
  replied : ∀ {i w} {c : (threadCalls D).Call} {r w'}, threadCall i w c r w' →
    ∀ {id}, w.requested = true → slot w.drain = some id → replies id c r
  owed : ∀ {i w} {c : (threadCalls D).Call} {r w'}, threadCall i w c r w' →
    ∀ {id α next}, Careful α c next → w'.requested = true → slot w'.drain = some id →
      (w.requested = true ∧ slot w.drain = some id) ∨
        ¬Silent c ∧ (next r).Bound (replies id) (serves id)

theorem coordinate_told {c : (coordinatorCalls D).Call} {r : (coordinatorCalls D).Reply c}
    (h : w.coordinate i c r w') :
    w'.drain = w.drain ∧ w'.cancelled = w.cancelled ∧ w'.woken = w.woken := by
  unfold ShutdownWorld.coordinate at h
  split at h
  all_goals
    obtain ⟨_, rfl⟩ := h
    exact ⟨rfl, rfl, rfl⟩

def cancellationDuty : Duty D where
  slot := DrainController.cancellation
  done := ShutdownWorld.cancelled
  replies := CancellationReplies
  serves := Cancels
  slot_same h _ := h
  done_same h _ := h
  done_mono {i w c r w'} h id hid := by
    rcases c with c | c
    · obtain ⟨_, rfl⟩ := h
      cases c with
      | cancel id' => exact List.mem_cons_of_mem _ hid
      | beginMutation | tryLockLifecycle => cases r <;> exact hid
      | _ => exact hid
    · rw [(coordinate_told h).2.1]
      exact hid
  served {i w c r w'} h id _ hserves := by
    obtain rfl := hserves
    obtain ⟨_, rfl⟩ := h
    exact List.mem_cons_self
  replied {i w c r w'} h id hrequested hslot := by
    rcases c with c | c
    · obtain ⟨hanswers, _⟩ := h
      cases c with
      | cancellation => exact hanswers.trans hslot
      | isRequested => exact hanswers.trans hrequested
      | _ => trivial
    · trivial
  owed {i w c r w'} h id α next hcareful hrequested hslot := by
    rcases c with c | c
    · obtain ⟨hanswers, rfl⟩ := h
      cases c with
      | setRequested =>
        cases hbefore : w.requested with
        | true => exact .inl ⟨rfl, hslot⟩
        | false =>
          refine .inr ⟨fun hsilent => ?_, ?_⟩
          · cases hsilent
          · obtain rfl : r = true := hanswers.trans (by rw [hbefore, Bool.not_false])
            exact hcareful.1 id
      | setCancellation id' =>
        refine .inr ⟨fun hsilent => ?_, ?_⟩
        · cases hsilent
        · cases hslot
          exact hcareful
      | beginMutation | tryLockLifecycle => cases r <;> exact .inl ⟨hrequested, hslot⟩
      | _ => exact .inl ⟨hrequested, hslot⟩
    · have hdrain := (coordinate_told h).1
      unfold ShutdownWorld.requested at hrequested ⊢
      rw [hdrain] at hrequested hslot
      exact .inl ⟨hrequested, hslot⟩

def wakerDuty : Duty D where
  slot := DrainController.waker
  done := ShutdownWorld.woken
  replies _ := WakerReplies
  serves := Wakes
  slot_same _ h := h
  done_same _ h := h
  done_mono {i w c r w'} h id hid := by
    rcases c with c | c
    · obtain ⟨_, rfl⟩ := h
      cases c with
      | wakeInstalled => exact List.mem_append_right _ hid
      | wake id' => exact List.mem_cons_of_mem _ hid
      | beginMutation | tryLockLifecycle => cases r <;> exact hid
      | _ => exact hid
    · rw [(coordinate_told h).2.2]
      exact hid
  served {i w c r w'} h id hslot hserves := by
    rcases hserves with rfl | rfl
    · obtain ⟨_, rfl⟩ := h
      exact List.mem_append_left _ (by simp [hslot])
    · obtain ⟨_, rfl⟩ := h
      exact List.mem_cons_self
  replied {i w c r w'} h id hrequested _ := by
    rcases c with c | c
    · obtain ⟨hanswers, _⟩ := h
      cases c with
      | isRequested => exact hanswers.trans hrequested
      | _ => trivial
    · trivial
  owed {i w c r w'} h id α next hcareful hrequested hslot := by
    rcases c with c | c
    · obtain ⟨hanswers, rfl⟩ := h
      cases c with
      | setRequested =>
        cases hbefore : w.requested with
        | true => exact .inl ⟨rfl, hslot⟩
        | false =>
          refine .inr ⟨fun hsilent => ?_, hcareful.2 r id⟩
          cases hsilent
      | setWaker id' =>
        refine .inr ⟨fun hsilent => ?_, ?_⟩
        · cases hsilent
        · cases hslot
          exact hcareful
      | beginMutation | tryLockLifecycle => cases r <;> exact .inl ⟨hrequested, hslot⟩
      | _ => exact .inl ⟨hrequested, hslot⟩
    · have hdrain := (coordinate_told h).1
      unfold ShutdownWorld.requested at hrequested ⊢
      rw [hdrain] at hrequested hslot
      exact .inl ⟨hrequested, hslot⟩

def Asks (w : ShutdownWorld) : Thread → Prop
  | .requester _ | .installer _ => True
  | .main => w.main.early = true
  | .client _ | .background _ => False

/-- Whatever is installed has been invoked, or a thread that asks is bound to do it. -/
structure Telling (duty : Duty D) (e : ShutdownEnsemble D) : Prop where
  careful : ∀ {i p}, e.running i = some p → p.Everywhere Careful
  silent : ∀ {i p}, e.running i = some p → ¬Asks e.world i → p.Only Silent
  told : ∀ {id}, e.world.requested = true → duty.slot e.world.drain = some id →
    id ∈ duty.done e.world ∨ ∃ i p, Asks e.world i ∧ e.running i = some p ∧
      p.Bound (duty.replies id) (duty.serves id)

variable {duty : Duty D} {e e' : ShutdownEnsemble D}

theorem Telling.call {c : (threadCalls D).Call} {r : (threadCalls D).Reply c}
    {next : (threadCalls D).Reply c → Prog (threadCalls D) (Except ShutdownError ThreadAnswer)}
    (h : Telling duty e) (hrunning : e.running i = some (.ask c next))
    (hcall : threadCall i e.world c r w') (hmain : w'.main = e.world.main) :
    Telling duty ⟨w', Function.update e.running i (some (next r))⟩ := by
  have hasks : ∀ j, Asks w' j ↔ Asks e.world j := by
    intro j
    cases j <;> simp only [Asks, hmain]
  obtain ⟨hcareful, hrest⟩ := h.careful hrunning
  refine ⟨fun {j p} hj => ?_, fun {j p} hj hnot => ?_, fun {id} hrequested hslot => ?_⟩
  · dsimp only at hj
    by_cases hji : j = i
    · subst hji
      rw [Function.update_self] at hj
      cases hj
      exact hrest r
    · rw [Function.update_of_ne hji] at hj
      exact h.careful hj
  · dsimp only at hj hnot
    rw [hasks] at hnot
    by_cases hji : j = i
    · subst hji
      rw [Function.update_self] at hj
      cases hj
      exact (h.silent hrunning hnot).2 r
    · rw [Function.update_of_ne hji] at hj
      exact h.silent hj hnot
  · -- the call may be the one that is owed, or the one from which it is owed
    rcases duty.owed hcall hcareful hrequested hslot with ⟨hbefore, hinstalled⟩ | ⟨hloud, hbound⟩
    · rcases h.told hbefore hinstalled with hdone | ⟨j, p, hj, hp, hbound⟩
      · exact .inl (duty.done_mono hcall hdone)
      · by_cases hji : j = i
        · subst hji
          cases hrunning.symm.trans hp
          rcases hbound with hserves | hbound
          · exact .inl (duty.served hcall hinstalled hserves)
          · refine .inr ⟨j, next r, (hasks j).2 hj, Function.update_self .., hbound r ?_⟩
            exact duty.replied hcall hbefore hinstalled
        · exact .inr ⟨j, p, (hasks j).2 hj, (Function.update_of_ne hji ..).trans hp, hbound⟩
    · refine .inr ⟨i, next r, (hasks i).2 ?_, Function.update_self .., hbound⟩
      by_contra hnot
      exact hloud (h.silent hrunning hnot).1

theorem main_call {c : (threadCalls D).Call} {r : (threadCalls D).Reply c}
    (h : threadCall i w c r w') : w'.main = w.main := by
  rcases c with c | c
  · obtain ⟨_, rfl⟩ := h
    cases c with
    | beginMutation | tryLockLifecycle => cases r <;> rfl
    | _ => rfl
  · exact (coordinate_frame h).main

structure SameNews (w w' : ShutdownWorld) : Prop where
  requested : w'.requested = w.requested
  cancellation : w'.drain.cancellation = w.drain.cancellation
  waker : w'.drain.waker = w.drain.waker
  cancelled : w'.cancelled = w.cancelled
  woken : w'.woken = w.woken

theorem Telling.turn {p : Option (Prog (threadCalls D) (Except ShutdownError ThreadAnswer))}
    (h : Telling duty e) (hsame : SameNews e.world w') (hmain : i ≠ .main → w'.main = e.world.main)
    (hcareful : ∀ q, p = some q → q.Everywhere Careful)
    (hsilent : ∀ q, p = some q → ¬Asks w' i → q.Only Silent)
    (hbound : ∀ id q, e.running i = some q →
      ¬(Asks e.world i ∧ q.Bound (duty.replies id) (duty.serves id))) :
    Telling duty ⟨w', Function.update e.running i p⟩ := by
  have hasks : ∀ j, j ≠ i → (Asks w' j ↔ Asks e.world j) := by
    intro j hji
    cases j with
    | main => simp only [Asks, hmain fun h => hji h.symm]
    | requester n | installer n | client n | background n => exact .rfl
  refine ⟨fun {j q} hj => ?_, fun {j q} hj hnot => ?_, fun {id} hrequested hslot => ?_⟩
  · dsimp only at hj
    by_cases hji : j = i
    · subst hji
      rw [Function.update_self] at hj
      exact hcareful q hj
    · rw [Function.update_of_ne hji] at hj
      exact h.careful hj
  · dsimp only at hj hnot
    by_cases hji : j = i
    · subst hji
      rw [Function.update_self] at hj
      exact hsilent q hj hnot
    · rw [Function.update_of_ne hji] at hj
      exact h.silent hj fun hj' => hnot ((hasks j hji).2 hj')
  · dsimp only at hrequested hslot ⊢
    rw [hsame.requested] at hrequested
    rw [duty.slot_same hsame.cancellation hsame.waker] at hslot
    rw [duty.done_same hsame.cancelled hsame.woken]
    refine (h.told hrequested hslot).imp_right ?_
    rintro ⟨j, q, hj, hq, hq'⟩
    have hji : j ≠ i := by
      rintro rfl
      exact hbound id q hq ⟨hj, hq'⟩
    exact ⟨j, q, (hasks j hji).2 hj, (Function.update_of_ne hji ..).trans hq, hq'⟩

def NobodyAsks (e : ShutdownEnsemble D) : Prop := ∀ i, Asks e.world i → e.running i = none

theorem Telling.all_told {id : Nat} (h : Telling duty e) (hrequested : e.world.requested = true)
    (hnobody : NobodyAsks e) (hslot : duty.slot e.world.drain = some id) :
    id ∈ duty.done e.world := by
  refine (h.told hrequested hslot).resolve_right ?_
  rintro ⟨i, p, hasks, hp, _⟩
  cases (hnobody i hasks).symm.trans hp

variable [DecidableEq D] {X : Codec D}

theorem begins_careful {x : ThreadAttempt D ThreadAnswer} (h : Begins X threads mainWaker w i x) :
    x.run.Everywhere Careful ∧ (¬Asks w i → x.run.Only Silent) := by
  cases h with
  | main _ =>
    refine ⟨everywhere_seq careful_extends (careful_round _) fun _ => trivial, ?_⟩
    intro hnot
    exact (silent_round (Bool.eq_false_iff.2 hnot)).seq fun _ => only_pure _
  | request =>
    exact ⟨everywhere_seq careful_extends careful_request fun _ => trivial,
      fun hnot => absurd trivial hnot⟩
  | installWaker waker =>
    exact ⟨everywhere_seq careful_extends (careful_installWaker waker) fun _ => trivial,
      fun hnot => absurd trivial hnot⟩
  | installCancellation cancellation =>
    exact ⟨everywhere_seq careful_extends (careful_installCancellation cancellation)
      fun _ => trivial, fun hnot => absurd trivial hnot⟩
  | mutation _ =>
    refine ⟨careful_of_only ?_, fun _ => ?_⟩
    all_goals exact (silent_mutation _).seq fun _ => only_pure _
  | background _ _ _ =>
    refine ⟨careful_of_only ?_, fun _ => ?_⟩
    all_goals exact (silent_backgroundTask _).seq fun _ => only_pure _

theorem Telling.step (h : Telling duty e)
    (hstep : (shutdownThreads X threads mainWaker).Step e e') : Telling duty e' := by
  cases hstep with
  | call hrunning hcall => exact h.call hrunning hcall (main_call hcall)
  | @begin i p w' hidle hbegins =>
    obtain ⟨rfl, x, hx, rfl⟩ := hbegins
    obtain ⟨hcareful, hsilent⟩ := begins_careful hx
    refine h.turn ⟨rfl, rfl, rfl, rfl, rfl⟩ (fun _ => rfl) ?_ ?_ ?_
    · rintro _ ⟨⟩
      exact hcareful
    · rintro _ ⟨⟩
      exact hsilent
    · intro id q hq
      cases hidle.symm.trans hq
  | @finish i a w' hrunning hends =>
    obtain rfl := hends
    have hsame : SameNews e.world (e.world.answered i a) ∧
        (i ≠ .main → (e.world.answered i a).main = e.world.main) := by
      unfold ShutdownWorld.answered
      split
      · exact ⟨⟨rfl, rfl, rfl, rfl, rfl⟩, fun hmain => absurd rfl hmain⟩
      · exact ⟨⟨rfl, rfl, rfl, rfl, rfl⟩, fun hmain => absurd rfl hmain⟩
      · exact ⟨⟨rfl, rfl, rfl, rfl, rfl⟩, fun _ => rfl⟩
      · exact ⟨⟨rfl, rfl, rfl, rfl, rfl⟩, fun _ => rfl⟩
    refine h.turn hsame.1 hsame.2 (fun q hq => ?_) (fun q hq => ?_) ?_
    · cases hq
    · cases hq
    · rintro id q hq ⟨_, hbound⟩
      cases hrunning.symm.trans hq
      exact hbound
  | @die i w' hdies =>
    have hsame : SameNews e.world w' ∧ w'.main = e.world.main ∧ ¬Asks e.world i := by
      cases hdies with
      | client _ | mutation _ | background _ => exact ⟨⟨rfl, rfl, rfl, rfl, rfl⟩, rfl, id⟩
    refine h.turn hsame.1 (fun _ => hsame.2.1) (fun q hq => ?_) (fun q hq => ?_) ?_
    · cases hq
    · cases hq
    · exact fun id q _ hasks => hsame.2.2 hasks.1

theorem Telling.run (hrun : (shutdownThreads X threads mainWaker).Run allIdle e) :
    Telling duty e := by
  induction hrun with
  | refl =>
    refine ⟨fun {i p} hp => ?_, fun {i p} hp => ?_, fun {id} hrequested => ?_⟩
    · cases hp
    · cases hp
    · cases hrequested
  | tail _ hstep ih => exact ih.step hstep

/-- Whatever the threads do, and in whatever order: after `wait_for_mutations` has returned true no
guard exists any more; once a shutdown has been requested, whatever is installed is invoked; and
after the Core has been stopped for the last time no candidate is applied. -/
theorem shutdown_drains (hrun : (shutdownThreads X threads mainWaker).Run allIdle e) :
    (e.world.drained = true →
      ∀ e', (shutdownThreads X threads mainWaker).Run e e' → e'.world.guards = ∅) ∧
    (e.world.requested = true → NobodyAsks e →
      (∀ id, e.world.drain.cancellation = some id → id ∈ e.world.cancelled) ∧
      ∀ id, e.world.drain.waker = some id → id ∈ e.world.woken) ∧
    (e.world.stopped = true → ∀ e', (shutdownThreads X threads mainWaker).Run e e' →
      e'.world.applies = e.world.applies) := by
  refine ⟨fun hdrained e' hrun' => guards_of_drained hrun hrun' hdrained,
    fun hrequested hnobody => ⟨fun id hslot => ?_, fun id hslot => ?_⟩,
    fun hstopped e' hrun' => applies_of_stopped hrun hrun' hstopped⟩
  · have htelling : Telling cancellationDuty e := Telling.run hrun
    exact htelling.all_told hrequested hnobody hslot
  · have htelling : Telling wakerDuty e := Telling.run hrun
    exact htelling.all_told hrequested hnobody hslot

/-- Replies with which the shutdown goes on. -/
def ShutdownWorld.reply (w : ShutdownWorld) : (c : ShutdownCall) → c.Reply
  | .setRequested | .beginMutation => !w.requested
  | .isRequested => w.requested
  | .cancellation => w.drain.cancellation
  | .activeMutations => w.drain.state.activeMutations
  | .now => w.now
  | .backgroundShutdownIsRequested => w.backgroundShutdown
  | .isFinished thread => decide (thread ∈ w.finished)
  | .tryLockLifecycle => if w.lifecycleLock = none then .acquired else .wouldBlock
  | .waitReady _ | .join _ => false
  | .signalRequested | .observerIsFinished => true
  | .cancelPendingApply _ | .joinObserver | .stopCore _ | .closeOwnerSession _
  | .shutdownIpcServer | .shutdownControlServer => .ok ()
  | .cancel _ | .wakeInstalled | .wake _ | .setWaker _ | .setCancellation _ | .dropMutation
  | .waitWaker | .sleep | .requestBackgroundShutdown | .requestObserverShutdown | .unlockLifecycle
  | .deferCleanup | .endTransaction => ()

theorem ShutdownWorld.answers_reply (w : ShutdownWorld) (c : ShutdownCall) :
    w.Answers c (w.reply c) := by
  cases c with
  | tryLockLifecycle =>
    intro hacquired
    by_contra hheld
    rw [reply, if_neg hheld] at hacquired
    cases hacquired
  | now => exact le_rfl
  | _ => first | rfl | trivial

abbrev Scene := ShutdownWorld × Store Bytes × PortWorld Unit × Option ManagedCoreHandle

/-- Whatever a thread asks for succeeds, unless a lock is held. -/
def obedientThread (i : Thread) : Handler (threadCalls Bytes) Scene
  | (w, v), .inl c => (w.reply c, w.after i c (w.reply c), v)
  | (w, v), .inr (.inr .lockCoordinator) =>
    if w.coordinatorLock = none then (.ok (), { w with coordinatorLock := some i }, v)
    else (.error (), w, v)
  | (w, v), .inr (.inr .lockLifecycle) =>
    if w.lifecycleLock = none then (.ok (), { w with lifecycleLock := some i }, v)
    else (.error (), w, v)
  | (w, v), .inr (.inr .shutdownIsRequested) => (w.shutdownRequested, w, v)
  | (w, v), .inr (.inr (.applyCandidate bundle)) =>
    let (r, v') := obedientPorts (D := Bytes) pruneNothing sampleRevisions v.2
      (.applyCandidate bundle)
    (r, { w with applies := w.applies + 1 }, v.1, v')
  | (w, v), .inr c =>
    let (r, v') := performFile.sum (obedientPorts pruneNothing sampleRevisions) v c
    (r, w, v')

theorem threadCall_of_obedient (u : Scene) (c : (threadCalls Bytes).Call)
    (r : (threadCalls Bytes).Reply c) (u' : Scene)
    (h : (obedientThread i).reliable u c r u') : threadCall i u.1 c r u'.1 := by
  rcases c with c | c | c
  · cases h
    exact ⟨u.1.answers_reply c, rfl⟩
  · cases h
    rfl
  · cases c with
    | lockCoordinator | lockLifecycle =>
      simp only [Handler.reliable, obedientThread] at h
      split at h
      · rename_i hfree
        cases h
        exact ⟨hfree, rfl⟩
      · cases h
        rfl
    | shutdownIsRequested =>
      cases h
      exact ⟨rfl, rfl⟩
    | _ =>
      cases h
      rfl

variable {running : Thread → Option (Prog (threadCalls Bytes) (Except ShutdownError ThreadAnswer))}

def finish (i : Thread) (p : Prog (threadCalls Bytes) (Except ShutdownError ThreadAnswer))
    (u : Scene) : Scene :=
  let done := p.run (obedientThread i) u
  (done.2.1.answered i done.1, done.2.2)

theorem finish_run (u : Scene) (hidle : running i = none) :
    (shutdownThreads Plain.codec 1 0).Run ⟨u.1, Function.update running i (some p)⟩
      ⟨(finish i p u).1, running⟩ :=
  .rest hidle ((Prog.finishes_reliable.2 rfl).map Prod.fst threadCall_of_obedient) rfl

theorem alone_run (u : Scene) {x : ThreadAttempt Bytes ThreadAnswer}
    (hidle : running i = none) (hbegins : Begins Plain.codec 1 0 u.1 i x) :
    (shutdownThreads Plain.codec 1 0).Run ⟨u.1, running⟩ ⟨(finish i x.run u).1, running⟩ :=
  .head (.begin hidle ⟨rfl, x, hbegins, rfl⟩) (finish_run u hidle)

def MainPhase.ongoing : MainPhase → Bool
  | .ended _ => false
  | _ => true

def round (u : Scene) : Scene :=
  finish .main (do
    let phase ← u.1.main.round 1 0
    return .phase phase : ThreadAttempt Bytes ThreadAnswer).run u

theorem rounds_run (n : Nat) (u : Scene) (hidle : running .main = none)
    (hongoing : ∀ k < n, (round^[k] u).1.main.ongoing = true) :
    (shutdownThreads Plain.codec 1 0).Run ⟨u.1, running⟩ ⟨(round^[n] u).1, running⟩ := by
  induction n with
  | zero => exact .refl
  | succ n ih =>
    rw [Function.iterate_succ_apply']
    refine (ih fun k hk => hongoing k (Nat.lt_succ_of_lt hk)).trans
      (alone_run _ hidle (.main ?_))
    intro result hended
    have hlast := hongoing n (Nat.lt_succ_self n)
    rw [hended] at hlast
    cases hlast

theorem transaction_execute : ∀ transaction ∈ [execute Plain.codec firstCandidate],
    Transaction Plain.codec transaction := by
  intro transaction h
  rw [List.mem_singleton.1 h]
  exact .execute firstCandidate

def background (transactions : Transactions Bytes) :
    ThreadAttempt Bytes ThreadAnswer := do
  let ended ← backgroundTask transactions
  return if ended then .over else .returned

def started : Scene := round^[1] (.start, stagedStore, idlePorts (), none)

def installed : Scene :=
  finish (.installer 0) (do
    installCancellation 5
    return .returned : ThreadAttempt Bytes ThreadAnswer).run started

/-- A background thread has applied a candidate. -/
def applied : Scene :=
  finish (.background 0) (background [execute Plain.codec firstCandidate]).run installed

/-- A client has begun a mutation. -/
def guarded : Prog (threadCalls Bytes) (Except ShutdownError ThreadAnswer) ×
    Scene :=
  (do
    mutation [execute Plain.codec firstCandidate]
    return .returned : ThreadAttempt Bytes ThreadAnswer).run.advance (obedientThread (.client 0)) 1
    applied

/-- The signal has come, and the background thread has ended. -/
def ended : Scene :=
  finish (.background 0) (background []).run (round^[2] guarded.2)

/-- The main thread has waited for the client, whose transaction has failed. -/
def released : Scene :=
  finish (.client 0) guarded.1 (round^[3] ended)

theorem run_to_stop : ∃ u : Scene,
    (shutdownThreads Plain.codec 1 0).Run allIdle ⟨u.1, fun _ => none⟩ ∧ u.1.drained = true ∧
      u.1.stopped = true ∧ u.1.requested = true ∧ u.1.drain.waker = some 0 ∧
      u.1.drain.cancellation = some 5 ∧ u.1.applies = 1 := by
  have hongoing : (∀ k < 2, (round^[k] guarded.2).1.main.ongoing = true) ∧
      (∀ k < 3, (round^[k] ended).1.main.ongoing = true) ∧
      ∀ k < 4, (round^[k] released).1.main.ongoing = true := by decide +kernel
  have hfinished : 0 ∉ installed.1.finished ∧ 0 ∉ (round^[2] guarded.2).1.finished := by
    decide +kernel
  refine ⟨round^[4] released, ?_, by decide +kernel⟩
  refine .trans (rounds_run 1 (.start, stagedStore, idlePorts (), none) rfl (by decide)) ?_
  refine .trans (alone_run (i := .installer 0) started rfl (.installCancellation 5)) ?_
  refine .trans (alone_run (i := .background 0) installed rfl
    (.background Nat.zero_lt_one hfinished.1 transaction_execute)) ?_
  refine .head (.begin (i := .client 0) rfl ⟨rfl, _, .mutation transaction_execute, rfl⟩) ?_
  refine .trans (Run.advance threadCall_of_obedient 1 _ applied) ?_
  refine .trans (rounds_run 2 guarded.2 rfl hongoing.1) ?_
  refine .trans (alone_run (i := .background 0) (x := background []) _ rfl
    (.background Nat.zero_lt_one hfinished.2 nofun)) ?_
  refine .trans (rounds_run 3 ended rfl hongoing.2.1) ?_
  exact .trans (finish_run _ rfl) (rounds_run 4 released rfl hongoing.2.2)

theorem shutdown_drains_signalled : ∃ e : ShutdownEnsemble Bytes,
    (shutdownThreads Plain.codec 1 0).Run allIdle e ∧ e.world.stopped = true ∧
      e.world.applies = 1 ∧ 5 ∈ e.world.cancelled ∧ 0 ∈ e.world.woken ∧
      ∀ e', (shutdownThreads Plain.codec 1 0).Run e e' →
        e'.world.guards = ∅ ∧ e'.world.applies = 1 := by
  obtain ⟨u, hrun, hdrained, hstopped, hrequested, hwaker, hcancellation, happlied⟩ := run_to_stop
  obtain ⟨hguards, htold, happlies⟩ := shutdown_drains hrun
  obtain ⟨hcancelled, hwoken⟩ := htold hrequested fun _ _ => rfl
  exact ⟨_, hrun, hstopped, happlied, hcancelled 5 hcancellation, hwoken 0 hwaker,
    fun e' hrun' => ⟨hguards hdrained e' hrun', (happlies hstopped e' hrun').trans happlied⟩⟩

end Production

end Ratash
