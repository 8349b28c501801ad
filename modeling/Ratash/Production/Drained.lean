import Ratash.Production.Drain

/-! What one thread may do to the shared objects is said once. -/

namespace Ratash

open Interaction Interaction.Processes Attempt

namespace Production

variable {D : Type} {threads mainWaker : Nat} {i : Thread} {w w' : ShutdownWorld}

def Drained (w : ShutdownWorld) : Prop := w.requested = true ∧ w.guards = ∅

def Joined (threads : Nat) (w : ShutdownWorld) : Prop := ∀ n < threads, n ∈ w.finished

structure Acts (threads : Nat) (i : Thread) (w w' : ShutdownWorld) : Prop where
  requested : w.requested = true → w'.requested = true
  now : w.now ≤ w'.now
  finished : ∀ n, n ∈ w.finished → n ∈ w'.finished
  own : ∀ n, i ≠ .background n → (n ∈ w'.finished ↔ n ∈ w.finished)
  guards : ∀ j, j ≠ i → (j ∈ w'.guards ↔ j ∈ w.guards)
  entered : w.requested = true → i ∈ w'.guards → i ∈ w.guards
  counted : w.drain.state.activeMutations = w.guards.card →
    w'.drain.state.activeMutations = w'.guards.card
  main : i ≠ .main → w'.main = w.main
  applies : w'.applies = w.applies ∨ i ∈ w.guards ∨
    ∃ n < threads, i = .background n ∧ n ∉ w.finished
  drained : w'.drained = true → w.drained = true ∨ Drained w'
  stopped : w'.stopped = true → w.stopped = true ∨ Drained w' ∧ Joined threads w'

structure Frame (w w' : ShutdownWorld) : Prop where
  state : w'.drain.state = w.drain.state
  now : w.now ≤ w'.now
  finished : w'.finished = w.finished
  guards : w'.guards = w.guards
  main : w'.main = w.main
  applies : w'.applies = w.applies
  drained : w'.drained = w.drained
  stopped : w'.stopped = w.stopped

theorem Frame.refl (w : ShutdownWorld) : Frame w w :=
  ⟨rfl, le_rfl, rfl, rfl, rfl, rfl, rfl, rfl⟩

theorem Frame.acts (h : Frame w w') : Acts threads i w w' where
  requested := by
    unfold ShutdownWorld.requested
    rw [h.state]
    exact id
  now := h.now
  finished n hn := h.finished ▸ hn
  own n _ := by rw [h.finished]
  guards j _ := by rw [h.guards]
  entered _ hi := h.guards ▸ hi
  counted hcount := by rw [h.state, h.guards, hcount]
  main _ := h.main
  applies := .inl h.applies
  drained hd := .inl (h.drained ▸ hd)
  stopped hs := .inl (h.stopped ▸ hs)

theorem Acts.unguarded {j : Thread} (h : Acts threads i w w') (hrequested : w.requested = true)
    (hj : j ∉ w.guards) : j ∉ w'.guards := by
  by_cases hji : j = i
  · subst hji
    exact fun hin => hj (h.entered hrequested hin)
  · exact fun hin => hj ((h.guards j hji).1 hin)

def Lasting (threads : Nat) (P : ShutdownWorld → Prop) : Prop :=
  ∀ i w w', Acts threads i w w' → P w → P w'

variable {P : ShutdownWorld → Prop}

theorem Lasting.stable (h : Lasting threads P) (i : Thread) :
    StableUnder (Others (Acts threads) i) P :=
  fun w w' ⟨j, _, hacts⟩ hP => h j w w' hacts hP

theorem Lasting.and {Q : ShutdownWorld → Prop} (hP : Lasting threads P) (hQ : Lasting threads Q) :
    Lasting threads fun w => P w ∧ Q w :=
  fun i w w' hacts h => ⟨hP i w w' hacts h.1, hQ i w w' hacts h.2⟩

theorem lasting_true : Lasting threads fun _ => True := fun _ _ _ _ _ => trivial

theorem lasting_finished (n : Nat) : Lasting threads fun w => n ∈ w.finished :=
  fun _ _ _ hacts h => hacts.finished n h

theorem lasting_drained : Lasting threads Drained := by
  intro i w w' hacts ⟨hrequested, hnone⟩
  refine ⟨hacts.requested hrequested, Finset.eq_empty_of_forall_notMem fun j => ?_⟩
  apply hacts.unguarded hrequested
  rw [hnone]
  exact Finset.notMem_empty j

theorem lasting_joined : Lasting threads (Joined threads) :=
  fun _ _ _ hacts h n hn => hacts.finished n (h n hn)

structure Inv (threads : Nat) (w : ShutdownWorld) : Prop where
  counted : w.drain.state.activeMutations = w.guards.card
  drained : w.drained = true → Drained w
  stopped : w.stopped = true → Drained w ∧ Joined threads w

theorem lasting_inv : Lasting threads (Inv threads) := by
  intro i w w' hacts h
  have hdrained := lasting_drained i w w' hacts
  have hjoined := lasting_joined i w w' hacts
  refine ⟨hacts.counted h.counted, fun hd => ?_, fun hs => ?_⟩
  · rcases hacts.drained hd with hbefore | hnow
    · exact hdrained (h.drained hbefore)
    · exact hnow
  · rcases hacts.stopped hs with hbefore | hnow
    · exact ⟨hdrained (h.stopped hbefore).1, hjoined (h.stopped hbefore).2⟩
    · exact hnow

def ShutdownCall.plain : ShutdownCall → Bool
  | .setRequested | .beginMutation | .dropMutation | .stopCore _ => false
  | _ => true

variable {c : ShutdownCall}

theorem frame_after {r : c.Reply} (hc : c.plain = true) (h : w.Answers c r) :
    Frame w (w.after i c r) := by
  cases c with
  | setRequested | beginMutation | dropMutation | stopCore _ => cases hc
  | now => exact ⟨rfl, h, rfl, rfl, rfl, rfl, rfl, rfl⟩
  | tryLockLifecycle => cases r <;> exact ⟨rfl, le_rfl, rfl, rfl, rfl, rfl, rfl, rfl⟩
  | _ => exact ⟨rfl, le_rfl, rfl, rfl, rfl, rfl, rfl, rfl⟩

theorem coordinate_frame {c : (coordinatorCalls D).Call} {r : (coordinatorCalls D).Reply c}
    (h : w.coordinate i c r w') : Frame w { w' with applies := w.applies } := by
  unfold ShutdownWorld.coordinate at h
  split at h
  all_goals
    obtain ⟨_, rfl⟩ := h
    exact ⟨rfl, le_rfl, rfl, rfl, rfl, rfl, rfl, rfl⟩

theorem acts_setRequested : Acts threads i w (w.after i .setRequested r) where
  requested _ := rfl
  now := le_rfl
  finished _ h := h
  own _ _ := .rfl
  guards _ _ := .rfl
  entered _ h := h
  counted h := h
  main _ := rfl
  applies := .inl rfl
  drained h := .inl h
  stopped h := .inl h

abbrev Behaves (threads : Nat) (i : Thread) (P : ShutdownWorld → Prop) (x : ThreadAttempt D α)
    (Q : Except ShutdownError α → ShutdownWorld → Prop) : Prop :=
  Abides (threadCall i) (Others (Acts threads) i) (Acts threads i) P x Q

section

variable {P : ShutdownWorld → Prop} {Q : Except ShutdownError β → ShutdownWorld → Prop}
  {f : c.Reply → ThreadAttempt D β}

theorem behaves_call_seq {R : c.Reply → ShutdownWorld → Prop}
    (hP : StableUnder (Others (Acts threads) i) P) (hcall : ∀ w r, P w → w.Answers c r →
      Acts threads i w (w.after i c r) ∧ R r (w.after i c r))
    (hf : ∀ r, Behaves threads i (R r) (f r) Q) : Behaves threads i P (call c >>= f) Q := by
  apply Abides.seq (R := fun r w => ∃ a, r = .ok a ∧ R a w)
  · apply abides_lift hP
    rintro w r w' hw ⟨hanswers, rfl⟩
    obtain ⟨hacts, hR⟩ := hcall w r hw hanswers
    exact ⟨hacts, r, rfl, hR⟩
  · intro a
    apply (hf a).mono _ fun _ _ h => h
    rintro w ⟨b, hb, hR⟩
    cases hb
    exact hR
  · rintro e w ⟨a, ha, _⟩
    cases ha

theorem behaves_plain_seq {F : c.Reply → ShutdownWorld → Prop} (hc : c.plain = true)
    (hP : Lasting threads P) (hfact : ∀ w r, P w → w.Answers c r → F r (w.after i c r))
    (hf : ∀ r, Behaves threads i (fun w => P w ∧ F r w) (f r) Q) :
    Behaves threads i P (call c >>= f) Q := by
  apply behaves_call_seq (hP.stable i) _ hf
  intro w r hw hanswers
  have hacts : Acts threads i w (w.after i c r) := (frame_after hc hanswers).acts
  exact ⟨hacts, hP i _ _ hacts hw, hfact w r hw hanswers⟩

theorem behaves_skip_seq (hc : c.plain = true) (hP : Lasting threads P)
    (hf : ∀ r, Behaves threads i P (f r) Q) : Behaves threads i P (call c >>= f) Q := by
  apply behaves_plain_seq (F := fun _ _ => True) hc hP (fun _ _ _ _ => trivial)
  intro r
  exact (hf r).mono (fun _ h => h.1) fun _ _ h => h

def Harmless : (threadCalls D).Call → Prop
  | .inl c => c.plain = true ∨ c = .setRequested
  | .inr _ => False

theorem Harmless.acts {c : (threadCalls D).Call} {r : (threadCalls D).Reply c} (hc : Harmless c)
    (h : threadCall i w c r w') : Acts threads i w w' := by
  rcases c with c | c
  · obtain ⟨hanswers, rfl⟩ := h
    rcases hc with hplain | rfl
    · exact (frame_after hplain hanswers).acts
    · exact acts_setRequested
  · cases hc

theorem harmless_behaves {x : ThreadAttempt D α} (hx : Only Harmless x)
    (hP : Lasting threads P) : Behaves threads i P x fun _ => P := by
  apply hx.abides (hP.stable i)
  intro w c r w' hc hw hstep
  have hacts : Acts threads i w w' := hc.acts hstep
  exact ⟨hacts, hP i w w' hacts hw⟩

theorem only_plain (hc : c.plain = true) : Only Harmless (call c : ThreadAttempt D c.Reply) :=
  only_lift (.inl hc)

theorem only_request : Only Harmless (request : ThreadAttempt D Unit) := by
  have hcancel : Only Harmless (cancelInstalled : ThreadAttempt D Unit) := by
    apply (only_plain rfl).seq
    intro cancellation
    split
    · exact only_plain rfl
    · exact only_pure ()
  have hset : Only Harmless (call .setRequested : ThreadAttempt D Bool) :=
    only_lift (.inr rfl)
  exact hset.seq fun _ => hcancel.whenever.seq fun _ => only_plain rfl

theorem only_installWaker (waker : Nat) :
    Only Harmless (installWaker waker : ThreadAttempt D Unit) := by
  apply (only_plain rfl).seq
  intro _
  apply (only_plain rfl).seq
  intro requested
  split
  · exact only_plain rfl
  · exact only_pure ()

theorem only_installCancellation (cancellation : Nat) :
    Only Harmless (installCancellation cancellation : ThreadAttempt D Unit) := by
  apply (only_plain rfl).seq
  intro _
  apply (only_plain rfl).seq
  intro requested
  split
  · exact only_plain rfl
  · exact only_pure ()

end

def Ok (threads : Nat) : MainPhase → ShutdownWorld → Prop
  | .cancelling, w => w.requested = true
  | .joining deadline _ rest _ _, w =>
    w.requested = true ∧ ∀ n < threads, n ∈ rest ∨ n ∈ w.finished ∨ deadline ≤ w.now
  | .observing deadline _, w =>
    w.requested = true ∧ ∀ n < threads, n ∈ w.finished ∨ deadline ≤ w.now
  | .draining _ _ active _, w =>
    w.requested = true ∧ Joined threads w ∧ (active = 0 → Drained w)
  | .locking _ _, w | .stopping _ _, w => Drained w ∧ Joined threads w
  | _, _ => True

theorem lasting_ok (phase : MainPhase) : Lasting threads (Ok threads phase) := by
  intro i w w' hacts h
  cases phase with
  | cancelling => exact hacts.requested h
  | joining deadline _ rest _ _ =>
    refine ⟨hacts.requested h.1, fun n hn => (h.2 n hn).imp_right (Or.imp ?_ ?_)⟩
    · exact hacts.finished n
    · exact fun hlate => hlate.trans hacts.now
  | observing deadline _ =>
    refine ⟨hacts.requested h.1, fun n hn => (h.2 n hn).imp ?_ ?_⟩
    · exact hacts.finished n
    · exact fun hlate => hlate.trans hacts.now
  | draining _ _ active _ =>
    exact ⟨hacts.requested h.1, lasting_joined i w w' hacts h.2.1,
      fun hactive => lasting_drained i w w' hacts (h.2.2 hactive)⟩
  | locking _ _ | stopping _ _ =>
    exact ⟨lasting_drained i w w' hacts h.1, lasting_joined i w w' hacts h.2⟩
  | starting | waiting | closing _ _ _ | servers _ | ended _ => trivial

abbrev Leads (threads : Nat) (P : ShutdownWorld → Prop) (x : ThreadAttempt D MainPhase) : Prop :=
  Behaves threads .main P x fun r w => ∀ phase, r = .ok phase → Ok threads phase w

section

variable {P : ShutdownWorld → Prop}

theorem leads_return {phase : MainPhase} (h : ∀ w, P w → Ok threads phase w) :
    Leads threads P (return phase : ThreadAttempt D MainPhase) := by
  apply abides_pure
  rintro w hw _ ⟨⟩
  exact h w hw

theorem remainingShutdownBudget_behaves {G : ShutdownWorld → Prop} (deadline : Nat)
    (hP : Lasting threads P) (hgain : ∀ w, P w → w.now < deadline → G w) :
    Behaves threads i P (remainingShutdownBudget deadline : ThreadAttempt D Nat)
      (fun r w => P w ∧ (r.isOk = true → G w)) := by
  apply behaves_plain_seq (F := fun now w => now < deadline → G w) rfl hP
  · intro w now hw hanswers hearly
    refine hgain _ ?_ hearly
    exact hP i _ _ (frame_after rfl hanswers).acts hw
  intro now
  apply abides_require_seq
  · intro hleft
    apply abides_pure
    exact fun w hw => ⟨hw.1, fun _ => hw.2 (Nat.lt_of_sub_ne_zero hleft)⟩
  · intro _ w hw
    refine ⟨hw.1, fun hok => ?_⟩
    cases hok

theorem only_remainingShutdownBudget (deadline : Nat) :
    Only Harmless (remainingShutdownBudget deadline : ThreadAttempt D Nat) :=
  (only_plain rfl).seq fun _ => (only_require _).seq fun _ => only_pure _

theorem coreDone_leads (hP : Lasting threads P) (results : ShutdownResults) (drain : IoResult) :
    Leads threads P (coreDone results drain : ThreadAttempt D MainPhase) := by
  have hphase : Behaves threads .main P
      (whenever ((results.cancel.and drain).isOk = false) (call .deferCleanup) :
        ThreadAttempt D Unit) fun _ => P :=
    harmless_behaves (only_plain rfl).whenever hP
  apply hphase.seq
  · exact fun _ => leads_return fun _ _ => trivial
  · rintro e w _ phase ⟨⟩

theorem waitUntilFinished_behaves {F : ShutdownWorld → Prop} {isFinished : ThreadAttempt D Bool}
    (deadline : Nat) (hP : Lasting threads P)
    (hfinished : Behaves threads i P isFinished fun r w => P w ∧ (r = .ok true → F w)) :
    Behaves threads i P (waitUntilFinished isFinished deadline) (fun r w => P w ∧
      (r = .ok (some true) → F w) ∧ (r = .ok (some false) → deadline ≤ w.now)) := by
  apply hfinished.seq
  · intro finished
    split
    · apply abides_pure
      refine fun w hw => ⟨hw.1, fun _ => hw.2 ?_, fun h => ?_⟩
      · subst finished
        rfl
      · cases h
    · apply Abides.mono _ (fun w hw => hw.1) fun _ _ h => h
      apply behaves_plain_seq (F := fun now w => now ≤ w.now) rfl hP
      · exact fun w now _ _ => le_rfl
      intro now
      split
      · rename_i hlate
        apply abides_pure
        refine fun w hw => ⟨hw.1, fun h => ?_, fun _ => ?_⟩
        · cases h
        · exact (Nat.sub_eq_zero_iff_le.1 hlate).trans hw.2
      · apply Abides.mono _ (fun w hw => hw.1) fun _ _ h => h
        apply behaves_skip_seq rfl hP
        intro _
        apply abides_pure
        refine fun w hw => ⟨hw, fun h => ?_, fun h => ?_⟩
        · cases h
        · cases h
  · intro e w hw
    refine ⟨hw.1, fun h => ?_, fun h => ?_⟩
    · cases h
    · cases h

theorem isFinished_behaves (n : Nat) (hP : Lasting threads P) :
    Behaves threads i P (call (.isFinished n) : ThreadAttempt D Bool)
      (fun r w => P w ∧ (r = .ok true → n ∈ w.finished)) := by
  apply abides_lift (hP.stable i)
  rintro w r w' hw ⟨hanswers, heq⟩
  have hacts : Acts threads i w (w.after i (.isFinished n) r) := (frame_after rfl hanswers).acts
  rw [heq]
  refine ⟨hacts, hP i _ _ hacts hw, fun hr => ?_⟩
  cases hr
  exact of_decide_eq_true hanswers.symm

theorem observerIsFinished_behaves (hP : Lasting threads P) :
    Behaves threads i P (call .observerIsFinished : ThreadAttempt D Bool)
      (fun r w => P w ∧ (r = .ok true → True)) :=
  (harmless_behaves (only_plain rfl) hP).mono (fun _ h => h) fun _ _ h => ⟨h, fun _ => trivial⟩

theorem beginDrain_leads (deadline : Nat) (results : ShutdownResults) :
    Leads threads (fun w => Inv threads w ∧ Ok threads (.observing deadline results) w)
      (beginDrain deadline results : ThreadAttempt D MainPhase) := by
  have hP : Lasting threads fun w => Inv threads w ∧ Ok threads (.observing deadline results) w :=
    lasting_inv.and (lasting_ok _)
  have hbudget : Behaves threads .main _ (remainingShutdownBudget deadline : ThreadAttempt D Nat)
      _ := remainingShutdownBudget_behaves (G := Joined threads) deadline hP
    fun w hw hearly n hn => (hw.2.2 n hn).resolve_right (Nat.not_le_of_lt hearly)
  apply hbudget.result
  intro remaining
  cases remaining with
  | error e =>
    exact (coreDone_leads hP results _).mono (fun _ h => h.1) fun _ _ h => h
  | ok remaining =>
    have hJ : Lasting threads fun w =>
        (Inv threads w ∧ Ok threads (.observing deadline results) w) ∧ Joined threads w :=
      hP.and lasting_joined
    refine Abides.mono (P := fun w => (Inv threads w ∧
      Ok threads (.observing deadline results) w) ∧ Joined threads w) ?_
      (fun w h => ⟨h.1, h.2 rfl⟩) fun _ _ h => h
    apply behaves_skip_seq rfl hJ
    intro now
    apply behaves_plain_seq (F := fun active w => active = 0 → Drained w) rfl hJ
    · intro w active hw hactive hzero
      exact ⟨hw.1.2.1, Finset.card_eq_zero.1 (hw.1.1.counted ▸ hactive.symm.trans hzero)⟩
    intro active
    exact leads_return fun w hw => ⟨hw.1.1.2.1, hw.1.2, hw.2⟩

theorem leads_harmless_seq {x : ThreadAttempt D α} {f : α → ThreadAttempt D MainPhase}
    (hx : Only Harmless x) (hP : Lasting threads P)
    (hf : ∀ a, Leads threads P (f a)) : Leads threads P (x >>= f) := by
  apply (harmless_behaves hx hP).seq hf
  rintro e w _ phase ⟨⟩

theorem waiting_leads : Leads threads (fun _ => True)
      ((MainPhase.waiting).round threads mainWaker : ThreadAttempt D MainPhase) := by
  apply leads_harmless_seq (only_plain rfl) lasting_true
  intro signalled
  apply leads_harmless_seq (only_request.whenever) lasting_true
  intro _
  apply behaves_plain_seq (F := fun requested w => requested = true → w.requested = true) rfl
    lasting_true
  · intro w requested _ hrequested htrue
    exact hrequested.symm.trans htrue
  intro requested
  split
  · rename_i htrue
    exact leads_return fun w hw => hw.2 htrue
  · refine Abides.mono (P := fun _ => True) ?_ (fun _ _ => trivial) fun _ _ h => h
    exact leads_harmless_seq (only_plain rfl) lasting_true fun _ => leads_return fun _ _ => trivial

theorem cancelling_leads : Leads threads (Ok threads .cancelling)
      ((MainPhase.cancelling).round threads mainWaker : ThreadAttempt D MainPhase) := by
  have hP : Lasting threads (Ok threads .cancelling) := lasting_ok _
  apply leads_harmless_seq (only_plain rfl) hP
  intro now
  apply leads_harmless_seq _ hP
  · intro cancel
    apply leads_harmless_seq (only_plain rfl) hP
    intro _
    exact leads_return fun w hw => ⟨hw, fun n hn => .inl (List.mem_range.2 hn)⟩
  · exact ((only_remainingShutdownBudget _).seq fun _ => (only_plain rfl).seq fun _ =>
      only_okOr _ _).result

theorem joining_leads (deadline : Nat) (cancel : IoResult) (rest : List Nat)
    (timedOut panicked : Nat) :
    Leads threads (Ok threads (.joining deadline cancel rest timedOut panicked))
      ((MainPhase.joining deadline cancel rest timedOut panicked).round threads mainWaker :
        ThreadAttempt D MainPhase) := by
  have hP : Lasting threads (Ok threads (.joining deadline cancel rest timedOut panicked)) :=
    lasting_ok _
  cases rest with
  | nil =>
    apply leads_harmless_seq (only_plain rfl) hP
    intro _
    exact leads_return fun w hw => ⟨hw.1, fun n hn => (hw.2 n hn).resolve_left List.not_mem_nil⟩
  | cons thread rest =>
    apply (waitUntilFinished_behaves deadline hP (isFinished_behaves thread hP)).seq
    · rintro (_ | _ | _)
      · exact leads_return fun w hw => hw.1
      · apply leads_return
        rintro w ⟨⟨hrequested, hrest⟩, _, hlate⟩
        refine ⟨hrequested, fun n hn => ?_⟩
        rcases hrest n hn with hin | hdone
        · rcases List.mem_cons.1 hin with rfl | hin
          · exact .inr (.inr (hlate rfl))
          · exact .inl hin
        · exact .inr hdone
      · have hdone : Lasting threads fun w =>
            Ok threads (.joining deadline cancel (thread :: rest) timedOut panicked) w ∧
              thread ∈ w.finished :=
          hP.and (lasting_finished thread)
        refine Abides.mono (leads_harmless_seq (only_plain rfl) hdone ?_)
          (fun w hw => ⟨hw.1, hw.2.1 rfl⟩) fun _ _ h => h
        intro threadPanicked
        apply leads_return
        rintro w ⟨⟨hrequested, hrest⟩, hfinished⟩
        refine ⟨hrequested, fun n hn => ?_⟩
        rcases hrest n hn with hin | hdone
        · rcases List.mem_cons.1 hin with rfl | hin
          · exact .inr (.inl hfinished)
          · exact .inl hin
        · exact .inr hdone
    · rintro e w _ phase ⟨⟩

theorem observing_leads (deadline : Nat) (results : ShutdownResults) :
    Leads threads (fun w => Inv threads w ∧ Ok threads (.observing deadline results) w)
      ((MainPhase.observing deadline results).round threads mainWaker :
        ThreadAttempt D MainPhase) := by
  have hP : Lasting threads fun w => Inv threads w ∧ Ok threads (.observing deadline results) w :=
    lasting_inv.and (lasting_ok _)
  have hwait : Behaves threads .main _
      (waitUntilFinished (call .observerIsFinished : ThreadAttempt D Bool) deadline) _ :=
    waitUntilFinished_behaves deadline hP (observerIsFinished_behaves hP)
  apply hwait.seq
  · rintro (_ | _ | _)
    · exact leads_return fun w hw => hw.1.2
    · exact (beginDrain_leads deadline _).mono (fun _ h => h.1) fun _ _ h => h
    · refine Abides.mono (leads_harmless_seq (only_plain rfl) hP ?_) (fun _ h => h.1)
        fun _ _ h => h
      exact fun joined => (beginDrain_leads deadline _).mono (fun _ h => h) fun _ _ h => h
  · rintro e w _ phase ⟨⟩

theorem draining_leads (deadline waitDeadline active : Nat) (results : ShutdownResults) :
    Leads threads
      (fun w => Inv threads w ∧ Ok threads (.draining deadline waitDeadline active results) w)
      ((MainPhase.draining deadline waitDeadline active results).round threads mainWaker :
        ThreadAttempt D MainPhase) := by
  have hP : Lasting threads fun w =>
      Inv threads w ∧ Ok threads (.draining deadline waitDeadline active results) w :=
    lasting_inv.and (lasting_ok _)
  simp only [MainPhase.round]
  split
  · rename_i hzero
    exact leads_return fun w hw => ⟨hw.2.2.2 hzero, hw.2.2.1⟩
  apply leads_harmless_seq (only_plain rfl) hP
  intro now
  split
  · exact coreDone_leads hP _ _
  apply leads_harmless_seq (only_plain rfl) hP
  intro timedOut
  apply behaves_plain_seq (F := fun active w => active = 0 → Drained w) rfl hP
  · intro w active' hw hactive hzero
    exact ⟨hw.2.1, Finset.card_eq_zero.1 (hw.1.counted ▸ hactive.symm.trans hzero)⟩
  intro active'
  split
  · exact (coreDone_leads hP _ _).mono (fun _ h => h.1) fun _ _ h => h
  · exact leads_return fun w hw => ⟨hw.1.2.1, hw.1.2.2.1, hw.2⟩

theorem locking_leads (deadline : Nat) (results : ShutdownResults) :
    Leads threads (Ok threads (.locking deadline results))
      ((MainPhase.locking deadline results).round threads mainWaker :
        ThreadAttempt D MainPhase) := by
  have hP : Lasting threads (Ok threads (.locking deadline results)) := lasting_ok _
  apply leads_harmless_seq (only_plain rfl) hP
  rintro (_ | _ | _)
  · exact leads_return fun w hw => hw
  · exact leads_return fun w _ => trivial
  · apply leads_harmless_seq (only_remainingShutdownBudget deadline).result hP
    rintro (_ | _)
    · exact leads_return fun w _ => trivial
    · exact leads_harmless_seq (only_plain rfl) hP fun _ => leads_return fun w hw => hw

theorem stopping_leads (deadline : Nat) (results : ShutdownResults) :
    Leads threads (Ok threads (.stopping deadline results))
      ((MainPhase.stopping deadline results).round threads mainWaker :
        ThreadAttempt D MainPhase) := by
  have hP : Lasting threads (Ok threads (.stopping deadline results)) := lasting_ok _
  have hstop : Behaves threads .main (Ok threads (.stopping deadline results))
      (do
        let remaining ← remainingShutdownBudget deadline
        let stopped ← call (.stopCore remaining)
        okOr stopped .coreNotStopped : ThreadAttempt D Unit)
      fun _ => Ok threads (.stopping deadline results) := by
    apply (harmless_behaves (only_remainingShutdownBudget deadline) hP).seq
    · intro remaining
      apply behaves_call_seq (R := fun _ => Ok threads (.stopping deadline results)) (hP.stable _)
      · intro w r hw _
        refine ⟨?_, hw⟩
        exact ⟨id, le_rfl, fun _ h => h, fun _ _ => .rfl, fun _ _ => .rfl, fun _ h => h, id,
          fun _ => rfl, .inl rfl, .inl, fun _ => .inr hw⟩
      · exact fun stopped => harmless_behaves (only_okOr _ _) hP
    · exact fun _ _ h => h
  apply hstop.result
  intro stop
  exact leads_harmless_seq (only_plain rfl) hP fun _ => leads_return fun _ _ => trivial

theorem round_leads (phase : MainPhase) :
    Leads threads (fun w => Inv threads w ∧ Ok threads phase w)
      (phase.round threads mainWaker : ThreadAttempt D MainPhase) := by
  have hP : Lasting threads fun w => Inv threads w ∧ Ok threads phase w :=
    lasting_inv.and (lasting_ok _)
  cases phase with
  | starting =>
    exact leads_harmless_seq (only_installWaker _) hP fun _ => leads_return fun _ _ => trivial
  | waiting => exact waiting_leads.mono (fun _ _ => trivial) fun _ _ h => h
  | cancelling => exact cancelling_leads.mono (fun _ h => h.2) fun _ _ h => h
  | joining deadline cancel rest timedOut panicked =>
    exact (joining_leads _ _ _ _ _).mono (fun _ h => h.2) fun _ _ h => h
  | observing deadline results => exact observing_leads _ _
  | draining deadline waitDeadline active results => exact draining_leads _ _ _ _
  | locking deadline results => exact (locking_leads _ _).mono (fun _ h => h.2) fun _ _ h => h
  | stopping deadline results => exact (stopping_leads _ _).mono (fun _ h => h.2) fun _ _ h => h
  | closing deadline stop results =>
    apply leads_harmless_seq (only_remainingShutdownBudget deadline).result hP
    rintro (_ | _)
    · exact coreDone_leads hP _ _
    · exact leads_harmless_seq (only_plain rfl) hP fun _ => coreDone_leads hP _ _
  | servers results =>
    exact leads_harmless_seq (only_plain rfl) hP fun _ =>
      leads_harmless_seq (only_plain rfl) hP fun _ => leads_return fun _ _ => trivial
  | ended result => exact leads_return fun _ _ => trivial

end

def MayApply (threads : Nat) (i : Thread) (w : ShutdownWorld) : Prop :=
  i ∈ w.guards ∨ ∃ n < threads, i = .background n ∧ n ∉ w.finished

theorem mayApply_stable : StableUnder (Others (Acts threads) i) (MayApply threads i) := by
  rintro w w' ⟨j, hj, hacts⟩ (hguard | ⟨n, hn, rfl, hrunning⟩)
  · exact .inl ((hacts.guards i hj.symm).2 hguard)
  · exact .inr ⟨n, hn, rfl, fun h => hrunning ((hacts.own n hj).1 h)⟩

theorem Frame.mayApply (h : Frame w w') (hmay : MayApply threads i w) : MayApply threads i w' := by
  unfold MayApply
  rw [h.guards, h.finished]
  exact hmay

theorem coordinate_acts {c : (coordinatorCalls D).Call} {r : (coordinatorCalls D).Reply c}
    (hmay : MayApply threads i w) (h : w.coordinate i c r w') :
    Acts threads i w w' ∧ MayApply threads i w' := by
  have hframe := coordinate_frame h
  have hacts : Acts threads i w { w' with applies := w.applies } := hframe.acts
  exact ⟨{ hacts with applies := .inr hmay }, hframe.mayApply hmay⟩

theorem only_right {C : (threadCalls D).Call → Prop} {x : Attempt (coordinatorCalls D) ε α}
    (hC : ∀ c, C (.inr c)) : Only C (x.right : Attempt (threadCalls D) ε α) := by
  have hprog : ∀ p : Prog (coordinatorCalls D) (Except ε α),
      (p.right : Prog (threadCalls D) (Except ε α)).Only C := by
    intro p
    induction p with
    | ret a => trivial
    | ask c next ih => exact ⟨hC c, ih⟩
  exact hprog x.run

theorem transact_behaves (transactions : Transactions D) :
    Behaves threads i (MayApply threads i) (transact transactions)
      fun r w => r = .ok () ∧ MayApply threads i w := by
  induction transactions with
  | nil => exact abides_pure fun w hw => ⟨rfl, hw⟩
  | cons transaction transactions ih =>
    have hright : Only (fun c : (threadCalls D).Call => ∃ c', c = .inr c')
        transaction.right := only_right fun c => ⟨c, rfl⟩
    have hstable : StableUnder (Others (Acts threads) i) (MayApply threads i) := mayApply_stable
    have htransaction : Abides (threadCall i) (Others (Acts threads) i) (Acts threads i)
        (MayApply threads i) transaction.right fun _ => MayApply threads i := by
      apply hright.abides hstable
      rintro w _ r w' ⟨c, rfl⟩ hmay hstep
      exact coordinate_acts hmay hstep
    apply htransaction.result
    intro _
    apply behaves_call_seq (R := fun _ => MayApply threads i) mayApply_stable
    · intro w r hmay hanswers
      have hframe : Frame w (w.after i .endTransaction r) := frame_after rfl hanswers
      exact ⟨hframe.acts, hframe.mayApply hmay⟩
    · exact fun _ => ih

theorem acts_beginMutation {r : Bool} (hi : i ∉ w.guards) (h : w.Answers .beginMutation r) :
    Acts threads i w (w.after i .beginMutation r) := by
  cases r with
  | false => exact (Frame.refl w).acts
  | true =>
    have hopen : w.requested = false := by
      simpa using h.symm
    refine ⟨id, le_rfl, fun _ h => h, fun _ _ => .rfl, fun j hj => ?_, fun hrequested => ?_, ?_,
      fun _ => rfl, .inl rfl, .inl, .inl⟩
    · exact Finset.mem_insert.trans (or_iff_right hj)
    · rw [hopen] at hrequested
      cases hrequested
    · intro hcount
      exact (congrArg (· + 1) hcount).trans (Finset.card_insert_of_notMem hi).symm

theorem acts_dropGuard (hi : i ∈ w.guards) : Acts threads i w (w.dropGuard i) := by
  refine ⟨id, le_rfl, fun _ h => h, fun _ _ => .rfl, fun j hj => ?_, fun _ h => ?_, ?_,
    fun _ => rfl, .inl rfl, .inl, .inl⟩
  · exact Finset.mem_erase.trans (and_iff_right hj)
  · exact hi
  · intro hcount
    exact (congrArg (· - 1) hcount).trans (Finset.card_erase_of_mem hi).symm

theorem guards_stable (i : Thread) :
    StableUnder (Others (Acts threads) i) (fun w => i ∉ w.guards) := by
  rintro w w' ⟨j, hj, hacts⟩ hi hin
  exact hi ((hacts.guards i hj.symm).1 hin)

theorem mayApply_client {n : Nat} : MayApply threads (.client n) w ↔ .client n ∈ w.guards := by
  refine ⟨fun h => h.resolve_right ?_, .inl⟩
  rintro ⟨_, _, h, _⟩
  cases h

theorem mutation_behaves {n : Nat} (transactions : Transactions D) :
    Behaves threads (.client n) (fun w => .client n ∉ w.guards) (mutation transactions)
      fun _ w => .client n ∉ w.guards := by
  apply behaves_call_seq (R := fun r w => if r = true then MayApply threads (.client n) w
    else .client n ∉ w.guards) (guards_stable _)
  · intro w r hi hanswers
    refine ⟨acts_beginMutation hi hanswers, ?_⟩
    cases r with
    | false => exact hi
    | true => exact .inl (Finset.mem_insert_self _ w.guards)
  intro r
  split
  · apply (transact_behaves transactions).seq
    · intro _
      apply Abides.mono (P := MayApply threads (.client n)) _ (fun _ h => h.2)
        fun _ _ h => h
      apply abides_lift mayApply_stable
      rintro w _ _ hmay ⟨_, rfl⟩
      exact ⟨acts_dropGuard (mayApply_client.1 hmay), Finset.notMem_erase _ _⟩
    · rintro e w ⟨h, _⟩
      cases h
  · exact abides_pure fun w hw => hw

theorem background_behaves {n : Nat} (hn : n < threads) (transactions : Transactions D) :
    Behaves threads (.background n) (fun w => n ∉ w.finished) (backgroundTask transactions)
      fun _ _ => True := by
  refine Abides.mono (P := MayApply threads (.background n)) ?_
    (fun w hrunning => .inr ⟨n, hn, rfl, hrunning⟩) fun _ _ h => h
  apply behaves_call_seq (R := fun _ => MayApply threads (.background n)) mayApply_stable
  · intro w r hmay hanswers
    have hframe : Frame w (w.after (.background n) .backgroundShutdownIsRequested r) :=
      frame_after rfl hanswers
    exact ⟨hframe.acts, hframe.mayApply hmay⟩
  intro r
  split
  · exact abides_pure fun _ _ => trivial
  · apply (transact_behaves transactions).seq
    · exact fun _ => abides_pure fun _ _ => trivial
    · exact fun _ _ _ => trivial

variable [DecidableEq D] {X : Codec D}

def Idle (threads : Nat) : Thread → ShutdownWorld → Prop
  | .main, w => Ok threads w.main w
  | .client n, w => .client n ∉ w.guards
  | _, _ => True

def Answer (threads : Nat) : Thread → Except ShutdownError ThreadAnswer → ShutdownWorld → Prop
  | .main, .ok (.phase phase), w => Ok threads phase w
  | .main, .ok _, _ => False
  | .client n, _, w => .client n ∉ w.guards
  | _, _, _ => True

theorem begins_behaves {x : ThreadAttempt D ThreadAnswer} (h : Begins X threads mainWaker w i x) :
    Behaves threads i (fun w' => w' = w ∧ Inv threads w ∧ Idle threads i w) x
      (Answer threads i) := by
  cases h with
  | main _ =>
    have hround : Behaves threads .main (fun w' => Inv threads w' ∧ Ok threads w.main w') (do
        let phase ← w.main.round threads mainWaker
        return .phase phase : ThreadAttempt D ThreadAnswer) (Answer threads .main) := by
      apply (round_leads w.main).seq
      · intro phase
        exact abides_pure fun w' hphase => hphase phase rfl
      · exact fun _ _ _ => trivial
    refine hround.mono ?_ fun _ _ h => h
    rintro w' ⟨rfl, hinv, hidle⟩
    exact ⟨hinv, hidle⟩
  | request =>
    exact (harmless_behaves (only_request.seq fun _ => only_pure _) lasting_true).mono
      (fun _ _ => trivial) fun _ _ _ => trivial
  | installWaker waker =>
    exact (harmless_behaves ((only_installWaker waker).seq fun _ => only_pure _)
      lasting_true).mono (fun _ _ => trivial) fun _ _ _ => trivial
  | installCancellation cancellation =>
    exact (harmless_behaves ((only_installCancellation cancellation).seq fun _ =>
      only_pure _) lasting_true).mono (fun _ _ => trivial) fun _ _ _ => trivial
  | mutation _ =>
    refine Abides.mono ((mutation_behaves _).seq ?_ ?_) ?_ fun _ _ h => h
    · exact fun _ => abides_pure fun _ h => h
    · exact fun _ _ h => h
    · rintro w' ⟨rfl, _, hidle⟩
      exact hidle
  | background hn hrunning _ =>
    refine Abides.mono ((background_behaves hn _).seq ?_ ?_) ?_ fun _ _ h => h
    · exact fun _ => abides_pure fun _ h => h
    · exact fun _ _ h => h
    · rintro w' ⟨rfl, _⟩
      exact hrunning

theorem acts_enter {phase : MainPhase} (h : Ok threads phase w) :
    Acts threads .main w (w.enter phase) := by
  refine ⟨id, le_rfl, fun _ h => h, fun _ _ => .rfl, fun _ _ => .rfl, fun _ h => h, id,
    fun hmain => absurd rfl hmain, .inl rfl, fun hdrained => ?_, .inl⟩
  rcases Bool.or_eq_true_iff.1 hdrained with hbefore | hnow
  · exact .inl hbefore
  · split at hnow
    · exact .inr h.1
    · cases hnow

theorem acts_finished {n : Nat} (w : ShutdownWorld) :
    Acts threads (.background n) w { w with finished := insert n w.finished } := by
  refine ⟨id, le_rfl, fun _ h => Finset.mem_insert_of_mem h, fun m hm => ?_, fun _ _ => .rfl,
    fun _ h => h, id, fun _ => rfl, .inl rfl, .inl, fun h => .inl h⟩
  exact Finset.mem_insert.trans (or_iff_right fun h => hm (congrArg _ h.symm))

theorem frame_release (w : ShutdownWorld) (i : Thread) : Frame w (w.release i) :=
  ⟨rfl, le_rfl, rfl, rfl, rfl, rfl, rfl, rfl⟩

theorem ends_acts {answer : Except ShutdownError ThreadAnswer} (h : Answer threads i answer w) :
    Acts threads i w (w.answered i answer) ∧ Idle threads i (w.answered i answer) := by
  have hsame : Acts threads i w w := (Frame.refl w).acts
  cases i with
  | main =>
    have henter : ∀ phase, Ok threads phase w →
        Acts threads .main w (w.enter phase) ∧ Ok threads phase (w.enter phase) :=
      fun phase hphase => ⟨acts_enter hphase, lasting_ok phase _ _ _ (acts_enter hphase) hphase⟩
    rcases answer with _ | (_ | phase | _)
    · exact henter _ trivial
    · cases h
    · exact henter phase h
    · cases h
  | background n =>
    rcases answer with _ | (_ | _ | _)
    · exact ⟨hsame, trivial⟩
    · exact ⟨hsame, trivial⟩
    · exact ⟨hsame, trivial⟩
    · exact ⟨acts_finished w, trivial⟩
  | client n => exact ⟨hsame, h⟩
  | requester n | installer n => exact ⟨hsame, trivial⟩

theorem Frame.then_acts {w₁ : ShutdownWorld} (h : Frame w w₁) (hacts : Acts threads i w₁ w') :
    Acts threads i w w' := by
  have hrequested : w₁.requested = w.requested := by
    unfold ShutdownWorld.requested
    rw [h.state]
  refine ⟨fun hr => hacts.requested (hrequested.trans hr), h.now.trans hacts.now, ?_, ?_, ?_, ?_,
    ?_, fun hmain => (hacts.main hmain).trans h.main, ?_, ?_, ?_⟩
  · rw [← h.finished]
    exact hacts.finished
  · rw [← h.finished]
    exact hacts.own
  · rw [← h.guards]
    exact hacts.guards
  · rw [← h.guards, ← hrequested]
    exact hacts.entered
  · rw [← h.guards, ← h.state]
    exact hacts.counted
  · rw [← h.guards, ← h.finished, ← h.applies]
    exact hacts.applies
  · rw [← h.drained]
    exact hacts.drained
  · rw [← h.stopped]
    exact hacts.stopped

theorem panics_acts (h : Panics threads w i w') : Acts threads i w w' ∧ Idle threads i w' := by
  cases h with
  | client hnone => exact ⟨(frame_release w _).acts, hnone⟩
  | mutation hguard =>
    refine ⟨(frame_release w _).then_acts (acts_dropGuard hguard), Finset.notMem_erase _ _⟩
  | background _ => exact ⟨(frame_release w _).then_acts (acts_finished _), trivial⟩

theorem threads_abide : (shutdownThreads X threads mainWaker).Abide (Acts threads) (Inv threads)
    (Idle threads) (Answer threads) where
  kept {i w w'} hacts h := lasting_inv i w w' hacts h
  begins {i w p w'} hbegins hinv hidle := by
    obtain ⟨rfl, x, hx, rfl⟩ := hbegins
    exact ⟨(Frame.refl _).acts, begins_behaves hx _ ⟨rfl, hinv, hidle⟩⟩
  ends {i w a w'} hends _ hanswer := by
    obtain rfl := hends
    exact ends_acts hanswer
  dies {i w w'} hdies _ := panics_acts hdies
  idle_stable {i w w'} hothers hinv hidle := by
    obtain ⟨j, hj, hacts⟩ := hothers
    cases i with
    | main =>
      have hok : Ok threads w.main w' := lasting_ok _ j w w' hacts hidle
      rw [← hacts.main hj] at hok
      exact hok
    | client n => exact guards_stable _ _ _ ⟨j, hj, hacts⟩ hidle
    | requester n | installer n | background n => trivial
  answer_stable {i w w' a} hothers hinv hanswer := by
    obtain ⟨j, hj, hacts⟩ := hothers
    cases i with
    | main =>
      rcases a with _ | (_ | phase | _)
      · trivial
      · cases hanswer
      · exact lasting_ok phase j w w' hacts hanswer
      · cases hanswer
    | client n => exact guards_stable _ _ _ ⟨j, hj, hacts⟩ hanswer
    | requester n | installer n | background n => trivial

abbrev ShutdownEnsemble (D : Type) :=
  Ensemble Thread (threadCalls D) ShutdownWorld (Except ShutdownError ThreadAnswer)

def allIdle : ShutdownEnsemble D := ⟨.start, fun _ => none⟩

theorem orderly_allIdle : Orderly (shutdownThreads X threads mainWaker) (Acts threads)
    (Inv threads) (Idle threads) (Answer threads) allIdle := by
  refine ⟨⟨rfl, fun h => ?_, fun h => ?_⟩, fun i => ?_⟩
  · cases h
  · cases h
  · cases i with
    | main | requester n | installer n | background n => trivial
    | client n => exact Finset.notMem_empty _

theorem Lasting.run (hP : Lasting threads P)
    (h : Relation.ReflTransGen (fun w w' => ∃ i, Acts threads i w w') w w') (hw : P w) : P w' := by
  induction h with
  | refl => exact hw
  | tail _ hstep ih =>
    obtain ⟨i, hacts⟩ := hstep
    exact hP i _ _ hacts ih

theorem lasting_still (applies : Nat) :
    Lasting threads fun w => (Drained w ∧ Joined threads w) ∧ w.applies = applies := by
  intro i w w' hacts ⟨⟨hdrained, hjoined⟩, happlies⟩
  refine ⟨⟨lasting_drained i w w' hacts hdrained, lasting_joined i w w' hacts hjoined⟩, ?_⟩
  rcases hacts.applies with hsame | hguard | ⟨n, hn, _, hrunning⟩
  · exact hsame.trans happlies
  · rw [hdrained.2] at hguard
    cases Finset.notMem_empty i hguard
  · exact absurd (hjoined n hn) hrunning

section

variable {e e' : ShutdownEnsemble D}
  (hrun : (shutdownThreads X threads mainWaker).Run allIdle e)
  (hrun' : (shutdownThreads X threads mainWaker).Run e e')

include hrun

theorem inv_of_run : Inv threads e.world :=
  (orderly_allIdle.run threads_abide hrun).1.inv

include hrun'

theorem acts_of_run :
    Relation.ReflTransGen (fun w w' => ∃ i, Acts threads i w w') e.world e'.world :=
  ((orderly_allIdle.run threads_abide hrun).1.run threads_abide hrun').2

theorem guards_of_drained (hdrained : e.world.drained = true) : e'.world.guards = ∅ :=
  (lasting_drained.run (acts_of_run hrun hrun') ((inv_of_run hrun).drained hdrained)).2

theorem applies_of_stopped (hstopped : e.world.stopped = true) :
    e'.world.applies = e.world.applies :=
  ((lasting_still e.world.applies).run (acts_of_run hrun hrun')
    ⟨(inv_of_run hrun).stopped hstopped, rfl⟩).2

end

end Production

end Ratash
