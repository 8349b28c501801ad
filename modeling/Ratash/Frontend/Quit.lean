import Ratash.Frontend.EventInbox

/-! From the thread that reads the terminal through its buffer and the inbox to the reducer. -/

namespace Ratash

def terminalEventsPerRound : Nat := 8

/-- The reducer, as far as a shutdown goes. -/
structure Reducer (ε : Type) where
  State : Type
  update : State → UiEvent ε → State
  shouldQuit : State → Bool
  shouldQuit_shutdown : ∀ state, shouldQuit (update state .shutdown) = true

/-- The buffer of the terminal events, which may hold an error, and what the loop works on: `tries`
are left for reading the buffer in this round. -/
structure QuitWorld (R : Reducer ε) (δ : Type) where
  buffer : List (Except δ (UiEvent ε)) := []
  inbox : FairEventInbox ε
  state : R.State
  tries : Nat := terminalEventsPerRound
  rounds : Nat := 0

/-- The reader publishes an event; the loop tries to take one; it has collected what the other
sources gave, or an error, and processes its round. -/
inductive QuitStep (ε δ : Type) where
  | publish (event : Except δ (UiEvent ε))
  | tryEvent
  | finishRound (others : Except δ (List (EventSource × UiEvent ε)))

def QuitStep.isPublish : QuitStep ε δ → Bool
  | .publish _ => true
  | _ => false

namespace QuitWorld

open FairEventInbox

variable {R : Reducer ε} {w w' : QuitWorld R δ}

def publishTerminalEvent (w : QuitWorld R δ) (event : Except δ (UiEvent ε)) : QuitWorld R δ :=
  { w with
    buffer := (if w.buffer.length = eventSourceCapacity then w.buffer.tail else w.buffer) ++
      [event] }

/-- The events of a round, up to one after which the loop ends. -/
def processEvents (R : Reducer ε) : List (UiEvent ε) → R.State → R.State
  | [], state => state
  | event :: events, state =>
    if R.shouldQuit (R.update state event) then R.update state event
    else processEvents R events (R.update state event)

def processRound (w : QuitWorld R δ) : QuitWorld R δ :=
  { w with
    inbox := w.inbox.drainRound.2
    state := processEvents R w.inbox.drainRound.1 w.state
    tries := terminalEventsPerRound
    rounds := w.rounds + 1 }

/-- An error ends the loop. A step of the loop that is not its next one changes nothing. -/
def step (w : QuitWorld R δ) : QuitStep ε δ → Except δ (QuitWorld R δ)
  | .publish event => .ok (w.publishTerminalEvent event)
  | .tryEvent =>
    if R.shouldQuit w.state ∨ w.tries = 0 then .ok w
    else
      match w.buffer with
      | [] => .ok { w with tries := 0 }
      | .error e :: _ => .error e
      | .ok event :: buffer =>
        .ok { w with buffer, inbox := w.inbox.push .terminal event, tries := w.tries - 1 }
  | .finishRound others =>
    if R.shouldQuit w.state ∨ w.tries ≠ 0 then .ok w
    else others.map fun events => processRound
      { w with inbox := events.foldl (fun inbox event => inbox.push event.1 event.2) w.inbox }

def run (w : QuitWorld R δ) (steps : List (QuitStep ε δ)) : Except δ (QuitWorld R δ) :=
  steps.foldlM step w

/-- The oldest event in a full buffer is not the request. -/
def Spares (w : QuitWorld R δ) : Prop :=
  w.buffer.length = eventSourceCapacity → w.buffer.head? ≠ some (.ok .shutdown)

/-- Nothing is published in this run but where the buffer spares the request. -/
def SparesAll : List (QuitStep ε δ) → QuitWorld R δ → Prop
  | [], _ => True
  | step :: steps, w => ((∃ event, step = .publish event) → w.Spares) ∧
    ∀ w', w.step step = .ok w' → SparesAll steps w'

def Awaits (n : Nat) (w : QuitWorld R δ) : Prop :=
  w.inbox.shutdown = some .shutdown ∨
    ∃ i < w.tries + terminalEventsPerRound * n, w.buffer[i]? = some (.ok .shutdown)

theorem awaits_publish (h : w.Awaits n) (hspares : w.Spares) (event : Except δ (UiEvent ε)) :
    (w.publishTerminalEvent event).Awaits n := by
  refine h.imp_right fun ⟨i, hi, hrequest⟩ => ?_
  unfold publishTerminalEvent
  split
  · rename_i hfull
    cases i with
    | zero => exact absurd (List.head?_eq_getElem?.trans hrequest) (hspares hfull)
    | succ i =>
      refine ⟨i, Nat.lt_of_succ_lt hi, ?_⟩
      rw [List.getElem?_append_left, List.getElem?_tail]
      · exact hrequest
      · have := (List.getElem?_eq_some_iff.1 hrequest).1
        rw [List.length_tail]
        omega
  · refine ⟨i, hi, ?_⟩
    rw [List.getElem?_append_left (List.getElem?_eq_some_iff.1 hrequest).1]
    exact hrequest

theorem shutdown_push {inbox : FairEventInbox ε} (h : inbox.shutdown = some .shutdown)
    (source : EventSource) (event : UiEvent ε) :
    (inbox.push source event).shutdown = some .shutdown := by
  cases event with
  | shutdown => rfl
  | statusSnapshot | other => exact h

theorem shutdown_pushAll {inbox : FairEventInbox ε} (h : inbox.shutdown = some .shutdown)
    (events : List (EventSource × UiEvent ε)) :
    (events.foldl (fun inbox event => inbox.push event.1 event.2) inbox).shutdown =
      some .shutdown := by
  induction events generalizing inbox with
  | nil => exact h
  | cons event events ih => exact ih (shutdown_push h event.1 event.2)

theorem processRound_quits (h : w.inbox.shutdown = some .shutdown) :
    R.shouldQuit w.processRound.state = true := by
  have hquits := R.shouldQuit_shutdown w.state
  simp only [processRound, drainRound, h, processEvents, hquits, if_true]

/-- The loop is over, or it will be after the round with this number. -/
def Reaches (last : Nat) (w : QuitWorld R δ) : Prop :=
  R.shouldQuit w.state = true ∨ w.rounds ≤ last ∧ w.Awaits (last - w.rounds)

variable {s : QuitStep ε δ}

theorem step_cases (hstep : w.step s = .ok w') :
    (∃ event, s = .publish event ∧ w' = w.publishTerminalEvent event) ∨ w' = w ∨
    R.shouldQuit w.state ≠ true ∧ (w.buffer = [] ∧ w' = { w with tries := 0 } ∨
      (∃ event buffer, w.buffer = .ok event :: buffer ∧ w.tries ≠ 0 ∧ w' =
        { w with buffer, inbox := w.inbox.push .terminal event, tries := w.tries - 1 }) ∨
      ∃ events : List (EventSource × UiEvent ε), w.tries = 0 ∧ w' = processRound
        { w with
          inbox := events.foldl (fun inbox event => inbox.push event.1 event.2) w.inbox }) := by
  cases s with
  | publish event => exact .inl ⟨event, rfl, (Except.ok.inj hstep).symm⟩
  | tryEvent =>
    rw [step] at hstep
    split at hstep
    · exact .inr (.inl (Except.ok.inj hstep).symm)
    · rename_i hgoes
      refine .inr (.inr ⟨(not_or.1 hgoes).1, ?_⟩)
      split at hstep
      · rename_i hbuffer
        exact .inl ⟨hbuffer, (Except.ok.inj hstep).symm⟩
      · cases hstep
      · rename_i event buffer hbuffer
        exact .inr (.inl ⟨event, buffer, hbuffer, (not_or.1 hgoes).2, (Except.ok.inj hstep).symm⟩)
  | finishRound others =>
    rw [step] at hstep
    split at hstep
    · exact .inr (.inl (Except.ok.inj hstep).symm)
    · rename_i hgoes
      refine .inr (.inr ⟨(not_or.1 hgoes).1, .inr (.inr ?_)⟩)
      cases others with
      | error e => cases hstep
      | ok events =>
        exact ⟨events, Classical.not_not.1 (not_or.1 hgoes).2, (Except.ok.inj hstep).symm⟩

theorem reaches_step (h : w.Reaches last) (hspares : (∃ event, s = .publish event) → w.Spares)
    (hstep : w.step s = .ok w') : w'.Reaches last := by
  obtain ⟨event, rfl, rfl⟩ | rfl | ⟨hgoes, hloop⟩ := step_cases hstep
  · exact h.imp_right fun ⟨hrounds, hawaits⟩ =>
      ⟨hrounds, awaits_publish hawaits (hspares ⟨event, rfl⟩) event⟩
  · exact h
  obtain ⟨hrounds, hawaits⟩ := h.resolve_left hgoes
  obtain ⟨hbuffer, rfl⟩ | ⟨event, buffer, hbuffer, htries, rfl⟩ | ⟨events, htries, rfl⟩ := hloop
  · refine .inr ⟨hrounds, hawaits.imp_right fun ⟨i, _, hrequest⟩ => ?_⟩
    rw [hbuffer] at hrequest
    cases hrequest
  · refine .inr ⟨hrounds, ?_⟩
    rcases hawaits with hslot | ⟨i, hi, hrequest⟩
    · exact .inl (shutdown_push hslot ..)
    · rw [hbuffer] at hrequest
      cases i with
      | zero =>
        cases hrequest
        exact .inl rfl
      | succ i =>
        refine .inr ⟨i, ?_, hrequest⟩
        dsimp only
        omega
  · rcases hawaits with hslot | ⟨i, hi, hrequest⟩
    · exact .inl (processRound_quits (shutdown_pushAll hslot events))
    · unfold terminalEventsPerRound at hi
      have hearly : w.rounds < last := by omega
      refine .inr ⟨hearly, .inr ⟨i, ?_, hrequest⟩⟩
      simp only [processRound, terminalEventsPerRound]
      omega

theorem length_publish (h : w.buffer.length ≤ eventSourceCapacity) (event : Except δ (UiEvent ε)) :
    (w.publishTerminalEvent event).buffer.length ≤ eventSourceCapacity := by
  unfold publishTerminalEvent eventSourceCapacity at *
  rw [List.length_append, List.length_singleton]
  split
  · rw [List.length_tail]
    omega
  · omega

theorem length_step (h : w.buffer.length ≤ eventSourceCapacity)
    (hstep : w.step s = .ok w') : w'.buffer.length ≤ eventSourceCapacity := by
  obtain ⟨event, rfl, rfl⟩ | rfl | ⟨_, ⟨_, rfl⟩ | ⟨event, buffer, hbuffer, _, rfl⟩ | ⟨_, _, rfl⟩⟩ :=
    step_cases hstep
  · exact length_publish h event
  · exact h
  · exact h
  · rw [hbuffer] at h
    exact Nat.le_of_succ_le h
  · exact h

theorem run_cons (s : QuitStep ε δ) (steps : List (QuitStep ε δ)) (w : QuitWorld R δ) :
    w.run (s :: steps) = (w.step s).bind fun w => w.run steps := List.foldlM_cons

theorem run_append (xs ys : List (QuitStep ε δ)) (w : QuitWorld R δ) :
    w.run (xs ++ ys) = (w.run xs).bind fun w => w.run ys := List.foldlM_append

variable {steps : List (QuitStep ε δ)}

theorem run_invariant {P : QuitWorld R δ → Prop} (hP : ∀ w s w', P w → w.step s = .ok w' → P w')
    (h : P w) (hrun : w.run steps = .ok w') : P w' := by
  induction steps generalizing w with
  | nil =>
    cases hrun
    exact h
  | cons s steps ih =>
    rw [run_cons] at hrun
    obtain ⟨w₁, hstep, hrun⟩ := bind_eq_ok.1 hrun
    exact ih (hP w s w₁ h hstep) hrun

theorem reaches_run (h : w.Reaches last) (hspares : SparesAll steps w)
    (hrun : w.run steps = .ok w') : w'.Reaches last := by
  induction steps generalizing w with
  | nil =>
    cases hrun
    exact h
  | cons s steps ih =>
    rw [run_cons] at hrun
    obtain ⟨w₁, hstep, hrun⟩ := bind_eq_ok.1 hrun
    exact ih (reaches_step h hspares.1 hstep) (hspares.2 w₁ hstep) hrun

/-- A request that the full buffer has not dropped reaches the reducer: the loop ends before it has
made more rounds than it takes to empty the buffer. -/
theorem quit_request_arrives (inbox : FairEventInbox ε) (state : R.State)
    (before steps : List (QuitStep ε δ)) (w w' : QuitWorld R δ)
    (hbefore : run { inbox, state } before = .ok w)
    (hspares : SparesAll steps (w.publishTerminalEvent (.ok .shutdown)))
    (hrun : (w.publishTerminalEvent (.ok .shutdown)).run steps = .ok w') :
    R.shouldQuit w'.state = true ∨
      w'.rounds ≤ w.rounds + eventSourceCapacity / terminalEventsPerRound := by
  have hlength : w.buffer.length ≤ eventSourceCapacity :=
    run_invariant (fun _ _ _ => length_step) (Nat.zero_le _) hbefore
  have hafter := length_publish hlength (.ok .shutdown)
  have hreaches : (w.publishTerminalEvent (.ok .shutdown)).Reaches
      (w.rounds + eventSourceCapacity / terminalEventsPerRound) := by
    refine .inr ⟨Nat.le_add_right .., .inr ⟨_, ?_, List.getElem?_concat_length⟩⟩
    rw [publishTerminalEvent, List.length_append, List.length_singleton] at hafter
    refine Nat.lt_of_lt_of_le hafter ?_
    simp only [publishTerminalEvent, Nat.add_sub_cancel_left]
    exact Nat.le_add_left ..
  exact (reaches_run hreaches hspares hrun).imp_right fun h => h.1

def quitReducer : Reducer Unit where
  State := Bool
  update state event := state || event.isShutdown
  shouldQuit := id
  shouldQuit_shutdown := Bool.or_true

def productLimits : EventLimits where
  capacityPerSource := eventSourceCapacity
  budgets
    | .terminal | .commandResult => 8
    | .deadline => 2
    | .telemetry => 64
  capacity_pos := by decide
  budgets_pos source := by cases source <;> decide

def idle : QuitWorld quitReducer Unit := { inbox := { productLimits with }, state := false }

theorem run_publish (k : Nat) (w : QuitWorld quitReducer Unit)
    (hk : w.buffer.length + k ≤ eventSourceCapacity) :
    w.run (List.replicate k (.publish (.ok (.other ())))) =
      .ok { w with buffer := w.buffer ++ List.replicate k (.ok (.other ())) } := by
  induction k generalizing w with
  | zero =>
    rw [List.replicate_zero, List.replicate_zero, List.append_nil]
    rfl
  | succ k ih =>
    have hroom : w.buffer.length ≠ eventSourceCapacity := by omega
    rw [List.replicate_succ, run_cons, step, Except.bind, publishTerminalEvent, if_neg hroom, ih]
    · rw [List.append_assoc]
      rfl
    · rw [List.length_append, List.length_singleton]
      omega

def filled (k : Nat) : QuitWorld quitReducer Unit :=
  { idle with buffer := List.replicate k (.ok (.other ())) }

theorem run_filled (k : Nat) (hk : k ≤ eventSourceCapacity) :
    run { inbox := idle.inbox, state := idle.state }
      (List.replicate k (.publish (.ok (.other ())))) = .ok (filled k) :=
  run_publish k idle (Nat.le_trans (Nat.le_of_eq (Nat.zero_add k)) hk)

instance (w : QuitWorld quitReducer Unit) : Decidable w.Spares :=
  inferInstanceAs (Decidable (_ → _ ≠ _))

/-- The run, where nothing is published against the request. -/
def sparingRun : List (QuitStep Unit Unit) → QuitWorld quitReducer Unit →
    Option (QuitWorld quitReducer Unit)
  | [], w => some w
  | s :: steps, w =>
    match w.step s with
    | .error _ => none
    | .ok w' => if s.isPublish → w.Spares then sparingRun steps w' else none

theorem run_of_sparingRun {steps : List (QuitStep Unit Unit)} {w w' : QuitWorld quitReducer Unit}
    (h : sparingRun steps w = some w') : SparesAll steps w ∧ w.run steps = .ok w' := by
  induction steps generalizing w with
  | nil =>
    cases h
    exact ⟨trivial, rfl⟩
  | cons s steps ih =>
    cases hstep : w.step s with
    | error e => simp [sparingRun, hstep] at h
    | ok w₁ =>
      simp only [sparingRun, hstep, Option.ite_none_right_eq_some] at h
      obtain ⟨hspares, hrun⟩ := ih h.2
      refine ⟨⟨?_, fun w₂ hw₂ => ?_⟩, by rw [run_cons, hstep]; exact hrun⟩
      · rintro ⟨event, rfl⟩
        exact h.1 rfl
      · cases hstep.symm.trans hw₂
        exact hspares

/-- The loop goes round once, and nine more events come: one more than there is room for. -/
def busyRound : List (QuitStep Unit Unit) :=
  List.replicate 8 .tryEvent ++ [.finishRound (.ok [])] ++
    List.replicate 9 (.publish (.ok (.other ())))

/-- The request is the last event that the buffer holds, and more events come in each of the forty
rounds after it. -/
theorem quit_request_arrives_in_time :
    ∃ w', ((filled 255).publishTerminalEvent (.ok .shutdown)).run
        (List.replicate 40 busyRound).flatten = .ok w' ∧ quitReducer.shouldQuit w'.state = true ∧
      (quitReducer.shouldQuit w'.state = true ∨ w'.rounds ≤ 32) := by
  have hall : ((sparingRun (List.replicate 40 busyRound).flatten
      ((filled 255).publishTerminalEvent (.ok .shutdown))).any fun w' =>
        quitReducer.shouldQuit w'.state) = true := by
    decide +kernel
  obtain ⟨w', hsparing, hquits⟩ := (Option.any_eq_true ..).1 hall
  obtain ⟨hspares, hrun⟩ := run_of_sparingRun hsparing
  exact ⟨w', hrun, hquits, quit_request_arrives _ _ _ _ _ w' (run_filled 255 (by decide)) hspares
    hrun⟩

structure Quiet (w : QuitWorld quitReducer Unit) : Prop where
  buffer : ∀ event ∈ w.buffer, event = .ok (.other ())
  shutdown : w.inbox.shutdown = none
  queues : ∀ source, ∀ event ∈ w.inbox.queues source, event = .other ()
  state : w.state = false

variable {w : QuitWorld quitReducer Unit}

theorem Quiet.push {inbox : FairEventInbox Unit}
    (h : ∀ source, ∀ event ∈ inbox.queues source, event = .other ()) (source : EventSource) :
    ∀ event ∈ (inbox.push .terminal (.other ())).queues source, event = .other () := by
  intro event hevent
  by_cases hsource : source = .terminal
  · subst hsource
    have henqueued : event ∈ (enqueue inbox.capacityPerSource false (.other ())
        (inbox.queues .terminal)).1 := by
      simpa [FairEventInbox.push, UiEvent.isShutdown, coalesces] using hevent
    simp only [enqueue, Bool.false_eq_true, if_false] at henqueued
    split at henqueued
    · rcases List.mem_append.1 henqueued with hold | hnew
      · exact h _ event (List.mem_of_mem_tail hold)
      · exact List.mem_singleton.1 hnew
    · rcases List.mem_append.1 henqueued with hold | hnew
      · exact h _ event hold
      · exact List.mem_singleton.1 hnew
  · apply h source event
    simpa [FairEventInbox.push, UiEvent.isShutdown, Function.update_of_ne hsource] using hevent

theorem Quiet.tryEvent (h : Quiet w) : ∃ w', w.step .tryEvent = .ok w' ∧ Quiet w' := by
  rw [step]
  split
  · exact ⟨w, rfl, h⟩
  · cases hbuffer : w.buffer with
    | nil => exact ⟨_, rfl, by simp, h.shutdown, h.queues, h.state⟩
    | cons event buffer =>
      have hall := hbuffer ▸ h.buffer
      obtain rfl := hall event List.mem_cons_self
      exact ⟨_, rfl, fun e he => hall e (List.mem_cons_of_mem _ he), h.shutdown,
        Quiet.push h.queues, h.state⟩

theorem processEvents_quiet {events : List (UiEvent Unit)}
    (h : ∀ event ∈ events, event = .other ()) : processEvents quitReducer events false = false := by
  induction events with
  | nil => rfl
  | cons event events ih =>
    obtain rfl := h event List.mem_cons_self
    exact ih fun e he => h e (List.mem_cons_of_mem _ he)

theorem Quiet.finishRound (h : Quiet w) :
    ∃ w', w.step (.finishRound (.ok [])) = .ok w' ∧ Quiet w' := by
  rw [step]
  split
  · exact ⟨w, rfl, h⟩
  · refine ⟨_, rfl, h.buffer, ?_, ?_, ?_⟩
    · simp only [processRound, drainRound, List.foldl_nil, h.shutdown]
    · intro source event hevent
      simp only [processRound, drainRound, List.foldl_nil, h.shutdown] at hevent
      exact h.queues source event (List.mem_of_mem_drop hevent)
    · simp only [processRound, drainRound, List.foldl_nil, h.shutdown, h.state]
      apply processEvents_quiet
      intro event hevent
      obtain ⟨source, _, hsource⟩ := List.mem_flatMap.1 hevent
      exact h.queues source event (List.mem_of_mem_take hsource)

theorem Quiet.run {steps : List (QuitStep Unit Unit)} (h : Quiet w)
    (hsteps : ∀ s ∈ steps, s = .tryEvent ∨ s = .finishRound (.ok [])) :
    ∃ w', w.run steps = .ok w' ∧ Quiet w' := by
  induction steps generalizing w with
  | nil => exact ⟨w, rfl, h⟩
  | cons s steps ih =>
    have hstep : ∃ w', w.step s = .ok w' ∧ Quiet w' := by
      rcases hsteps s List.mem_cons_self with rfl | rfl
      · exact h.tryEvent
      · exact h.finishRound
    obtain ⟨w₁, hstep, hquiet⟩ := hstep
    rw [run_cons, hstep]
    exact ih hquiet fun s hs => hsteps s (List.mem_cons_of_mem _ hs)

theorem run_lost (hk : k + 1 = eventSourceCapacity) :
    idle.run (.publish (.ok .shutdown) :: List.replicate (k + 1) (.publish (.ok (.other ())))) =
    .ok { idle with buffer := List.replicate (k + 1) (.ok (.other ())) } := by
  have hfull : (idle.publishTerminalEvent (.ok .shutdown)).run
      (List.replicate k (.publish (.ok (.other ())))) =
      .ok { idle with buffer := .ok .shutdown :: List.replicate k (.ok (.other ())) } :=
    run_publish k _ (Nat.le_of_eq ((Nat.add_comm ..).trans hk))
  have hlength : (.ok .shutdown :: List.replicate k (.ok (.other ())) :
      List (Except Unit (UiEvent Unit))).length = eventSourceCapacity := by
    rw [List.length_cons, List.length_replicate, hk]
  rw [List.replicate_succ', List.replicate_succ', run_cons, step, Except.bind, run_append, hfull,
    Except.bind, run_cons, step, Except.bind, publishTerminalEvent, if_pos hlength]
  rfl

/-- As many events as the buffer holds come behind the request: however often the loop goes round
afterwards, it does not quit. -/
theorem quit_request_lost : ∃ w,
    idle.run (.publish (.ok .shutdown) :: List.replicate 256 (.publish (.ok (.other ())))) = .ok w ∧
    ∀ steps : List (QuitStep Unit Unit),
      (∀ s ∈ steps, s = .tryEvent ∨ s = .finishRound (.ok [])) →
      ∃ w', w.run steps = .ok w' ∧ quitReducer.shouldQuit w'.state = false := by
  refine ⟨_, run_lost rfl, fun steps hsteps => ?_⟩
  have hquiet : Quiet { idle with buffer := List.replicate 256 (.ok (.other ())) } :=
    ⟨fun event => List.eq_of_mem_replicate, rfl, fun _ _ h => absurd h List.not_mem_nil, rfl⟩
  obtain ⟨w', hrun, hquiet'⟩ := hquiet.run hsteps
  exact ⟨w', hrun, hquiet'.state⟩

end QuitWorld

end Ratash
