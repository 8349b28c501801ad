import Ratash.Interaction.Only
import Ratash.Service.Conforms
import Ratash.Service.LogCursor
import Ratash.Text.Utf8

/-!
Runs in which lines are drained from the Core and a reader polls, each poll from the cursor of the
answer before it.
-/

namespace Ratash

open Interaction Numbered Attempt
open ForwardedCoreLog (number bytes)

structure LogPoll where
  after : Option UInt64
  limit : Nat
  retained : List ForwardedCoreLog
  batch : ForwardedCoreLogBatch
deriving DecidableEq

structure LogSession where
  state : ServiceState
  cursor : Option UInt64
  polls : List LogPoll

namespace LogSession

def start : LogSession := ⟨.initial, none, []⟩

def delivered (session : LogSession) : List ForwardedCoreLog :=
  session.polls.flatMap (·.batch.records)

def poll (config : PrivilegedServiceConfig) (session : LogSession) (limit : Nat) : LogSession :=
  let batch := session.state.logsAfter config session.cursor limit
  { session with
    cursor := batch.nextSequence
    polls := session.polls ++ [⟨session.cursor, limit, session.state.logs, batch⟩] }

def pollAll (config : PrivilegedServiceConfig) (session : LogSession) (limits : List Nat) :
    LogSession :=
  limits.foldl (poll config) session

theorem state_pollAll (config : PrivilegedServiceConfig) (session : LogSession)
    (limits : List Nat) : (session.pollAll config limits).state = session.state := by
  induction limits generalizing session with
  | nil => rfl
  | cons limit limits ih => exact ih (session.poll config limit)

def unread (session : LogSession) : List ForwardedCoreLog :=
  after number (position session.cursor) session.state.logs

end LogSession

/-- Lines arrive, the reader polls, or the service does something else. -/
inductive LogStep (config : PrivilegedServiceConfig) : LogSession → LogSession → Prop where
  | drain (generation : CoreInstanceGeneration) (batch : CoreProcessLogBatch) :
      LogStep config session
        { session with state := session.state.acceptBatch config generation batch }
  | poll (limit : Nat) : LogStep config session (session.poll config limit)
  | other {state : ServiceState} (h : session.state.SameLogs state) :
      LogStep config session { session with state }

def LogRuns (config : PrivilegedServiceConfig) (session : LogSession) : Prop :=
  Relation.ReflTransGen (LogStep config) .start session

namespace LogPoll

def missing (poll : LogPoll) : Finset Nat := ServiceState.missingNumbers poll.after poll.batch

structure Exact (poll : LogPoll) : Prop where
  dropped : poll.batch.droppedSinceAfter.toNat = poll.missing.card
  lost : ∀ record ∈ poll.retained, number record ∉ poll.missing

def Advances (poll : LogPoll) : Prop :=
  0 < poll.limit → (∃ record ∈ poll.retained, position poll.after < number record) →
    position poll.after < position poll.batch.nextSequence

end LogPoll

section

variable {config : PrivilegedServiceConfig} {state : ServiceState}

theorem polled_exact (hkept : state.LogsKept config) (h : state.Polled cursor batch) :
    (LogPoll.mk cursor limit state.logs batch).Exact :=
  ⟨h.dropped_eq_card hkept, fun _ hrecord => h.not_mem_missing hrecord⟩

theorem polled_advances (hkept : state.LogsKept config)
    (hcursor : position cursor < state.nextLogSequence.toNat)
    (hline : config.lineBytes ≤ coreLogForwardBatchMaxBytes) (limit : Nat) :
    (LogPoll.mk cursor limit state.logs (state.logsAfter config cursor limit)).Advances := by
  rintro hlimit ⟨record, hrecord, hgt⟩
  have hwanted : after number (position cursor) state.logs ≠ [] :=
    List.ne_nil_of_mem (mem_after.2 ⟨hrecord, hgt⟩)
  obtain ⟨first, hfirst⟩ := List.exists_mem_of_ne_nil _
    (ServiceState.logsAfter_progress hkept hline hlimit hwanted)
  have h := ServiceState.logsAfter_polled hkept hcursor limit
  exact (mem_after.1 (h.mem_records hfirst)).2.trans_le (h.within first hfirst)

end

structure LogSession.Sound (config : PrivilegedServiceConfig) (session : LogSession) : Prop where
  kept : session.state.LogsKept config
  cursor_lt : position session.cursor < session.state.nextLogSequence.toNat
  ascending : Ascending number session.delivered
  delivered_le : ∀ record ∈ session.delivered, number record ≤ position session.cursor
  seen : ∀ record ∈ session.state.logs, number record ≤ position session.cursor →
    record ∈ session.delivered
  exact : ∀ poll ∈ session.polls, poll.Exact
  advances : config.lineBytes ≤ coreLogForwardBatchMaxBytes →
    ∀ poll ∈ session.polls, poll.Advances

namespace LogSession.Sound

theorem start : Sound config .start where
  kept := ServiceState.logsKept_initial
  cursor_lt := Nat.one_pos
  ascending := .nil
  delivered_le := nofun
  seen := nofun
  exact := nofun
  advances := nofun

theorem later {s : ServiceState} (h : Sound config session) (hkept : s.LogsKept config)
    (hlater : session.state.LogsLater s) : Sound config { session with state := s } :=
  { h with
    kept := hkept
    cursor_lt := h.cursor_lt.trans_le hlater.next_le
    seen := by
      intro record hrecord hle
      rcases hlater.old_or_new record hrecord with hold | hnew
      · exact h.seen record hold hle
      · exact absurd (hnew.trans hle) (Nat.not_le.2 h.cursor_lt) }

theorem poll (h : Sound config session) (limit : Nat) :
    Sound config (session.poll config limit) := by
  have hpolled := ServiceState.logsAfter_polled h.kept h.cursor_lt limit
  have hadvances := fun hline => polled_advances h.kept h.cursor_lt hline limit
  unfold LogSession.poll
  generalize session.state.logsAfter config session.cursor limit = batch at hpolled hadvances ⊢
  have hdelivered : LogSession.delivered ⟨session.state, batch.nextSequence,
      session.polls ++ [⟨session.cursor, limit, session.state.logs, batch⟩]⟩ =
      session.delivered ++ batch.records := by
    simp [LogSession.delivered]
  constructor
  · exact h.kept
  · exact hpolled.next_lt
  · rw [hdelivered]
    apply h.ascending.append (hpolled.ascending_records h.kept)
    intro old hold new hnew
    exact (h.delivered_le old hold).trans_lt (mem_after.1 (hpolled.mem_records hnew)).2
  · rw [hdelivered]
    intro record hrecord
    rcases List.mem_append.1 hrecord with hold | hnew
    · exact (h.delivered_le record hold).trans hpolled.le_next
    · exact hpolled.within record hnew
  · rw [hdelivered]
    intro record hrecord hle
    by_cases hold : number record ≤ position session.cursor
    · exact List.mem_append_left _ (h.seen record hrecord hold)
    · apply List.mem_append_right
      have hmem := mem_after.2 ⟨hrecord, Nat.not_le.1 hold⟩
      rw [hpolled.rest] at hmem
      rcases List.mem_append.1 hmem with hin | hrest
      · exact hin
      · exact absurd (mem_after.1 hrest).2 (Nat.not_lt.2 hle)
  · intro poll hpoll
    rcases List.mem_append.1 hpoll with hold | hnew
    · exact h.exact poll hold
    · cases List.mem_singleton.1 hnew
      exact polled_exact h.kept hpolled
  · intro hline poll hpoll
    rcases List.mem_append.1 hpoll with hold | hnew
    · exact h.advances hline poll hold
    · cases List.mem_singleton.1 hnew
      exact hadvances hline

theorem step (h : Sound config session) (hstep : LogStep config session session') :
    Sound config session' := by
  cases hstep with
  | drain generation batch => exact h.later h.kept.acceptBatch ServiceState.acceptBatch_later
  | poll limit => exact h.poll limit
  | other hsame => exact h.later (h.kept.same hsame) (.of_same hsame)

theorem run (hrun : LogRuns config session) : Sound config session := by
  induction hrun with
  | refl => exact start
  | tail _ hstep ih => exact ih.step hstep

theorem pollAll (h : Sound config session) (limits : List Nat) :
    Sound config (session.pollAll config limits) := by
  induction limits generalizing session with
  | nil => exact h
  | cons limit limits ih => exact ih (h.poll limit)

theorem count_delivered (h : Sound config session) (hrecord : record ∈ session.state.logs) :
    session.delivered.count record = if number record ≤ position session.cursor then 1 else 0 := by
  split
  · rename_i hle
    exact List.count_eq_one_of_mem h.ascending.nodup.of_map (h.seen record hrecord hle)
  · rename_i hgt
    exact List.count_eq_zero.2 fun hmem => hgt (h.delivered_le record hmem)

theorem length_unread_poll (h : Sound config session)
    (hline : config.lineBytes ≤ coreLogForwardBatchMaxBytes) (hlimit : 0 < limit) :
    (session.poll config limit).unread.length ≤ session.unread.length - 1 := by
  have hpolled := ServiceState.logsAfter_polled h.kept h.cursor_lt limit
  have hlength := congrArg List.length hpolled.rest
  rw [List.length_append] at hlength
  change (after number (position (session.state.logsAfter config session.cursor limit).nextSequence)
    session.state.logs).length ≤
      (after number (position session.cursor) session.state.logs).length - 1
  by_cases hunread : after number (position session.cursor) session.state.logs = []
  · rw [hunread] at hlength ⊢
    simp only [List.length_nil] at hlength ⊢
    omega
  · have hpos := List.length_pos_of_ne_nil
      (ServiceState.logsAfter_progress h.kept hline hlimit hunread)
    omega

theorem length_unread_pollAll (h : Sound config session)
    (hline : config.lineBytes ≤ coreLogForwardBatchMaxBytes)
    (hlimits : ∀ limit ∈ limits, 0 < limit) :
    (session.pollAll config limits).unread.length ≤ session.unread.length - limits.length := by
  induction limits generalizing session with
  | nil => exact Nat.le_refl _
  | cons limit limits ih =>
    have hrest := ih (h.poll limit) fun l hl => hlimits l (List.mem_cons_of_mem _ hl)
    have hfirst := h.length_unread_poll hline (hlimits limit (List.mem_cons_self ..))
    rw [List.length_cons]
    exact hrest.trans (by omega)

theorem delivered_pollAll (h : Sound config session)
    (hline : config.lineBytes ≤ coreLogForwardBatchMaxBytes) (hlimits : ∀ limit ∈ limits, 0 < limit)
    (henough : session.state.logs.length ≤ limits.length) (hrecord : record ∈ session.state.logs) :
    (session.pollAll config limits).delivered.count record = 1 := by
  have hunread : (session.pollAll config limits).unread = [] := by
    apply List.eq_nil_of_length_eq_zero
    have hle := h.length_unread_pollAll hline hlimits
    have hfilter : session.unread.length ≤ session.state.logs.length := List.length_filter_le ..
    omega
  have hstate : (session.pollAll config limits).state = session.state := state_pollAll ..
  rw [(h.pollAll limits).count_delivered (hstate.symm ▸ hrecord), if_pos]
  by_contra hgt
  exact List.ne_nil_of_mem (mem_after.2 ⟨hstate.symm ▸ hrecord, Nat.not_le.1 hgt⟩) hunread

end LogSession.Sound

def SparesState : serviceCalls.Call → Prop
  | .inl _ => False
  | .inr c => c.plain = true

theorem quiet_state {x : ServiceAttempt α} {room : ServiceRoom} (hquiet : Only SparesState x)
    (hstate : room.2.state = s) :
    x.run.Ensures anyService (fun _ => True) (fun _ room' => room'.2.state = s) room := by
  apply (hquiet.ensures (I := fun room' : ServiceRoom => room'.2.state = s) _ hstate).mono
  · exact fun _ _ => trivial
  · exact fun _ _ hstate _ => hstate
  · rintro ⟨n, w⟩ c r ⟨n', w'⟩ hc hstate hE
    cases c with
    | inl c => exact hc.elim
    | inr c =>
      obtain ⟨⟨w₁, hw, _, rfl⟩, _⟩ := hE
      have hstore : (w₁.record c r).store c = w₁.record c r := by
        cases c <;> first | rfl | cases hc
      rw [hstore]
      exact hw.state_eq.trans hstate

theorem quiet_service (hc : c.plain = true) : Only SparesState (service c) :=
  only_lift hc

theorem quiet_platform (reply : Except δ α) (error : δ → CoreRuntimeError) :
    Only SparesState (platform reply error) :=
  only_ofExcept _

theorem quiet_authenticate (proof : OwnerSessionProof) : Only SparesState (authenticate proof) :=
  (quiet_service rfl).seq fun _ => only_ofExcept _

theorem quiet_requireOwnedProcess (record : ManagedCoreRecord) :
    Only SparesState (requireOwnedProcess record) := by
  apply Only.seq
  · apply (quiet_service rfl).seq
    intro reply
    apply (quiet_platform ..).seq
    intro exited
    cases exited with
    | true => exact only_pure _
    | false => exact (quiet_service rfl).seq fun _ => (quiet_platform ..).seq fun _ =>
        only_pure _
  · exact fun _ => only_require _

def LogsDrained (config : PrivilegedServiceConfig) (s s' : ServiceState) : Prop :=
  s' = s ∨ ∃ generation batch, s' = s.acceptBatch config generation batch

theorem drainLogs_drains (config : PrivilegedServiceConfig) (record : ManagedCoreRecord)
    (room : ServiceRoom) : (drainLogs config record).run.Ensures anyService (fun _ => True)
      (fun _ room' => LogsDrained config room.2.state room'.2.state) room := by
  apply ensures_seq (quiet_state (quiet_service rfl) rfl)
  · intro reply room₁ _ h₁
    apply ensures_seq (quiet_state (quiet_platform ..) h₁)
    · intro incoming room₂ _ h₂
      apply ensures_seq (ensures_getState room₂)
      · rintro state room₃ - ⟨hstate, -⟩
        cases hstate
        apply (ensures_putState _ room₃).mono (fun _ _ => trivial)
        exact fun _ room' _ h => .inr ⟨_, _, h.trans (congrArg _ h₂)⟩
      · exact fun _ _ _ h => .inl (h.2.trans h₂)
    · exact fun _ _ _ h => .inl h
  · exact fun _ _ _ h => .inl h

theorem drainActive_drains (config : PrivilegedServiceConfig) (core : Option OwnedCoreState)
    (room : ServiceRoom) : (drainActive config core).run.Ensures anyService (fun _ => True)
      (fun _ room' => LogsDrained config room.2.state room'.2.state) room := by
  unfold drainActive
  split
  · apply ensures_seq (quiet_state (quiet_requireOwnedProcess _) rfl)
    · intro _ room₁ _ h₁
      exact h₁ ▸ drainLogs_drains config _ room₁
    · exact fun _ _ _ h => .inl h
  · exact ⟨trivial, .inl rfl⟩

theorem logs_polls (config : PrivilegedServiceConfig) (proof : OwnerSessionProof)
    (cursor : Option UInt64) (limit : Nat) (room : ServiceRoom) :
    (logs config proof cursor limit).run.Ensures anyService (fun _ => True)
      (fun r room' => LogsDrained config room.2.state room'.2.state ∧
        ∀ batch, r = .ok batch → batch = room'.2.state.logsAfter config cursor limit) room := by
  apply ensures_seq (quiet_state (quiet_authenticate proof) rfl)
  · intro _ room₁ _ h₁
    apply ensures_seq (ensures_getState room₁)
    · rintro state room₂ - ⟨hstate, h₂⟩
      cases hstate
      apply ensures_seq (drainActive_drains config _ room₂)
      · intro _ room₃ _ h₃
        rw [h₂, h₁] at h₃
        apply ensures_seq (ensures_getState room₃)
        · rintro state room₄ - ⟨hstate, h₄⟩
          cases hstate
          refine ⟨trivial, h₄.symm ▸ h₃, fun batch hbatch => ?_⟩
          cases hbatch
          exact h₄.symm ▸ rfl
        · exact fun _ _ _ h => nomatch h.1
      · exact fun _ _ _ h => ⟨h₁ ▸ h₂ ▸ h, nofun⟩
    · exact fun _ _ _ h => nomatch h.1
  · exact fun _ _ _ h => ⟨.inl h, nofun⟩

theorem runs_of_drained {session : LogSession} {s : ServiceState}
    (hrun : LogRuns config session) (hdrained : LogsDrained config session.state s) (limit : Nat) :
    LogRuns config (LogSession.poll config { session with state := s } limit) := by
  rcases hdrained with rfl | ⟨generation, batch, rfl⟩
  · exact hrun.tail (.poll limit)
  · exact (hrun.tail (.drain generation batch)).tail (.poll limit)

/-- A call that answers goes on with the run of the reader who passes its cursor. -/
theorem logs_continue_session (config : PrivilegedServiceConfig) (proof : OwnerSessionProof)
    (session : LogSession) (limit : Nat) (room : ServiceRoom) :
    (logs config proof session.cursor limit).run.Ensures anyService (fun _ => True)
      (fun r room' => LogRuns config session → session.state = room.2.state →
        ∀ batch, r = .ok batch → ∃ session', LogRuns config session' ∧
          session'.state = room'.2.state ∧ session'.cursor = batch.nextSequence ∧
          session'.delivered = session.delivered ++ batch.records) room := by
  apply (logs_polls config proof session.cursor limit room).mono fun _ h => h
  rintro r room' - ⟨hdrained, hbatch⟩ hrun hstate batch hr
  have hrun' := runs_of_drained hrun (hstate ▸ hdrained) limit
  refine ⟨_, hrun', rfl, ?_, ?_⟩
  · rw [hbatch batch hr]
    rfl
  · rw [hbatch batch hr, LogSession.delivered, LogSession.poll, List.flatMap_append]
    simp only [List.flatMap_singleton]
    rfl

theorem utf8ByteSize_line (n : Nat) : (String.ofList (List.replicate n 'a')).utf8ByteSize = n :=
  (Text.utf8ByteSize_replicate n 'a').trans (Nat.mul_one n)

def lineOf (n : Nat) : CoreProcessLogBatch :=
  ⟨[⟨0, .stdout, .ofList (List.replicate n 'a')⟩], 0⟩

theorem logs_acceptBatch_lineOf (hn : n ≤ config.lineBytes) (generation : CoreInstanceGeneration) :
    (ServiceState.initial.acceptBatch config generation (lineOf n)).logs =
      [⟨1, 0, .stdout, .ofList (List.replicate n 'a'), generation⟩] := by
  have htruncate : truncateUtf8 (.ofList (List.replicate n 'a')) config.lineBytes =
      .ofList (List.replicate n 'a') := if_pos ((utf8ByteSize_line n).trans_le hn)
  unfold PrivilegedServiceConfig.lineBytes at htruncate
  unfold ServiceState.acceptBatch lineOf ServiceState.recordDropped ServiceState.initial
  simp only [gt_iff_lt, UInt64.lt_irrefl, if_false, ServiceState.acceptLogs, htruncate]
  rfl

theorem long_line_stops (h : coreLogForwardBatchMaxBytes < config.maxLogLineBytes) :
    ∃ session, LogRuns config session ∧ ∃ poll ∈ session.polls, ¬poll.Advances := by
  generalize hn : coreLogForwardBatchMaxBytes + 1 = n
  have hline : n ≤ config.lineBytes := hn ▸ Nat.le_min.2 ⟨h, by decide⟩
  generalize hstate : ServiceState.initial.acceptBatch config ⟨1⟩ (lineOf n) = state
  have hlogs := hstate ▸ logs_acceptBatch_lineOf hline ⟨1⟩
  have hkept : state.LogsKept config := hstate ▸ ServiceState.logsKept_initial.acceptBatch
  generalize hrecord : (⟨1, 0, .stdout, .ofList (List.replicate n 'a'), ⟨1⟩⟩ : ForwardedCoreLog) =
    record at hlogs
  have hbytes : record.message.utf8ByteSize = n := hrecord ▸ utf8ByteSize_line n
  have hwanted : after number 0 state.logs = [record] := by
    rw [hlogs, ← hrecord]
    rfl
  have hrecords : (state.logsAfter config none 1).records = [] := by
    rw [ServiceState.records_logsAfter hkept, position_none, hwanted,
      Nat.min_eq_left config.logCapacity_pos, List.take_succ_cons, ServiceState.takeBatch,
      hbytes, ← hn]
    rfl
  have hnext : position (state.logsAfter config none 1).nextSequence = 0 := by
    rw [ServiceState.nextSequence_logsAfter, hrecords]
    have hnone : position none < state.nextLogSequence.toNat := hkept.next_pos
    have hbehind := ServiceState.position_cursorBehind hkept hnone
    rw [position_none, hwanted, if_neg (List.cons_ne_nil _ _)] at hbehind
    exact hbehind
  have hrun : LogRuns config (LogSession.poll config ⟨state, none, []⟩ 1) := by
    have hdrained : LogsDrained config LogSession.start.state state := .inr ⟨_, _, hstate.symm⟩
    exact runs_of_drained .refl hdrained 1
  refine ⟨_, hrun, _, List.mem_singleton_self _, fun hadvances => ?_⟩
  have hmem : record ∈ state.logs := hlogs ▸ List.mem_singleton_self _
  have hpos : position none < number record := hkept.positive record hmem
  have hlt : position none < position (state.logsAfter config none 1).nextSequence :=
    hadvances Nat.one_pos ⟨record, hmem, hpos⟩
  exact Nat.not_lt_zero _ (hnext ▸ hlt)

/-- What a reader that chains its polls is given is exact under every configuration. That it gets
past every record depends on the longest line being allowed into an answer. -/
theorem service_log_cursor_exact (config : PrivilegedServiceConfig) :
    (∀ session, LogRuns config session →
      Ascending number session.delivered ∧ Ascending number session.state.logs ∧
      (∀ record ∈ session.state.logs, session.delivered.count record =
        if number record ≤ position session.cursor then 1 else 0) ∧
      session.state.logBytes = totalBytes session.state.logs ∧
      session.state.logBytes ≤ coreLogForwardMaxBytes ∧
      session.state.logs.length ≤ config.logCapacity ∧
      ∀ poll ∈ session.polls, poll.batch.droppedSinceAfter.toNat = poll.missing.card ∧
        ∀ record ∈ poll.retained, number record ∉ poll.missing) ∧
    ((∀ session, LogRuns config session → ∀ poll ∈ session.polls, poll.Advances) ↔
      config.maxLogLineBytes ≤ coreLogForwardBatchMaxBytes) ∧
    (config.maxLogLineBytes ≤ coreLogForwardBatchMaxBytes →
      ∀ session limits, LogRuns config session → (∀ limit ∈ limits, 0 < limit) →
        session.state.logs.length ≤ limits.length → ∀ record ∈ session.state.logs,
          (session.pollAll config limits).delivered.count record = 1) := by
  refine ⟨fun session hrun => ?_, ⟨fun h => ?_, fun hline session hrun => ?_⟩, ?_⟩
  · have h := LogSession.Sound.run hrun
    exact ⟨h.ascending, h.kept.ascending, fun record hrecord => h.count_delivered hrecord,
      h.kept.bytes_eq, h.kept.bytes_eq ▸ h.kept.bytes_le, h.kept.count_le,
      fun poll hpoll => ⟨(h.exact poll hpoll).dropped, (h.exact poll hpoll).lost⟩⟩
  · by_contra hlong
    obtain ⟨session, hrun, poll, hpoll, hstops⟩ := long_line_stops (Nat.not_le.1 hlong)
    exact hstops (h session hrun poll hpoll)
  · exact (LogSession.Sound.run hrun).advances ((Nat.min_le_left ..).trans hline)
  · intro hline session limits hrun hlimits henough record hrecord
    exact (LogSession.Sound.run hrun).delivered_pollAll ((Nat.min_le_left ..).trans hline) hlimits
      henough hrecord

/-- The product's configuration, but for lines one byte longer than an answer may be. -/
def longLineConfig : PrivilegedServiceConfig :=
  { PrivilegedServiceConfig.productDefaults "control" with
    maxLogLineBytes := coreLogForwardBatchMaxBytes + 1
    maxLogLineBytes_pos := Nat.succ_pos coreLogForwardBatchMaxBytes }

theorem long_line_stops_reader :
    ∃ session, LogRuns longLineConfig session ∧ ∃ poll ∈ session.polls, ¬poll.Advances :=
  long_line_stops (Nat.lt_succ_self _)

end Ratash
