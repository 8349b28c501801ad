import Ratash.Numbered.Pages
import Ratash.Service.State

/-!
The service keeps the latest lines of its Core under ascending numbers, forgets the oldest when they
become too many or too long, and answers polls from a cursor.
-/

namespace Ratash

open Numbered

namespace ForwardedCoreLog

def number (record : ForwardedCoreLog) : Nat := record.sequence.toNat

def bytes (record : ForwardedCoreLog) : Nat := record.message.utf8ByteSize

end ForwardedCoreLog

open ForwardedCoreLog (number bytes)

def totalBytes (logs : List ForwardedCoreLog) : Nat := (logs.map bytes).sum

@[simp] theorem totalBytes_nil : totalBytes [] = 0 := rfl

@[simp] theorem totalBytes_cons : totalBytes (log :: logs) = bytes log + totalBytes logs := rfl

@[simp] theorem totalBytes_append : totalBytes (xs ++ ys) = totalBytes xs + totalBytes ys := by
  simp [totalBytes]

theorem utf8ByteSize_takeBytes_le (budget : Nat) (cs : List Char) :
    (String.ofList (takeBytes budget cs)).utf8ByteSize ≤ budget := by
  induction cs generalizing budget with
  | nil => simp [takeBytes]
  | cons c rest ih =>
    unfold takeBytes
    split
    · rename_i hfit
      rw [String.ofList_cons, String.utf8ByteSize_append, String.utf8ByteSize_singleton]
      have := ih (budget - c.utf8Size)
      omega
    · simp

theorem utf8ByteSize_truncateUtf8_le (value : String) (maxBytes : Nat) :
    (truncateUtf8 value maxBytes).utf8ByteSize ≤ maxBytes := by
  unfold truncateUtf8
  split
  · assumption
  · exact utf8ByteSize_takeBytes_le ..

def PrivilegedServiceConfig.lineBytes (config : PrivilegedServiceConfig) : Nat :=
  min config.maxLogLineBytes coreLogForwardMaxBytes

namespace ServiceState

structure LogsKept (config : PrivilegedServiceConfig) (state : ServiceState) : Prop where
  ascending : Ascending number state.logs
  positive : ∀ record ∈ state.logs, 0 < number record
  below : ∀ record ∈ state.logs, number record < state.nextLogSequence.toNat
  next_pos : 0 < state.nextLogSequence.toNat
  lines : ∀ record ∈ state.logs, bytes record ≤ config.lineBytes
  bytes_eq : state.logBytes = totalBytes state.logs
  bytes_le : totalBytes state.logs ≤ coreLogForwardMaxBytes
  count_le : state.logs.length ≤ config.logCapacity

structure SameLogs (s s' : ServiceState) : Prop where
  logs : s'.logs = s.logs
  logBytes : s'.logBytes = s.logBytes
  next : s'.nextLogSequence = s.nextLogSequence

theorem LogsKept.same (h : LogsKept config s) (hsame : SameLogs s s') : LogsKept config s' := by
  obtain ⟨hlogs, hbytes, hnext⟩ := hsame
  constructor <;> simp only [hlogs, hbytes, hnext]
  exacts [h.ascending, h.positive, h.below, h.next_pos, h.lines, h.bytes_eq, h.bytes_le, h.count_le]

theorem logsKept_of_empty (hlogs : s.logs = []) (hbytes : s.logBytes = 0)
    (hnext : s.nextLogSequence = 1) : LogsKept config s := by
  constructor <;> simp [hlogs, hbytes, hnext, Ascending.nil]

theorem logsKept_initial : LogsKept config initial := logsKept_of_empty rfl rfl rfl

structure Evicted (capacity messageBytes : Nat) (s s' : ServiceState) : Prop where
  suffix : s'.logs <:+ s.logs
  bytes_eq : s'.logBytes = totalBytes s'.logs
  fits : totalBytes s'.logs + messageBytes ≤ coreLogForwardMaxBytes
  count_lt : s'.logs.length < capacity

theorem saturatingAdd_of_le (h : a + b ≤ usizeMax) : saturatingAdd a b = a + b :=
  Nat.min_eq_left h

theorem evictLogs_go {logs : List ForwardedCoreLog} (hcap : 0 < capacity)
    (hmessage : messageBytes ≤ coreLogForwardMaxBytes) (hcount : logs.length ≤ capacity)
    (hbytes : totalBytes logs ≤ coreLogForwardMaxBytes) (hsuffix : logs <:+ state.logs) :
    Evicted capacity messageBytes state
      (evictLogs.go capacity messageBytes state logs (totalBytes logs) dropped) := by
  induction logs generalizing dropped with
  | nil => exact ⟨hsuffix, rfl, (Nat.zero_add _).trans_le hmessage, hcap⟩
  | cons log logs ih =>
    have hrest : totalBytes (log :: logs) - log.message.utf8ByteSize = totalBytes logs :=
      Nat.add_sub_cancel_left ..
    have hbytes' : totalBytes logs ≤ coreLogForwardMaxBytes :=
      (Nat.le_add_left _ (bytes log)).trans hbytes
    unfold evictLogs.go
    rw [hrest]
    split
    · exact ih (Nat.le_of_succ_le hcount) hbytes' ((List.suffix_cons ..).trans hsuffix)
    · rename_i hfits
      obtain ⟨hne, hle⟩ := not_or.1 hfits
      have hexact : saturatingAdd (totalBytes (log :: logs)) messageBytes =
          totalBytes (log :: logs) + messageBytes := by
        apply saturatingAdd_of_le
        unfold usizeMax
        unfold coreLogForwardMaxBytes at hbytes hmessage
        omega
      exact ⟨hsuffix, rfl, hexact ▸ Nat.not_lt.1 hle, Nat.lt_of_le_of_ne hcount hne⟩

theorem next_evictLogs_go (logs : List ForwardedCoreLog) :
    (evictLogs.go capacity messageBytes state logs total dropped).nextLogSequence =
      state.nextLogSequence := by
  induction logs generalizing total dropped with
  | nil => rfl
  | cons log logs ih =>
    unfold evictLogs.go
    split
    · exact ih
    · rfl

@[simp] theorem next_evictLogs (capacity messageBytes : Nat) (state : ServiceState) :
    (state.evictLogs capacity messageBytes).nextLogSequence = state.nextLogSequence :=
  next_evictLogs_go _

theorem evictLogs_evicted (h : LogsKept config state)
    (hmessage : messageBytes ≤ coreLogForwardMaxBytes) :
    Evicted config.logCapacity messageBytes state
      (state.evictLogs config.logCapacity messageBytes) := by
  unfold evictLogs
  rw [h.bytes_eq]
  exact evictLogs_go config.logCapacity_pos hmessage h.count_le h.bytes_le (List.suffix_refl _)

theorem le_next_recordDropped (dropped : UInt64) (state : ServiceState) :
    state.nextLogSequence.toNat ≤ (state.recordDropped dropped).nextLogSequence.toNat := by
  unfold recordDropped
  split
  · simp only [toNat_saturatingAdd64]
    have := state.nextLogSequence.toNat_lt
    simp only [UInt64.size] at *
    omega
  · exact Nat.le_refl _

theorem LogsKept.next {next : UInt64} (h : LogsKept config s)
    (hnext : s.nextLogSequence.toNat ≤ next.toNat) :
    LogsKept config { s with nextLogSequence := next } :=
  { h with
    below := fun record hrecord => (h.below record hrecord).trans_le hnext
    next_pos := h.next_pos.trans_le hnext }

theorem LogsKept.recordDropped (h : LogsKept config s) :
    LogsKept config (recordDropped dropped s) := by
  have hnext := le_next_recordDropped dropped s
  unfold ServiceState.recordDropped at hnext ⊢
  split
  · rw [if_pos ‹_›] at hnext
    exact (h.next hnext).same ⟨rfl, rfl, rfl⟩
  · exact h

theorem LogsKept.push (h : LogsKept config s) (record : ForwardedCoreLog)
    (hevicted : Evicted config.logCapacity (bytes record) s t)
    (hnumber : record.sequence = s.nextLogSequence) (hline : bytes record ≤ config.lineBytes)
    (hnext : u.nextLogSequence.toNat = s.nextLogSequence.toNat + 1)
    (hlogs : u.logs = t.logs ++ [record])
    (hbytes : u.logBytes = saturatingAdd t.logBytes (bytes record)) : LogsKept config u := by
  have hkept : ∀ x ∈ t.logs, x ∈ s.logs := fun x hx => hevicted.suffix.subset hx
  have hnum : number record = s.nextLogSequence.toNat := congrArg UInt64.toNat hnumber
  have hsplit : ∀ x ∈ u.logs, x ∈ t.logs ∨ x = record := by
    intro x hx
    simpa [hlogs] using hx
  constructor
  · rw [hlogs]
    apply (h.ascending.sublist hevicted.suffix.sublist).snoc
    exact fun x hx => hnum ▸ h.below x (hkept x hx)
  · intro x hx
    rcases hsplit x hx with hx | rfl
    · exact h.positive x (hkept x hx)
    · exact hnum ▸ h.next_pos
  · intro x hx
    rw [hnext]
    rcases hsplit x hx with hx | rfl
    · exact (h.below x (hkept x hx)).trans (Nat.lt_succ_self _)
    · exact hnum ▸ Nat.lt_succ_self _
  · omega
  · intro x hx
    rcases hsplit x hx with hx | rfl
    · exact h.lines x (hkept x hx)
    · exact hline
  · rw [hbytes, hevicted.bytes_eq, hlogs, totalBytes_append]
    apply saturatingAdd_of_le
    apply hevicted.fits.trans
    decide
  · simpa [hlogs] using hevicted.fits
  · rw [hlogs, List.length_append]
    exact hevicted.count_lt

theorem LogsKept.acceptLogs (h : LogsKept config s) (logs : List CoreProcessLog) :
    LogsKept config (acceptLogs config generation logs s) := by
  induction logs generalizing s with
  | nil => exact h
  | cons log logs ih =>
    unfold ServiceState.acceptLogs
    split
    · exact h
    · rename_i next hnext
      apply ih
      have hline : (truncateUtf8 log.message config.lineBytes).utf8ByteSize ≤ config.lineBytes :=
        utf8ByteSize_truncateUtf8_le ..
      have hroom : LogsKept config { s with nextLogSequence := next } :=
        h.next (checkedSucc_eq_some hnext ▸ Nat.le_succ _)
      obtain ⟨hsuffix, hbytes, hfits, hcount⟩ :=
        evictLogs_evicted hroom (hline.trans (Nat.min_le_right ..))
      let record : ForwardedCoreLog := ⟨s.nextLogSequence, log.timestampUnixMs, log.source,
        truncateUtf8 log.message config.lineBytes, generation⟩
      apply h.push record ⟨hsuffix, hbytes, hfits, hcount⟩ rfl hline ?_ rfl rfl
      simpa using checkedSucc_eq_some hnext

theorem LogsKept.acceptBatch (h : LogsKept config s) :
    LogsKept config (acceptBatch config generation batch s) :=
  h.recordDropped.acceptLogs _

structure LogsLater (s s' : ServiceState) : Prop where
  next_le : s.nextLogSequence.toNat ≤ s'.nextLogSequence.toNat
  old_or_new : ∀ record ∈ s'.logs, record ∈ s.logs ∨ s.nextLogSequence.toNat ≤ number record

theorem LogsLater.of_same (h : SameLogs s s') : LogsLater s s' :=
  ⟨h.next ▸ Nat.le_refl _, fun _ hrecord => .inl (h.logs ▸ hrecord)⟩

theorem LogsLater.trans (h : LogsLater s t) (h' : LogsLater t u) : LogsLater s u := by
  refine ⟨h.next_le.trans h'.next_le, fun record hrecord => ?_⟩
  rcases h'.old_or_new record hrecord with hold | hnew
  · exact h.old_or_new record hold
  · exact .inr (h.next_le.trans hnew)

theorem recordDropped_later : LogsLater s (recordDropped dropped s) := by
  refine ⟨le_next_recordDropped dropped s, fun record hrecord => .inl ?_⟩
  unfold recordDropped at hrecord
  split at hrecord <;> exact hrecord

theorem evictLogs_suffix (capacity messageBytes : Nat) (s : ServiceState) :
    (s.evictLogs capacity messageBytes).logs <:+ s.logs := by
  have hgo : ∀ (logs : List ForwardedCoreLog) total dropped,
      (evictLogs.go capacity messageBytes s logs total dropped).logs <:+ logs := by
    intro logs
    induction logs with
    | nil => exact fun _ _ => List.suffix_refl _
    | cons log logs ih =>
      intro total dropped
      unfold evictLogs.go
      split
      · exact (ih _ _).trans (List.suffix_cons ..)
      · exact List.suffix_refl _
  exact hgo ..

theorem acceptLogs_later (logs : List CoreProcessLog) (s : ServiceState) :
    LogsLater s (acceptLogs config generation logs s) := by
  induction logs generalizing s with
  | nil => exact .of_same ⟨rfl, rfl, rfl⟩
  | cons log logs ih =>
    unfold acceptLogs
    split
    · exact .of_same ⟨rfl, rfl, rfl⟩
    · rename_i next hnext
      apply LogsLater.trans ⟨?_, ?_⟩ (ih _)
      · simp only [next_evictLogs]
        exact checkedSucc_eq_some hnext ▸ Nat.le_succ _
      · intro record hrecord
        rcases List.mem_append.1 hrecord with hold | hnew
        · have hsuffix := evictLogs_suffix config.logCapacity
            (truncateUtf8 log.message config.lineBytes).utf8ByteSize
            { s with nextLogSequence := next }
          exact .inl (hsuffix.subset hold)
        · cases List.mem_singleton.1 hnew
          exact .inr (Nat.le_refl _)

theorem acceptBatch_later : LogsLater s (acceptBatch config generation batch s) :=
  recordDropped_later.trans (acceptLogs_later ..)

end ServiceState

def position (cursor : Option UInt64) : Nat := (cursor.map (·.toNat)).getD 0

@[simp] theorem position_none : position none = 0 := rfl

@[simp] theorem position_some : position (some n) = n.toNat := rfl

namespace ServiceState

theorem takeBatch_isPrefix (total : Nat) (records : List ForwardedCoreLog) :
    takeBatch total records <+: records := by
  induction records generalizing total with
  | nil => exact List.prefix_refl _
  | cons record rest ih =>
    simp only [takeBatch]
    split
    · exact List.nil_prefix
    · exact (List.prefix_cons_inj record).2 (ih _)

theorem position_page (cursor : Option UInt64) (records : List ForwardedCoreLog) :
    position ((records.getLast?.map (·.sequence)).or cursor) =
      reached number (position cursor) records := by
  rcases List.eq_nil_or_concat records with rfl | ⟨init, last, rfl⟩
  · rfl
  · simp [number]

theorem wanted_eq (h : LogsKept config s) (cursor : Option UInt64) :
    s.logs.filter (fun record => cursor.all (· < record.sequence)) =
      after number (position cursor) s.logs := by
  apply List.filter_congr
  intro record hrecord
  cases cursor with
  | none => exact (decide_eq_true (h.positive record hrecord)).symm
  | some n => exact decide_eq_decide.2 UInt64.lt_iff_toNat_lt

theorem any_wanted (h : LogsKept config s) (cursor : Option UInt64) :
    (s.logs.any fun record => cursor.all (· < record.sequence)) = true ↔
      after number (position cursor) s.logs ≠ [] := by
  rw [← wanted_eq h, Ne, List.filter_eq_nil_iff, List.any_eq_true]
  simp only [not_forall, not_not, exists_prop]

structure Polled (s : ServiceState) (cursor : Option UInt64) (batch : ForwardedCoreLogBatch) :
    Prop where
  rest : after number (position cursor) s.logs =
    batch.records ++ after number (position batch.nextSequence) s.logs
  le_next : position cursor ≤ position batch.nextSequence
  next_lt : position batch.nextSequence < s.nextLogSequence.toNat
  within : ∀ record ∈ batch.records, number record ≤ position batch.nextSequence
  dropped : batch.droppedSinceAfter.toNat =
    position batch.nextSequence - position cursor - batch.records.length

theorem position_horizon (hnext : 0 < next.toNat) (hcursor : position cursor < next.toNat) :
    position (match cursor, if next > 1 then some (next - 1) else none with
      | some cursor, some horizon => some (max cursor horizon)
      | cursor, horizon => cursor.or horizon) = next.toNat - 1 := by
  by_cases hone : next > 1
  · have hsub : (next - 1).toNat = next.toNat - 1 := by
      rw [UInt64.toNat_sub_of_le _ _ (UInt64.le_of_lt hone)]
      rfl
    rw [if_pos hone]
    cases cursor with
    | none => exact hsub
    | some n =>
      have hle : n ≤ next - 1 := by
        rw [UInt64.le_iff_toNat_le, hsub]
        exact Nat.le_sub_one_of_lt hcursor
      change (if n ≤ next - 1 then next - 1 else n).toNat = _
      rw [if_pos hle, hsub]
  · rw [if_neg hone]
    have hle : next.toNat ≤ 1 := by simpa [UInt64.lt_iff_toNat_lt] using hone
    have hzero : position cursor = 0 := by omega
    cases cursor with
    | none => exact (Nat.sub_eq_zero_of_le hle).symm
    | some n => exact hzero.trans (Nat.sub_eq_zero_of_le hle).symm

def cursorBehind (s : ServiceState) (page : Option UInt64) : Option UInt64 :=
  if s.logs.any fun record => page.all (· < record.sequence) then page
  else match page, if s.nextLogSequence > 1 then some (s.nextLogSequence - 1) else none with
    | some cursor, some horizon => some (max cursor horizon)
    | cursor, horizon => cursor.or horizon

theorem position_cursorBehind (h : LogsKept config s)
    (hpage : position page < s.nextLogSequence.toNat) :
    position (s.cursorBehind page) = if after number (position page) s.logs = []
      then s.nextLogSequence.toNat - 1 else position page := by
  unfold cursorBehind
  by_cases hmore : after number (position page) s.logs = []
  · rw [if_pos hmore, if_neg fun hany => (any_wanted h page).1 hany hmore]
    exact position_horizon h.next_pos hpage
  · rw [if_neg hmore, if_pos ((any_wanted h page).2 hmore)]

theorem nextSequence_logsAfter (config : PrivilegedServiceConfig) (cursor : Option UInt64)
    (limit : Nat) (s : ServiceState) :
    (s.logsAfter config cursor limit).nextSequence = s.cursorBehind
      (((s.logsAfter config cursor limit).records.getLast?.map (·.sequence)).or cursor) := rfl

theorem records_logsAfter (h : LogsKept config s) (cursor : Option UInt64) (limit : Nat) :
    (s.logsAfter config cursor limit).records =
      takeBatch 0
        ((after number (position cursor) s.logs).take (min limit config.logCapacity)) := by
  rw [← wanted_eq h]
  rfl

theorem toNat_getD (cursor : Option UInt64) : (cursor.getD 0).toNat = position cursor := by
  cases cursor <;> rfl

theorem droppedSinceAfter_logsAfter (config : PrivilegedServiceConfig) (cursor : Option UInt64)
    (limit : Nat) (s : ServiceState) : (s.logsAfter config cursor limit).droppedSinceAfter.toNat =
      position (s.logsAfter config cursor limit).nextSequence - position cursor -
        (s.logsAfter config cursor limit).records.length := by
  rw [← toNat_getD, ← toNat_getD]
  apply UInt64.toNat_ofNat_of_lt'
  apply Nat.lt_of_le_of_lt ((Nat.sub_le ..).trans (Nat.sub_le ..))
  exact UInt64.toNat_lt _

theorem logsAfter_polled (h : LogsKept config s)
    (hcursor : position cursor < s.nextLogSequence.toNat) (limit : Nat) :
    Polled s cursor (s.logsAfter config cursor limit) := by
  have hdropped := droppedSinceAfter_logsAfter config cursor limit s
  have hnext := nextSequence_logsAfter config cursor limit s
  have hrecords := records_logsAfter h cursor limit
  generalize s.logsAfter config cursor limit = batch at hdropped hnext hrecords ⊢
  have hpre : batch.records <+: after number (position cursor) s.logs := by
    rw [hrecords]
    exact (takeBatch_isPrefix ..).trans (List.take_prefix ..)
  have hmem : ∀ record ∈ batch.records, record ∈ s.logs ∧ position cursor < number record :=
    fun record hrecord => mem_after.1 (hpre.subset hrecord)
  have hreached : reached number (position cursor) batch.records < s.nextLogSequence.toNat := by
    apply Nat.lt_of_le_pred h.next_pos
    apply reached_le
    · exact fun record hrecord => Nat.le_pred_of_lt (h.below record (hmem record hrecord).1)
    · exact Nat.le_pred_of_lt hcursor
  have hrest := after_eq_append h.ascending hpre
  have hwithin : ∀ record ∈ batch.records,
      number record ≤ reached number (position cursor) batch.records :=
    fun record hrecord => ((h.ascending.after).sublist hpre.sublist).le_reached hrecord
  have hposition := position_page cursor batch.records
  have hle : position cursor ≤ reached number (position cursor) batch.records :=
    le_reached fun record hrecord => (hmem record hrecord).2
  have hbehind := position_cursorBehind h (hposition.symm ▸ hreached)
  rw [← hnext, hposition] at hbehind
  by_cases hmore : after number (reached number (position cursor) batch.records) s.logs = []
  · rw [if_pos hmore] at hbehind
    have hnone : after number (position batch.nextSequence) s.logs = [] :=
      after_eq_nil fun record hrecord => hbehind ▸ Nat.le_sub_one_of_lt (h.below record hrecord)
    refine ⟨by rw [hrest, hmore, hnone], ?_, ?_, fun record hrecord => ?_, hdropped⟩
    · omega
    · have := h.next_pos
      omega
    · have := hwithin record hrecord
      omega
  · rw [if_neg hmore] at hbehind
    exact ⟨hbehind ▸ hrest, hbehind ▸ hle, hbehind ▸ hreached, hbehind ▸ hwithin, hdropped⟩

/-- The numbers between the cursors that an answer does not have. -/
def missingNumbers (cursor : Option UInt64) (batch : ForwardedCoreLogBatch) : Finset Nat :=
  (Finset.Ioc (position cursor) (position batch.nextSequence)).filter fun n =>
    n ∉ batch.records.map number

namespace Polled

theorem mem_records (h : Polled s cursor batch) (hrecord : record ∈ batch.records) :
    record ∈ after number (position cursor) s.logs := by
  rw [h.rest]
  exact List.mem_append_left _ hrecord

theorem ascending_records (h : Polled s cursor batch) (hkept : LogsKept config s) :
    Ascending number batch.records := by
  have hasc := hkept.ascending.after (n := position cursor)
  rw [h.rest] at hasc
  exact hasc.sublist (List.sublist_append_left ..)

theorem dropped_eq_card (h : Polled s cursor batch) (hkept : LogsKept config s) :
    batch.droppedSinceAfter.toNat = (missingNumbers cursor batch).card := by
  rw [h.dropped]
  apply (card_missing (h.ascending_records hkept) _).symm
  exact fun record hrecord => ⟨(mem_after.1 (h.mem_records hrecord)).2, h.within record hrecord⟩

theorem not_mem_missing (h : Polled s cursor batch) (hrecord : record ∈ s.logs) :
    number record ∉ missingNumbers cursor batch := by
  intro hmissing
  obtain ⟨hrange, hnot⟩ := Finset.mem_filter.1 hmissing
  obtain ⟨hgt, hle⟩ := Finset.mem_Ioc.1 hrange
  have hmem : record ∈ after number (position cursor) s.logs := mem_after.2 ⟨hrecord, hgt⟩
  rw [h.rest] at hmem
  rcases List.mem_append.1 hmem with hmem | hmem
  · exact hnot (List.mem_map_of_mem hmem)
  · exact absurd (mem_after.1 hmem).2 (Nat.not_lt.2 hle)

end Polled

theorem logsAfter_progress (h : LogsKept config s)
    (hline : config.lineBytes ≤ coreLogForwardBatchMaxBytes) (hlimit : 0 < limit)
    (hwanted : after number (position cursor) s.logs ≠ []) :
    (s.logsAfter config cursor limit).records ≠ [] := by
  obtain ⟨record, rest, hcons⟩ := List.exists_cons_of_ne_nil hwanted
  obtain ⟨count, hcount⟩ := Nat.exists_eq_succ_of_ne_zero
    (Nat.lt_min.2 ⟨hlimit, config.logCapacity_pos⟩).ne'
  have hrecord : record ∈ s.logs := (mem_after.1 (hcons ▸ List.mem_cons_self ..)).1
  have hfits : saturatingAdd 0 record.message.utf8ByteSize ≤ coreLogForwardBatchMaxBytes :=
    (Nat.min_le_left ..).trans ((Nat.zero_add _).trans_le ((h.lines record hrecord).trans hline))
  rw [records_logsAfter h, hcons, hcount, List.take_succ_cons, takeBatch]
  simp only [Nat.not_lt.2 hfits, if_false]
  exact List.cons_ne_nil _ _

end ServiceState

end Ratash
