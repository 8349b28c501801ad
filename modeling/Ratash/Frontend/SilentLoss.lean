import Ratash.Frontend.LogView

/-!
Between the records that have been settled and the cursor of the reader everything is in the queue,
or a gap is pending.
-/

namespace Ratash

open Numbered Bounded
open ViewLogRecord (number bytes)

theorem settledBy_eq_some (h : settledBy accounted covered = some n) :
    n = max (accounted.getD 0) (cursorNumber covered) := by
  rcases accounted with _ | accounted <;> rcases covered with _ | covered
  · cases h
  all_goals exact (Option.some.inj h).symm

theorem settledBy_eq_none (h : settledBy accounted covered = none) :
    accounted = none ∧ covered = none := by
  rcases accounted with _ | accounted <;> rcases covered with _ | covered
  · exact ⟨rfl, rfl⟩
  all_goals cases h

theorem maxSequence_eq_none (h : maxSequence left right = none) : left = none ∧ right = none := by
  rcases left with _ | left <;> rcases right with _ | right
  · exact ⟨rfl, rfl⟩
  all_goals cases h

variable {accounted reader : Option Nat} {covered : Option UInt64} {alive alive' : Prop}
  {logs records : List ViewLogRecord} {record : ViewLogRecord}

theorem Unbroken.weaken (h : Unbroken accounted covered reader alive logs)
    (hweaker : alive' → alive) : Unbroken accounted covered reader alive' logs := by
  obtain ⟨base, hsome, hconsecutive, halive⟩ := h
  exact ⟨base, hsome, hconsecutive, fun h' => halive (hweaker h')⟩

theorem Unbroken.idle (h : Unbroken accounted covered reader alive logs) (hidle : ¬alive') :
    Unbroken accounted covered reader' alive' logs := by
  obtain ⟨base, hsome, hconsecutive, _⟩ := h
  exact ⟨base, hsome, hconsecutive, fun h' => absurd h' hidle⟩

theorem unbroken_nil (h : alive → accounted = reader) :
    Unbroken accounted covered reader alive [] := by
  refine ⟨(settledBy accounted covered).getD 0, fun n hn => by rw [hn]; rfl, trivial, fun hal => ?_⟩
  obtain rfl := h hal
  rw [reached_nil]
  refine ⟨?_, fun n hn => ⟨n, hn, Nat.le_refl n⟩, fun hnone p hp => ?_⟩
  · cases hsettled : settledBy accounted covered with
    | none =>
      rw [(settledBy_eq_none hsettled).1]
      rfl
    | some s =>
      rw [Option.getD_some, settledBy_eq_some hsettled]
      omega
  · rw [(settledBy_eq_none hnone).1] at hp
    cases hp

/-- When the queue is delivered the reader stands at its last record. -/
theorem Unbroken.delivered (h : Unbroken accounted covered reader True logs) (hne : logs ≠ []) :
    (logs.getLast?.map number).or accounted = reader := by
  obtain ⟨base, _, hconsecutive, halive⟩ := h
  have hreached := (halive trivial).1
  obtain ⟨last, hlast⟩ := Option.ne_none_iff_exists'.1 fun hnone =>
    hne (List.getLast?_eq_none_iff.1 hnone)
  have hlt := hconsecutive.lt (List.mem_of_getLast? hlast)
  have hend : reached number base logs = last.number := by simp [reached, hlast]
  rw [hlast, Option.map_some, Option.some_or]
  cases reader with
  | none =>
    rw [Option.getD_none] at hreached
    omega
  | some p =>
    rw [Option.getD_some] at hreached
    exact congrArg some (by omega)

/-- A record that comes next, where a cursor says what is next. -/
structure Next (accounted : Option Nat) (covered : Option UInt64) (reader : Option Nat) (n : Nat) :
    Prop where
  positive : 0 < n
  follows : ∀ p, reader = some p → n = p + 1
  opens : reader = none → ∀ s, settledBy accounted covered = some s → n ≤ s + 1

theorem Unbroken.reader_le (h : Unbroken accounted covered reader True logs)
    (hnext : Next accounted covered reader n) :
    reader.getD 0 < n ∧ ∀ a, accounted = some a → a < n := by
  obtain ⟨_, _, _, halive⟩ := h
  obtain ⟨_, hahead, _⟩ := halive trivial
  constructor
  · cases reader with
    | none => exact hnext.positive
    | some p => exact (hnext.follows p rfl).symm ▸ Nat.lt_succ_self p
  · intro a ha
    obtain ⟨p, hp, hle⟩ := hahead a ha
    exact (hnext.follows p hp).symm ▸ Nat.lt_succ_of_le hle

theorem Unbroken.skip (h : Unbroken accounted (some through) reader True logs)
    (hnext : Next accounted (some through) reader n) (hcovered : n ≤ through.toNat) :
    Unbroken accounted (some through) (some n) True logs := by
  obtain ⟨hreader, haccounted⟩ := h.reader_le hnext
  obtain ⟨base, hsome, hconsecutive, halive⟩ := h
  have hreached := (halive trivial).1
  have hbase : through.toNat ≤ base := by
    cases hsettled : settledBy accounted (some through) with
    | none => cases (settledBy_eq_none hsettled).2
    | some s =>
      rw [hsome s hsettled, settledBy_eq_some hsettled]
      exact Nat.le_max_right _ _
  refine ⟨base, hsome, hconsecutive, fun _ => ⟨?_, fun a ha => ⟨n, rfl, (haccounted a ha).le⟩,
    fun hnone => nomatch (settledBy_eq_none hnone).2⟩⟩
  rw [hreached, Option.getD_some]
  omega

theorem Unbroken.push (h : Unbroken accounted covered reader True logs)
    (hnext : Next accounted covered reader record.number)
    (huncovered : cursorNumber covered < record.number) :
    Unbroken accounted covered (some record.number) True (logs ++ [record]) := by
  obtain ⟨hreader, haccounted⟩ := h.reader_le hnext
  obtain ⟨base, hsome, hconsecutive, halive⟩ := h
  obtain ⟨hreached, _, hbase⟩ := halive trivial
  have hahead : ∀ a, accounted = some a → ∃ p, some record.number = some p ∧ a ≤ p :=
    fun a ha => ⟨_, rfl, (haccounted a ha).le⟩
  have hnumber : ∀ p, reader = some p → record.number = p + 1 := hnext.follows
  cases hsettled : settledBy accounted covered with
  | some s =>
    obtain rfl := hsome s hsettled
    have hs : base < record.number := by
      rw [settledBy_eq_some hsettled]
      refine Nat.max_lt.2 ⟨?_, huncovered⟩
      cases accounted with
      | none => exact hnext.positive
      | some a => exact haccounted a rfl
    have hend : record.number = reached number base logs + 1 := by
      cases reader with
      | none =>
        have := hnext.opens rfl base hsettled
        rw [hreached, Option.getD_none]
        omega
      | some p =>
        rw [hreached, Option.getD_some, hnumber p rfl]
        have := hnumber p rfl
        omega
    refine ⟨base, fun _ _ => by simp_all, hconsecutive.snoc hend, fun _ => ⟨?_, hahead, ?_⟩⟩
    · rw [reached_snoc, Option.getD_some]
      omega
    · rw [hsettled]
      exact nofun
  | none =>
    cases reader with
    | none =>
      -- nothing is queued yet, and the record may have any number
      have hnil : logs = [] := hconsecutive.eq_nil (by rw [hreached]; exact Nat.max_zero base)
      subst hnil
      have hpositive := hnext.positive
      refine ⟨record.number - 1, fun _ hn => by simp_all, ⟨by omega, trivial⟩,
        fun _ => ⟨?_, hahead, ?_⟩⟩
      · rw [reached_snoc, Option.getD_some]
        omega
      · rintro _ _ ⟨⟩
        exact Nat.sub_le _ _
    | some p =>
      have hle := hbase hsettled p rfl
      have hp := hnumber p rfl
      rw [Option.getD_some] at hreached
      refine ⟨base, fun _ hn => by simp_all, hconsecutive.snoc (by omega),
        fun _ => ⟨?_, hahead, ?_⟩⟩
      · rw [reached_snoc, Option.getD_some]
        omega
      · rintro _ _ ⟨⟩
        omega

theorem Next.of_some (hn : n = p + 1) : Next accounted covered (some p) n := by
  subst hn
  refine ⟨Nat.succ_pos p, ?_, nofun⟩
  rintro _ ⟨⟩
  rfl

theorem Unbroken.cover (h : Unbroken accounted covered reader alive logs)
    (hsettled : settledBy accounted covered = some n) (horizon : Option UInt64) :
    Unbroken accounted (maxSequence covered horizon) reader alive
      (after number (max (cursorNumber covered) (cursorNumber horizon)) logs) := by
  obtain ⟨base, hsome, hconsecutive, halive⟩ := h
  obtain rfl := hsome n hsettled
  have hbase := settledBy_eq_some hsettled
  have hafter : after number (max (cursorNumber covered) (cursorNumber horizon)) logs =
      after number (max base (cursorNumber horizon)) logs := by
    apply List.filter_congr
    intro record hmem
    have := hconsecutive.lt hmem
    rw [decide_eq_decide]
    omega
  obtain ⟨hconsecutive', hend⟩ := hconsecutive.after (Nat.le_max_left base (cursorNumber horizon))
  have hnew : ∀ s, settledBy accounted (maxSequence covered horizon) = some s →
      max base (cursorNumber horizon) = s := by
    intro s hs
    rw [settledBy_eq_some hs, cursorNumber_maxSequence, hbase, Nat.max_assoc]
  rw [hafter]
  refine ⟨_, hnew, hconsecutive', fun hal => ?_⟩
  obtain ⟨hreached, hahead, _⟩ := halive hal
  refine ⟨?_, hahead, fun hnone => ?_⟩
  · rw [hend, hreached]
    omega
  · obtain ⟨rfl, hmax⟩ := settledBy_eq_none hnone
    rw [(maxSequence_eq_none hmax).1] at hsettled
    cases hsettled

namespace ConnectionBufferState

variable {σ : Type} {state state' : ConnectionBufferState σ}

structure Queued (state : ConnectionBufferState σ) : Prop where
  tidy : state.Tidy
  positive : ∀ record ∈ state.logs, 0 < record.number

/-- Unless a gap is pending nothing is missing. -/
def Faithful (accounted reader : Option Nat) (alive : Prop) (state : ConnectionBufferState σ) :
    Prop :=
  state.gap = false → Unbroken accounted state.coveredThrough reader alive state.logs

theorem Queued.alike (h : Queued state) (hlogs : state'.logs = state.logs)
    (hbytes : state'.queuedBytes = state.queuedBytes) : Queued state' := by
  obtain ⟨⟨hbytes_eq, hlength, hbytes_le⟩, hpositive⟩ := h
  rw [← hlogs] at hbytes_eq hlength hpositive
  rw [← hbytes] at hbytes_eq hbytes_le
  exact ⟨⟨hbytes_eq, hlength, hbytes_le⟩, hpositive⟩

theorem Faithful.alike (h : Faithful accounted reader alive state)
    (hlogs : state'.logs = state.logs) (hgap : state'.gap = false → state.gap = false)
    (hcovered : state'.coveredThrough = state.coveredThrough) :
    Faithful accounted reader alive state' := by
  intro hclear
  rw [hlogs, hcovered]
  exact h (hgap hclear)

theorem covers_iff {record : ViewLogRecord} : state.covers record = true ↔
      ∃ covered, state.coveredThrough = some covered ∧ record.number ≤ covered.toNat := by
  unfold covers
  cases state.coveredThrough with
  | none => simp
  | some covered => simp [ViewLogRecord.number, UInt64.le_iff_toNat_le]

theorem Queued.publishRecord (h : Queued state) (hpositive : 0 < record.number)
    (hbytes : record.bytes ≤ coreLogLineMaxBytes) : Queued (state.publishRecord record) := by
  unfold ConnectionBufferState.publishRecord
  split
  · exact h
  have hpushed := push_spec h.tidy hbytes
  obtain ⟨dropped, hlogs, _⟩ := hpushed.logs
  refine ⟨hpushed.tidy, fun r hr => ?_⟩
  rw [hlogs] at hr
  rcases List.mem_append.1 hr with hr | hr
  · exact h.positive r (List.mem_of_mem_drop hr)
  · rw [List.mem_singleton.1 hr]
    exact hpositive

theorem Faithful.publishRecord (hqueued : Queued state) (h : Faithful accounted reader True state)
    (hnext : state.gap = false → Next accounted state.coveredThrough reader record.number)
    (hbytes : record.bytes ≤ coreLogLineMaxBytes) :
    Faithful accounted (some record.number) True (state.publishRecord record) := by
  unfold ConnectionBufferState.publishRecord
  split
  · rename_i hcovers
    intro hgap
    obtain ⟨covered, hcovered, hle⟩ := covers_iff.1 hcovers
    have hunbroken := h hgap
    have hnext := hnext hgap
    rw [hcovered] at hunbroken hnext ⊢
    exact hunbroken.skip hnext hle
  · rename_i hcovers
    intro hgap
    have hpushed := push_spec hqueued.tidy hbytes
    obtain ⟨dropped, hlogs, hkept⟩ := hpushed.logs
    obtain ⟨hgap, rfl⟩ := hkept hgap
    rw [hpushed.coveredThrough, hlogs, List.drop_zero]
    apply (h hgap).push (hnext hgap)
    cases hcovered : state.coveredThrough with
    | none => exact (hnext hgap).positive
    | some covered =>
      exact Nat.not_le.1 fun hle => hcovers (covers_iff.2 ⟨covered, hcovered, hle⟩)

theorem gap_publishRecord (h : state.gap = true) : (state.publishRecord record).gap = true := by
  unfold publishRecord
  split
  · exact h
  · simp [push, h]

theorem disconnected_publishRecord :
    (state.publishRecord record).disconnected = state.disconnected := by
  unfold publishRecord
  split
  · rfl
  · rfl

theorem gap_publishRecords (h : state.gap = true) : (publishRecords records state).gap = true := by
  induction records generalizing state with
  | nil => exact h
  | cons record records ih => exact ih (gap_publishRecord h)

theorem disconnected_publishRecords :
    (publishRecords records state).disconnected = state.disconnected := by
  induction records generalizing state with
  | nil => rfl
  | cons record records ih => exact ih.trans disconnected_publishRecord

theorem Queued.publishRecords (h : Queued state) (hpositive : ∀ record ∈ records, 0 < record.number)
    (hbytes : ∀ record ∈ records, record.bytes ≤ coreLogLineMaxBytes) :
    Queued (publishRecords records state) := by
  induction records generalizing state with
  | nil => exact h
  | cons record records ih =>
    obtain ⟨hhead, hrest⟩ := List.forall_mem_cons.1 hpositive
    obtain ⟨hbyte, hbytes⟩ := List.forall_mem_cons.1 hbytes
    exact ih (h.publishRecord hhead hbyte) hrest hbytes

theorem Faithful.publishRecords (hqueued : Queued state)
    (h : Faithful accounted (some p) True state) (hconsecutive : Consecutive number p records)
    (hbytes : ∀ record ∈ records, record.bytes ≤ coreLogLineMaxBytes) :
    Faithful accounted (some (reached number p records)) True (publishRecords records state) := by
  induction records generalizing p state with
  | nil => exact h
  | cons record records ih =>
    obtain ⟨hbyte, hbytes⟩ := List.forall_mem_cons.1 hbytes
    have hnumber := hconsecutive.1
    have hpositive : 0 < record.number := by omega
    rw [reached_cons]
    apply ih (hqueued.publishRecord hpositive hbyte)
      (h.publishRecord hqueued (fun _ => .of_some hnumber) hbyte)
    · exact hnumber ▸ hconsecutive.2
    · exact hbytes

theorem logs_applyTailCoverage (h : Queued state) (horizon : Option UInt64) (dropped : UInt64) :
    (state.applyTailCoverage horizon dropped).logs =
      after number (max (cursorNumber state.coveredThrough) (cursorNumber horizon)) state.logs := by
  rw [← cursorNumber_maxSequence]
  simp only [applyTailCoverage]
  cases maxSequence state.coveredThrough horizon with
  | none => exact (List.filter_eq_self.2 fun r hr => decide_eq_true (h.positive r hr)).symm
  | some covered =>
    apply List.filter_congr
    intro record _
    rw [decide_eq_decide, UInt64.lt_iff_toNat_lt]
    rfl

theorem Queued.applyTailCoverage (h : Queued state) (horizon : Option UInt64) (dropped : UInt64) :
    Queued (state.applyTailCoverage horizon dropped) := by
  have hsub : List.Sublist (state.applyTailCoverage horizon dropped).logs state.logs := by
    rw [logs_applyTailCoverage h]
    exact List.filter_sublist
  refine ⟨⟨rfl, hsub.length_le.trans h.tidy.length_le, ?_⟩,
    fun record hmem => h.positive record (hsub.subset hmem)⟩
  exact (total_le_of_sublist hsub).trans (h.tidy.bytes_eq ▸ h.tidy.bytes_le)

theorem takeEvent_logs {marked : Bool} (htidy : state.Tidy)
    (h : state.takeEvent generation = (some (.logs g records marked dropped), state')) :
    records = state.logs ∧ marked = state.gap ∧ state'.logs = [] ∧ state'.queuedBytes = 0 ∧
      state'.gap = false ∧ state'.coveredThrough = state.coveredThrough ∧
      state'.disconnected = state.disconnected ∧ (state.logs = [] → state.gap = true) := by
  have hcount : min state.logs.length logSubscriberCapacity = state.logs.length :=
    Nat.min_eq_left htidy.length_le
  unfold takeEvent at h
  split at h
  · cases h
  split at h
  · cases h
  split at h
  · cases h
  rename_i hsome
  simp only [hcount, List.take_length, List.drop_length] at h
  cases h
  refine ⟨rfl, rfl, rfl, ?_, rfl, rfl, rfl, fun hnil => ?_⟩
  · rw [htidy.bytes_eq, Nat.sub_self]
  · by_contra hgap
    exact hsome ⟨hnil, Bool.not_eq_true _ ▸ hgap⟩

theorem takeEvent_other (h : state.takeEvent generation = (event, state'))
    (hevent : ∀ g records gap dropped, event ≠ some (.logs g records gap dropped)) :
    ∃ status, state' = { state with status, disconnected := false } := by
  unfold takeEvent at h
  split at h
  · cases h
    exact ⟨_, rfl⟩
  rename_i hconnected
  have hdisconnected : state.disconnected = false := Bool.not_eq_true _ ▸ hconnected
  split at h
  · cases h
    exact ⟨none, by rw [← hdisconnected]⟩
  split at h
  · cases h
    exact ⟨state.status, by rw [← hdisconnected]⟩
  · cases h
    exact absurd rfl (hevent _ _ _ _)

theorem Faithful.publishTail (hqueued : Queued state)
    (h : Faithful accounted reader True state) (hpositive : ∀ record ∈ records, 0 < record.number)
    (hbytes : ∀ record ∈ records, record.bytes ≤ coreLogLineMaxBytes)
    (hconsecutive : Consecutive number
      (reader.getD ((records.head?.map number).getD 0 - 1)) records)
    (hopens : reader = none → ∀ s, settledBy accounted state.coveredThrough = some s →
      ∀ first ∈ records.head?, first.number ≤ s + 1) :
    Faithful accounted ((records.getLast?.map number).or reader) True
      (ConnectionBufferState.publishRecords records state) := by
  cases records with
  | nil => exact h
  | cons record records =>
    have hhead := hpositive record List.mem_cons_self
    obtain ⟨hbyte, hbytes⟩ := List.forall_mem_cons.1 hbytes
    have hnext : Next accounted state.coveredThrough reader record.number := by
      refine ⟨hhead, fun p hp => ?_, fun hnone s hs => hopens hnone s hs record rfl⟩
      subst hp
      exact hconsecutive.1
    have hrest : Consecutive number record.number records := hconsecutive.1 ▸ hconsecutive.2
    have hlast : ((record :: records).getLast?.map number).or reader =
        some (reached number record.number records) := by
      rw [List.getLast?_cons, reached]
      cases records.getLast? <;> rfl
    rw [hlast]
    exact (h.publishRecord hqueued (fun _ => hnext) hbyte).publishRecords
      (hqueued.publishRecord hhead hbyte) hrest hbytes

end ConnectionBufferState

namespace LogView

variable {σ : Type} {view : LogView σ} {buffer : ConnectionBufferState σ}

structure Orderly (view : LogView σ) : Prop where
  queued : view.buffer.Queued
  broken : view.buffer.disconnected = true → view.active = false

def Faithful (view : LogView σ) : Prop :=
  view.buffer.Faithful view.accounted view.reader view.alive

theorem orderly_initial (cursor : Option UInt64) : (initial cursor : LogView σ).Orderly :=
  ⟨⟨⟨rfl, Nat.zero_le _, Nat.zero_le _⟩, fun _ hmem => nomatch hmem⟩, nofun⟩

theorem Orderly.not_alive (h : view.Orderly) (hbroken : view.buffer.disconnected = true) :
    ¬(view.active = true ∨ false = true) := by
  simp [h.broken hbroken]

theorem Orderly.publishLog (h : view.Orderly) (hpositive : 0 < record.number)
    (hbytes : record.bytes ≤ coreLogLineMaxBytes) :
    Orderly { view with
      buffer := view.buffer.publishLog record
      afterSequence := some record.sequence
      reading := false } := by
  unfold ConnectionBufferState.publishLog
  split
  · exact ⟨h.queued, h.broken⟩
  · refine ⟨h.queued.publishRecord hpositive hbytes, fun hbroken => h.broken ?_⟩
    exact ConnectionBufferState.disconnected_publishRecord.symm.trans hbroken

theorem Faithful.publishLog (horderly : view.Orderly) (h : view.Faithful)
    (hreading : view.reading = true) (hnext : view.buffer.gap = false →
      Next view.accounted view.buffer.coveredThrough view.reader record.number)
    (hbytes : record.bytes ≤ coreLogLineMaxBytes) :
    Faithful { view with
      buffer := view.buffer.publishLog record
      afterSequence := some record.sequence
      reading := false } := by
  unfold ConnectionBufferState.publishLog
  split
  · rename_i hbroken
    exact fun hgap => (h hgap).idle (horderly.not_alive hbroken)
  · have hfaithful : view.buffer.Faithful view.accounted view.reader True :=
      fun hgap => (h hgap).weaken fun _ => .inr hreading
    exact fun hgap => (hfaithful.publishRecord horderly.queued hnext hbytes hgap).weaken
      fun _ => trivial

theorem positive_of_answers (h : Answers cursor tail)
    (hconvert : convertLogRecords tail.records = some records) :
    ∀ record ∈ records, 0 < record.number := by
  intro record hmem
  have hnumber : record.number ∈ tail.records.map LogRecordV1.number :=
    (convertLogRecords_some hconvert).1 ▸ List.mem_map_of_mem hmem
  obtain ⟨sent, hsent, heq⟩ := List.mem_map.1 hnumber
  exact heq ▸ (Nat.zero_le _).trans_lt (h.behind sent hsent)

theorem Orderly.publishTail (h : view.Orderly) (hanswers : Answers cursor tail) :
    (view.publishTail tail).Orderly := by
  unfold LogView.publishTail
  split
  · exact ⟨h.queued, fun _ => rfl⟩
  rename_i records hconvert
  unfold ConnectionBufferState.publishTail
  split
  · exact ⟨h.queued, h.broken⟩
  · have hnoted : (view.buffer.noteTail tail).Queued := h.queued.alike rfl rfl
    refine ⟨hnoted.publishRecords (positive_of_answers hanswers hconvert)
      (convertLogRecords_some hconvert).2, fun hbroken => h.broken ?_⟩
    rw [ConnectionBufferState.disconnected_publishRecords] at hbroken
    exact hbroken

theorem Faithful.publishTail (horderly : view.Orderly) (h : view.Faithful)
    (hreading : view.reading = true) (hanswers : tail.gap = false → Answers view.afterSequence tail)
    (htimely : view.buffer.gap = false → tail.gap = false →
      sequenceReset view.afterSequence tail.sequenceHorizon = false ∧
        view.Opens (tail.records.map LogRecordV1.number)) : (view.publishTail tail).Faithful := by
  unfold LogView.publishTail
  split
  · exact fun hgap => (h hgap).idle (by simp [failReader, LogView.alive])
  rename_i records hconvert
  unfold ConnectionBufferState.publishTail
  split
  · rename_i hbroken
    exact fun hgap => (h hgap).idle (horderly.not_alive hbroken)
  cases hpending : (view.buffer.noteTail tail).gap with
  | true =>
    -- the gap stays pending
    intro hclear
    rw [ConnectionBufferState.gap_publishRecords hpending] at hclear
    cases hclear
  | false =>
    obtain ⟨hgap, hwhole⟩ : view.buffer.gap = false ∧ tail.gap = false :=
      Bool.or_eq_false_iff.1 hpending
    obtain ⟨hreset, hopens⟩ := htimely hgap hwhole
    have hanswers := hanswers hwhole
    obtain ⟨hnumbers, hbytes⟩ := convertLogRecords_some hconvert
    obtain ⟨hconsecutive, hhorizon⟩ := hanswers.whole hwhole
    have hhorizon := hhorizon.resolve_right fun hboth => by simp [hreset] at hboth
    have hhead : records.head?.map number = tail.records.head?.map LogRecordV1.number := by
      rw [← List.head?_map, ← List.head?_map, hnumbers]
    have hreader : tail.sequenceHorizon.map UInt64.toNat =
        (records.getLast?.map number).or view.reader := by
      rw [hhorizon, Option.map_or, Option.map_map, ← List.getLast?_map, ← List.getLast?_map,
        hnumbers]
      rfl
    have hfaithful : (view.buffer.noteTail tail).Faithful view.accounted view.reader True :=
      fun _ => (h hgap).weaken fun _ => .inr hreading
    have hnoted : (view.buffer.noteTail tail).Queued := horderly.queued.alike rfl rfl
    have hpublished := hfaithful.publishTail hnoted
      (positive_of_answers hanswers hconvert) hbytes
      (by rw [hhead]; exact hconsecutive.congr hnumbers) (fun hnone s hs first hfirst => by
        refine hopens (Option.map_eq_none_iff.1 hnone) s hs first.number ?_
        rw [List.head?_map, ← hhead]
        exact Option.mem_map_of_mem _ hfirst)
    rw [← hreader] at hpublished
    exact fun hclear => (hpublished hclear).weaken fun _ => trivial

theorem Orderly.cover (h : view.Orderly) (sequenceHorizon : Option UInt64) (dropped : UInt64) :
    Orderly { view with
      buffer := view.buffer.applyTailCoverage sequenceHorizon dropped
      fetched := none } :=
  ⟨h.queued.applyTailCoverage sequenceHorizon dropped, h.broken⟩

theorem Faithful.cover (horderly : view.Orderly) (h : view.Faithful)
    (hfetched : view.fetched = some (sequenceHorizon, dropped)) (htimely : view.Timely .cover) :
    Faithful { view with
      buffer := view.buffer.applyTailCoverage sequenceHorizon dropped
      fetched := none } := by
  intro _
  dsimp only
  rw [ConnectionBufferState.logs_applyTailCoverage horderly.queued]
  by_cases hcase : view.buffer.gap = true ∨ view.settled = none
  · exact htimely sequenceHorizon dropped hfetched hcase
  · obtain ⟨hgap, hsettled⟩ := not_or.1 hcase
    obtain ⟨n, hn⟩ := Option.ne_none_iff_exists'.1 hsettled
    exact (h (Bool.eq_false_iff.2 hgap)).cover hn sequenceHorizon

theorem perform_take {event : Option (StatusLogEvent σ)}
    (hevent : view.buffer.takeEvent generation = (event, buffer)) :
    view.perform (.take generation) =
      { view with buffer, accounted := view.accountedAfter event } := by
  simp only [perform, hevent]

theorem accountedAfter_other {event : Option (StatusLogEvent σ)}
    (hevent : ∀ g records gap dropped, event ≠ some (.logs g records gap dropped)) :
    view.accountedAfter event = view.accounted := by
  rcases event with _ | _ | _ | ⟨g, records, gap, dropped⟩
  · rfl
  · rfl
  · rfl
  · exact absurd rfl (hevent g records gap dropped)

theorem Orderly.take (h : view.Orderly) (generation : UInt64) :
    (view.perform (.take generation)).Orderly := by
  obtain ⟨event, buffer, hevent⟩ : ∃ event buffer,
      view.buffer.takeEvent generation = (event, buffer) := ⟨_, _, rfl⟩
  rw [perform_take hevent]
  by_cases hlogs : ∃ g records gap dropped, event = some (.logs g records gap dropped)
  · obtain ⟨g, records, gap, dropped, rfl⟩ := hlogs
    obtain ⟨-, -, hempty, hbytes, -, -, hdisconnected, -⟩ :=
      ConnectionBufferState.takeEvent_logs h.queued.tidy hevent
    refine ⟨⟨⟨?_, ?_, ?_⟩, ?_⟩, fun hbroken => h.broken (hdisconnected ▸ hbroken)⟩
    · rw [hbytes, hempty]
      rfl
    · rw [hempty]
      exact Nat.zero_le _
    · rw [hbytes]
      exact Nat.zero_le _
    · rw [hempty]
      exact fun _ hmem => nomatch hmem
  · have hother : ∀ g records gap dropped, event ≠ some (.logs g records gap dropped) :=
      fun g records gap dropped heq => hlogs ⟨g, records, gap, dropped, heq⟩
    obtain ⟨status, rfl⟩ := ConnectionBufferState.takeEvent_other hevent hother
    exact ⟨h.queued.alike rfl rfl, nofun⟩

theorem Faithful.take (horderly : view.Orderly) (h : view.Faithful) (generation : UInt64) :
    (view.perform (.take generation)).Faithful := by
  obtain ⟨event, buffer, hevent⟩ : ∃ event buffer,
      view.buffer.takeEvent generation = (event, buffer) := ⟨_, _, rfl⟩
  rw [perform_take hevent]
  by_cases hlogs : ∃ g records gap dropped, event = some (.logs g records gap dropped)
  · obtain ⟨g, records, gap, dropped, rfl⟩ := hlogs
    obtain ⟨rfl, rfl, hempty, -, -, -, -, hgap⟩ :=
      ConnectionBufferState.takeEvent_logs horderly.queued.tidy hevent
    intro _
    dsimp only
    rw [hempty]
    cases hpending : view.buffer.gap with
    | true => exact unbroken_nil fun _ => rfl
    | false =>
      have hne : view.buffer.logs ≠ [] := fun hnil => by simp [hgap hnil] at hpending
      exact unbroken_nil fun halive => ((h hpending).weaken fun _ => halive).delivered hne
  · have hother : ∀ g records gap dropped, event ≠ some (.logs g records gap dropped) :=
      fun g records gap dropped heq => hlogs ⟨g, records, gap, dropped, heq⟩
    obtain ⟨status, rfl⟩ := ConnectionBufferState.takeEvent_other hevent hother
    rw [accountedAfter_other hother]
    exact ConnectionBufferState.Faithful.alike h rfl (fun hclear => hclear) rfl

theorem answers_recovered (h : Answers cursor tail) (h' : Answers none anew) :
    ∃ cursor', Answers cursor' (recoveredTail cursor tail anew) := by
  unfold recoveredTail
  split
  · exact ⟨none, h'.behind, nofun⟩
  · exact ⟨cursor, h⟩

theorem Orderly.step (h : view.Orderly) (henabled : view.Enabled action) :
    (view.perform action).Orderly := by
  cases action with
  | check => exact ⟨h.queued, h.broken⟩
  | publishLog record =>
    simp only [perform]
    cases hconvert : convertLogRecord record with
    | none => exact ⟨h.queued, fun _ => rfl⟩
    | some converted =>
      obtain ⟨heq, hbytes⟩ := convertLogRecord_some hconvert
      exact h.publishLog (heq ▸ henabled.2.1) hbytes
  | publishTail tail => exact h.publishTail henabled.2
  | recover tail anew =>
    obtain ⟨_, hanswers⟩ := answers_recovered henabled.2.1 henabled.2.2
    exact h.publishTail hanswers
  | publishStatus status =>
    simp only [perform, ConnectionBufferState.publishStatus]
    split
    · exact ⟨h.queued, h.broken⟩
    · exact ⟨h.queued.alike rfl rfl, h.broken⟩
  | fetch horizon dropped => exact ⟨h.queued, h.broken⟩
  | cover =>
    simp only [perform]
    split
    · exact h
    · exact h.cover _ _
  | take generation => exact h.take generation
  | fail => exact ⟨h.queued, fun _ => rfl⟩
  | markDisconnected => exact ⟨h.queued.alike rfl rfl, fun _ => henabled⟩

theorem Faithful.step (horderly : view.Orderly) (h : view.Faithful) (henabled : view.Enabled action)
    (htimely : view.Timely action) : (view.perform action).Faithful := by
  cases action with
  | check => exact fun hgap => (h hgap).weaken fun _ => .inl henabled
  | publishLog record =>
    obtain ⟨hreading, hpositive, hfollows⟩ := henabled
    simp only [perform]
    cases hconvert : convertLogRecord record with
    | none => exact fun hgap => (h hgap).idle (by simp [failReader, LogView.alive])
    | some converted =>
      obtain ⟨heq, hbytes⟩ := convertLogRecord_some hconvert
      refine h.publishLog horderly hreading (fun hgap => ?_) hbytes
      rw [heq]
      refine ⟨hpositive, hfollows, fun hnone s hs => ?_⟩
      exact htimely hgap (Option.map_eq_none_iff.1 hnone) s hs _ rfl
  | publishTail tail => exact h.publishTail horderly henabled.1 (fun _ => henabled.2) htimely
  | recover tail anew =>
    obtain ⟨hreading, hanswers, _⟩ := henabled
    simp only [perform, recoveredTail]
    split
    · exact h.publishTail horderly hreading nofun nofun
    · rename_i hreset
      exact h.publishTail horderly hreading (fun _ => hanswers) fun hgap hwhole =>
        ⟨Bool.eq_false_iff.2 hreset, htimely hgap hwhole⟩
  | publishStatus status =>
    simp only [perform, ConnectionBufferState.publishStatus]
    split
    · exact h
    · exact ConnectionBufferState.Faithful.alike h rfl (fun hclear => hclear) rfl
  | fetch horizon dropped => exact h
  | cover =>
    simp only [perform]
    split
    · exact h
    · rename_i horizon dropped hfetched
      exact h.cover horderly hfetched htimely
  | take generation => exact h.take horderly generation
  | fail =>
    exact fun hgap => (h hgap).weaken fun halive =>
      halive.elim (fun hactive => nomatch hactive) .inr
  | markDisconnected => exact ConnectionBufferState.Faithful.alike h rfl (fun hclear => hclear) rfl

theorem Orderly.run (h : view.Orderly) (hlegal : Throughout Enabled view schedule) :
    (view.run schedule).Orderly := by
  induction schedule generalizing view with
  | nil => exact h
  | cons action rest ih => exact ih (h.step hlegal.1) hlegal.2

theorem Faithful.run (horderly : view.Orderly) (h : view.Faithful)
    (hlegal : Throughout Enabled view schedule) (htimely : Throughout Timely view schedule) :
    (view.run schedule).Faithful := by
  induction schedule generalizing view with
  | nil => exact h
  | cons action rest ih =>
    exact ih (horderly.step hlegal.1) (h.step horderly hlegal.1 htimely.1) hlegal.2 htimely.2

end LogView

end Ratash
