import Ratash.Bounded.Queue
import Ratash.Numbered.Consecutive
import Ratash.Telemetry.LogRecord

namespace Ratash

open Bounded Numbered

def logRetentionMaxBytes : Nat := 32 * 1024 * 1024
def logTailMaxRecords : Nat := 256
def logTailMaxBytes : Nat := 4 * 1024 * 1024
def logTailEnvelopeMaxBytes : Nat := 512
def logRecordFixedMaxBytes : Nat := 256

inductive TelemetryError where
  | invalidLimit
  | logLineTooLarge (limit : Nat)
  | sequenceExhausted
deriving DecidableEq

structure LogTail where
  records : List CoreLogRecord
  droppedTotal : UInt64
  gap : Bool
  earliestSequence : Option UInt64
  latestSequence : Option UInt64
  sequenceHorizon : Option UInt64
deriving DecidableEq

structure LogBuffer where
  capacity : Nat
  maxLineBytes : Nat
  nextSequence : UInt64
  droppedTotal : UInt64
  retainedBytes : Nat
  records : List CoreLogRecord
deriving DecidableEq

/-- What a byte of a text takes in JSON. -/
def encodedByte (byte : UInt8) : Nat :=
  if byte ∈ [0x22, 0x5c, 0x08, 0x09, 0x0a, 0x0c, 0x0d] then 2
  else if byte ≤ 0x1f then 6
  else 1

def encodedJsonStringBytes (value : String) : Nat :=
  value.toUTF8.toList.foldl (fun encoded byte => encoded + encodedByte byte) 2

def encodedRecordUpperBound (record : CoreLogRecord) : Nat :=
  logRecordFixedMaxBytes + encodedJsonStringBytes record.message

def recordsHaveGap : List CoreLogRecord → Bool
  | first :: second :: rest =>
    (checkedSucc first.sequence).all (second.sequence ≠ ·) || recordsHaveGap (second :: rest)
  | _ => false

/-- The loop of `sequence_has_gap`. -/
def gapFrom (nextSequence : UInt64) : UInt64 → List CoreLogRecord → Bool
  | expected, [] => expected < nextSequence
  | expected, record :: rest =>
    if expected < record.sequence then true
    else gapFrom nextSequence (saturatingAdd64 record.sequence 1) rest

def sequenceHasGap (after : UInt64) (records : List CoreLogRecord) (nextSequence : UInt64) : Bool :=
  match checkedSucc after with
  | none => false
  | some expected => gapFrom nextSequence expected records

/-- The loop of `tail_after`, from the newest record on: what it takes, and whether it leaves
anything. -/
def takeNewest (taken deliveryBytes : Nat) : List CoreLogRecord → List CoreLogRecord × Bool
  | [] => ([], false)
  | record :: older =>
    let recordBytes := encodedRecordUpperBound record
    if taken = logTailMaxRecords ∨ logTailMaxBytes < deliveryBytes + recordBytes then ([], true)
    else
      let (records, truncated) := takeNewest (taken + 1) (deliveryBytes + recordBytes) older
      (record :: records, truncated)

namespace LogBuffer

def new (capacity maxLineBytes : Nat) : Except TelemetryError LogBuffer :=
  if capacity = 0 ∨ maxLineBytes = 0 then .error .invalidLimit
  else .ok ⟨capacity, maxLineBytes, 1, 0, 0, []⟩

/-- The answer, and the buffer it leaves. -/
def push (timestampUnixMs : UInt64) (level : LogLevel) (source : LogSource) (message : String)
    (buffer : LogBuffer) : Except TelemetryError UInt64 × LogBuffer :=
  if buffer.maxLineBytes < message.utf8ByteSize then
    (.error (.logLineTooLarge buffer.maxLineBytes), buffer)
  else if logRetentionMaxBytes < message.utf8ByteSize then
    (.error (.logLineTooLarge logRetentionMaxBytes), buffer)
  else
    let sequence := buffer.nextSequence
    match checkedSucc buffer.nextSequence with
    | none => (.error .sequenceExhausted, buffer)
    | some nextSequence =>
      let (records, retainedBytes, dropped) := makeRoom CoreLogRecord.bytes buffer.capacity
        logRetentionMaxBytes message.utf8ByteSize buffer.records buffer.retainedBytes
      (.ok sequence, { buffer with
        nextSequence
        droppedTotal := saturatingAdd64 buffer.droppedTotal (.ofNat dropped)
        retainedBytes := retainedBytes + message.utf8ByteSize
        records := records ++ [⟨sequence, timestampUnixMs, level, source, message⟩] })

def recordExternalDrop (count : UInt64) (buffer : LogBuffer) :
    Except TelemetryError Unit × LogBuffer :=
  if count = 0 then (.ok (), buffer)
  else
    match checkedAdd64 buffer.nextSequence count with
    | none => (.error .sequenceExhausted, buffer)
    | some nextSequence =>
      (.ok (), { buffer with
        nextSequence
        droppedTotal := saturatingAdd64 buffer.droppedTotal count })

def tailAfter (afterSequence : Option UInt64) (buffer : LogBuffer) : LogTail :=
  let retainedEarliestSequence := buffer.records.head?.map CoreLogRecord.sequence
  let latestSequence := buffer.records.getLast?.map CoreLogRecord.sequence
  let sequenceHorizon :=
    if 1 < buffer.nextSequence then some (buffer.nextSequence - 1) else none
  let newest := buffer.records.reverse.filter fun record =>
    afterSequence.all (· < record.sequence)
  let (taken, truncated) := takeNewest 0 logTailEnvelopeMaxBytes newest
  let records := taken.reverse
  let gap := truncated || match afterSequence with
    | none => 0 < buffer.droppedTotal || recordsHaveGap records
    | some after => sequenceHasGap after records buffer.nextSequence
  let earliestSequence :=
    if truncated then (records.head?.map CoreLogRecord.sequence).or retainedEarliestSequence
    else retainedEarliestSequence
  ⟨records, buffer.droppedTotal, gap, earliestSequence, latestSequence, sequenceHorizon⟩

end LogBuffer

inductive LogOperation where
  | push (timestampUnixMs : UInt64) (level : LogLevel) (source : LogSource) (message : String)
  | recordExternalDrop (count : UInt64)
deriving DecidableEq

namespace LogOperation

def perform : LogOperation → LogBuffer → Except TelemetryError Unit × LogBuffer
  | .push timestampUnixMs level source message, buffer =>
    let (answer, buffer) := buffer.push timestampUnixMs level source message
    (answer.map fun _ => (), buffer)
  | .recordExternalDrop count, buffer => buffer.recordExternalDrop count

/-- A number that the operation assigns to its record or drops with lines that were lost. -/
def Issues : LogOperation → LogBuffer → Nat → Prop
  | .push timestampUnixMs level source message, buffer, k =>
    ∃ sequence, (buffer.push timestampUnixMs level source message).1 = .ok sequence ∧
      k = sequence.toNat
  | .recordExternalDrop count, buffer, k =>
    (buffer.recordExternalDrop count).1 = .ok () ∧
      buffer.nextSequence.toNat ≤ k ∧ k < buffer.nextSequence.toNat + count.toNat

end LogOperation

namespace LogBuffer

def run : LogBuffer → List LogOperation → LogBuffer
  | buffer, [] => buffer
  | buffer, operation :: rest => run (operation.perform buffer).2 rest

def Issued : LogBuffer → List LogOperation → Nat → Prop
  | _, [], _ => False
  | buffer, operation :: rest, k =>
    operation.Issues buffer k ∨ Issued (operation.perform buffer).2 rest k

end LogBuffer

open CoreLogRecord (number bytes)

theorem takeNewest_spec (xs : List CoreLogRecord) (htaken : taken ≤ logTailMaxRecords)
    (hbytes : deliveryBytes ≤ logTailMaxBytes) :
    ∃ rest, xs = (takeNewest taken deliveryBytes xs).1 ++ rest ∧
      ((takeNewest taken deliveryBytes xs).2 = true ↔ rest ≠ []) ∧
      taken + (takeNewest taken deliveryBytes xs).1.length ≤ logTailMaxRecords ∧
      deliveryBytes + total encodedRecordUpperBound (takeNewest taken deliveryBytes xs).1 ≤
        logTailMaxBytes := by
  induction xs generalizing taken deliveryBytes with
  | nil => exact ⟨[], rfl, by simp [takeNewest], htaken, hbytes⟩
  | cons record older ih =>
    by_cases hfull : taken = logTailMaxRecords ∨
        logTailMaxBytes < deliveryBytes + encodedRecordUpperBound record
    · simp only [takeNewest, if_pos hfull]
      exact ⟨record :: older, rfl, by simp, htaken, hbytes⟩
    · simp only [takeNewest, if_neg hfull]
      obtain ⟨hne, hfits⟩ := not_or.1 hfull
      have hroom : taken + 1 ≤ logTailMaxRecords := Nat.lt_of_le_of_ne htaken hne
      obtain ⟨rest, hrest, htruncated, hcount, hsize⟩ := ih hroom (Nat.not_lt.1 hfits)
      refine ⟨rest, congrArg (record :: ·) hrest, htruncated, ?_, ?_⟩
      · rw [List.length_cons]
        omega
      · rw [total_cons]
        omega

/-- Some number strictly between `n` and `m` that no record of the list has. -/
def Lacks (n m : Nat) (records : List CoreLogRecord) : Prop :=
  ∃ k, n < k ∧ k < m ∧ ∀ record ∈ records, number record ≠ k

theorem gapFrom_iff (hasc : Ascending number records)
    (hge : ∀ record ∈ records, expected.toNat ≤ number record)
    (hlt : ∀ record ∈ records, number record < nextSequence.toNat) :
    gapFrom nextSequence expected records = true ↔
      ∃ k, expected.toNat ≤ k ∧ k < nextSequence.toNat ∧ ∀ record ∈ records, number record ≠ k := by
  induction records generalizing expected with
  | nil =>
    simp only [gapFrom, decide_eq_true_eq, UInt64.lt_iff_toNat_lt, List.not_mem_nil]
    constructor
    · intro h
      exact ⟨expected.toNat, Nat.le_refl _, h, fun _ h => h.elim⟩
    · rintro ⟨k, hk, hnext, _⟩
      omega
  | cons record rest ih =>
    obtain ⟨hhead, htail⟩ := List.pairwise_cons.1 hasc
    have hrecord := hge record List.mem_cons_self
    by_cases hskip : expected < record.sequence
    · rw [gapFrom, if_pos hskip]
      refine ⟨fun _ => ⟨expected.toNat, Nat.le_refl _, ?_, ?_⟩, fun _ => rfl⟩
      · exact Nat.lt_of_le_of_lt hrecord (hlt record List.mem_cons_self)
      · intro other hother
        have hskip : expected.toNat < number record := UInt64.lt_iff_toNat_lt.1 hskip
        rcases List.mem_cons.1 hother with rfl | hother
        · exact hskip.ne'
        · exact (hskip.trans (hhead other hother)).ne'
    · rw [gapFrom, if_neg hskip]
      have heq : number record = expected.toNat := by
        have : ¬ expected.toNat < number record := fun h => hskip (UInt64.lt_iff_toNat_lt.2 h)
        omega
      have hsucc : (saturatingAdd64 record.sequence 1).toNat = number record + 1 := by
        have hnext := hlt record List.mem_cons_self
        have hsize := nextSequence.toNat_lt
        rw [toNat_saturatingAdd64]
        simp only [number, UInt64.toNat_one, UInt64.size] at *
        omega
      rw [ih htail (fun other hother => hsucc ▸ hhead other hother)
        fun other hother => hlt other (List.mem_cons_of_mem _ hother), hsucc]
      constructor
      · rintro ⟨k, hk, hnext, hnone⟩
        refine ⟨k, by omega, hnext, fun other hother => ?_⟩
        rcases List.mem_cons.1 hother with rfl | hother
        · omega
        · exact hnone other hother
      · rintro ⟨k, hk, hnext, hnone⟩
        have := hnone record List.mem_cons_self
        exact ⟨k, by omega, hnext, fun other hother => hnone other (List.mem_cons_of_mem _ hother)⟩

theorem sequenceHasGap_iff {after : UInt64} (hasc : Ascending number records)
    (hbehind : ∀ record ∈ records, after.toNat < number record)
    (hlt : ∀ record ∈ records, number record < nextSequence.toNat) :
    sequenceHasGap after records nextSequence = true ↔
      Lacks after.toNat nextSequence.toNat records := by
  unfold sequenceHasGap
  cases hsucc : checkedSucc after with
  | none =>
    -- the last number of all: nothing comes behind it
    have hlast : UInt64.size ≤ after.toNat + 1 := by
      by_contra h
      rw [checkedSucc_of_lt (Nat.not_le.1 h)] at hsucc
      cases hsucc
    refine ⟨fun h => (Bool.false_ne_true h).elim, ?_⟩
    rintro ⟨k, hk, hnext, _⟩
    have := nextSequence.toNat_lt
    simp only [UInt64.size] at hlast
    omega
  | some expected =>
    have hexpected := checkedSucc_eq_some hsucc
    simp only
    rw [gapFrom_iff hasc (fun record h => hexpected ▸ hbehind record h) hlt, hexpected]
    rfl

theorem recordsHaveGap_of_consecutive (h : Consecutive number n records) :
    recordsHaveGap records = false := by
  induction records generalizing n with
  | nil => rfl
  | cons first rest ih =>
    cases rest with
    | nil => rfl
    | cons second rest =>
      have hfirst : number second = number first + 1 := by rw [h.2.1, h.1]
      have hlt := second.sequence.toNat_lt
      have hsucc : checkedSucc first.sequence = some second.sequence := by
        have hsize : first.sequence.toNat + 1 < UInt64.size := by
          simp only [number, UInt64.size] at *
          omega
        rw [checkedSucc_of_lt hsize]
        congr 1
        apply UInt64.toNat_inj.1
        rw [checkedSucc_eq_some (checkedSucc_of_lt hsize)]
        exact hfirst.symm
      rw [recordsHaveGap, hsucc, ih h.2]
      simp

namespace LogBuffer

/-- What holds of a buffer whatever was pushed or dropped: every number below the next one belongs
to a retained record or is counted as dropped. -/
structure Kept (buffer : LogBuffer) : Prop where
  capacity_pos : 0 < buffer.capacity
  ascending : Ascending number buffer.records
  positive : ∀ record ∈ buffer.records, 0 < number record
  below : ∀ record ∈ buffer.records, number record < buffer.nextSequence.toNat
  counted : buffer.droppedTotal.toNat + buffer.records.length + 1 = buffer.nextSequence.toNat
  bytes_eq : buffer.retainedBytes = total bytes buffer.records
  bytes_le : total bytes buffer.records ≤ logRetentionMaxBytes
  length_le : buffer.records.length ≤ buffer.capacity

variable {buffer initial : LogBuffer}

theorem kept_new {capacity maxLineBytes : Nat} (h : new capacity maxLineBytes = .ok buffer) :
    Kept buffer := by
  unfold new at h
  split at h
  · cases h
  · rename_i hlimits
    cases h
    refine ⟨?_, .nil, ?_, ?_, rfl, rfl, Nat.zero_le _, Nat.zero_le _⟩
    · dsimp only
      omega
    · exact fun _ h => absurd h List.not_mem_nil
    · exact fun _ h => absurd h List.not_mem_nil

theorem push_cases (timestampUnixMs : UInt64) (level : LogLevel) (source : LogSource)
    (message : String) (buffer : LogBuffer) :
    (∃ e, buffer.push timestampUnixMs level source message = (.error e, buffer)) ∨
    ∃ nextSequence, message.utf8ByteSize ≤ logRetentionMaxBytes ∧
      checkedSucc buffer.nextSequence = some nextSequence ∧
      let room := makeRoom bytes buffer.capacity logRetentionMaxBytes message.utf8ByteSize
        buffer.records buffer.retainedBytes
      buffer.push timestampUnixMs level source message = (.ok buffer.nextSequence, { buffer with
        nextSequence
        droppedTotal := saturatingAdd64 buffer.droppedTotal (.ofNat room.2.2)
        retainedBytes := room.2.1 + message.utf8ByteSize
        records := room.1 ++
          [⟨buffer.nextSequence, timestampUnixMs, level, source, message⟩] }) := by
  unfold push
  split
  · exact .inl ⟨_, rfl⟩
  split
  · exact .inl ⟨_, rfl⟩
  rename_i hfits
  cases hnext : checkedSucc buffer.nextSequence with
  | none => exact .inl ⟨_, rfl⟩
  | some nextSequence => exact .inr ⟨nextSequence, Nat.not_lt.1 hfits, rfl, rfl⟩

theorem recordExternalDrop_cases (count : UInt64) (buffer : LogBuffer) :
    (∃ e, buffer.recordExternalDrop count = (.error e, buffer)) ∨
    (count = 0 ∧ buffer.recordExternalDrop count = (.ok (), buffer)) ∨
    ∃ nextSequence, checkedAdd64 buffer.nextSequence count = some nextSequence ∧
      buffer.recordExternalDrop count = (.ok (), { buffer with
        nextSequence
        droppedTotal := saturatingAdd64 buffer.droppedTotal count }) := by
  unfold recordExternalDrop
  split
  · rename_i hzero
    exact .inr (.inl ⟨hzero, rfl⟩)
  cases hnext : checkedAdd64 buffer.nextSequence count with
  | none => exact .inl ⟨_, rfl⟩
  | some nextSequence => exact .inr (.inr ⟨nextSequence, rfl, rfl⟩)

theorem perform_error {operation : LogOperation} (h : (operation.perform buffer).1 = .error e) :
    (operation.perform buffer).2 = buffer := by
  cases operation with
  | push timestampUnixMs level source message =>
    obtain ⟨_, hpush⟩ | ⟨_, _, _, hpush⟩ := push_cases timestampUnixMs level source message buffer
    · simp only [LogOperation.perform, hpush]
    · simp only [LogOperation.perform, hpush] at h
      cases h
  | recordExternalDrop count =>
    obtain ⟨_, hdrop⟩ | ⟨_, hdrop⟩ | ⟨_, _, hdrop⟩ := recordExternalDrop_cases count buffer
    · simp only [LogOperation.perform, hdrop]
    · simp only [LogOperation.perform, hdrop]
    · simp only [LogOperation.perform, hdrop] at h
      cases h

theorem Kept.push (h : Kept buffer) (timestampUnixMs : UInt64) (level : LogLevel)
    (source : LogSource) (message : String) :
    Kept (buffer.push timestampUnixMs level source message).2 := by
  obtain ⟨_, hpush⟩ | ⟨nextSequence, hfits, hnext, hpush⟩ :=
    push_cases timestampUnixMs level source message buffer
  · rw [hpush]
    exact h
  rw [hpush]
  rw [h.bytes_eq]
  have hroom : Room bytes _ _ _ _ _ := makeRoom_spec h.capacity_pos hfits h.length_le
  have hcount := length_makeRoom bytes buffer.capacity logRetentionMaxBytes message.utf8ByteSize
    buffer.records (total bytes buffer.records)
  generalize makeRoom bytes buffer.capacity logRetentionMaxBytes message.utf8ByteSize
    buffer.records (total bytes buffer.records) = room at hroom hcount ⊢
  obtain ⟨left, retained, dropped⟩ := room
  obtain ⟨hleft, hbytes, hlength, htotal⟩ := hroom
  dsimp only at hleft hbytes hlength htotal hcount ⊢
  have hsub : List.Sublist left buffer.records := hleft ▸ List.drop_sublist _ _
  have hnumber := checkedSucc_eq_some hnext
  have hbelow : ∀ record ∈ left, number record < buffer.nextSequence.toNat :=
    fun record hrecord => h.below record (hsub.subset hrecord)
  refine ⟨h.capacity_pos, ?_, ?_, ?_, ?_, ?_, ?_, ?_⟩
  · exact (h.ascending.sublist hsub).snoc hbelow
  · intro record hrecord
    rcases List.mem_append.1 hrecord with hrecord | hrecord
    · exact h.positive record (hsub.subset hrecord)
    · cases List.mem_singleton.1 hrecord
      have := h.counted
      simp only [number]
      omega
  · intro record hrecord
    rcases List.mem_append.1 hrecord with hrecord | hrecord
    · exact hnumber ▸ Nat.lt_succ_of_lt (hbelow record hrecord)
    · cases List.mem_singleton.1 hrecord
      exact hnumber ▸ Nat.lt_succ_self _
  · have hcounted := h.counted
    have hsize := buffer.nextSequence.toNat_lt
    have hdropped : (UInt64.ofNat dropped).toNat = dropped :=
      UInt64.toNat_ofNat_of_lt' (by simp only [UInt64.size]; omega)
    simp only [toNat_saturatingAdd64, hdropped, List.length_append, List.length_singleton, hnumber,
      UInt64.size]
    omega
  · simp [hbytes, bytes]
  · simpa [bytes] using htotal
  · rw [List.length_append]
    exact hlength

theorem Kept.recordExternalDrop (h : Kept buffer) (count : UInt64) :
    Kept (buffer.recordExternalDrop count).2 := by
  obtain ⟨_, hdrop⟩ | ⟨_, hdrop⟩ | ⟨nextSequence, hnext, hdrop⟩ :=
    recordExternalDrop_cases count buffer
  · rw [hdrop]
    exact h
  · rw [hdrop]
    exact h
  · rw [hdrop]
    have hnumber := checkedAdd64_eq_some hnext
    refine ⟨h.capacity_pos, h.ascending, h.positive, ?_, ?_, h.bytes_eq, h.bytes_le, h.length_le⟩
    · intro record hrecord
      have := h.below record hrecord
      dsimp only
      omega
    · have hcounted := h.counted
      have hsize := nextSequence.toNat_lt
      simp only [toNat_saturatingAdd64, hnumber, UInt64.size] at hsize ⊢
      omega

theorem Kept.perform (h : Kept buffer) (operation : LogOperation) :
    Kept (operation.perform buffer).2 := by
  cases operation with
  | push timestampUnixMs level source message => exact h.push timestampUnixMs level source message
  | recordExternalDrop count => exact h.recordExternalDrop count

theorem Kept.run (h : Kept buffer) (operations : List LogOperation) :
    Kept (buffer.run operations) := by
  induction operations generalizing buffer with
  | nil => exact h
  | cons operation rest ih => exact ih (h.perform operation)

theorem issues_iff (operation : LogOperation) (buffer : LogBuffer) :
    operation.Issues buffer k ↔ buffer.nextSequence.toNat ≤ k ∧
      k < (operation.perform buffer).2.nextSequence.toNat := by
  cases operation with
  | push timestampUnixMs level source message =>
    obtain ⟨_, hpush⟩ | ⟨nextSequence, _, hnext, hpush⟩ :=
      push_cases timestampUnixMs level source message buffer
    · simp only [LogOperation.Issues, LogOperation.perform, hpush]
      constructor
      · rintro ⟨_, hanswer, _⟩
        cases hanswer
      · omega
    · simp only [LogOperation.Issues, LogOperation.perform, hpush, checkedSucc_eq_some hnext]
      constructor
      · rintro ⟨_, hanswer, rfl⟩
        cases hanswer
        omega
      · intro hk
        exact ⟨_, rfl, by omega⟩
  | recordExternalDrop count =>
    obtain ⟨_, hdrop⟩ | ⟨rfl, hdrop⟩ | ⟨nextSequence, hnext, hdrop⟩ :=
      recordExternalDrop_cases count buffer
    · simp only [LogOperation.Issues, LogOperation.perform, hdrop]
      constructor
      · rintro ⟨hanswer, _⟩
        cases hanswer
      · omega
    · simp only [LogOperation.Issues, LogOperation.perform, hdrop, UInt64.toNat_zero, true_and,
        Nat.add_zero]
    · simp only [LogOperation.Issues, LogOperation.perform, hdrop, checkedAdd64_eq_some hnext,
        true_and]

theorem nextSequence_le_perform (operation : LogOperation) (buffer : LogBuffer) :
    buffer.nextSequence.toNat ≤ (operation.perform buffer).2.nextSequence.toNat := by
  cases operation with
  | push timestampUnixMs level source message =>
    obtain ⟨_, hpush⟩ | ⟨_, _, hnext, hpush⟩ :=
      push_cases timestampUnixMs level source message buffer
    · simp only [LogOperation.perform, hpush, Nat.le_refl]
    · simp only [LogOperation.perform, hpush, checkedSucc_eq_some hnext, Nat.le_succ]
  | recordExternalDrop count =>
    obtain ⟨_, hdrop⟩ | ⟨_, hdrop⟩ | ⟨_, hnext, hdrop⟩ := recordExternalDrop_cases count buffer
    · simp only [LogOperation.perform, hdrop, Nat.le_refl]
    · simp only [LogOperation.perform, hdrop, Nat.le_refl]
    · simp only [LogOperation.perform, hdrop, checkedAdd64_eq_some hnext, Nat.le_add_right]

theorem nextSequence_le_run (operations : List LogOperation) (buffer : LogBuffer) :
    buffer.nextSequence.toNat ≤ (buffer.run operations).nextSequence.toNat := by
  induction operations generalizing buffer with
  | nil => exact Nat.le_refl _
  | cons operation rest ih => exact (nextSequence_le_perform operation buffer).trans (ih _)

theorem issued_iff (operations : List LogOperation) (buffer : LogBuffer) :
    buffer.Issued operations k ↔ buffer.nextSequence.toNat ≤ k ∧
      k < (buffer.run operations).nextSequence.toNat := by
  induction operations generalizing buffer with
  | nil =>
    refine ⟨False.elim, fun h => ?_⟩
    have : k < buffer.nextSequence.toNat := h.2
    omega
  | cons operation rest ih =>
    have hstep := nextSequence_le_perform operation buffer
    have hrest := nextSequence_le_run rest (operation.perform buffer).2
    rw [Issued, run, issues_iff, ih]
    omega

theorem Kept.newest_eq (h : Kept buffer) (cursor : Option UInt64) :
    (buffer.records.reverse.filter fun record => cursor.all (· < record.sequence)) =
      (after number (cursorNumber cursor) buffer.records).reverse := by
  rw [after, ← List.filter_reverse]
  apply List.filter_congr
  intro record hrecord
  cases cursor with
  | none => exact (decide_eq_true (h.positive record (List.mem_reverse.1 hrecord))).symm
  | some after => exact decide_eq_decide.2 UInt64.lt_iff_toNat_lt

theorem Kept.tailAfter_records (h : Kept buffer) (cursor : Option UInt64) :
    ∃ older, after number (cursorNumber cursor) buffer.records =
        older ++ (buffer.tailAfter cursor).records ∧
      (buffer.tailAfter cursor).records.length ≤ logTailMaxRecords ∧
      logTailEnvelopeMaxBytes + total encodedRecordUpperBound (buffer.tailAfter cursor).records ≤
        logTailMaxBytes ∧
      ((buffer.tailAfter cursor).gap = true ↔ older ≠ [] ∨
        match cursor with
        | none => 0 < buffer.droppedTotal.toNat ∨
            recordsHaveGap (buffer.tailAfter cursor).records = true
        | some after =>
          sequenceHasGap after (buffer.tailAfter cursor).records buffer.nextSequence = true) := by
  obtain ⟨rest, hrest, htruncated, hlength, hbytes⟩ := takeNewest_spec
    (after number (cursorNumber cursor) buffer.records).reverse
    (Nat.zero_le logTailMaxRecords) (show logTailEnvelopeMaxBytes ≤ logTailMaxBytes by decide)
  have hsplit := congrArg List.reverse hrest
  rw [List.reverse_reverse, List.reverse_append] at hsplit
  simp only [tailAfter, h.newest_eq]
  refine ⟨rest.reverse, hsplit, ?_, ?_, ?_⟩
  · simpa using hlength
  · simpa [total] using hbytes
  · cases cursor with
    | none =>
      simp only [Bool.or_eq_true, htruncated, decide_eq_true_eq, UInt64.lt_iff_toNat_lt, ne_eq,
        List.reverse_eq_nil_iff, UInt64.toNat_zero]
    | some after =>
      simp only [Bool.or_eq_true, htruncated, ne_eq, List.reverse_eq_nil_iff]

theorem Kept.lacks_iff (h : Kept buffer) :
    Lacks 0 buffer.nextSequence.toNat buffer.records ↔ 0 < buffer.droppedTotal.toNat := by
  have hcard := card_missing (n := 0) (m := buffer.nextSequence.toNat - 1) h.ascending (by
    intro record hrecord
    have := h.below record hrecord
    exact ⟨h.positive record hrecord, by omega⟩)
  have hcounted := h.counted
  rw [show buffer.nextSequence.toNat - 1 - 0 - buffer.records.length =
    buffer.droppedTotal.toNat by omega] at hcard
  rw [← hcard, Finset.card_pos]
  constructor
  · rintro ⟨k, hk, hnext, hnone⟩
    refine ⟨k, Finset.mem_filter.2 ⟨Finset.mem_Ioc.2 ⟨hk, by omega⟩, ?_⟩⟩
    intro hmem
    obtain ⟨record, hrecord, hnumber⟩ := List.mem_map.1 hmem
    exact hnone record hrecord hnumber
  · rintro ⟨k, hk⟩
    obtain ⟨hk, hmem⟩ := Finset.mem_filter.1 hk
    obtain ⟨hpos, hle⟩ := Finset.mem_Ioc.1 hk
    exact ⟨k, hpos, by omega, fun record hrecord hnumber =>
      hmem (List.mem_map.2 ⟨record, hrecord, hnumber⟩)⟩

theorem Kept.lacks_of_recordsHaveGap (h : Kept buffer)
    (hgap : recordsHaveGap buffer.records = true) :
    Lacks 0 buffer.nextSequence.toNat buffer.records := by
  by_contra hcomplete
  have hconsecutive : Consecutive number 0 buffer.records := by
    apply Consecutive.of_complete (m := buffer.nextSequence.toNat - 1) h.ascending
    · intro record hrecord
      have := h.below record hrecord
      exact ⟨h.positive record hrecord, by omega⟩
    · intro k hk hle
      by_contra hnone
      apply hcomplete
      have := h.counted
      exact ⟨k, hk, by omega, fun record hrecord hnumber => hnone ⟨record, hrecord, hnumber⟩⟩
  rw [recordsHaveGap_of_consecutive hconsecutive] at hgap
  cases hgap

theorem Kept.gap_iff (h : Kept buffer) (cursor : Option UInt64) :
    (buffer.tailAfter cursor).gap = true ↔
      Lacks (cursorNumber cursor) buffer.nextSequence.toNat (buffer.tailAfter cursor).records := by
  obtain ⟨older, hsplit, _, _, hgap⟩ := h.tailAfter_records cursor
  rw [hgap]
  have hasc := h.ascending.after (n := cursorNumber cursor)
  rw [hsplit] at hasc
  cases older with
  | cons record older =>
    -- a record that does not fit is left out
    have hrecord : record ∈ after number (cursorNumber cursor) buffer.records := by
      rw [hsplit]
      exact List.mem_cons_self
    obtain ⟨hretained, hbehind⟩ := mem_after.1 hrecord
    refine ⟨fun _ => ⟨number record, hbehind, h.below record hretained, ?_⟩,
      fun _ => .inl (List.cons_ne_nil _ _)⟩
    intro other hother
    exact ((List.pairwise_append.1 hasc).2.2 record List.mem_cons_self other hother).ne'
  | nil =>
    rw [List.nil_append] at hsplit hasc
    have hbelow : ∀ record ∈ (buffer.tailAfter cursor).records,
        number record < buffer.nextSequence.toNat := fun record hrecord =>
      h.below record (mem_after.1 (hsplit ▸ hrecord)).1
    have hbehind : ∀ record ∈ (buffer.tailAfter cursor).records,
        cursorNumber cursor < number record := fun record hrecord =>
      (mem_after.1 (hsplit ▸ hrecord)).2
    simp only [ne_eq, not_true_eq_false, false_or]
    cases cursor with
    | some after => exact sequenceHasGap_iff hasc hbehind hbelow
    | none =>
      have hall : (buffer.tailAfter none).records = buffer.records := by
        rw [← hsplit]
        apply List.filter_eq_self.2
        intro record hrecord
        exact decide_eq_true (h.positive record hrecord)
      rw [hall, cursorNumber_none]
      refine ⟨?_, fun hlacks => .inl (h.lacks_iff.1 hlacks)⟩
      rintro (hdropped | hrecords)
      · exact h.lacks_iff.2 hdropped
      · exact h.lacks_of_recordsHaveGap hrecords

/-- Whatever is pushed and dropped, a tail of the buffer says that there is a gap exactly if it
leaves out a number issued behind the cursor, and the buffer stays within its bounds. -/
theorem tails_tell_gaps {capacity maxLineBytes : Nat}
    (hnew : new capacity maxLineBytes = .ok initial) (operations : List LogOperation)
    (cursor : Option UInt64) : let buffer := initial.run operations
    let tail := buffer.tailAfter cursor
    (tail.gap = true ↔ ∃ k, initial.Issued operations k ∧ cursorNumber cursor < k ∧
      ∀ record ∈ tail.records, number record ≠ k) ∧
    tail.records <:+ buffer.records ∧
    (∀ record ∈ tail.records, cursorNumber cursor < number record) ∧
    tail.records.length ≤ logTailMaxRecords ∧
    logTailEnvelopeMaxBytes + total encodedRecordUpperBound tail.records ≤ logTailMaxBytes ∧
    buffer.retainedBytes = total bytes buffer.records ∧
    buffer.retainedBytes ≤ logRetentionMaxBytes ∧
    ∀ (operation : LogOperation) e, (operation.perform buffer).1 = .error e →
      (operation.perform buffer).2 = buffer := by
  intro buffer tail
  have hkept : Kept buffer := (kept_new hnew).run operations
  obtain ⟨older, hsplit, hlength, hbytes, _⟩ := hkept.tailAfter_records cursor
  have hsuffix : tail.records <:+ after number (cursorNumber cursor) buffer.records :=
    ⟨older, hsplit.symm⟩
  have hfirst : initial.nextSequence.toNat = 1 := by
    unfold new at hnew
    split at hnew
    · cases hnew
    · cases hnew
      rfl
  refine ⟨?_, hsuffix.trans (hkept.ascending.after_suffix _), ?_, hlength, hbytes, hkept.bytes_eq,
    hkept.bytes_eq ▸ hkept.bytes_le, fun operation e h => perform_error h⟩
  · rw [hkept.gap_iff cursor]
    constructor
    · rintro ⟨k, hk, hnext, hnone⟩
      exact ⟨k, (issued_iff ..).2 ⟨by omega, hnext⟩, hk, hnone⟩
    · rintro ⟨k, hissued, hk, hnone⟩
      exact ⟨k, hk, ((issued_iff ..).1 hissued).2, hnone⟩
  · intro record hrecord
    exact (mem_after.1 (hsuffix.subset hrecord)).2

theorem tails_tell_gaps_small : ∃ initial, new 2 16 = .ok initial ∧
      let buffer := initial.run [.push 7 .info .stdout "up", .recordExternalDrop 2,
        .push 8 .warn .stderr "slow", .push 9 .info .coreApi "down"]
      (buffer.tailAfter (some 1)).gap = true ∧ (buffer.tailAfter (some 3)).gap = false ∧
      ((buffer.tailAfter (some 1)).gap = true ↔ ∃ k, initial.Issued [.push 7 .info .stdout "up",
          .recordExternalDrop 2, .push 8 .warn .stderr "slow", .push 9 .info .coreApi "down"] k ∧
        cursorNumber (some 1) < k ∧
        ∀ record ∈ (buffer.tailAfter (some 1)).records, number record ≠ k) :=
  ⟨⟨2, 16, 1, 0, 0, []⟩, rfl, by decide +kernel, by decide +kernel,
    (tails_tell_gaps (show new 2 16 = .ok _ from rfl) _ _).1⟩

end LogBuffer

end Ratash
