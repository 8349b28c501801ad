import Ratash.Bounded.Queue
import Ratash.Numbered.Consecutive
import Ratash.Telemetry.LogRecord

/-!
Two reader threads put status snapshots and log records in, the main thread takes events out and
tells how far a log tail it has read itself covers the records. Waking the main thread is left out.
-/

namespace Ratash

open Numbered Bounded

def logSubscriberCapacity : Nat := 256
def logSubscriberMaxBytes : Nat := 4 * 1024 * 1024

structure ViewLogRecord where
  sequence : UInt64
  timestampUnixMs : UInt64
  level : LogLevel
  source : LogSource
  message : String
deriving DecidableEq

namespace ViewLogRecord

def number (record : ViewLogRecord) : Nat := record.sequence.toNat

def bytes (record : ViewLogRecord) : Nat := record.message.utf8ByteSize

end ViewLogRecord

def parseLevel : String → Option LogLevel
  | "debug" => some .debug
  | "info" => some .info
  | "warn" => some .warn
  | "error" => some .error
  | _ => none

def parseSource : String → Option LogSource
  | "core_api" => some .coreApi
  | "stdout" => some .stdout
  | "stderr" => some .stderr
  | _ => none

def convertLogRecord (record : LogRecordV1) : Option ViewLogRecord := do
  let level ← parseLevel record.level
  let source ← parseSource record.source
  if record.message.utf8ByteSize ≤ coreLogLineMaxBytes then
    return ⟨record.sequence, record.timestampUnixMs, level, source, record.message⟩
  else none

def convertLogRecords : List LogRecordV1 → Option (List ViewLogRecord)
  | [] => some []
  | record :: records => do
    let record ← convertLogRecord record
    let records ← convertLogRecords records
    return record :: records

theorem convertLogRecord_some (h : convertLogRecord record = some view) :
    view.number = record.number ∧ view.bytes ≤ coreLogLineMaxBytes := by
  simp only [convertLogRecord, Option.bind_eq_bind, Option.bind_eq_some_iff,
    Option.ite_none_right_eq_some, Option.pure_def, Option.some.injEq] at h
  obtain ⟨level, _, source, _, hbytes, rfl⟩ := h
  exact ⟨rfl, hbytes⟩

theorem convertLogRecords_some (h : convertLogRecords records = some views) :
    views.map ViewLogRecord.number = records.map LogRecordV1.number ∧
      ∀ view ∈ views, view.bytes ≤ coreLogLineMaxBytes := by
  induction records generalizing views with
  | nil =>
    cases h
    exact ⟨rfl, fun _ hmem => nomatch hmem⟩
  | cons record records ih =>
    simp only [convertLogRecords, Option.bind_eq_bind, Option.bind_eq_some_iff, Option.pure_def,
      Option.some.injEq] at h
    obtain ⟨view, hview, rest, hrest, rfl⟩ := h
    obtain ⟨hnumber, hbytes⟩ := convertLogRecord_some hview
    obtain ⟨hnumbers, hall⟩ := ih hrest
    refine ⟨by rw [List.map_cons, List.map_cons, hnumber, hnumbers], fun v hv => ?_⟩
    rcases List.mem_cons.1 hv with rfl | hv
    · exact hbytes
    · exact hall v hv

structure ConnectionBufferState (σ : Type) where
  status : Option σ
  logs : List ViewLogRecord
  coveredThrough : Option UInt64
  remoteDroppedTotal : UInt64
  localDroppedTotal : UInt64
  queuedBytes : Nat
  gap : Bool
  disconnected : Bool
deriving DecidableEq

inductive StatusLogEvent (σ : Type) where
  | disconnected (connectionGeneration : UInt64)
  | status (connectionGeneration : UInt64) (status : σ)
  | logs (connectionGeneration : UInt64) (records : List ViewLogRecord) (gap : Bool)
      (droppedTotal : UInt64)
deriving DecidableEq

namespace ConnectionBufferState

variable {σ : Type}

def initial : ConnectionBufferState σ := ⟨none, [], none, 0, 0, 0, false, false⟩

def publishStatus (status : σ) (state : ConnectionBufferState σ) : ConnectionBufferState σ :=
  if state.disconnected then state else { state with status := some status }

/-- Both `publish_log` and `publish_tail` make room for a record like this. -/
def push (record : ViewLogRecord) (state : ConnectionBufferState σ) : ConnectionBufferState σ :=
  let (logs, bytes, dropped) := makeRoom ViewLogRecord.bytes logSubscriberCapacity
    logSubscriberMaxBytes record.bytes state.logs state.queuedBytes
  { state with
    logs := logs ++ [record]
    queuedBytes := bytes + record.bytes
    localDroppedTotal := saturatingAdd64 state.localDroppedTotal (.ofNat dropped)
    gap := state.gap || dropped ≠ 0 }

def covers (state : ConnectionBufferState σ) (record : ViewLogRecord) : Bool :=
  state.coveredThrough.any (record.sequence ≤ ·)

def publishRecord (record : ViewLogRecord) (state : ConnectionBufferState σ) :
    ConnectionBufferState σ :=
  if state.covers record then state else state.push record

def publishLog (record : ViewLogRecord) (state : ConnectionBufferState σ) :
    ConnectionBufferState σ :=
  if state.disconnected then state else state.publishRecord record

def publishRecords : List ViewLogRecord → ConnectionBufferState σ → ConnectionBufferState σ
  | [], state => state
  | record :: records, state => publishRecords records (state.publishRecord record)

def noteTail (tail : LogTailV1) (state : ConnectionBufferState σ) : ConnectionBufferState σ :=
  { state with
    remoteDroppedTotal := max state.remoteDroppedTotal tail.droppedTotal
    gap := state.gap || tail.gap }

/-- `publish_tail`, with its records converted. -/
def publishTail (tail : LogTailV1) (records : List ViewLogRecord)
    (state : ConnectionBufferState σ) : ConnectionBufferState σ :=
  if state.disconnected then state
  else publishRecords records (state.noteTail tail)

def applyTailCoverage (sequenceHorizon : Option UInt64) (droppedTotal : UInt64)
    (state : ConnectionBufferState σ) : ConnectionBufferState σ :=
  let coveredThrough := maxSequence state.coveredThrough sequenceHorizon
  let logs := match coveredThrough with
    | some covered => state.logs.filter (covered < ·.sequence)
    | none => state.logs
  { state with
    coveredThrough
    logs
    queuedBytes := total ViewLogRecord.bytes logs
    remoteDroppedTotal := max state.remoteDroppedTotal droppedTotal
    gap := false }

def markDisconnected (state : ConnectionBufferState σ) : ConnectionBufferState σ :=
  { state with disconnected := true }

def takeEvent (generation : UInt64) (state : ConnectionBufferState σ) :
    Option (StatusLogEvent σ) × ConnectionBufferState σ :=
  if state.disconnected then
    (some (.disconnected generation), { state with disconnected := false })
  else match state.status with
    | some status => (some (.status generation status), { state with status := none })
    | none =>
      if state.logs = [] ∧ state.gap = false then (none, state)
      else
        let count := min state.logs.length logSubscriberCapacity
        let records := state.logs.take count
        (some (.logs generation records state.gap
            (saturatingAdd64 state.remoteDroppedTotal state.localDroppedTotal)),
          { state with
            logs := state.logs.drop count
            queuedBytes := state.queuedBytes - total ViewLogRecord.bytes records
            gap := false })

structure Tidy (state : ConnectionBufferState σ) : Prop where
  bytes_eq : state.queuedBytes = total ViewLogRecord.bytes state.logs
  length_le : state.logs.length ≤ logSubscriberCapacity
  bytes_le : state.queuedBytes ≤ logSubscriberMaxBytes

theorem coreLogLineMaxBytes_le : coreLogLineMaxBytes ≤ logSubscriberMaxBytes := by decide

structure Pushed (record : ViewLogRecord) (state state' : ConnectionBufferState σ) : Prop where
  tidy : state'.Tidy
  logs : ∃ dropped, state'.logs = state.logs.drop dropped ++ [record] ∧
    (state'.gap = false → state.gap = false ∧ dropped = 0)
  coveredThrough : state'.coveredThrough = state.coveredThrough
  disconnected : state'.disconnected = state.disconnected

theorem push_spec {state : ConnectionBufferState σ} (h : state.Tidy)
    (hbytes : record.bytes ≤ coreLogLineMaxBytes) : Pushed record state (state.push record) := by
  have hroom : Room ViewLogRecord.bytes logSubscriberCapacity logSubscriberMaxBytes record.bytes
      state.logs _ := makeRoom_spec (by decide) (hbytes.trans coreLogLineMaxBytes_le) h.length_le
  rw [← h.bytes_eq] at hroom
  constructor
  · constructor
    · simp only [push, total_append, total_cons, total_nil, hroom.bytes_eq, Nat.add_zero]
    · simp only [push, List.length_append, List.length_singleton]
      exact hroom.length_lt
    · simp only [push, hroom.bytes_eq]
      exact hroom.fits
  · refine ⟨_, congrArg (· ++ [record]) hroom.left_eq.symm, fun hgap => ?_⟩
    simpa [push] using hgap
  · rfl
  · rfl

end ConnectionBufferState

end Ratash
