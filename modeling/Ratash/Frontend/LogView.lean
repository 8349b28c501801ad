import Ratash.Frontend.ConnectionBuffer

namespace Ratash

open Numbered Bounded

structure LogView (σ : Type) where
  buffer : ConnectionBufferState σ
  /-- The cursor of the log reader. -/
  afterSequence : Option UInt64
  active : Bool
  /-- The reader has found the connection active and is about to publish. -/
  reading : Bool
  /-- The main thread has read a tail: its horizon and the dropped records. -/
  fetched : Option (Option UInt64 × UInt64)
  /-- Everything up to here has been delivered, or announced as a gap. -/
  accounted : Option Nat

inductive ViewAction (σ : Type) where
  | check
  | publishLog (record : LogRecordV1)
  /-- The stream has shown a gap, and the reader has asked for a tail. -/
  | publishTail (tail : LogTailV1)
  /-- `recover_log_stream`, with the replies to its request for a tail and, if there is one, to the
  second request, without a cursor. -/
  | recover (tail anew : LogTailV1)
  | publishStatus (status : σ)
  | fetch (sequenceHorizon : Option UInt64) (droppedTotal : UInt64)
  | cover
  | take (generation : UInt64)
  | fail
  | markDisconnected

/-- What is settled, from what is accounted for and what is covered. -/
def settledBy (accounted : Option Nat) (covered : Option UInt64) : Option Nat :=
  match accounted, covered with
  | none, none => none
  | accounted, covered => some (max (accounted.getD 0) (cursorNumber covered))

/-- The numbers of the log have started over: its horizon is behind the cursor. -/
def sequenceReset (afterSequence sequenceHorizon : Option UInt64) : Bool :=
  match afterSequence, sequenceHorizon with
  | some after, some latest => latest < after
  | some _, none => true
  | none, _ => false

def recoveredTail (afterSequence : Option UInt64) (tail anew : LogTailV1) : LogTailV1 :=
  if sequenceReset afterSequence tail.sequenceHorizon then { anew with gap := true } else tail

/-- The queue goes on, without a hole, behind what is settled. If the reader is going to publish it
ends where the reader is, and nothing further has been accounted for. -/
def Unbroken (accounted : Option Nat) (covered : Option UInt64) (reader : Option Nat) (alive : Prop)
    (logs : List ViewLogRecord) : Prop :=
  ∃ base, (∀ n, settledBy accounted covered = some n → base = n) ∧
    Consecutive ViewLogRecord.number base logs ∧
    (alive → reached ViewLogRecord.number base logs = max base (reader.getD 0) ∧
      (∀ n, accounted = some n → ∃ p, reader = some p ∧ n ≤ p) ∧
      (settledBy accounted covered = none → ∀ p, reader = some p → base ≤ p))

/-- What the log answers to a request for the records behind a cursor. A tail without a gap has them
all, from the first one it knows if there is no cursor, unless the numbers have started over. -/
structure Answers (afterSequence : Option UInt64) (tail : LogTailV1) : Prop where
  behind : ∀ record ∈ tail.records, cursorNumber afterSequence < record.number
  whole : tail.gap = false →
    Consecutive LogRecordV1.number ((afterSequence.map UInt64.toNat).getD
      ((tail.records.head?.map LogRecordV1.number).getD 0 - 1)) tail.records ∧
    (tail.sequenceHorizon = (tail.records.getLast?.map LogRecordV1.sequence).or afterSequence ∨
      tail.records = [] ∧ sequenceReset afterSequence tail.sequenceHorizon = true)

instance (afterSequence : Option UInt64) (tail : LogTailV1) :
    Decidable (Answers afterSequence tail) :=
  decidable_of_iff (_ ∧ _)
    ⟨fun ⟨hbehind, hwhole⟩ => ⟨hbehind, hwhole⟩, fun h => ⟨h.behind, h.whole⟩⟩

namespace LogView

variable {σ : Type}

/-- A new connection. The cursor is behind what earlier connections have delivered. -/
def initial (cursor : Option UInt64) : LogView σ :=
  ⟨.initial, cursor, true, false, none, cursor.map UInt64.toNat⟩

def reader (view : LogView σ) : Option Nat := view.afterSequence.map UInt64.toNat

def alive (view : LogView σ) : Prop := view.active = true ∨ view.reading = true

/-- Up to here records are delivered, announced as a gap, or covered by a tail. -/
def settled (view : LogView σ) : Option Nat :=
  settledBy view.accounted view.buffer.coveredThrough

def failReader (view : LogView σ) : LogView σ := { view with active := false, reading := false }

/-- What an event adds: its records, or with a gap everything up to where the reader is. -/
def accountedAfter (view : LogView σ) : Option (StatusLogEvent σ) → Option Nat
  | some (.logs _ records gap _) =>
    if gap then view.reader else (records.getLast?.map (·.number)).or view.accounted
  | _ => view.accounted

def publishTail (view : LogView σ) (tail : LogTailV1) : LogView σ :=
  match convertLogRecords tail.records with
  | none => view.failReader
  | some records => { view with
      buffer := view.buffer.publishTail tail records
      afterSequence := tail.sequenceHorizon
      reading := false }

def perform (view : LogView σ) : ViewAction σ → LogView σ
  | .check => { view with reading := true }
  | .publishLog record => match convertLogRecord record with
    | none => view.failReader
    | some record => { view with
        buffer := view.buffer.publishLog record
        afterSequence := some record.sequence
        reading := false }
  | .publishTail tail => view.publishTail tail
  | .recover tail anew => view.publishTail (recoveredTail view.afterSequence tail anew)
  | .publishStatus status => { view with buffer := view.buffer.publishStatus status }
  | .fetch sequenceHorizon droppedTotal =>
    { view with fetched := some (sequenceHorizon, droppedTotal) }
  | .cover => match view.fetched with
    | none => view
    | some (sequenceHorizon, droppedTotal) => { view with
        buffer := view.buffer.applyTailCoverage sequenceHorizon droppedTotal
        fetched := none }
  | .take generation =>
    let (event, buffer) := view.buffer.takeEvent generation
    { view with buffer, accounted := view.accountedAfter event }
  | .fail => { view with active := false }
  | .markDisconnected => { view with buffer := view.buffer.markDisconnected }

/-- A record of the stream follows the cursor; without a cursor any record may be the first. The
tails that the two threads are sent are those of a log whose numbers may start over at any time. -/
def Enabled (view : LogView σ) : ViewAction σ → Prop
  | .check => view.active = true
  | .publishLog record => view.reading = true ∧ 0 < record.number ∧
      ∀ p ∈ view.reader, record.number = p + 1
  | .publishTail tail => view.reading = true ∧ Answers view.afterSequence tail
  | .recover tail anew => view.reading = true ∧ Answers view.afterSequence tail ∧ Answers none anew
  | .fetch _ _ => view.active = true ∧ view.fetched = none
  | .cover => view.fetched ≠ none
  | .fail => view.active = true
  | .markDisconnected => view.active = false
  | .publishStatus _ | .take _ => True

instance (view : LogView σ) : (action : ViewAction σ) → Decidable (view.Enabled action)
  | .check | .fail | .markDisconnected => inferInstanceAs (Decidable (_ = _))
  | .publishLog _ | .publishTail _ | .recover _ _ | .fetch _ _ =>
    inferInstanceAs (Decidable (_ ∧ _))
  | .cover => inferInstanceAs (Decidable (_ ≠ _))
  | .publishStatus _ | .take _ => isTrue trivial

/-- Where a reader without a cursor begins, nothing behind what is settled is left out. -/
def Opens (view : LogView σ) (numbers : List Nat) : Prop :=
  view.afterSequence = none → ∀ n ∈ view.settled, ∀ first ∈ numbers.head?, first ≤ n + 1

instance (view : LogView σ) (numbers : List Nat) : Decidable (view.Opens numbers) :=
  inferInstanceAs (Decidable (_ → ∀ n ∈ _, ∀ first ∈ _, _))

/-- While no gap is pending the reader leaves nothing out and its tails are of the same numbering.
When a tail of the main thread is applied over a gap, or before anything else is settled, all that
was published behind its horizon is still in the queue. -/
def Timely (view : LogView σ) : ViewAction σ → Prop
  | .publishLog record => view.buffer.gap = false → view.Opens [record.number]
  | .publishTail tail => view.buffer.gap = false → tail.gap = false →
      sequenceReset view.afterSequence tail.sequenceHorizon = false ∧
        view.Opens (tail.records.map LogRecordV1.number)
  | .recover tail _ => view.buffer.gap = false → tail.gap = false →
      view.Opens (tail.records.map LogRecordV1.number)
  | .cover => ∀ sequenceHorizon droppedTotal, view.fetched = some (sequenceHorizon, droppedTotal) →
      view.buffer.gap = true ∨ view.settled = none →
        Unbroken view.accounted (maxSequence view.buffer.coveredThrough sequenceHorizon) view.reader
          view.alive (after ViewLogRecord.number
            (max (cursorNumber view.buffer.coveredThrough) (cursorNumber sequenceHorizon))
            view.buffer.logs)
  | _ => True

def run (view : LogView σ) : List (ViewAction σ) → LogView σ
  | [] => view
  | action :: rest => run (view.perform action) rest

def Throughout (P : LogView σ → ViewAction σ → Prop) : LogView σ → List (ViewAction σ) → Prop
  | _, [] => True
  | view, action :: rest => P view action ∧ Throughout P (view.perform action) rest

instance decidableThroughout (P : LogView σ → ViewAction σ → Prop)
    [∀ view action, Decidable (P view action)] :
    (view : LogView σ) → (schedule : List (ViewAction σ)) → Decidable (Throughout P view schedule)
  | _, [] => isTrue trivial
  | view, action :: rest =>
    haveI := decidableThroughout P (view.perform action) rest
    instDecidableAnd

end LogView

end Ratash
