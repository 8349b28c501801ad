import Ratash.Service.Platform

namespace Ratash

def coreLogLineMaxBytes : Nat := 64 * 1024

inductive LogLevel where
  | debug
  | info
  | warn
  | error
deriving DecidableEq

inductive LogSource where
  | coreApi
  | stdout
  | stderr
deriving DecidableEq

structure CoreLogRecord where
  sequence : UInt64
  timestampUnixMs : UInt64
  level : LogLevel
  source : LogSource
  message : String
deriving DecidableEq

namespace CoreLogRecord

def number (record : CoreLogRecord) : Nat := record.sequence.toNat

def bytes (record : CoreLogRecord) : Nat := record.message.utf8ByteSize

end CoreLogRecord

structure LogRecordV1 where
  sequence : UInt64
  timestampUnixMs : UInt64
  level : String
  source : String
  message : String
deriving DecidableEq

def LogRecordV1.number (record : LogRecordV1) : Nat := record.sequence.toNat

structure LogTailV1 where
  records : List LogRecordV1
  droppedTotal : UInt64
  gap : Bool
  earliestSequence : Option UInt64
  latestSequence : Option UInt64
  sequenceHorizon : Option UInt64
deriving DecidableEq

def maxSequence : Option UInt64 → Option UInt64 → Option UInt64
  | some left, some right => some (max left right)
  | left, right => left.or right

/-- How far a cursor is; an absent one stands before everything. -/
def cursorNumber (cursor : Option UInt64) : Nat := (cursor.map UInt64.toNat).getD 0

@[simp] theorem cursorNumber_some (n : UInt64) : cursorNumber (some n) = n.toNat := rfl

@[simp] theorem cursorNumber_none : cursorNumber none = 0 := rfl

@[simp] theorem cursorNumber_maxSequence (left right : Option UInt64) :
    cursorNumber (maxSequence left right) = max (cursorNumber left) (cursorNumber right) := by
  rcases left with _ | left <;> rcases right with _ | right
  · rfl
  · simp [maxSequence]
  · simp [maxSequence]
  · simp only [maxSequence, cursorNumber_some]
    have hmax : max left right = if left ≤ right then right else left := rfl
    rw [hmax]
    split
    · rename_i h
      rw [UInt64.le_iff_toNat_le] at h
      omega
    · rename_i h
      rw [UInt64.le_iff_toNat_le] at h
      omega

end Ratash
