import Mathlib.Algebra.GroupWithZero.Nat
import Mathlib.Data.List.ReduceOption

namespace Ratash

abbrev Bytes := List UInt8

abbrev Path := String

abbrev RuntimeGeneration := UInt64

abbrev CoreInstanceGeneration := UInt64

abbrev LocalRuleSetRevision := UInt64

abbrev ProfileRevision := UInt64

abbrev ActiveProfileRevision := UInt64

structure ProfileId where
  uuid : BitVec 128
deriving DecidableEq

/-- `u64::checked_add(1)`. -/
def checkedSucc (n : UInt64) : Option UInt64 :=
  if n.toNat + 1 < UInt64.size then some (n + 1) else none

theorem checkedSucc_eq_some (h : checkedSucc n = some m) : m.toNat = n.toNat + 1 := by
  unfold checkedSucc at h
  split at h
  · rename_i hlt
    cases h
    rw [UInt64.toNat_add, Nat.mod_eq_of_lt (by simpa [UInt64.size] using hlt)]
    rfl
  · cases h

theorem checkedSucc_of_lt (h : n.toNat + 1 < UInt64.size) : checkedSucc n = some (n + 1) :=
  if_pos h

/-- It is `none` where the source reports an internal error. -/
def nextRuntimeGeneration (current : Option RuntimeGeneration) : Option RuntimeGeneration :=
  current.elim (some 1) checkedSucc

/-- `u64::saturating_add`. -/
def saturatingAdd64 (a b : UInt64) : UInt64 :=
  if a.toNat + b.toNat < UInt64.size then a + b else .ofNat (UInt64.size - 1)

theorem toNat_saturatingAdd64 (a b : UInt64) :
    (saturatingAdd64 a b).toNat = min (a.toNat + b.toNat) (UInt64.size - 1) := by
  unfold saturatingAdd64
  split
  · rename_i hlt
    rw [UInt64.toNat_add, Nat.mod_eq_of_lt (by simpa [UInt64.size] using hlt)]
    omega
  · rename_i hge
    simp only [UInt64.size, Nat.reduceSub, UInt64.reduceOfNat, UInt64.reduceToNat] at hge ⊢
    omega

/-- `u64::checked_add`. -/
def checkedAdd64 (a b : UInt64) : Option UInt64 :=
  if a.toNat + b.toNat < UInt64.size then some (a + b) else none

theorem checkedAdd64_eq_some (h : checkedAdd64 a b = some c) : c.toNat = a.toNat + b.toNat := by
  unfold checkedAdd64 at h
  split at h
  · rename_i hlt
    cases h
    rw [UInt64.toNat_add, Nat.mod_eq_of_lt (by simpa [UInt64.size] using hlt)]
  · cases h

theorem bind_eq_ok {x : Except ε α} {f : α → Except ε β} :
    x >>= f = .ok b ↔ ∃ a, x = .ok a ∧ f a = .ok b := by
  cases x with
  | error e =>
    constructor
    · intro h
      cases h
    · rintro ⟨_, h, _⟩
      cases h
  | ok a =>
    constructor
    · exact fun h => ⟨a, rfl, h⟩
    · rintro ⟨_, h, hf⟩
      cases h
      exact hf

inductive IoErrorKind where
  | notFound
  | alreadyExists
  | directoryNotEmpty
  | invalidInput
  | invalidData
  | other
deriving DecidableEq

structure IoError where
  kind : IoErrorKind
  message : String
deriving DecidableEq

abbrev IoResult := Except IoError

def invalidData (message : String) : IoError :=
  ⟨.invalidData, message⟩

structure OwnerSessionProof where
  sessionId : String
  sessionToken : String
deriving DecidableEq

structure RuntimeBundle where
  generation : RuntimeGeneration
  generationRoot : Path
  manifestSha256 : String
  compilerPolicySha256 : String
  mihomoBinarySha256 : String
deriving DecidableEq

structure CoreControlEndpoint where
  socketPath : Path
  secret : String
deriving DecidableEq

structure ManagedCoreHandle where
  pid : UInt32
  processStartIdentity : String
  endpoint : CoreControlEndpoint
  instanceGeneration : CoreInstanceGeneration
  runtimeGeneration : RuntimeGeneration
deriving DecidableEq

inductive ApplyDisposition where
  | spawned
  | reloaded
deriving DecidableEq

structure ApplyCandidateResult where
  disposition : ApplyDisposition
  managedCore : ManagedCoreHandle
deriving DecidableEq

inductive CoreRuntimeLifecycle where
  | owned
  | running
  | restartPending
  | degraded
deriving DecidableEq

inductive CoreRuntimeDiagnosticCategory where
  | coreRestartLimitReached
deriving DecidableEq

structure CoreRuntimeRestartStatus where
  pending : Bool
  attempts : Nat
  /-- In nanoseconds. -/
  backoff : Option Nat
  diagnostic : Option CoreRuntimeDiagnosticCategory
deriving DecidableEq

def CoreRuntimeRestartStatus.inactive : CoreRuntimeRestartStatus :=
  ⟨false, 0, none, none⟩

inductive CoreRuntimeTunReason where
  | permissionDenied
  | unsupported
deriving DecidableEq

structure CoreRuntimeTunStatus where
  capable : Bool
  reason : Option CoreRuntimeTunReason
deriving DecidableEq

def CoreRuntimeTunStatus.available : CoreRuntimeTunStatus :=
  ⟨true, none⟩

structure CoreRuntimeStatus where
  managedCore : Option ManagedCoreHandle
  lifecycle : CoreRuntimeLifecycle
  restart : CoreRuntimeRestartStatus
  tun : CoreRuntimeTunStatus
deriving DecidableEq

structure RuntimeGenerationRetention where
  current : Option RuntimeGeneration
  previous : Option RuntimeGeneration
  prepared : Option RuntimeGeneration
deriving DecidableEq

def RuntimeGenerationRetention.retained (retention : RuntimeGenerationRetention) :
    List RuntimeGeneration :=
  [retention.current, retention.previous, retention.prepared].reduceOption

structure RuntimeGenerationPruneResult where
  scannedEntries : Nat := 0
  removedGenerations : Nat := 0
deriving DecidableEq

end Ratash
