import Mathlib.Logic.Relation
import Ratash.Interaction.Attempt
import Ratash.Supervisor.Outputs
import Ratash.Transaction.Ports

/-!
The Supervisor keeps profiles, rules, the effective configuration and the runtime generation in
memory behind a lock, and reaches everything else through ports.
-/

namespace Ratash

open Interaction

/-- The part of the Supervisor's state that is also stored. The rest of it (schedulers, telemetry,
health, the cached proxy view) is recomputed and has no influence on this part. -/
structure SupervisorMemory (U S V : Type) where
  profiles : ProfileCatalog U S
  localRules : LocalRuleSet
  effectiveConfiguration : Option V
  runtimeGeneration : Option RuntimeGeneration

structure SupervisorTransactionRequest (U S V : Type) where
  profiles : ProfileCatalog U S
  localRules : LocalRuleSet
  configuration : V
  generation : RuntimeGeneration
  revisions : CandidateRevisions

def SupervisorTransactionRequest.memory (request : SupervisorTransactionRequest U S V) :
    SupervisorMemory U S V :=
  ⟨request.profiles, request.localRules, some request.configuration, some request.generation⟩

structure FetchedProfile where
  body : Bytes
  metadataName : Option String
deriving DecidableEq

structure ProfileFetchError where
  message : String
  retryable : Bool
deriving DecidableEq

structure NodeSelection where
  groupName : String
  nodeName : String
  recordId : String
deriving DecidableEq

structure ProxyGroup where
  id : String
  name : String
  selectedName : Option String
deriving DecidableEq

/-- Calls of the Supervisor; `C` are handles of a managed core and `W` its proxy views. -/
inductive SupervisorCall (U S V C W : Type) where
  | lock
  | tryLock
  | store (memory : SupervisorMemory U S V)
  | unlock
  | fetch (url : U)
  | newProfileId
  | nowUnixMs
  | compile (profile : Profile U S) (rules : List String)
  | validate (configuration : V) (profileId : ProfileId)
  | tryReserveRule
  | apply (request : SupervisorTransactionRequest U S V) (failFast : Bool)
  | applyReserved (request : SupervisorTransactionRequest U S V)
  | persistMetadata (request : SupervisorTransactionRequest U S V)
  | runtimeStatus
  | proxyView (core : C) (order : List String)
  | selectNode (core : C) (selection : NodeSelection)

@[reducible] def SupervisorCall.Reply {U S V C W : Type} : SupervisorCall U S V C W → Type
  | .lock => SupervisorMemory U S V
  | .tryLock => Option (SupervisorMemory U S V)
  | .store _ | .unlock => Unit
  | .fetch _ => Except ProfileFetchError FetchedProfile
  | .newProfileId => ProfileId
  | .nowUnixMs => UInt64
  | .compile _ _ => Except ApplicationError V
  | .validate _ _ => Except ApplicationError Unit
  | .tryReserveRule => Except SupervisorTransactionFailure Unit
  | .apply _ _ | .applyReserved _ => Except SupervisorTransactionFailure ConfigTransactionSuccess
  | .persistMetadata _ => Except SupervisorTransactionFailure Unit
  -- the managed core, if there is one
  | .runtimeStatus => Except Unit (Option C)
  | .proxyView _ _ => Except Unit W
  | .selectNode _ _ => Except Unit Unit

abbrev supervisorCalls (U S V C W : Type) : Signature :=
  ⟨SupervisorCall U S V C W, SupervisorCall.Reply⟩

abbrev SupervisorAttempt (U S V C W : Type) := Attempt (supervisorCalls U S V C W) ApplicationError

/-- The parts of the program that have no effects: the parsers, the naming of profiles, and the
projections of a proxy view. -/
structure SupervisorParts (U S V W : Type) where
  parseSnapshot : Bytes → Option S
  snapshotRules : S → List String
  deriveProfileName : Option String → U → ProfileId → String
  parseRule : String → Except Unit Unit
  effectiveGroupOrder : ProfileCatalog U S → Except ApplicationError (List String)
  resolveProxyGroup : W → String → Except ApplicationError ProxyGroup
  selectionBySelector : W → String → String → Except ApplicationError NodeSelection
  compilerPolicySha256 : V → String
  coreVersion : V → String

/-- The memory, what the last transaction that was Ok has stored, and the lock. -/
structure SupervisorWorld (U S V : Type) where
  memory : SupervisorMemory U S V
  durable : SupervisorMemory U S V
  held : Bool

namespace SupervisorWorld

variable {U S V C W : Type}

def after (w : SupervisorWorld U S V) : (c : SupervisorCall U S V C W) → c.Reply →
    SupervisorWorld U S V
  | .store memory, _ => { w with memory }
  | .unlock, _ => { w with held := false }
  | .apply request _, .ok _ | .applyReserved request, .ok _ | .persistMetadata request, .ok _ =>
    { w with durable := request.memory }
  | _, _ => w

/-- A transaction that is Ok has committed the generation it was asked for. Everything else may
reply anything. -/
def Replies : (c : SupervisorCall U S V C W) → c.Reply → Prop
  | .apply request _, r | .applyReserved request, r =>
    ∀ success, r = .ok success → success.committedGeneration = request.generation
  | _, _ => True

/-- The lock is taken, after other threads have done what they do. -/
def Acquires (others : SupervisorWorld U S V → SupervisorWorld U S V → Prop)
    (w : SupervisorWorld U S V) (memory : SupervisorMemory U S V) (w' : SupervisorWorld U S V) :
    Prop :=
  ∃ w₁, Relation.ReflTransGen others w w₁ ∧ w₁.held = false ∧ memory = w₁.memory ∧
    w' = { w₁ with held := true }

end SupervisorWorld

/-- While nobody holds the lock other threads may act; what they do is a parameter. -/
def supervisorEnvironment {U S V C W : Type}
    (others : SupervisorWorld U S V → SupervisorWorld U S V → Prop) :
    Environment (supervisorCalls U S V C W) (SupervisorWorld U S V)
  | w, .lock, r, w' => w.Acquires others r w'
  | w, .tryLock, r, w' => match r with
    | none => w' = w
    | some memory => w.Acquires others memory w'
  | w, c, r, w' => SupervisorWorld.Replies c r ∧ w' = w.after c r

end Ratash
