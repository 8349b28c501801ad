import Std.Data.ExtTreeMap
import Ratash.Persistence.Bundle

/-!
Profiles by their ids, which of them is active, and the revisions by which a refresh notices that
something happened since it began.
-/

namespace Ratash

open Std (ExtTreeMap TransOrd LawfulEqOrd TransCmp LawfulEqCmp)

instance : Ord ProfileId := ⟨compareOn ProfileId.uuid⟩

instance : TransOrd ProfileId := inferInstanceAs (TransCmp (compareOn ProfileId.uuid))

instance : LawfulEqOrd ProfileId where
  eq_of_compare {a b} h := by
    have hcompare : compare a.uuid b.uuid = .eq := h
    have huuid : a.uuid = b.uuid := Std.compare_eq_iff_eq.1 hcompare
    cases a
    cases b
    exact congrArg ProfileId.mk huuid

inductive RefreshStage where
  | download
  | parse
  | validate
  | apply
deriving DecidableEq

structure RefreshFailure where
  stage : RefreshStage
  safeMessage : String
deriving DecidableEq

/-- A profile. Subscription addresses and parsed snapshots are opaque here. -/
structure Profile (U S : Type) where
  id : ProfileId
  name : String
  subscriptionUrl : U
  snapshot : S
  revision : ProfileRevision
  lastSuccessAtUnixMs : UInt64
  lastError : Option RefreshFailure
  nextRefreshAtUnixMs : UInt64
  selections : ExtTreeMap String String
deriving DecidableEq

structure RefreshContext where
  profileRevision : ProfileRevision
  activeRevision : Option ActiveProfileRevision
deriving DecidableEq

structure ProfileCatalog (U S : Type) where
  profiles : ExtTreeMap ProfileId (Profile U S)
  activeProfileId : Option ProfileId
  activeRevision : ActiveProfileRevision

inductive ProfileSelectorError where
  | notFound
  | ambiguous (candidateIds : List ProfileId)
  | active
  | activeRevisionExhausted
deriving DecidableEq

inductive ProfileInsertError where
  | duplicateId (id : ProfileId)
deriving DecidableEq

inductive RefreshCommitError where
  | profileRemoved
  | staleRevision (expected actual : ProfileRevision)
  | activeRevisionChanged (expected : Option ActiveProfileRevision) (actual : ActiveProfileRevision)
  | revisionExhausted
deriving DecidableEq

namespace Profile

variable {U S : Type}

/-- `Profile::new` -/
def fresh (id : ProfileId) (name : String) (subscriptionUrl : U) (snapshot : S)
    (lastSuccessAtUnixMs nextRefreshAtUnixMs : UInt64) : Profile U S :=
  ⟨id, name, subscriptionUrl, snapshot, 1, lastSuccessAtUnixMs, none, nextRefreshAtUnixMs, ∅⟩

def refreshed (profile : Profile U S) (revision : ProfileRevision) (snapshot : S)
    (successAtUnixMs nextRefreshAtUnixMs : UInt64) : Profile U S :=
  { profile with
    snapshot
    revision
    lastSuccessAtUnixMs := successAtUnixMs
    lastError := none
    nextRefreshAtUnixMs }

end Profile

namespace ProfileCatalog

variable {D U S : Type} (X : Codec D)

def new : ProfileCatalog U S := ⟨∅, none, 0⟩

def insert (profile : Profile U S) (catalog : ProfileCatalog U S) :
    Except ProfileInsertError Unit × ProfileCatalog U S :=
  if profile.id ∈ catalog.profiles then (.error (.duplicateId profile.id), catalog)
  else (.ok (), { catalog with profiles := catalog.profiles.insert profile.id profile })

def named (name : String) (catalog : ProfileCatalog U S) : List ProfileId :=
  (catalog.profiles.toList.filter fun entry => entry.2.name = name).map (·.2.id)

def resolve (selector : String) (catalog : ProfileCatalog U S) :
    Except ProfileSelectorError ProfileId :=
  match ProfileId.parse X selector with
  | some id => if id ∈ catalog.profiles then .ok id else .error .notFound
  | none =>
    match catalog.named selector with
    | [] => .error .notFound
    | [id] => .ok id
    | candidateIds => .error (.ambiguous candidateIds)

def activate (selector : String) (catalog : ProfileCatalog U S) :
    Except ProfileSelectorError ProfileId × ProfileCatalog U S :=
  match catalog.resolve X selector with
  | .error e => (.error e, catalog)
  | .ok id =>
    if catalog.activeProfileId = some id then (.ok id, catalog)
    else match checkedSucc catalog.activeRevision with
      | none => (.error .activeRevisionExhausted, catalog)
      | some activeRevision =>
        (.ok id, { catalog with activeRevision, activeProfileId := some id })

def refreshContext (id : ProfileId) (catalog : ProfileCatalog U S) :
    Except RefreshCommitError RefreshContext :=
  match catalog.profiles[id]? with
  | none => .error .profileRemoved
  | some profile => .ok {
      profileRevision := profile.revision
      activeRevision :=
        if catalog.activeProfileId = some id then some catalog.activeRevision else none }

def remove (selector : String) (catalog : ProfileCatalog U S) :
    Except ProfileSelectorError (Profile U S) × ProfileCatalog U S :=
  match catalog.resolve X selector with
  | .error e => (.error e, catalog)
  | .ok id =>
    if catalog.activeProfileId = some id then (.error .active, catalog)
    else match catalog.profiles[id]? with
      | none => (.error .notFound, catalog)
      | some removed => (.ok removed, { catalog with profiles := catalog.profiles.erase id })

def commitRefresh (id : ProfileId) (context : RefreshContext) (snapshot : S)
    (successAtUnixMs nextRefreshAtUnixMs : UInt64) (catalog : ProfileCatalog U S) :
    Except RefreshCommitError ProfileRevision × ProfileCatalog U S :=
  match catalog.profiles[id]? with
  | none => (.error .profileRemoved, catalog)
  | some profile =>
    if profile.revision ≠ context.profileRevision then
      (.error (.staleRevision context.profileRevision profile.revision), catalog)
    else if catalog.activeProfileId = some id ∧
        context.activeRevision ≠ some catalog.activeRevision then
      (.error (.activeRevisionChanged context.activeRevision catalog.activeRevision), catalog)
    else match checkedSucc profile.revision with
      | none => (.error .revisionExhausted, catalog)
      | some revision => (.ok revision, { catalog with
          profiles := catalog.profiles.insert id
            (profile.refreshed revision snapshot successAtUnixMs nextRefreshAtUnixMs) })

/-- What is done through `get_mut`: a change of a profile that is there. -/
def amend (id : ProfileId) (change : Profile U S → Profile U S) (catalog : ProfileCatalog U S) :
    Option (ProfileCatalog U S) :=
  catalog.profiles[id]?.map fun profile =>
    { catalog with profiles := catalog.profiles.insert id (change profile) }

def refreshIsStale (id : ProfileId) (context : RefreshContext) (catalog : ProfileCatalog U S) :
    Bool :=
  match catalog.refreshContext id with
  | .error _ => true
  | .ok current => current.profileRevision ≠ context.profileRevision ||
      (catalog.activeProfileId = some id && current.activeRevision ≠ context.activeRevision)

end ProfileCatalog

end Ratash
