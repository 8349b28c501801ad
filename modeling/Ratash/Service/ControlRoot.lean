import Ratash.Generation.Root
import Ratash.Service.GenerationState

namespace Ratash

open Interaction

structure ControlEntry where
  metadata : ControlMetadata
  content : Bytes
deriving DecidableEq

def ControlEntry.stat (entry : ControlEntry) : ControlMetadata :=
  { entry.metadata with length := entry.content.length }

structure ControlRoot where
  metadata : ControlMetadata
  uid : Nat
  entries : AList fun _ : ControlName => ControlEntry
  nextInode : Nat

namespace ControlRoot

def create (root : ControlRoot) (name : ControlName) (mode : Nat) : ControlRoot :=
  { root with
    entries := root.entries.insert name
      ⟨⟨true, false, 0, root.uid, mode, 1, root.metadata.device, root.nextInode⟩, []⟩
    nextInode := root.nextInode + 1 }

def put (root : ControlRoot) (name : ControlName) (entry : ControlEntry) : ControlRoot :=
  { root with entries := root.entries.insert name entry }

def erase (root : ControlRoot) (name : ControlName) : ControlRoot :=
  { root with entries := root.entries.erase name }

def change (root : ControlRoot) (name : ControlName) (f : ControlEntry → ControlEntry) :
    IoResult Unit × ControlRoot :=
  match root.entries.lookup name with
  | none => (.error notFound, root)
  | some entry => (.ok (), root.put name (f entry))

end ControlRoot

def performControl (root : ControlRoot) : (c : FileCall) → IoResult c.Value × ControlRoot
  | .rootMetadata => (.ok root.metadata, root)
  | .metadata name => (.ok ((root.entries.lookup name).map ControlEntry.stat), root)
  | .openMetadata name =>
    match root.entries.lookup name with
    | none => (.error notFound, root)
    | some entry => (.ok entry.stat, root)
  | .read name =>
    match root.entries.lookup name with
    | none => (.error notFound, root)
    | some entry => (.ok entry.content, root)
  | .createNew name mode =>
    match root.entries.lookup name with
    | some _ => (.error alreadyExists, root)
    | none =>
      (.ok ⟨true, false, 0, root.uid, mode, 1, root.metadata.device, root.nextInode⟩,
        root.create name mode)
  | .setPermissions name mode =>
    root.change name fun entry => { entry with metadata := { entry.metadata with mode } }
  | .write name content => root.change name fun entry => { entry with content }
  | .rename source target =>
    match root.entries.lookup source with
    | none => (.error notFound, root)
    | some entry => (.ok (), (root.erase source).put target entry)
  | .remove name =>
    match root.entries.lookup name with
    | none => (.error notFound, root)
    | some _ => (.ok (), root.erase name)
  | .readDir => (.ok root.entries.keys, root)
  | .sync _ | .syncRoot | .flock => (.ok (), root)

/-- What a call that reports an error may leave: it has happened or not, and a write may have
happened in part. -/
def ControlOutcome (root : ControlRoot) (c : FileCall) (root' : ControlRoot) : Prop :=
  root' = root ∨ root' = (performControl root c).2 ∨
    ∃ name content part, c = .write name content ∧
      root' = (root.change name fun entry => { entry with content := part }).2

def FileCall.touches : FileCall → List ControlName
  | .createNew name _ | .setPermissions name _ | .write name _ | .remove name => [name]
  | .rename source target => [source, target]
  | _ => []

namespace ControlRoot

variable {root root' : ControlRoot} {name other : ControlName}

theorem lookup_change (hname : name ≠ other) (f : ControlEntry → ControlEntry) :
    (root.change other f).2.entries.lookup name = root.entries.lookup name := by
  unfold change
  split
  · rfl
  · exact AList.lookup_insert_ne hname

theorem lookup_performControl {c : FileCall} (hname : name ∉ c.touches) :
    (performControl root c).2.entries.lookup name = root.entries.lookup name := by
  cases c with
  | openMetadata other | read other =>
    simp only [performControl]
    split <;> rfl
  | createNew other mode =>
    have hne : name ≠ other := fun h => hname (List.mem_singleton.2 h)
    simp only [performControl]
    split
    · rfl
    · exact AList.lookup_insert_ne hne
  | setPermissions other mode => exact lookup_change (fun h => hname (List.mem_singleton.2 h)) _
  | write other content => exact lookup_change (fun h => hname (List.mem_singleton.2 h)) _
  | rename source target =>
    have hsource : name ≠ source := fun h => hname (List.mem_cons.2 (.inl h))
    have htarget : name ≠ target := fun h => hname (List.mem_cons_of_mem _ (List.mem_singleton.2 h))
    simp only [performControl]
    split
    · rfl
    · exact (AList.lookup_insert_ne htarget).trans (AList.lookup_erase_ne hsource)
  | remove other =>
    have hne : name ≠ other := fun h => hname (List.mem_singleton.2 h)
    simp only [performControl]
    split
    · rfl
    · exact AList.lookup_erase_ne hne
  | _ => rfl

theorem lookup_outcome {c : FileCall} (h : ControlOutcome root c root') (hname : name ∉ c.touches) :
    root'.entries.lookup name = root.entries.lookup name := by
  obtain rfl | rfl | ⟨other, _, _, rfl, rfl⟩ := h
  · rfl
  · exact lookup_performControl hname
  · exact lookup_change (fun h => hname (List.mem_singleton.2 h)) _

def persisted (J : GenerationCodec) (root : ControlRoot) : Option GenerationCounters :=
  (root.entries.lookup .generationState).bind fun entry =>
    (parseGenerationState J entry.content).toOption.map ServiceGenerationState.counters

theorem persisted_congr {J : GenerationCodec}
    (h : root'.entries.lookup .generationState = root.entries.lookup .generationState) :
    root'.persisted J = root.persisted J := by
  rw [persisted, h, persisted]

theorem persisted_eq_some {J : GenerationCodec}
    (h : root.entries.lookup .generationState = some entry)
    (hparse : parseGenerationState J entry.content = .ok state) :
    root.persisted J = some state.counters := by
  rw [persisted, h, Option.bind_some, hparse]
  rfl

end ControlRoot

end Ratash
