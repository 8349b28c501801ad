import Mathlib.Data.List.AList
import Ratash.Files.Path
import Ratash.Generation.Manifest
import Ratash.Generation.Name
import Ratash.Interaction.Attempt

namespace Ratash

open Interaction

inductive FileType where
  | directory
  | file
  | symlink
deriving DecidableEq

structure Metadata where
  fileType : FileType
  uid : Nat
  mode : Nat
  device : Nat := 0
  inode : Nat := 0
deriving DecidableEq

structure Node where
  fileType : FileType
  uid : Nat
  mode : Nat
  links : Nat
  content : Bytes
deriving DecidableEq

abbrev Tree := AList fun _ : List String => Node

structure RootEntry where
  metadata : Metadata
  files : Tree

structure GenerationRoot where
  metadata : Metadata
  entries : AList fun _ : String => RootEntry
  nextInode : Nat
  -- the random identifiers still to be drawn
  uuids : Nat → BitVec 128

inductive TreeCall where
  | createDirAll (path : List String)
  | createDir (path : List String)
  | setPermissions (path : List String) (mode : Nat)
  | createNew (path : List String) (content : Bytes) (mode : Nat)
  | unlink (path : List String)
  | rename (source target : List String)
  | syncDirectories

inductive RootCall where
  | rootMetadata
  | readDir
  | symlinkMetadata (name : String)
  | newUuid
  | createDirAll (name : String)
  | createDir (name : String)
  | setPermissions (name : String) (mode : Nat)
  | rename (source target : String)
  | removeDirAll (name : String)
  | removeDir (name : String)
  | syncRoot
  | node (name : String) (path : List String)
  | within (name : String) (c : TreeCall)
  -- a file below a directory outside the root
  | outside (directory : Path) (path : List String)

@[reducible] def RootCall.Value : RootCall → Type
  | .rootMetadata => Metadata
  | .readDir => List String
  | .symlinkMetadata _ => Option Metadata
  | .newUuid => BitVec 128
  | .node _ _ | .outside _ _ => Option Node
  | _ => Unit

abbrev rootCalls : Signature :=
  .fallible RootCall RootCall.Value IoError

abbrev RootAttempt := Attempt rootCalls

def rootCall (c : RootCall) : RootAttempt IoError c.Value :=
  Attempt.call c

def alreadyExists : IoError := ⟨.alreadyExists, "file exists"⟩
def notFound : IoError := ⟨.notFound, "no such file or directory"⟩
def directoryNotEmpty : IoError := ⟨.directoryNotEmpty, "directory not empty"⟩
def notADirectory : IoError := ⟨.other, "not a directory"⟩

namespace Tree

def isDirectory (files : Tree) (path : List String) : Bool :=
  path.isEmpty || (files.lookup path).any fun node => node.fileType = .directory

/-- The directories on the way to a path, the path itself included. -/
def ancestors (path : List String) : List (List String) :=
  path.inits.tail

def createDirectory (uid : Nat) (files : Tree) (path : List String) : IoResult Tree :=
  match files.lookup path with
  | none => .ok (files.insert path ⟨.directory, uid, 0o755, 1, []⟩)
  | some node => if node.fileType = .directory then .ok files else .error alreadyExists

def perform (uid : Nat) (files : Tree) : TreeCall → IoResult Unit × Tree
  | .createDirAll path =>
    match (ancestors path).foldlM (createDirectory uid) files with
    | .ok files' => (.ok (), files')
    | .error e => (.error e, files)
  | .createDir path =>
    if path ∈ files then (.error alreadyExists, files)
    else if isDirectory files path.dropLast then
      (.ok (), files.insert path ⟨.directory, uid, 0o755, 1, []⟩)
    else (.error notADirectory, files)
  | .setPermissions path mode =>
    match files.lookup path with
    | some node => (.ok (), files.insert path { node with mode })
    | none => (.error notFound, files)
  | .createNew path content mode =>
    if path ∈ files then (.error alreadyExists, files)
    else if isDirectory files path.dropLast then
      (.ok (), files.insert path ⟨.file, uid, mode, 1, content⟩)
    else (.error notADirectory, files)
  | .unlink path => if path ∈ files then (.ok (), files.erase path) else (.error notFound, files)
  | .rename source target =>
    match files.lookup source with
    | some node => (.ok (), (files.erase source).insert target node)
    | none => (.error notFound, files)
  | .syncDirectories => (.ok (), files)

end Tree

namespace GenerationRoot

/-- A new directory; its permissions are what the usual umask leaves. -/
def createEntry (g : GenerationRoot) (name : String) : GenerationRoot :=
  { g with
    entries := g.entries.insert name
      ⟨⟨.directory, g.metadata.uid, 0o755, g.metadata.device, g.nextInode⟩, ∅⟩
    nextInode := g.nextInode + 1 }

def setEntry (g : GenerationRoot) (name : String) (entry : RootEntry) : GenerationRoot :=
  { g with entries := g.entries.insert name entry }

def removeEntry (g : GenerationRoot) (name : String) : GenerationRoot :=
  { g with entries := g.entries.erase name }

/-- `rename` of a directory replaces nothing but an empty directory. -/
def renameEntry (g : GenerationRoot) (source target : String) : IoResult Unit × GenerationRoot :=
  match g.entries.lookup source, g.entries.lookup target with
  | none, _ => (.error notFound, g)
  | some entry, none => (.ok (), (g.removeEntry source).setEntry target entry)
  | some entry, some existing =>
    if existing.metadata.fileType ≠ .directory then (.error notADirectory, g)
    else if existing.files.keys = [] then (.ok (), (g.removeEntry source).setEntry target entry)
    else (.error directoryNotEmpty, g)

end GenerationRoot

/-- What stands at a path outside the root. -/
abbrev OutsideFiles := Path → List String → Option Node

def performRoot (outside : OutsideFiles) : Handler rootCalls GenerationRoot
  | g, .rootMetadata => (.ok g.metadata, g)
  | g, .readDir => (.ok g.entries.keys, g)
  | g, .symlinkMetadata name => (.ok ((g.entries.lookup name).map RootEntry.metadata), g)
  | g, .newUuid => (.ok (g.uuids 0), { g with uuids := fun n => g.uuids (n + 1) })
  | g, .createDirAll name =>
    match g.entries.lookup name with
    | none => (.ok (), g.createEntry name)
    | some entry =>
      (if entry.metadata.fileType = .directory then .ok () else .error alreadyExists, g)
  | g, .createDir name =>
    if name ∈ g.entries then (.error alreadyExists, g) else (.ok (), g.createEntry name)
  | g, .setPermissions name mode =>
    match g.entries.lookup name with
    | none => (.error notFound, g)
    | some entry => (.ok (), g.setEntry name { entry with metadata.mode := mode })
  | g, .rename source target => g.renameEntry source target
  | g, .removeDirAll name =>
    if name ∈ g.entries then (.ok (), g.removeEntry name) else (.error notFound, g)
  | g, .removeDir name =>
    match g.entries.lookup name with
    | none => (.error notFound, g)
    | some entry =>
      if entry.files.keys = [] then (.ok (), g.removeEntry name)
      else (.error directoryNotEmpty, g)
  | g, .syncRoot => (.ok (), g)
  | g, .node name path =>
    ((g.entries.lookup name).elim (.error notFound) fun entry => .ok (entry.files.lookup path), g)
  | g, .within name c =>
    match g.entries.lookup name with
    | none => (.error notFound, g)
    | some entry =>
      let (reply, files) := Tree.perform g.metadata.uid entry.files c
      (reply, g.setEntry name { entry with files })
  | g, .outside directory path => (.ok (outside directory path), g)

/-- The entry a call works in, and may leave half done. -/
def RootCall.worksIn : RootCall → Option String
  | .removeDirAll name | .within name _ => some name
  | _ => none

/-- The roots a call may leave, failing or not: it has taken effect, or not, or has left a part of
its work below the entry it works in. -/
def Outcome (outside : OutsideFiles) (g : GenerationRoot) (c : RootCall)
    (g' : GenerationRoot) : Prop :=
  g' = g ∨ g' = (performRoot outside g c).2 ∨
    ∃ name entry files, c.worksIn = some name ∧ g.entries.lookup name = some entry ∧
      g' = g.setEntry name { entry with files := files }

def failingRoot (outside : OutsideFiles) : Environment rootCalls GenerationRoot :=
  (performRoot outside).leaving (Outcome outside)

end Ratash
