import Mathlib.Data.List.AList
import Ratash.Interaction.Attempt
import Ratash.Persistence.Bundle

namespace Ratash

open Interaction

structure PreparedTransaction (D : Type) where
  candidate : TransactionId D
  previous : Option (TransactionId D)
deriving DecidableEq

structure CommittedManifest (D : Type) where
  current : TransactionId D
  previous : Option (TransactionId D)
deriving DecidableEq

structure RecoveryState (D : Type) where
  committed : Option (CommittedManifest D)
  prepared : Option (PreparedTransaction D)
deriving DecidableEq

/-- A file name in `objects` or `transactions`; other names are left-over temporary files. -/
inductive EntryName (D : Type) where
  | digest (d : D)
  | other (name : String)
deriving DecidableEq

abbrev Files (D : Type) := AList fun _ : EntryName D => Bytes

structure Store (D : Type) where
  manifest : Option (CommittedManifest D)
  prepared : Option (PreparedTransaction D)
  transactions : Files D
  objects : Files D

variable {D : Type}

def Store.empty : Store D :=
  ⟨none, none, ∅, ∅⟩

inductive StoreCall (D : Type) where
  | readManifest
  | readPrepared
  | readTransaction (id : TransactionId D)
  | readObject (id : ObjectId D)
  | replaceManifest (manifest : CommittedManifest D)
  | replacePrepared (prepared : PreparedTransaction D)
  | removePrepared
  | putTransaction (id : TransactionId D) (content : Bytes)
  | putObject (id : ObjectId D) (content : Bytes)
  | listTransactions
  | listObjects
  | removeTransaction (id : TransactionId D)
  | removeObject (id : ObjectId D)
  | syncTransactions
  | syncObjects

@[reducible] def StoreCall.Value : StoreCall D → Type
  | .readManifest => Option (CommittedManifest D)
  | .readPrepared => Option (PreparedTransaction D)
  | .readTransaction _ | .readObject _ => Bytes
  | .listTransactions | .listObjects => List (EntryName D)
  -- whether the file was still there
  | .removeTransaction _ | .removeObject _ => Bool
  | _ => Unit

abbrev storeCalls (D : Type) : Signature :=
  .fallible (StoreCall D) StoreCall.Value IoError

abbrev StoreAttempt (D : Type) := Attempt (storeCalls D) IoError

abbrev fileCall (c : StoreCall D) : StoreAttempt D c.Value :=
  Attempt.call c

variable [DecidableEq D]

def readFile (files : Files D) (digest : D) : IoResult Bytes :=
  match files.lookup (.digest digest) with
  | some content => .ok content
  | none => .error ⟨.notFound, "no such file"⟩

def performFile : Handler (storeCalls D) (Store D)
  | s, .readManifest => (.ok s.manifest, s)
  | s, .readPrepared => (.ok s.prepared, s)
  | s, .readTransaction id => (readFile s.transactions id.digest, s)
  | s, .readObject id => (readFile s.objects id.digest, s)
  | s, .replaceManifest m => (.ok (), { s with manifest := some m })
  | s, .replacePrepared p => (.ok (), { s with prepared := some p })
  | s, .removePrepared => (.ok (), { s with prepared := none })
  | s, .putTransaction id content =>
    (.ok (), { s with transactions := s.transactions.insert (.digest id.digest) content })
  | s, .putObject id content =>
    (.ok (), { s with objects := s.objects.insert (.digest id.digest) content })
  | s, .listTransactions => (.ok s.transactions.keys, s)
  | s, .listObjects => (.ok s.objects.keys, s)
  | s, .removeTransaction id =>
    (.ok (decide (EntryName.digest id.digest ∈ s.transactions)),
      { s with transactions := s.transactions.erase (.digest id.digest) })
  | s, .removeObject id =>
    (.ok (decide (EntryName.digest id.digest ∈ s.objects)),
      { s with objects := s.objects.erase (.digest id.digest) })
  | s, .syncTransactions => (.ok (), s)
  | s, .syncObjects => (.ok (), s)

/-- File operations that, if `fails`, may report an error, having taken effect or not; otherwise
a run is only ever cut short. -/
abbrev fileSystem (fails : Prop) : Environment (storeCalls D) (Store D) :=
  performFile.failing fails

end Ratash
