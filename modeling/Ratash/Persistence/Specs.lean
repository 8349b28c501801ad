import Ratash.Persistence.Operations

/-!
Each operation is described once, against file operations that may fail: the worlds it can be
stopped in, and what its success means.
-/

namespace Ratash

open Interaction Attempt

variable {D : Type} [DecidableEq D] (X : Codec D) {fails : Prop}

namespace Store

def transactionAt (s : Store D) (id : TransactionId D) : Option (TransactionBundle D) :=
  match readFile s.transactions id.digest with
  | .error _ => none
  | .ok content =>
    if TransactionId.forContent X content = id then
      (TransactionBundle.deserialize X content).toOption
    else none

def withTransaction (s : Store D) (bundle : TransactionBundle D) : Store D :=
  { s with transactions :=
      s.transactions.insert (.digest (bundle.id X).digest) (bundle.serialize X) }

def withPrepared (s : Store D) (prepared : PreparedTransaction D) : Store D :=
  { s with prepared := some prepared }

def withManifest (s : Store D) (manifest : CommittedManifest D) : Store D :=
  { s with manifest := some manifest }

def withoutPrepared (s : Store D) : Store D :=
  { s with prepared := none }

def committedId (s : Store D) : Option (TransactionId D) :=
  s.manifest.map CommittedManifest.current

def journalOf (s : Store D) (bundle : TransactionBundle D) : PreparedTransaction D :=
  { candidate := bundle.id X, previous := s.committedId }

variable {X} {id : TransactionId D} {s : Store D}

theorem transactionAt_eq_some {t : TransactionBundle D} : s.transactionAt X id = some t ↔
      ∃ content, s.transactions.lookup (.digest id.digest) = some content ∧
        TransactionId.forContent X content = id ∧
        TransactionBundle.deserialize X content = .ok t := by
  unfold transactionAt readFile
  cases s.transactions.lookup (.digest id.digest) with
  | none => simp
  | some content =>
    by_cases hid : TransactionId.forContent X content = id
    · cases hb : TransactionBundle.deserialize X content <;> simp [hid, hb, Except.toOption]
    · simp [hid]

theorem transactionAt_unique {s' : Store D}
    (h : s.transactionAt X id = some t) (h' : s'.transactionAt X id = some t') : t = t' := by
  obtain ⟨content, _, hid, ht⟩ := transactionAt_eq_some.1 h
  obtain ⟨content', _, hid', ht'⟩ := transactionAt_eq_some.1 h'
  have hcontent : content = content' :=
    X.sha256Hex_injective (congrArg TransactionId.digest (hid.trans hid'.symm))
  subst hcontent
  exact Except.ok.inj (ht.symm.trans ht')

theorem transactionAt_congr {s' : Store D}
    (h : s'.transactions.lookup (.digest id.digest) = s.transactions.lookup (.digest id.digest)) :
    s'.transactionAt X id = s.transactionAt X id := by
  unfold transactionAt readFile
  rw [h]

@[simp] theorem transactionAt_withTransaction_self {b : TransactionBundle D} :
    (s.withTransaction X b).transactionAt X (b.id X) = some b := by
  refine transactionAt_eq_some.2 ⟨b.serialize X, ?_, rfl, by simp⟩
  exact AList.lookup_insert _

theorem transactionAt_withTransaction {b : TransactionBundle D}
    (h : s.transactionAt X id = some t) : (s.withTransaction X b).transactionAt X id = some t := by
  by_cases hid : id = b.id X
  · subst hid
    have hb := transactionAt_withTransaction_self (X := X) (s := s) (b := b)
    rw [hb, transactionAt_unique h hb]
  · rw [← h]
    refine transactionAt_congr (AList.lookup_insert_ne fun hname => hid ?_)
    cases id
    cases hname
    rfl

end Store

theorem loadTransaction_spec (s : Store D) (id : TransactionId D) :
    (loadTransaction X id).run.Ensures (fileSystem fails) (· = s)
      (fun r _ => ∀ t, r = .ok t → s.transactionAt X id = some t) s := by
  refine ensures_read_seq rfl rfl ?_ (by simp)
  intro content hcontent
  have hat : ∀ t, TransactionId.forContent X content = id →
      TransactionBundle.deserialize X content = .ok t → s.transactionAt X id = some t := by
    intro t hid ht
    simp only [performFile] at hcontent
    simp [Store.transactionAt, hcontent, hid, ht, Except.toOption]
  refine ensures_require_seq rfl ?_ nofun
  intro hid
  exact ⟨rfl, fun t ht => hat t hid ht⟩

theorem readObjectLimited_spec (s : Store D) (id : ObjectId D) (limit : Option Nat) :
    (readObjectLimited X id limit).run.Ensures (fileSystem fails) (· = s)
      (fun r _ => ∀ content, r = .ok content → readFile s.objects id.digest = .ok content) s := by
  refine ensures_read_seq rfl rfl ?_ (by simp)
  intro content hcontent
  refine ensures_require_seq rfl ?_ nofun
  intro _
  refine ensures_require_seq rfl ?_ nofun
  rintro _
  refine ⟨rfl, ?_⟩
  rintro _ ⟨⟩
  exact hcontent

theorem verifyBundleObjects_spec (s : Store D) (bundle : TransactionBundle D) :
    (verifyBundleObjects X bundle).run.Ensures (fileSystem fails) (· = s) (fun _ _ => True) s := by
  refine ensures_seq (readObjectLimited_spec ..) ?_ (by simp)
  rintro _ _ rfl _
  refine ensures_seq (readObjectLimited_spec ..) ?_ (by simp)
  rintro _ _ rfl _
  refine ensures_seq (readObjectLimited_spec ..) ?_ (by simp)
  rintro _ _ rfl _
  refine ensures_seq (readObjectLimited_spec ..) ?_ (by simp)
  rintro _ _ rfl _
  simp

theorem recover_spec (s : Store D) : (recover (D := D)).run.Ensures (fileSystem fails) (· = s)
      (fun r _ => ∀ state, r = .ok state → state = ⟨s.manifest, s.prepared⟩) s := by
  refine ensures_read_seq rfl rfl ?_ (by simp)
  intro committed hcommitted
  refine ensures_read_seq rfl rfl ?_ (by simp)
  intro prepared hprepared
  simp_all [performFile]

def Staging (s : Store D) (bundle : TransactionBundle D) (s' : Store D) : Prop :=
  s' = s ∨ s.prepared = none ∧ s' = s.withTransaction X bundle

theorem stageJournal_spec (s : Store D) (bundle : TransactionBundle D) :
    (stageJournal X bundle).run.Ensures (fileSystem fails) (Staging X s bundle)
      (fun r s' => ∀ p, r = .ok p → s.prepared = none ∧ p = s.journalOf X bundle ∧
        s' = s.withTransaction X bundle) s := by
  have hs : Staging X s bundle s := .inl rfl
  refine ensures_read_seq rfl hs ?_ (by simp)
  intro journal hjournal
  obtain rfl : s.prepared = journal := Except.ok.inj hjournal
  refine ensures_require_seq hs (fun hnone => ?_) (by simp)
  refine ensures_seq ((verifyBundleObjects_spec X s bundle).frozen hs) ?_ (by simp)
  rintro _ _ _ ⟨rfl, _⟩
  have hput : Staging X s bundle (s.withTransaction X bundle) := .inr ⟨hnone, rfl⟩
  refine ensures_call_seq ⟨hs, hput⟩ ?_ (by simp)
  intro _ _
  refine ensures_read_seq rfl hput ?_ (by simp)
  intro manifest hmanifest
  obtain rfl : s.manifest = manifest := Except.ok.inj hmanifest
  refine ⟨hput, ?_⟩
  intro p hp
  cases hp
  exact ⟨hnone, rfl, rfl⟩

def Committing (s : Store D) (p : PreparedTransaction D) (s' : Store D) : Prop :=
  s' = s ∨ (s.prepared = some p ∧ s.committedId = p.previous) ∧
    s' = s.withManifest ⟨p.candidate, p.previous⟩

theorem commitPrepared_spec (s : Store D) (p : PreparedTransaction D) :
    (commitPrepared X p).run.Ensures (fileSystem fails) (Committing s p)
      (fun r s' => (r = .ok () → s' = s.withManifest ⟨p.candidate, p.previous⟩) ∧
        (∀ e, r = .error e → ¬fails → s' = s)) s := by
  have hs : Committing s p s := .inl rfl
  refine ensures_read_seq rfl hs ?_ (by simp)
  intro journal hjournal
  obtain rfl : s.prepared = journal := Except.ok.inj hjournal
  refine ensures_require_seq hs (fun hmine => ?_) (by simp)
  refine ensures_read_seq rfl hs ?_ (by simp)
  intro manifest hmanifest
  obtain rfl : s.manifest = manifest := Except.ok.inj hmanifest
  refine ensures_require_seq hs (fun hbase => ?_) (by simp)
  refine ensures_seq ((loadTransaction_spec X s p.candidate).frozen hs) ?_ ?_
  · rintro bundle _ _ ⟨rfl, _⟩
    refine ensures_seq ((verifyBundleObjects_spec X s bundle).frozen hs) ?_ ?_
    · rintro _ _ _ ⟨rfl, _⟩
      have hdone : Committing s p (s.withManifest ⟨p.candidate, p.previous⟩) :=
        .inr ⟨⟨hmine, hbase⟩, rfl⟩
      refine ensures_call_failing ⟨hs, hdone⟩ (fun _ _ => ⟨fun _ => rfl, by simp⟩) ?_
      rintro e s' (⟨hfails, _⟩ | ⟨hnever, _⟩)
      · exact ⟨by simp, fun _ _ hnot => absurd hfails hnot⟩
      · cases hnever
    · rintro e _ _ ⟨rfl, _⟩
      exact ⟨by simp, fun _ _ _ => rfl⟩
  · rintro e _ _ ⟨rfl, _⟩
    exact ⟨by simp, fun _ _ _ => rfl⟩

def Clearing (s : Store D) (p : PreparedTransaction D) (s' : Store D) : Prop :=
  s' = s ∨ s.prepared = some p ∧ s' = s.withoutPrepared

theorem clearPrepared_spec (s : Store D) (p : PreparedTransaction D) :
    (clearPrepared p).run.Ensures (fileSystem fails) (Clearing s p)
      (fun r s' => r = .ok () → s' = s.withoutPrepared) s := by
  have hs : Clearing s p s := .inl rfl
  refine ensures_read_seq rfl hs ?_ (by simp)
  intro journal hjournal
  obtain rfl : s.prepared = journal := Except.ok.inj hjournal
  refine ensures_require_seq hs (fun hmine => ?_) (by simp)
  have hdone : Clearing s p s.withoutPrepared := .inr ⟨hmine, rfl⟩
  exact ensures_call_failing ⟨hs, hdone⟩ (fun _ _ _ => rfl) (by simp)

end Ratash
