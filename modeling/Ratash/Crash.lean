import Mathlib.Logic.Relation
import Ratash.Transaction.FailureFree

/-!
A run is a sequence of operations on one persistence root, each carried to its end or cut off
between two calls.
-/

namespace Ratash

open Interaction

/-- What the disk holds, and which generation the running Supervisor takes to be committed. -/
structure Session (D : Type) where
  store : Store D
  -- `none` while no Supervisor is running
  memory : Option (Option RuntimeGeneration)

def Session.initial : Session D :=
  ⟨Store.empty, none⟩

inductive Operation (D : Type) where
  | stage (content : Bytes)
  | execute (candidate : ConfigTransactionCandidate D)
  | executeStartupReapply (candidate : ConfigTransactionCandidate D)
  | persistMetadata (transaction : TransactionBundle D)
  | prepareStartupReapply (expectedCommittedGeneration : Option RuntimeGeneration)
  | recoverStartup

variable {D : Type} [DecidableEq D] (X : Codec D)

/-- The program of an operation; its value is the committed generation it has found out, if any. -/
def Operation.program :
    Operation D → Prog (coordinatorCalls D) (Option (Option RuntimeGeneration))
  | .stage content => (store (putObject X content)).run.bind fun _ => .ret none
  | .execute candidate => (Ratash.execute X candidate).run.bind fun r =>
    .ret (r.toOption.map fun success => some success.committedGeneration)
  | .executeStartupReapply candidate => (Ratash.executeStartupReapply X candidate).run.bind fun r =>
    .ret (r.toOption.map fun success => some success.committedGeneration)
  | .persistMetadata transaction => (Ratash.persistMetadata X transaction).left.run.bind fun _ =>
    .ret none
  | .prepareStartupReapply expected => (Ratash.prepareStartupReapply X expected).run.bind fun r =>
    .ret (r.toOption.map StartupReapply.committedGeneration)
  | .recoverStartup => (Ratash.recoverStartup X).run.bind fun r =>
    .ret (r.toOption.map StartupRecovery.committedGeneration)

/-- The Supervisor persists metadata under the generation it takes to be committed. -/
def Operation.Permitted (memory : Option (Option RuntimeGeneration)) : Operation D → Prop
  | .persistMetadata transaction => memory = some (some transaction.runtimeGeneration)
  | _ => True

def Operation.bundle : Operation D → Option (TransactionBundle D)
  | .execute candidate | .executeStartupReapply candidate => some candidate.transaction
  | .persistMetadata transaction => some transaction
  | _ => none

/-- No file operation fails; the ports may reply anything. -/
def durable : Environment (coordinatorCalls D) (Store D × PortWorld Unit) :=
  anyOutcome False fun _ _ _ _ => True

/-- One operation, carried to its end or cut off by a crash. -/
inductive Step (X : Codec D) (σ : Session D) (op : Operation D) : Session D → Prop where
  | finish (hop : op.Permitted σ.memory) (hv : v.applied = false)
      (hrun : Finishes durable (op.program X) (σ.store, v) found (s, v')) :
      Step X σ op ⟨s, found.or σ.memory⟩
  | crash (hop : op.Permitted σ.memory) (hv : v.applied = false)
      (hrun : Reaches durable (op.program X) (σ.store, v) (s, v')) :
      Step X σ op ⟨s, none⟩

def Run (X : Codec D) : Session D → Session D → Prop :=
  Relation.ReflTransGen fun σ σ' => ∃ op, Step X σ op σ'

def Store.committedGeneration (s : Store D) : Option RuntimeGeneration :=
  s.committedId.bind fun id => (s.transactionAt X id).map TransactionBundle.runtimeGeneration

variable {X} {s s₀ : Store D}

theorem GenerationAt.committedGeneration (h : GenerationAt X s s.committedId g) :
    s.committedGeneration X = g := by
  unfold Store.committedGeneration
  cases hid : s.committedId with
  | none =>
    rw [hid] at h
    exact h.symm
  | some id =>
    rw [hid] at h
    obtain ⟨t, ht, rfl⟩ := h
    simp [ht]

theorem Recoverable.committedGeneration (h : Recoverable X s) :
    GenerationAt X s s.committedId (s.committedGeneration X) := by
  obtain ⟨⟨g, hg⟩, _⟩ := h.generations
  rw [hg.committedGeneration]
  exact hg

structure Session.Sound (X : Codec D) (σ : Session D) : Prop where
  recoverable : Recoverable X σ.store
  memory : ∀ g, σ.memory = some g → σ.store.committedGeneration X = g

/-- The manifest is the one before or the one after an operation. -/
def BeforeOrAfter (X : Codec D) (s₀ : Store D) (op : Operation D)
    (manifest : Option (CommittedManifest D)) : Prop :=
  manifest = s₀.manifest ∨ ∃ b, op.bundle = some b ∧ manifest = some ⟨b.id X, s₀.committedId⟩

structure Advanced (X : Codec D) (s₀ : Store D) (op : Operation D) (s : Store D) : Prop where
  recoverable : Recoverable X s
  manifest : BeforeOrAfter X s₀ op s.manifest

theorem committedGeneration_congr (h₀ : Recoverable X s₀) (h : Recoverable X s)
    (hm : s.manifest = s₀.manifest) : s.committedGeneration X = s₀.committedGeneration X := by
  have hid : s.committedId = s₀.committedId := by
    simp only [Store.committedId, hm]
  have hs := h.committedGeneration
  rw [hid] at hs
  exact hs.unique h₀.committedGeneration

theorem committedGeneration_of_bundle {b : TransactionBundle D} (h : Recoverable X s)
    (hm : s.manifest = some ⟨b.id X, previous⟩) :
    s.committedGeneration X = some b.runtimeGeneration := by
  obtain ⟨t, ht, _⟩ := h.committed _ hm
  have hself := Store.transactionAt_withTransaction_self (X := X) (s := s) (b := b)
  obtain rfl : t = b := Store.transactionAt_unique ht hself
  apply GenerationAt.committedGeneration
  rw [Store.committedId, hm]
  exact ⟨t, ht, rfl⟩

def Tells (X : Codec D) (σ : Session D) (found : Option (Option RuntimeGeneration))
    (u : Store D × PortWorld Unit) : Prop :=
  ∀ g, found.or σ.memory = some g → u.1.committedGeneration X = g

/-- At every point of an operation the disk has advanced no further than it may, and its end
leaves the Supervisor with the truth. -/
def Advances (X : Codec D) (σ : Session D) (op : Operation D)
    (p : Prog (coordinatorCalls D) (Option (Option RuntimeGeneration))) (v : PortWorld Unit) :
    Prop :=
  p.Ensures durable (fun u => Advanced X σ.store op u.1) (Tells X σ) (σ.store, v)

variable {σ : Session D} {v : PortWorld Unit} {op : Operation D}

theorem Evolves.advanced {b : TransactionBundle D} (h : Evolves X σ.store b s) (hσ : σ.Sound X)
    (hb : op.bundle = some b) : Advanced X σ.store op s :=
  ⟨h.recoverable hσ.recoverable, h.manifest.imp (fun hm => hm) fun hm => ⟨b, hb, hm⟩⟩

theorem Keeps.advanced (h : Keeps X σ.store s) (hσ : σ.Sound X) : Advanced X σ.store op s :=
  ⟨h.recoverable hσ.recoverable, .inl h.manifest⟩

theorem Keeps.tells (h : Keeps X σ.store s) (hσ : σ.Sound X)
    (hfound : ∀ g, found = some g → σ.store.committedGeneration X = g) :
    Tells X σ found (s, v) := by
  intro g hg
  have hsame : s.committedGeneration X = σ.store.committedGeneration X :=
    committedGeneration_congr hσ.recoverable (h.recoverable hσ.recoverable) h.manifest
  rw [hsame]
  cases found with
  | none => exact hσ.memory g hg
  | some g' => exact hfound g hg

theorem stage_advances (hσ : σ.Sound X) (content : Bytes) :
    Advances X σ (.stage content) ((Operation.stage content).program X) v := by
  have hkeeps : ∀ s : Store D, s.manifest = σ.store.manifest → Recoverable X s →
      Keeps X σ.store s := fun s hm hs => ⟨hm, fun _ => hs⟩
  have hstart := hkeeps _ rfl hσ.recoverable
  have hdone := hkeeps (performFile σ.store (.putObject (.forContent X content) content)).2 rfl
    ⟨hσ.recoverable.committed, hσ.recoverable.journal⟩
  have hput : (putObject X content).run.Ensures (fileSystem False) (Keeps X σ.store)
      (fun _ _ => True) σ.store := by
    apply Attempt.ensures_call_seq ⟨hstart, hdone⟩
    · exact fun _ _ => ⟨hdone, trivial⟩
    · exact fun _ _ _ => trivial
  apply Prog.ensures_bind.2
  apply Attempt.ensures_left.2
  apply hput.mono (fun _ h => h.advanced hσ)
  intro _ s h _
  exact ⟨h.advanced hσ, h.tells hσ (by simp)⟩

theorem transact_advances (hσ : σ.Sound X) (hv : v.applied = false)
    (candidate : ConfigTransactionCandidate D) (mode : FailureRecoveryMode)
    (hop : op.bundle = some candidate.transaction) : Advances X σ op
      ((do lockCoordinator; executeGuarded X candidate mode :
        TransactionAttempt D ConfigTransactionSuccess).run.bind fun r =>
          .ret (r.toOption.map fun success => some success.committedGeneration)) v := by
  apply Prog.ensures_bind.2
  apply Prog.Ensures.of_watched (P := fun u => JournalTouched σ.store u.1)
  apply (locked_ends candidate (.trivial _ _) σ.store v hv mode).mono
  · exact fun u hu => hu.1.advanced hσ hop
  · intro r u hu hr
    have hadvanced := hu.1.advanced hσ hop
    refine ⟨hadvanced, ?_⟩
    cases r with
    | ok success =>
      intro g hg
      obtain rfl : some success.committedGeneration = g := Option.some.inj hg
      rw [committedGeneration_of_bundle hadvanced.recoverable hr.1, hr.2]
    | error e =>
      have hkeeps : Keeps X σ.store u.1.1 := ⟨hr.2 id, fun _ => hadvanced.recoverable⟩
      exact hkeeps.tells hσ (by simp [Except.toOption])

theorem persistMetadata_advances (hσ : σ.Sound X) (b : TransactionBundle D)
    (hop : σ.memory = some (some b.runtimeGeneration)) :
    Advances X σ (.persistMetadata b) ((Operation.persistMetadata b).program X) v := by
  have hgeneration := hσ.memory _ hop
  have hle : ∀ id, σ.store.committedId = some id → ∀ (s : Store D) t,
      s.transactionAt X id = some t → t.runtimeGeneration ≤ b.runtimeGeneration := by
    intro id hid s t ht
    have hat := hσ.recoverable.committedGeneration
    rw [hid, hgeneration] at hat
    obtain ⟨t', ht', heq⟩ := hat
    rw [Store.transactionAt_unique ht ht', ← Option.some.inj heq]
    exact UInt64.le_refl _
  apply Prog.ensures_bind.2
  apply Attempt.ensures_left.2
  apply (persistMetadata_evolves σ.store b hle).mono (fun _ h => h.advanced hσ rfl)
  intro _ s h _
  have hadvanced : Advanced X σ.store (.persistMetadata b) s := h.advanced hσ rfl
  refine ⟨hadvanced, ?_⟩
  intro g hg
  obtain rfl : some b.runtimeGeneration = g := Option.some.inj (hop.symm.trans hg)
  obtain hm | hm := h.manifest
  · rw [committedGeneration_congr hσ.recoverable hadvanced.recoverable hm, hgeneration]
  · exact committedGeneration_of_bundle hadvanced.recoverable hm

theorem startup_advances (hσ : σ.Sound X) {x : TransactionAttempt D α}
    {committed : α → Option RuntimeGeneration}
    (hx : x.run.Ensures (watchedOutcome False (fun _ _ _ _ => True) fun _ => False)
      (Safe (Keeps X σ.store) fun _ => False)
      (fun r _ => ∀ a, r = .ok a → GenerationAt X σ.store σ.store.committedId (committed a))
      ((σ.store, v), False)) :
    Advances X σ op (x.run.bind fun r => .ret (r.toOption.map committed)) v := by
  apply Prog.ensures_bind.2
  apply Prog.Ensures.of_watched (P := fun _ => False)
  apply hx.mono
  · exact fun u hu => hu.1.advanced hσ
  · intro r u hu hr
    refine ⟨hu.1.advanced hσ, hu.1.tells hσ ?_⟩
    intro g hg
    cases r with
    | ok a =>
      cases hg
      exact (hr a rfl).committedGeneration
    | error e => cases hg

theorem Operation.advances (hσ : σ.Sound X) (op : Operation D) (hop : op.Permitted σ.memory)
    (hv : v.applied = false) : Advances X σ op (op.program X) v := by
  have hstart : Safe (Keeps X σ.store) (fun _ => False) ((σ.store, v), False) :=
    ⟨⟨rfl, fun h => h⟩, fun h => h⟩
  cases op with
  | stage content => exact stage_advances hσ content
  | execute candidate => exact transact_advances hσ hv candidate .convergeCommitted rfl
  | executeStartupReapply candidate =>
    exact transact_advances hσ hv candidate .stopStartupCandidate rfl
  | persistMetadata b => exact persistMetadata_advances hσ b hop
  | prepareStartupReapply expected =>
    exact startup_advances hσ (prepareStartupReapply_keeps hstart expected)
  | recoverStartup => exact startup_advances hσ (recoverStartup_keeps hstart)

theorem Step.advanced {σ' : Session D} (h : Step X σ op σ') (hσ : σ.Sound X) :
    Advanced X σ.store op σ'.store := by
  cases h with
  | finish hop hv hrun => exact (op.advances hσ hop hv).reaches hrun.reaches
  | crash hop hv hrun => exact (op.advances hσ hop hv).reaches hrun

theorem Step.sound {σ' : Session D} (h : Step X σ op σ') (hσ : σ.Sound X) : σ'.Sound X := by
  refine ⟨(h.advanced hσ).recoverable, ?_⟩
  cases h with
  | finish hop hv hrun => exact (op.advances hσ hop hv).finishes hrun
  | crash => exact fun _ hg => by cases hg

theorem Run.sound {σ' : Session D} (h : Run X σ σ') (hσ : σ.Sound X) : σ'.Sound X := by
  induction h with
  | refl => exact hσ
  | tail _ hstep ih =>
    obtain ⟨op, hstep⟩ := hstep
    exact hstep.sound ih

theorem Session.initial_sound : (Session.initial : Session D).Sound X :=
  ⟨.empty, fun _ hg => by cases hg⟩

theorem Advanced.committedGeneration_le (h : Advanced X s₀ op s) (h₀ : Recoverable X s₀)
    (hn : s₀.committedGeneration X = some n) :
    ∃ n', s.committedGeneration X = some n' ∧ n ≤ n' := by
  obtain hm | ⟨b, _, hm⟩ := h.manifest
  · refine ⟨n, ?_, UInt64.le_refl n⟩
    rw [committedGeneration_congr h₀ h.recoverable hm, hn]
  · obtain ⟨t, ht, hprevious⟩ := h.recoverable.committed _ hm
    have hgeneration := h₀.committedGeneration
    rw [hn] at hgeneration
    cases hid : s₀.committedId with
    | none =>
      rw [hid] at hgeneration
      cases hgeneration
    | some id =>
      rw [hid] at hgeneration
      obtain ⟨t₀, ht₀, heq⟩ := hgeneration
      obtain ⟨t', ht', hle⟩ := hprevious id hid
      obtain rfl : t' = t₀ := Store.transactionAt_unique ht' ht₀
      refine ⟨t.runtimeGeneration, ?_, Option.some.inj heq ▸ hle⟩
      apply GenerationAt.committedGeneration
      rw [Store.committedId, hm]
      exact ⟨t, ht, rfl⟩

theorem Run.committedGeneration_le {σ' : Session D} (h : Run X σ σ') (hσ : σ.Sound X)
    (hn : σ.store.committedGeneration X = some n) :
    ∃ n', σ'.store.committedGeneration X = some n' ∧ n ≤ n' := by
  induction h with
  | refl => exact ⟨n, hn, UInt64.le_refl n⟩
  | tail hrun hstep ih =>
    obtain ⟨op, hstep⟩ := hstep
    obtain ⟨m, hm, hle⟩ := ih
    have hmid := Run.sound hrun hσ
    obtain ⟨n', hn', hle'⟩ := (hstep.advanced hmid).committedGeneration_le hmid.recoverable hm
    exact ⟨n', hn', UInt64.le_trans hle hle'⟩

def Store.journaledGeneration (X : Codec D) (s : Store D) : Option RuntimeGeneration :=
  s.prepared.bind fun p => (s.transactionAt X p.candidate).map TransactionBundle.runtimeGeneration

theorem Recoverable.journaledGeneration (h : Recoverable X s) :
    GenerationAt X s (s.prepared.map PreparedTransaction.candidate) (s.journaledGeneration X) := by
  unfold Store.journaledGeneration
  cases hp : s.prepared with
  | none => rfl
  | some p =>
    obtain ⟨t, ht⟩ := h.journal p hp
    exact ⟨t, ht, by simp [ht]⟩

theorem highestGeneration_lt_next {committed prepared : Option RuntimeGeneration}
    (hnext : checkedSucc (highestGeneration committed prepared) = some next) :
    (∀ n, committed = some n → n < next) ∧ ∀ n, prepared = some n → n < next := by
  have hle : ∀ m n : RuntimeGeneration, m ≤ max m n ∧ n ≤ max m n := by
    intro m n
    change m ≤ (if m ≤ n then n else m) ∧ n ≤ (if m ≤ n then n else m)
    split
    · exact ⟨‹m ≤ n›, UInt64.le_refl n⟩
    · exact ⟨UInt64.le_refl m, UInt64.le_of_lt (UInt64.not_le.1 ‹¬m ≤ n›)⟩
  have hmax := hle (committed.getD 0) (prepared.getD 0)
  have hsucc := checkedSucc_eq_some hnext
  constructor
  · intro n hn
    subst hn
    rw [UInt64.lt_iff_toNat_lt, hsucc, Nat.lt_succ_iff]
    exact UInt64.le_iff_toNat_le.1 hmax.1
  · intro n hn
    subst hn
    rw [UInt64.lt_iff_toNat_lt, hsucc, Nat.lt_succ_iff]
    exact UInt64.le_iff_toNat_le.1 hmax.2

variable {V : Type} {σ₁ : Session D}

/-- After any run, cut off anywhere in its last operation, a startup in which nothing fails
succeeds, drops the journal and finds the manifest before or after that operation. The committed
generation has never decreased, and the generation handed out is above all that were committed
and above the journaled one. -/
theorem startup_after_run (X : Codec D) (hrun : Run X Session.initial σ₁) (hcut : Step X σ₁ op σ)
    (ports : Handler (portCalls D) V) (hports : FailureFree ports) (v : V) :
    (recoverStartup X).Succeeds (performFile.sum ports)
      (fun _ w => w.1.prepared = none ∧ BeforeOrAfter X σ₁.store op w.1.manifest) (σ.store, v) ∧
    ((highestGeneration (σ.store.committedGeneration X)
        (σ.store.journaledGeneration X)).toNat + 1 < UInt64.size →
      (prepareStartupReapply X (σ.store.committedGeneration X)).Succeeds (performFile.sum ports)
        (fun reapply w => w.1.prepared = none ∧ BeforeOrAfter X σ₁.store op w.1.manifest ∧
          (∀ σ₀ n, Run X Session.initial σ₀ → Run X σ₀ σ →
            σ₀.store.committedGeneration X = some n → n < reapply.candidateGeneration) ∧
          ∀ n, σ.store.journaledGeneration X = some n → n < reapply.candidateGeneration)
        (σ.store, v)) ∧
    ∀ σ₀ n, Run X Session.initial σ₀ → Run X σ₀ σ → σ₀.store.committedGeneration X = some n →
      ∃ n', σ.store.committedGeneration X = some n' ∧ n ≤ n' := by
  have hsound := hrun.sound Session.initial_sound
  have hadvanced := hcut.advanced hsound
  have hrecoverable := hadvanced.recoverable
  have hmonotone : ∀ σ₀ n, Run X Session.initial σ₀ → Run X σ₀ σ →
      σ₀.store.committedGeneration X = some n →
      ∃ n', σ.store.committedGeneration X = some n' ∧ n ≤ n' :=
    fun σ₀ n h₀ h hn => h.committedGeneration_le (h₀.sound Session.initial_sound) hn
  refine ⟨?_, ?_, hmonotone⟩
  · apply (recoverStartup_succeeds hports hrecoverable v).mono
    intro _ w hw
    exact ⟨hw.2, hw.1 ▸ hadvanced.manifest⟩
  · intro hlt
    have hnext := checkedSucc_of_lt hlt
    have hbound := highestGeneration_lt_next hnext
    apply (prepareStartupReapply_succeeds hports hrecoverable hrecoverable.committedGeneration
      hrecoverable.journaledGeneration hnext v).mono
    intro reapply w hw
    obtain ⟨hcandidate, hmanifest, hjournal⟩ := hw
    rw [hcandidate]
    refine ⟨hjournal, hmanifest ▸ hadvanced.manifest, ?_, hbound.2⟩
    intro σ₀ n h₀ h hn
    obtain ⟨n', hn', hle⟩ := hmonotone σ₀ n h₀ h hn
    exact UInt64.lt_of_le_of_lt hle (hbound.1 n' hn')

omit [DecidableEq D] in
theorem obedientPorts_failureFree (revisions : CandidateRevisions) :
    FailureFree (obedientPorts (D := D) pruneNothing revisions) where
  lockCoordinator _ := rfl
  lockLifecycle _ := rfl
  stop _ := rfl
  applyCandidate _ _ := ⟨_, rfl, rfl, _, rfl, rfl⟩
  confirmReady _ _ := rfl
  resolve _ _ := ⟨_, rfl, rfl⟩
  pruneGenerations _ _ := ⟨_, rfl⟩

def sampleOutside : Handler (coordinatorCalls D)
    (Store D × PortWorld Unit × Option ManagedCoreHandle) :=
  performFile.sum (obedientPorts pruneNothing sampleRevisions)

def Session.world (σ : Session D) : Store D × PortWorld Unit × Option ManagedCoreHandle :=
  (σ.store, idlePorts (), none)

def Session.after (X : Codec D) (σ : Session D) (op : Operation D) : Session D :=
  let out := (op.program X).run sampleOutside σ.world
  ⟨out.2.1, out.1.or σ.memory⟩

/-- The session after a crash that comes a number of calls into an operation. -/
def Session.cutAfter (X : Codec D) (calls : Nat) (σ : Session D) (op : Operation D) : Session D :=
  ⟨((op.program X).runFor sampleOutside calls σ.world).1, none⟩

theorem Step.after (σ : Session D) (op : Operation D) (hop : op.Permitted σ.memory) :
    Step X σ op (σ.after X op) :=
  .finish hop rfl (finishes_obedient (w := σ.world) _ _ (fun _ _ => trivial) _)

theorem Step.cutAfter (calls : Nat) (σ : Session D) (op : Operation D)
    (hop : op.Permitted σ.memory) : Step X σ op (σ.cutAfter X calls op) := by
  apply Step.crash hop (rfl : (idlePorts ()).applied = false)
  exact Reaches.map (fun w : Store D × PortWorld Unit × Option ManagedCoreHandle => (w.1, w.2.1))
    (fun _ _ _ _ => anyOutcome_of_obedient (fun _ _ => trivial))
    (Prog.reaches_runFor sampleOutside calls _ σ.world)

def candidateOf (generation : RuntimeGeneration) : ConfigTransactionCandidate Bytes :=
  ⟨{ firstBundle with runtimeGeneration := generation },
    ⟨generation, "/generation", "manifest", "policy", "binary"⟩, ⟨[4], "policy", "v1", []⟩,
    sampleRevisions⟩

def committedSession (generation : RuntimeGeneration) : Session Bytes :=
  [.stage [1], .stage [2], .stage [3], .stage [4], .execute (candidateOf generation)].foldl
    (Session.after Plain.codec) Session.initial

theorem committedSession_run (generation : RuntimeGeneration) :
    Run Plain.codec Session.initial (committedSession generation) := by
  have hstep (σ : Session Bytes) (op : Operation Bytes) (hop : op.Permitted σ.memory)
      (h : Run Plain.codec Session.initial σ) :
      Run Plain.codec Session.initial (σ.after Plain.codec op) :=
    h.tail ⟨op, .after σ op hop⟩
  have hstaged := hstep _ (.stage [2]) trivial (hstep _ (.stage [1]) trivial .refl)
  have hstaged := hstep _ (.stage [4]) trivial (hstep _ (.stage [3]) trivial hstaged)
  exact hstep _ (.execute (candidateOf generation)) trivial hstaged

/-- A second transaction, cut off with its journal written. -/
def interruptedSession : Session Bytes :=
  (committedSession 1).cutAfter Plain.codec 20 (.execute (candidateOf 2))

theorem interruptedSession_step :
    Step Plain.codec (committedSession 1) (.execute (candidateOf 2)) interruptedSession :=
  .cutAfter 20 _ _ trivial

theorem startup_after_interruptedSession :
    interruptedSession.store.journaledGeneration Plain.codec = some 2 ∧
    (recoverStartup Plain.codec).Succeeds sampleOutside (fun _ w => w.1.prepared = none ∧
      BeforeOrAfter Plain.codec (committedSession 1).store (.execute (candidateOf 2)) w.1.manifest)
      interruptedSession.world ∧ (prepareStartupReapply Plain.codec (some 1)).Succeeds sampleOutside
      (fun reapply w => w.1.prepared = none ∧ 2 < reapply.candidateGeneration)
      interruptedSession.world := by
  have hjournal : interruptedSession.store.journaledGeneration Plain.codec = some 2 := by
    decide +kernel
  have hcommitted : interruptedSession.store.committedGeneration Plain.codec = some 1 := by
    decide +kernel
  have hstartup := startup_after_run Plain.codec (committedSession_run 1) interruptedSession_step _
    (obedientPorts_failureFree sampleRevisions) (idlePorts (), none)
  refine ⟨hjournal, hstartup.1, ?_⟩
  have hreapply := hstartup.2.1 (by rw [hcommitted, hjournal]; decide +kernel)
  rw [hcommitted] at hreapply
  apply hreapply.mono
  intro reapply w hw
  exact ⟨hw.1, hw.2.2.2 2 hjournal⟩

/-- The startup after the interrupted transaction drops its journal. -/
def restartedSession : Session Bytes :=
  interruptedSession.after Plain.codec (.prepareStartupReapply (some 1))

/-- A generation that was journaled once is handed out again, and at the last generation a startup
fails. -/
theorem reapply_repeats_prepared_generation : (Run Plain.codec Session.initial interruptedSession ∧
      Run Plain.codec interruptedSession restartedSession ∧
      interruptedSession.store.journaledGeneration Plain.codec = some 2 ∧
      ((prepareStartupReapply Plain.codec (some 1)).run.run sampleOutside
        restartedSession.world).1 = .ok ⟨some 1, 2, false⟩) ∧
    Run Plain.codec Session.initial (committedSession 0xffffffffffffffff) ∧
      ((prepareStartupReapply Plain.codec (some 0xffffffffffffffff)).run.run sampleOutside
        (committedSession 0xffffffffffffffff).world).1 =
        .error ⟨.recovery, none, some 0xffffffffffffffff, .failed (some 0xffffffffffffffff)⟩ := by
  refine ⟨⟨?_, ?_, ?_, ?_⟩, ?_, ?_⟩
  · exact (committedSession_run 1).tail ⟨_, interruptedSession_step⟩
  · exact .single ⟨_, .after _ _ trivial⟩
  · decide +kernel
  · decide +kernel
  · exact committedSession_run _
  · decide +kernel

end Ratash
