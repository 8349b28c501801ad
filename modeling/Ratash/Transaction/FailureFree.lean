import Ratash.Transaction.Startup

namespace Ratash

open Interaction Attempt

/-- Ports none of which fails: an applied Core is the one the status shows next, and a transaction
resolves to the bundle of its generation. -/
structure FailureFree (ports : Handler (portCalls D) V) : Prop where
  lockCoordinator : ∀ v, (ports v .lockCoordinator).1 = .ok ()
  lockLifecycle : ∀ v, (ports v .lockLifecycle).1 = .ok ()
  stop : ∀ v, (ports v .stop).1 = .ok ()
  applyCandidate : ∀ v bundle, ∃ applied, (ports v (.applyCandidate bundle)).1 = .ok applied ∧
    applied.managedCore.runtimeGeneration = bundle.generation ∧
    ∃ status, (ports (ports v (.applyCandidate bundle)).2 .status).1 = .ok status ∧
      status.managedCore = some applied.managedCore
  confirmReady : ∀ v core, (ports v (.confirmReady core)).1 = .ok ()
  resolve : ∀ v transaction, ∃ bundle, (ports v (.resolve transaction)).1 = .ok bundle ∧
    bundle.generation = transaction.runtimeGeneration
  pruneGenerations : ∀ v retention, ∃ result, (ports v (.pruneGenerations retention)).1 = .ok result

variable {D V : Type} [DecidableEq D] {X : Codec D} {s : Store D}

theorem recover_succeeds (s : Store D) : (recover (D := D)).Succeeds performFile
      (fun state s' => ⟨s.manifest, s.prepared⟩ = state ∧ s = s') s :=
  ⟨_, rfl, rfl, rfl⟩

theorem loadTransaction_succeeds {id : TransactionId D} (h : s.transactionAt X id = some t) :
    (loadTransaction X id).Succeeds performFile (fun t' s' => t = t' ∧ s = s') s := by
  obtain ⟨content, hcontent, hid, ht⟩ := Store.transactionAt_eq_some.1 h
  have hread : performFile s (.readTransaction id) = (.ok content, s) := by
    simp only [performFile, readFile, hcontent]
  apply (succeeds_call (Q := fun a s' => content = a ∧ s = s') hread ⟨rfl, rfl⟩).seq
  intro _ _ hread
  obtain ⟨rfl, rfl⟩ := hread
  apply succeeds_require hid
  exact ⟨t, ht, rfl, rfl⟩

theorem clearPrepared_succeeds (h : s.prepared = some p) :
    (clearPrepared p).Succeeds performFile (fun _ s' => s.withoutPrepared = s') s := by
  apply (succeeds_call (Q := fun a s' => s.prepared = a ∧ s = s') rfl ⟨rfl, rfl⟩).seq
  intro _ _ hread
  obtain ⟨rfl, rfl⟩ := hread
  apply succeeds_require h
  exact succeeds_call rfl rfl

theorem pruneUnreachable_run (s : Store D) :
    Pruning s ((pruneUnreachable X).run.run performFile s).2 := by
  have hspec : (pruneUnreachable X).run.Ensures (fileSystem False) (Pruning s)
      (fun _ _ => True) s := pruneUnreachable_spec X s
  have hensures : (pruneUnreachable X).run.Ensures performFile.reliable (fun _ => True)
      (fun _ s' => Pruning s s') s := by
    apply (hspec.restrict (fun _ _ _ _ => .inl)).mono
    · exact fun _ _ => trivial
    · exact fun _ _ h _ => h
  exact Prog.ensures_reliable.1 hensures

theorem Recoverable.generations (h : Recoverable X s) : (∃ g, GenerationAt X s s.committedId g) ∧
    (∃ g, GenerationAt X s (s.manifest.bind CommittedManifest.previous) g) ∧
    ∃ g, GenerationAt X s (s.prepared.map PreparedTransaction.candidate) g := by
  have hcommitted : (∃ g, GenerationAt X s s.committedId g) ∧
      ∃ g, GenerationAt X s (s.manifest.bind CommittedManifest.previous) g := by
    unfold Store.committedId
    cases hm : s.manifest with
    | none => exact ⟨⟨none, rfl⟩, none, rfl⟩
    | some m =>
      obtain ⟨t, ht, hprevious⟩ := h.committed m hm
      refine ⟨⟨_, t, ht, rfl⟩, ?_⟩
      cases hid : m.previous with
      | none => exact ⟨none, by simp [hid, GenerationAt]⟩
      | some id =>
        obtain ⟨t', ht', _⟩ := hprevious id hid
        exact ⟨_, by simpa [hid, GenerationAt] using ⟨t', ht', rfl⟩⟩
  refine ⟨hcommitted.1, hcommitted.2, ?_⟩
  cases hp : s.prepared with
  | none => exact ⟨none, rfl⟩
  | some p =>
    obtain ⟨t, ht⟩ := h.journal p hp
    exact ⟨_, t, ht, rfl⟩

section

variable {ports : Handler (portCalls D) V} {v : V} {id : Option (TransactionId D)}

theorem store_succeeds {x : StoreAttempt D α} {R : α → Store D → Prop}
    (hx : x.Succeeds performFile R s) :
    (store x).Succeeds (performFile.sum ports) (fun a w => ∃ s', w = (s', v) ∧ R a s') (s, v) :=
  Succeeds.left (hx.mono fun _ s' hR => ⟨s', rfl, hR⟩)

theorem store_run (x : StoreAttempt D α) (s : Store D) (v : V) :
    (store x).run.run (performFile.sum ports) (s, v) =
      ((x.run.run performFile s).1, ((x.run.run performFile s).2, v)) :=
  Prog.run_left ..

theorem port_succeeds (ports : Handler (portCalls D) V) (c : PortCall D) (s : Store D) (v : V) :
    (port c : CoordinatorAttempt D ε c.Reply).Succeeds (performFile.sum ports)
      (fun r w => (ports v c).1 = r ∧ (s, (ports v c).2) = w) (s, v) :=
  ⟨_, rfl, rfl, rfl⟩

theorem generationOf_succeeds (h : GenerationAt X s id g) (v : V) :
    (generationOf X id).Succeeds (performFile.sum ports)
      (fun g' w => g = g' ∧ (s, v) = w) (s, v) := by
  cases id with
  | none => exact succeeds_pure ⟨h, rfl⟩
  | some id =>
    obtain ⟨t, ht, rfl⟩ := h
    have hload : (generationFromTransaction X id).Succeeds (performFile.sum ports)
        (fun g w => t.runtimeGeneration = g ∧ (s, v) = w) (s, v) := by
      apply ((store_succeeds (loadTransaction_succeeds ht)).orThrow ()).seq
      intro _ _ hload
      obtain ⟨_, rfl, rfl, rfl⟩ := hload
      exact succeeds_pure ⟨rfl, rfl⟩
    apply hload.seq
    intro _ _ hload
    obtain ⟨rfl, rfl⟩ := hload
    exact succeeds_pure ⟨rfl, rfl⟩

theorem port_okOr_succeeds {c : PortCall D} {f : α → CoordinatorAttempt D ε β}
    {Q : β → Store D × V → Prop} {k : c.Reply → Except δ α} {e : ε} {a : α}
    (hc : k (ports v c).1 = .ok a)
    (hf : (f a).Succeeds (performFile.sum ports) Q (s, (ports v c).2)) :
    (do
      let r ← port c
      let a ← okOr (k r) e
      f a : CoordinatorAttempt D ε β).Succeeds (performFile.sum ports) Q (s, v) := by
  apply (port_succeeds ports c s v).seq
  intro _ _ hport
  obtain ⟨rfl, rfl⟩ := hport
  exact succeeds_okOr hc hf

theorem port_okOr_last {c : PortCall D} {Q : α → Store D × V → Prop} {k : c.Reply → Except δ α}
    {e : ε} {a : α} (hc : k (ports v c).1 = .ok a) (hQ : Q a (s, (ports v c).2)) :
    (do
      let r ← port c
      okOr (k r) e : CoordinatorAttempt D ε α).Succeeds (performFile.sum ports) Q (s, v) := by
  apply (port_succeeds ports c s v).seq
  intro _ _ hport
  obtain ⟨rfl, rfl⟩ := hport
  rw [hc]
  exact succeeds_pure hQ

theorem alreadyConverged_succeeds (generation : RuntimeGeneration) (s : Store D) (v : V) :
    (alreadyConverged (D := D) generation).Succeeds (performFile.sum ports) (fun _ w => s = w.1)
      (s, v) := by
  apply (port_succeeds ports .status s v).seq
  intro status _ hport
  obtain ⟨_, rfl⟩ := hport
  cases status with
  | error _ => exact succeeds_pure rfl
  | ok status =>
    cases hcore : status.managedCore with
    | none => simp only [hcore]; exact succeeds_pure rfl
    | some core =>
      simp only [hcore]
      split
      · apply (port_succeeds ports (.confirmReady core) s _).seq
        intro _ _ hport
        obtain ⟨_, rfl⟩ := hport
        exact succeeds_pure rfl
      · exact succeeds_pure rfl

theorem preparedGeneration_succeeds
    (h : GenerationAt X s (s.prepared.map PreparedTransaction.candidate) g) (v : V) :
    (preparedGeneration X s.prepared).Succeeds (performFile.sum ports)
      (fun g' w => g = g' ∧ (s, v) = w) (s, v) := by
  cases hp : s.prepared with
  | none =>
    rw [hp] at h
    exact succeeds_pure ⟨h, rfl⟩
  | some p =>
    rw [hp] at h
    obtain ⟨t, ht, rfl⟩ := h
    have hload : ((store (loadTransaction X p.candidate)).result
        (δ := ConfigTransactionError)).Succeeds (performFile.sum ports)
        (fun r w => .ok t = r ∧ (s, v) = w) (s, v) := by
      obtain ⟨t', hrun, rfl, hs⟩ := loadTransaction_succeeds ht
      apply succeeds_result
      rw [store_run, hrun, ← hs]
      exact ⟨rfl, rfl⟩
    apply hload.seq
    intro _ _ hw
    obtain ⟨rfl, rfl⟩ := hw
    exact succeeds_pure ⟨rfl, rfl⟩

variable (hports : FailureFree ports)

include hports

theorem pruneRuntimeState_succeeds (h : Recoverable X s) (v : V) :
    (pruneRuntimeState X ⟨s.manifest, s.prepared⟩).Succeeds (performFile.sum ports)
      (fun _ w => s = w.1) (s, v) := by
  obtain ⟨⟨current, hcurrent⟩, ⟨previous, hprevious⟩, ⟨prepared, hprepared⟩⟩ := h.generations
  have hretention : (runtimeRetention X s.manifest prepared).Succeeds (performFile.sum ports)
      (fun _ w => (s, v) = w) (s, v) := by
    apply (generationOf_succeeds hcurrent v).seq
    intro _ _ hg
    obtain ⟨rfl, rfl⟩ := hg
    apply (generationOf_succeeds hprevious v).seq
    intro _ _ hg
    obtain ⟨rfl, rfl⟩ := hg
    exact succeeds_pure rfl
  apply (generationOf_succeeds hprepared v).seq
  intro _ _ hg
  obtain ⟨rfl, rfl⟩ := hg
  apply hretention.seq
  intro retention _ hw
  obtain rfl := hw
  obtain ⟨result, hresult⟩ := hports.pruneGenerations v retention
  exact port_okOr_succeeds (c := .pruneGenerations retention) (k := fun r => r) hresult
    (succeeds_pure rfl)

theorem clearPreparedAndPrune_succeeds (h : Recoverable X s) (hp : s.prepared = some p) (v : V) :
    (clearPreparedAndPrune X p).Succeeds (performFile.sum ports)
      (fun _ w => w.1.manifest = s.manifest ∧ w.1.prepared = none) (s, v) := by
  apply (store_succeeds (clearPrepared_succeeds hp)).seq
  intro _ _ hcleared
  obtain ⟨_, rfl, rfl⟩ := hcleared
  have hpruned := pruneUnreachable_run (X := X) s.withoutPrepared
  have hprune : ((store (pruneUnreachable X)).result (δ := IoError)).Succeeds
      (performFile.sum ports) (fun _ w => ∃ s', w = (s', v) ∧ Pruning s.withoutPrepared s')
      (s.withoutPrepared, v) := by
    apply succeeds_result
    rw [store_run]
    exact ⟨_, rfl, hpruned⟩
  apply hprune.seq
  intro _ _ hw
  obtain ⟨s', rfl, hs'⟩ := hw
  apply (store_succeeds (recover_succeeds s')).seq
  intro _ _ hw
  obtain ⟨_, rfl, rfl, rfl⟩ := hw
  apply ((pruneRuntimeState_succeeds hports (h.withoutPrepared.pruning hs') v).orThrow _).mono
  intro _ w hw
  rw [← hw]
  exact ⟨hs'.manifest, hs'.prepared⟩

theorem restartCandidate_succeeds (bundle : RuntimeBundle)
    (s : Store D) (v : V) :
    (restartCandidate (D := D) bundle).Succeeds (performFile.sum ports) (fun _ w => s = w.1)
      (s, v) := by
  apply port_okOr_succeeds (c := .stop) (k := fun r => r) (hports.stop v)
  obtain ⟨applied, happlied, hgeneration, status, hstatus, hcore⟩ :=
    hports.applyCandidate (ports v .stop).2 bundle
  apply port_okOr_succeeds (c := .applyCandidate bundle) (k := fun r => r) happlied
  have hconfirm (v' : V) (hstatus : (ports v' .status).1 = .ok status) :
      (confirm (D := D) applied bundle.generation).Succeeds (performFile.sum ports)
        (fun _ w => s = w.1) (s, v') := by
    apply port_okOr_succeeds (c := .status) (k := fun r => r) hstatus
    apply succeeds_ofExcept (a := applied.managedCore) (by rw [hcore]; rfl)
    apply succeeds_require ⟨rfl, rfl, rfl, rfl, hgeneration, hgeneration⟩
    exact port_okOr_last (c := .confirmReady _) (k := fun r => r) (hports.confirmReady _ _) rfl
  apply (hconfirm _ hstatus).seq
  intro _ w hw
  exact succeeds_pure hw

theorem convergeToTransaction_succeeds (h : GenerationAt X s id g) (v : V) :
    (convergeToTransaction X id).Succeeds (performFile.sum ports) (fun _ w => s = w.1) (s, v) := by
  cases id with
  | none => exact port_okOr_last (c := .stop) (k := fun r => r) (hports.stop v) rfl
  | some id =>
    obtain ⟨t, ht, rfl⟩ := h
    apply ((store_succeeds (loadTransaction_succeeds ht)).orThrow ()).seq
    intro _ _ hload
    obtain ⟨_, rfl, rfl, rfl⟩ := hload
    obtain ⟨bundle, hbundle, hgeneration⟩ := hports.resolve v t
    apply port_okOr_succeeds (c := .resolve t) (k := fun r => r) hbundle
    apply succeeds_require hgeneration
    apply (alreadyConverged_succeeds bundle.generation s _).seq
    intro converged w hw
    obtain ⟨s', v'⟩ := w
    obtain rfl : s = s' := hw
    cases converged with
    | true => exact succeeds_pure rfl
    | false =>
      apply (restartCandidate_succeeds hports bundle s v').seq
      intro _ _ hw
      exact succeeds_pure hw

theorem clearStartupJournal_succeeds (h : Recoverable X s)
    (committedGeneration : Option RuntimeGeneration) (v : V) :
    (clearStartupJournal X committedGeneration s.prepared).Succeeds (performFile.sum ports)
      (fun _ w => w.1.manifest = s.manifest ∧ w.1.prepared = none) (s, v) := by
  cases hp : s.prepared with
  | none => exact succeeds_pure ⟨rfl, hp⟩
  | some p => exact (clearPreparedAndPrune_succeeds hports h hp v).orThrow _

theorem lockCoordinator_succeeds (s : Store D) (v : V) :
    (lockCoordinator (D := D)).Succeeds (performFile.sum ports) (fun _ w => s = w.1) (s, v) :=
  port_okOr_last (c := .lockCoordinator) (k := fun r => r) (hports.lockCoordinator v) rfl

theorem startup_begins_succeeds (h : Recoverable X s)
    (hcurrent : GenerationAt X s s.committedId committedGeneration)
    {f : RecoveryState D → Option RuntimeGeneration → TransactionAttempt D α}
    {Q : α → Store D × V → Prop}
    (hf : ∀ v, (f ⟨s.manifest, s.prepared⟩ committedGeneration).Succeeds (performFile.sum ports) Q
      (s, v)) (v : V) :
    (do
      let state ← (store recover).orThrow (.simple .recovery)
      let committedGeneration ← (generationFromManifest X state.committed).orThrow
        (.simple .recovery)
      (pruneRuntimeState X state).orThrow
        ⟨.cleanup, none, committedGeneration, .pending committedGeneration⟩
      f state committedGeneration : TransactionAttempt D α).Succeeds
        (performFile.sum ports) Q (s, v) := by
  apply ((store_succeeds (recover_succeeds s)).orThrow _).seq
  intro _ _ hw
  obtain ⟨_, rfl, rfl, rfl⟩ := hw
  apply ((generationOf_succeeds hcurrent _).orThrow _).seq
  intro _ _ hw
  obtain ⟨rfl, rfl⟩ := hw
  apply ((pruneRuntimeState_succeeds hports h _).orThrow _).seq
  intro _ w hw
  obtain ⟨s', v⟩ := w
  obtain rfl : s = s' := hw
  exact hf v

theorem recoverStartup_succeeds (h : Recoverable X s) (v : V) :
    (recoverStartup X).Succeeds (performFile.sum ports)
      (fun _ w => w.1.manifest = s.manifest ∧ w.1.prepared = none) (s, v) := by
  obtain ⟨⟨current, hcurrent⟩, _⟩ := h.generations
  apply (lockCoordinator_succeeds hports s v).seq
  intro _ w hw
  obtain ⟨s', v⟩ := w
  obtain rfl : s = s' := hw
  apply port_okOr_succeeds (c := .lockLifecycle) (k := fun r => r) (hports.lockLifecycle v)
  apply startup_begins_succeeds hports h hcurrent
  intro v
  apply ((convergeToTransaction_succeeds hports hcurrent v).orThrow _).seq
  intro _ w hw
  obtain ⟨s', v⟩ := w
  obtain rfl : s = s' := hw
  apply (clearStartupJournal_succeeds hports h _ v).seq
  intro _ _ hw
  exact succeeds_pure hw

theorem prepareStartupReapply_succeeds (h : Recoverable X s)
    (hcurrent : GenerationAt X s s.committedId committed)
    (hprepared : GenerationAt X s (s.prepared.map PreparedTransaction.candidate) prepared)
    (hnext : checkedSucc (highestGeneration committed prepared) = some next) (v : V) :
    (prepareStartupReapply X committed).Succeeds (performFile.sum ports)
      (fun reapply w => reapply.candidateGeneration = next ∧ w.1.manifest = s.manifest ∧
        w.1.prepared = none) (s, v) := by
  apply (lockCoordinator_succeeds hports s v).seq
  intro _ w hw
  obtain ⟨s', v⟩ := w
  obtain rfl : s = s' := hw
  apply startup_begins_succeeds hports h hcurrent
  intro v
  apply succeeds_require rfl
  apply (preparedGeneration_succeeds hprepared v).seq
  intro _ _ hw
  obtain ⟨rfl, rfl⟩ := hw
  apply succeeds_ofExcept (a := next) (by rw [hnext]; rfl)
  apply (clearStartupJournal_succeeds hports h _ v).seq
  intro _ _ hw
  exact succeeds_pure ⟨rfl, hw⟩

end

end Ratash
