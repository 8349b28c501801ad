import Ratash.Generation.Prune
import Ratash.Transaction.Atomicity

namespace Ratash

open Interaction

variable {D : Type} [DecidableEq D] {X : Codec D} {outside : OutsideFiles}

/-- The prune of the coordinator's resolver, with any call of it failing. -/
def rootPrunes (X : Codec D) (outside : OutsideFiles) : Prunes GenerationRoot :=
  fun g retention r g' => ∃ result, r = result.mapError (fun _ => ()) ∧
    Finishes (failingRoot outside) (pruneRuntimeGenerations X retention).run g result g'

def pruneRoot (X : Codec D) (outside : OutsideFiles) : Pruner GenerationRoot :=
  fun g retention =>
    let (result, g') := (pruneRuntimeGenerations X retention).run.run (performRoot outside) g
    (result.mapError fun _ => (), g')

omit [DecidableEq D] in
theorem rootPrunes_pruneRoot (g : GenerationRoot) (retention : RuntimeGenerationRetention) :
    rootPrunes X outside g retention (pruneRoot X outside g retention).1
      (pruneRoot X outside g retention).2 := by
  refine ⟨_, rfl, ?_⟩
  exact Finishes.map id (fun _ _ _ _ h => .inl h) (Prog.finishes_reliable.2 rfl)

omit [DecidableEq D] in
theorem rootPrunes_law (n : RuntimeGeneration) (entry : RootEntry) :
    PruneLaw (rootPrunes X outside) n (fun g => g.entries.lookup (generationName n) = none)
      (fun g => g.entries.lookup (generationName n) = some entry) where
  releases h hn := by
    obtain ⟨result, hresult, hrun⟩ := h
    cases result with
    | error _ => cases hresult
    | ok result =>
      exact (pruneRuntimeGenerationsWithReserved_releases List.not_mem_nil hn _ trivial).finishes
        hrun result rfl
  staysGone h hgone := by
    obtain ⟨_, _, hrun⟩ := h
    exact (pruneRuntimeGenerationsWithReserved_keeps (pruneKeeps_absent n _) [] _
      hgone).reaches hrun.reaches
  staysPresent h hn hpresent := by
    obtain ⟨_, _, hrun⟩ := h
    exact (pruneRuntimeGenerationsWithReserved_keeps (pruneKeeps_present hn entry) [] _
      hpresent).reaches hrun.reaches

theorem Recoverable.fresh {s : Store D} (h : Recoverable X s)
    (hnewer : ∀ id t, s.committedId = some id → s.transactionAt X id = some t →
      t.runtimeGeneration < n) : Fresh X s n := by
  intro id hid s' t ht hn
  have hmanifest : ∃ m, s.manifest = some m := by
    cases hm : s.manifest with
    | none => simp [Store.committedId, hm] at hid
    | some m => exact ⟨m, rfl⟩
  obtain ⟨m, hm⟩ := hmanifest
  obtain ⟨current, hcurrent, hprevious⟩ := h.committed m hm
  have hlt := hnewer m.current current (by simp [Store.committedId, hm]) hcurrent
  have hle : t.runtimeGeneration ≤ current.runtimeGeneration := by
    obtain hid | hid := hid
    · obtain rfl : m.current = id := by simpa [Store.committedId, hm] using hid
      rw [Store.transactionAt_unique ht hcurrent]
      exact UInt64.le_refl _
    · obtain ⟨t', ht', hle⟩ := hprevious id (by simpa [hm] using hid)
      rw [Store.transactionAt_unique ht ht']
      exact hle
  have hself := UInt64.lt_of_le_of_lt hle hlt
  rw [hn] at hself
  exact UInt64.lt_irrefl _ hself

end Ratash
