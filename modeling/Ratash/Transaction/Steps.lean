import Ratash.Transaction.Rules

/-!
Each statement says which part of the world a block can change, whatever its calls reply, and what
its success means.
-/

namespace Ratash

open Interaction

variable {D ρ : Type} [DecidableEq D] {X : Codec D}

/-- What `load_transaction` finds out about the generation behind an optional id. -/
def GenerationAt (X : Codec D) (s : Store D) :
    Option (TransactionId D) → Option RuntimeGeneration → Prop
  | none, g => g = none
  | some id, g => ∃ t, s.transactionAt X id = some t ∧ g = some t.runtimeGeneration

def Fresh (X : Codec D) (s : Store D) (n : RuntimeGeneration) : Prop :=
  ∀ id, s.committedId = some id ∨ s.manifest.bind CommittedManifest.previous = some id →
    ∀ (s' : Store D) t, s'.transactionAt X id = some t → t.runtimeGeneration ≠ n

structure PruneLaw (prunes : Prunes ρ) (n : RuntimeGeneration) (Gone Present : ρ → Prop) :
    Prop where
  releases : prunes g retention (.ok result) g' → n ∉ retention.retained → Gone g'
  staysGone : prunes g retention r g' → Gone g → Gone g'
  staysPresent : prunes g retention r g' → n ∈ retention.retained → Present g → Present g'

structure Closed (K : Store D → Prop) : Prop where
  clear : K s → K s.withoutPrepared
  prune : K s → Pruning s s' → K s'

theorem GenerationAt.unique {s s' : Store D} {id : Option (TransactionId D)}
    (h : GenerationAt X s id g) (h' : GenerationAt X s' id g') : g = g' := by
  cases id with
  | none => exact h.trans h'.symm
  | some id =>
    obtain ⟨t, ht, rfl⟩ := h
    obtain ⟨t', ht', rfl⟩ := h'
    rw [Store.transactionAt_unique ht ht']

theorem Fresh.not_retained {s : Store D} (h : Fresh X s n) {retention : RuntimeGenerationRetention}
    (hcurrent : GenerationAt X s s.committedId retention.current)
    (hprevious : GenerationAt X s (s.manifest.bind CommittedManifest.previous) retention.previous)
    (hprepared : retention.prepared = none) : n ∉ retention.retained := by
  obtain ⟨current, previous, prepared⟩ := retention
  obtain rfl : prepared = none := hprepared
  intro hn
  have hn : some n = current ∨ some n = previous := by
    simpa [RuntimeGenerationRetention.retained, List.reduceOption_mem_iff] using hn
  obtain rfl | rfl := hn
  · cases hid : s.committedId with
    | none => rw [hid] at hcurrent; cases hcurrent
    | some id =>
      rw [hid] at hcurrent
      obtain ⟨t, ht, hg⟩ := hcurrent
      exact h id (.inl hid) s t ht (Option.some.inj hg).symm
  · cases hid : s.manifest.bind CommittedManifest.previous with
    | none => rw [hid] at hprevious; cases hprevious
    | some id =>
      rw [hid] at hprevious
      obtain ⟨t, ht, hg⟩ := hprevious
      exact h id (.inr hid) s t ht (Option.some.inj hg).symm

theorem Fresh.congr {s s' : Store D} (h : Fresh X s n) (hs : s'.manifest = s.manifest) :
    Fresh X s' n := by
  unfold Fresh Store.committedId
  rw [hs]
  exact h

section

variable {fails : Prop} {prunes : Prunes ρ} {K P : Store D → Prop} {s : Store D} {v : PortWorld ρ}
  {seen : Prop}
variable {n : RuntimeGeneration} {Gone Present : ρ → Prop}

theorem generationFromTransaction_spec (hu : Safe K P ((s, v), seen)) (id : TransactionId D) :
    (generationFromTransaction X id).run.Ensures (watchedOutcome fails prunes P) (Safe K P)
      (fun r u => ((s, v), seen) = u ∧ ∀ g, r = .ok g → GenerationAt X s (some id) (some g))
      ((s, v), seen) := by
  apply Attempt.ensures_orThrow_seq (ensures_store_frozen (loadTransaction_spec X s id) hu)
  · intro t u hsafe hload
    obtain ⟨rfl, hload⟩ := hload
    refine ⟨hsafe, rfl, ?_⟩
    intro g hg
    cases hg
    exact ⟨t, hload t rfl, rfl⟩
  · intro _ u _ hload
    exact ⟨hload.1, by simp⟩

theorem generationOf_spec (hu : Safe K P ((s, v), seen)) (id : Option (TransactionId D)) :
    (generationOf X id).run.Ensures (watchedOutcome fails prunes P) (Safe K P)
      (fun r u => ((s, v), seen) = u ∧ ∀ g, r = .ok g → GenerationAt X s id g) ((s, v), seen) := by
  cases id with
  | none => exact ⟨hu, rfl, fun g hg => by cases hg; rfl⟩
  | some id =>
    apply Attempt.ensures_seq (generationFromTransaction_spec hu id)
    · intro g u hsafe hg
      obtain ⟨rfl, hg⟩ := hg
      refine ⟨hsafe, rfl, ?_⟩
      intro g' hg'
      cases hg'
      exact hg g rfl
    · intro _ u _ h
      exact ⟨h.1, by simp⟩

theorem runtimeRetention_spec (hu : Safe K P ((s, v), seen))
    (committed : Option (CommittedManifest D)) (prepared : Option RuntimeGeneration) :
    (runtimeRetention X committed prepared).run.Ensures (watchedOutcome fails prunes P) (Safe K P)
      (fun r u => ((s, v), seen) = u ∧ ∀ retention, r = .ok retention →
        GenerationAt X s (committed.map CommittedManifest.current) retention.current ∧
        GenerationAt X s (committed.bind CommittedManifest.previous) retention.previous ∧
        retention.prepared = prepared) ((s, v), seen) := by
  apply Attempt.ensures_seq (generationOf_spec hu _)
  · intro current u hsafe hcurrent
    obtain ⟨rfl, hcurrent⟩ := hcurrent
    apply Attempt.ensures_seq (generationOf_spec hu _)
    · intro previous u _ hprevious
      obtain ⟨rfl, hprevious⟩ := hprevious
      refine ⟨hsafe, rfl, ?_⟩
      intro retention hretention
      cases hretention
      exact ⟨hcurrent current rfl, hprevious previous rfl, rfl⟩
    · intro _ u _ h
      exact ⟨h.1, by simp⟩
  · intro _ u _ h
    exact ⟨h.1, by simp⟩

theorem pruneRuntimeState_spec (law : PruneLaw prunes n Gone Present)
    (hu : Safe K P ((s, v), seen)) (prepared : Option (PreparedTransaction D)) :
    (pruneRuntimeState X ⟨s.manifest, prepared⟩).run.Ensures (watchedOutcome fails prunes P)
      (Safe K P) (fun r u => ∃ g, u = ((s, { v with generations := g }), seen) ∧
        (Gone v.generations → Gone g) ∧
        (r = .ok () → prepared = none → Fresh X s n → Gone g)) ((s, v), seen) := by
  have hsame : ((s, v), seen) = ((s, { v with generations := v.generations }), seen) := rfl
  apply Attempt.ensures_seq (generationOf_spec hu _)
  · intro preparedGeneration u _ hprepared
    obtain ⟨rfl, hprepared⟩ := hprepared
    apply Attempt.ensures_seq (runtimeRetention_spec hu _ _)
    · intro retention u _ hretention
      obtain ⟨rfl, hretention⟩ := hretention
      obtain ⟨hcurrent, hprevious, hnone⟩ := hretention retention rfl
      apply ensures_port_seq hu
      intro r v' hprune
      obtain ⟨g, hprune, rfl⟩ := hprune
      refine Attempt.ensures_okOr_seq hu ?_ ?_
      · intro result hr
        obtain rfl : r = .ok result := hr
        refine ⟨hu, g, rfl, law.staysGone hprune, ?_⟩
        intro _ hjournal hfresh
        apply law.releases hprune
        apply hfresh.not_retained hcurrent hprevious
        rw [hnone]
        subst hjournal
        exact hprepared _ rfl
      · exact ⟨g, rfl, law.staysGone hprune, by simp⟩
    · intro _ u _ h
      exact ⟨v.generations, h.1.symm.trans hsame, fun hg => hg, by simp⟩
  · intro _ u _ h
    exact ⟨v.generations, h.1.symm.trans hsame, fun hg => hg, by simp⟩

structure Cleared (X : Codec D) (n : RuntimeGeneration) (Gone : ρ → Prop) (s : Store D) (g : ρ)
    (done : Prop) (s' : Store D) (g' : ρ) : Prop where
  manifest : s'.manifest = s.manifest
  journal : s'.prepared = s.prepared ∨ s'.prepared = none
  staysGone : Gone g → Gone g'
  success : done → s'.prepared = none ∧ (Fresh X s n → Gone g')

theorem clearPreparedAndPrune_spec (law : PruneLaw prunes n Gone Present) (hK : Closed K)
    (hu : Safe K P ((s, v), seen)) (p : PreparedTransaction D) :
    (clearPreparedAndPrune X p).run.Ensures (watchedOutcome fails prunes P) (Safe K P)
      (fun r u => ∃ s' g seen', u = ((s', { v with generations := g }), seen') ∧
        Cleared X n Gone s v.generations (r = .ok ()) s' g) ((s, v), seen) := by
  have hclearing : ∀ s', Clearing s p s' → K s' := by
    intro s' hs'
    obtain rfl | ⟨_, rfl⟩ := hs'
    · exact hu.1
    · exact hK.clear hu.1
  apply Attempt.ensures_seq (ensures_store (clearPrepared_spec s p) hu.2 hclearing)
  · intro _ u hsafe hclear
    obtain ⟨⟨s₁, v₁⟩, seen₁⟩ := u
    obtain ⟨hv, _, hs₁, _⟩ := hclear
    obtain rfl : v₁ = v := hv
    obtain rfl : s₁ = s.withoutPrepared := hs₁ rfl
    apply Attempt.ensures_result_seq (ensures_store (pruneUnreachable_spec X _) hsafe.2
      fun s' hs' => hK.prune hsafe.1 hs')
    intro _ u hsafe₂ hpruned
    obtain ⟨⟨s₂, v₂⟩, seen₂⟩ := u
    obtain ⟨hv, hpruning, _⟩ := hpruned
    obtain rfl : v₂ = v₁ := hv
    have hnone : s₂.prepared = none := hpruning.prepared
    have hdone (done : Prop) (g : ρ) (hgone : Gone v₂.generations → Gone g)
        (hfresh : done → Fresh X s n → Gone g) :
        Cleared X n Gone s v₂.generations done s₂ g :=
      ⟨hpruning.manifest, .inr hnone, hgone, fun h => ⟨hnone, hfresh h⟩⟩
    apply Attempt.ensures_seq (ensures_store_frozen (recover_spec s₂) hsafe₂)
    · intro state u _ hstate
      obtain ⟨rfl, hstate⟩ := hstate
      obtain rfl := hstate state rfl
      apply Attempt.ensures_orThrow.2
      apply (pruneRuntimeState_spec law hsafe₂ _).mono (fun _ h => h)
      intro r u _ hr
      obtain ⟨g, rfl, hgone, hfresh⟩ := hr
      cases r with
      | ok _ =>
        exact ⟨s₂, g, seen₂, rfl,
          hdone _ g hgone fun _ hs => hfresh rfl hnone (hs.congr hpruning.manifest)⟩
      | error _ => exact ⟨s₂, g, seen₂, rfl, hdone _ g hgone (by simp)⟩
    · intro _ u _ hstate
      obtain ⟨rfl, _⟩ := hstate
      exact ⟨s₂, v₂.generations, seen₂, rfl, hdone _ _ (fun h => h) (by simp)⟩
  · intro _ u _ hclear
    obtain ⟨⟨s₁, v₁⟩, seen₁⟩ := u
    obtain ⟨hv, hs₁, _⟩ := hclear
    obtain rfl : v₁ = v := hv
    refine ⟨s₁, v₁.generations, seen₁, rfl, ?_, ?_, fun h => h, by simp⟩
    · obtain rfl | ⟨_, rfl⟩ := hs₁ <;> rfl
    · obtain rfl | ⟨_, rfl⟩ := hs₁
      · exact .inl rfl
      · exact .inr rfl

end

end Ratash
