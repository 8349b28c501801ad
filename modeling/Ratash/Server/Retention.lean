import Ratash.Generation.Ingress

/-!
Three slots, moved before an apply is tried: the generation being applied, and the two before it.
-/

namespace Ratash

abbrev ServiceRuntimeRetention := RuntimeGenerationRetention

namespace ServiceRuntimeRetention

variable (retention : ServiceRuntimeRetention)

def plan (generation : RuntimeGeneration) :
    Except BundleIngressError ServiceRuntimeRetention :=
  if generation = 0 then .error .invalid
  else if retention.prepared = some generation then .ok retention
  else if retention.current = some generation then .ok { retention with prepared := none }
  else if retention.previous = some generation then .ok ⟨some generation, none, none⟩
  -- a new generation is above the highest one retained
  else if retention.retained.any (generation ≤ ·) then .error .invalid
  else
    match retention.prepared with
    | some prepared => .ok ⟨some prepared, retention.current, some generation⟩
    | none => .ok ⟨retention.current, retention.previous, some generation⟩

def discardFailed (generation : RuntimeGeneration) : ServiceRuntimeRetention :=
  if retention.prepared = some generation then { retention with prepared := none } else retention

/-- An apply of a generation leaves the one in use in the slots, and also if it fails. -/
def Spares (generation inUse : RuntimeGeneration) : Prop :=
  if retention.prepared = some generation then inUse ≠ generation
  else if retention.current = some generation then retention.prepared ≠ some inUse
  else if retention.previous = some generation then inUse = generation
  else retention.prepared = none ∨ retention.previous ≠ some inUse

variable {retention} {planned : ServiceRuntimeRetention} {generation inUse : RuntimeGeneration}

theorem mem_retained :
    inUse ∈ RuntimeGenerationRetention.retained retention ↔ retention.current = some inUse ∨
      retention.previous = some inUse ∨ retention.prepared = some inUse := by
  simp [RuntimeGenerationRetention.retained, List.reduceOption_mem_iff, eq_comm]

theorem plan_ok (h : plan retention generation = .ok planned) :
    retention.prepared = some generation ∧ planned = retention ∨
    retention.prepared ≠ some generation ∧ retention.current = some generation ∧
      planned = { retention with prepared := none } ∨
    retention.prepared ≠ some generation ∧ retention.current ≠ some generation ∧
      retention.previous = some generation ∧ planned = ⟨some generation, none, none⟩ ∨
    generation ∉ retention.retained ∧ planned.prepared = some generation ∧
      (retention.prepared = none → planned.current = retention.current ∧
        planned.previous = retention.previous) ∧
      (∀ prepared, retention.prepared = some prepared → planned.current = some prepared ∧
        planned.previous = retention.current) := by
  unfold plan at h
  split at h
  · cases h
  split at h
  · rename_i hprepared
    cases h
    exact .inl ⟨hprepared, rfl⟩
  rename_i hprepared
  split at h
  · rename_i hcurrent
    cases h
    exact .inr (.inl ⟨hprepared, hcurrent, rfl⟩)
  rename_i hcurrent
  split at h
  · rename_i hprevious
    cases h
    exact .inr (.inr (.inl ⟨hprepared, hcurrent, hprevious, rfl⟩))
  rename_i hprevious
  split at h
  · cases h
  have hnew : generation ∉ retention.retained := by
    rw [mem_retained]
    simp [hprepared, hcurrent, hprevious]
  split at h <;> cases h
  · rename_i prepared hsome
    refine .inr (.inr (.inr ⟨hnew, rfl, fun hnone => ?_, fun prepared' hsome' => ?_⟩))
    · cases hsome.symm.trans hnone
    · exact ⟨hsome.symm.trans hsome', rfl⟩
  · rename_i hnone
    refine .inr (.inr (.inr ⟨hnew, rfl, fun _ => ⟨rfl, rfl⟩, fun prepared' hsome' => ?_⟩))
    cases hnone.symm.trans hsome'

theorem plan_self (h : plan retention generation = .ok planned) :
    generation ∈ planned.retained := by
  rw [mem_retained]
  obtain ⟨hprepared, rfl⟩ | ⟨_, hcurrent, rfl⟩ | ⟨_, _, _, rfl⟩ | ⟨_, hprepared, _⟩ := plan_ok h
  · exact .inr (.inr hprepared)
  · exact .inl hcurrent
  · exact .inl rfl
  · exact .inr (.inr hprepared)

theorem plan_spares (h : plan retention generation = .ok planned)
    (hretained : inUse ∈ retention.retained) (hspares : Spares retention generation inUse) :
    inUse ∈ planned.retained := by
  rw [mem_retained] at hretained ⊢
  obtain ⟨_, rfl⟩ | ⟨hprepared, hcurrent, rfl⟩ | ⟨hprepared, hcurrent, hprevious, rfl⟩ |
    ⟨hnew, _, hnone, hsome⟩ := plan_ok h
  · exact hretained
  · rw [Spares, if_neg hprepared, if_pos hcurrent] at hspares
    obtain hslot | hslot | hslot := hretained
    · exact .inl hslot
    · exact .inr (.inl hslot)
    · exact absurd hslot hspares
  · rw [Spares, if_neg hprepared, if_neg hcurrent, if_pos hprevious] at hspares
    exact .inl (congrArg some hspares.symm)
  · rw [mem_retained, not_or, not_or] at hnew
    rw [Spares, if_neg hnew.2.2, if_neg hnew.1, if_neg hnew.2.1] at hspares
    cases hslot : retention.prepared with
    | none =>
      obtain ⟨hcurrent, hprevious⟩ := hnone hslot
      rw [hcurrent, hprevious]
      obtain hcase | hcase | hcase := hretained
      · exact .inl hcase
      · exact .inr (.inl hcase)
      · rw [hslot] at hcase
        cases hcase
    | some prepared =>
      obtain ⟨hcurrent, hprevious⟩ := hsome prepared hslot
      rw [hcurrent, hprevious]
      obtain hcase | hcase | hcase := hretained
      · exact .inr (.inl hcase)
      · refine absurd hcase (hspares.resolve_left ?_)
        rw [hslot]
        exact nofun
      · exact .inl (hslot.symm.trans hcase)

theorem discardFailed_spares (h : plan retention generation = .ok planned)
    (hretained : inUse ∈ retention.retained) (hspares : Spares retention generation inUse) :
    inUse ∈ (discardFailed planned generation).retained := by
  have hplanned := plan_spares h hretained hspares
  have hne : planned.prepared = some generation → inUse ≠ generation := by
    intro hprepared hsame
    obtain ⟨hslot, rfl⟩ | ⟨_, _, rfl⟩ | ⟨_, _, _, rfl⟩ | ⟨hnew, _⟩ := plan_ok h
    · rw [Spares, if_pos hslot] at hspares
      exact hspares hsame
    · cases hprepared
    · cases hprepared
    · exact hnew (hsame ▸ hretained)
  unfold discardFailed
  split
  · rename_i hprepared
    rw [mem_retained] at hplanned ⊢
    obtain hslot | hslot | hslot := hplanned
    · exact .inl hslot
    · exact .inr (.inl hslot)
    · exact absurd (Option.some.inj (hslot.symm.trans hprepared)) (hne hprepared)
  · exact hplanned

end ServiceRuntimeRetention

end Ratash
