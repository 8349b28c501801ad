import Ratash.Transaction.Execute

/-! The store may fail at any file operation and the ports may reply anything. -/

namespace Ratash

open Interaction

variable {D ρ : Type} [DecidableEq D]

abbrev Prunes (ρ : Type) :=
  ρ → RuntimeGenerationRetention → Except Unit RuntimeGenerationPruneResult → ρ → Prop

abbrev Watched (D ρ : Type) := (Store D × PortWorld ρ) × Prop

/-- Every way in which the store and the ports can behave. -/
def anyOutcome (fails : Prop) (prunes : Prunes ρ) :
    Environment (coordinatorCalls D) (Store D × PortWorld ρ) :=
  (fileSystem fails).sum (anyPorts prunes)

def watchedOutcome (fails : Prop) (prunes : Prunes ρ) (P : Store D → Prop) :
    Environment (coordinatorCalls D) (Watched D ρ) :=
  (anyOutcome fails prunes).watched fun u => P u.1

/-- `K` holds of the store, and the record has not missed that `P` holds. -/
def Safe (K P : Store D → Prop) (u : Watched D ρ) : Prop :=
  K u.1.1 ∧ (P u.1.1 → u.2)

variable {fails : Prop} {prunes : Prunes ρ} {K P : Store D → Prop} {s : Store D} {v : PortWorld ρ}
  {seen : Prop}

omit [DecidableEq D] in
theorem Safe.ports (h : Safe K P ((s, v), seen)) (v' : PortWorld ρ) : Safe K P ((s, v'), seen) := h

theorem ensures_store {x : StoreAttempt D α} {J : Store D → Prop} {R : IoResult α → Store D → Prop}
    (hx : x.run.Ensures (fileSystem fails) J R s) (hP : P s → seen) (hK : ∀ s', J s' → K s') :
    (store x).run.Ensures (watchedOutcome fails prunes P) (Safe K P)
      (fun r u => u.1.2 = v ∧ J u.1.1 ∧ R r u.1.1 ∧ (seen → u.2) ∧
        (u.2 → seen ∨ ∃ s', J s' ∧ P s')) ((s, v), seen) := by
  have hx' : (store x).run.Ensures (anyOutcome fails prunes) (fun u => J u.1 ∧ u.2 = v)
      (fun r u => R r u.1) (s, v) :=
    Attempt.ensures_left.2 (hx.mono (fun s' h => ⟨h, rfl⟩) fun _ _ _ => id)
  apply (hx'.watched (P := fun u => P u.1) hP).mono
  · rintro u ⟨⟨hJ, _⟩, _, hPu, _⟩
    exact ⟨hK _ hJ, hPu⟩
  · rintro r u ⟨⟨hJ, hv⟩, hold, _, hnew⟩ hR
    refine ⟨hv, hJ, hR, hold, fun hu => ?_⟩
    obtain hs | ⟨w', ⟨hJ', _⟩, hP'⟩ := hnew hu
    · exact .inl hs
    · exact .inr ⟨w'.1, hJ', hP'⟩

theorem ensures_store_frozen {x : StoreAttempt D α} {R : IoResult α → Store D → Prop}
    (hx : x.run.Ensures (fileSystem fails) (· = s) R s) (hu : Safe K P ((s, v), seen)) :
    (store x).run.Ensures (watchedOutcome fails prunes P) (Safe K P)
      (fun r u => ((s, v), seen) = u ∧ R r s) ((s, v), seen) := by
  apply (ensures_store hx hu.2 (fun s' hs => hs ▸ hu.1)).mono (fun _ => id)
  rintro r ⟨⟨s', v'⟩, seen'⟩ _ ⟨hv, hs, hR, hold, hnew⟩
  obtain rfl : v' = v := hv
  obtain rfl : s' = s := hs
  have hseen : seen = seen' := by
    refine propext ⟨hold, fun h => ?_⟩
    obtain hs | ⟨_, rfl, hP⟩ := hnew h
    · exact hs
    · exact hu.2 hP
  exact ⟨by rw [hseen], hR⟩

theorem ensures_store_call {c : StoreCall D} {Q : IoResult c.Value → Watched D ρ → Prop}
    (hu : Safe K P ((s, v), seen)) (hK : K (performFile s c).2)
    (hok : ∀ a, (performFile s c).1 = .ok a →
      Q (.ok a) (((performFile s c).2, v), seen ∨ P (performFile s c).2))
    (herr : ∀ e s', s' = s ∨ s' = (performFile s c).2 → Q (.error e) ((s', v), seen ∨ P s')) :
    (store (fileCall c)).run.Ensures (watchedOutcome fails prunes P)
      (Safe K P) Q ((s, v), seen) := by
  refine ⟨hu, ?_⟩
  rintro r ⟨⟨s', v'⟩, seen'⟩ ⟨⟨hstep, hv⟩, hseen'⟩
  obtain rfl : v' = v := hv
  obtain rfl : seen' = (seen ∨ P s') := hseen'
  have hend : (fileCall c).run.Ensures (fileSystem fails) K
      (fun r s' => Q r ((s', v'), seen ∨ P s')) s :=
    Attempt.ensures_call_failing ⟨hu.1, hK⟩ hok fun e s' hs' =>
      herr e s' (hs'.elim And.right fun h => .inr h.2)
  have hnow := hend.2 r s' hstep
  exact ⟨⟨hnow.1, .inr⟩, hnow.2⟩

theorem ensures_port {c : PortCall D} {Q : Except ε c.Reply → Watched D ρ → Prop}
    (hu : Safe K P ((s, v), seen))
    (h : ∀ r v', v.Allows prunes c r v' → Q (.ok r) ((s, v'), seen)) :
    (port c).run.Ensures (watchedOutcome fails prunes P) (Safe K P) Q ((s, v), seen) := by
  refine ⟨hu, ?_⟩
  rintro r ⟨⟨s', v'⟩, seen'⟩ ⟨⟨hstep, hs⟩, hseen'⟩
  obtain rfl : s' = s := hs
  obtain rfl : seen' = (seen ∨ P s') := hseen'
  have hseen : (seen ∨ P s') = seen := propext ⟨fun h => h.elim id hu.2, .inl⟩
  rw [hseen]
  exact ⟨hu, h r v' hstep⟩

theorem ensures_port_seq {c : PortCall D} {f : c.Reply → CoordinatorAttempt D ε β}
    {Q : Except ε β → Watched D ρ → Prop} (hu : Safe K P ((s, v), seen))
    (h : ∀ r v', v.Allows prunes c r v' →
      (f r).run.Ensures (watchedOutcome fails prunes P) (Safe K P) Q ((s, v'), seen)) :
    (port c >>= f).run.Ensures (watchedOutcome fails prunes P) (Safe K P) Q ((s, v), seen) :=
  Attempt.ensures_bind.2 (ensures_port hu h)

end Ratash
