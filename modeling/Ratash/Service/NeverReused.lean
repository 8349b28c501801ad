import Ratash.Service.Script
import Ratash.Service.UnderLock

/-!
Whoever holds the lock reads the counters in the state file and stores larger ones before it returns
a generation.
-/

namespace Ratash

open Interaction Attempt

variable {ι : Type} [DecidableEq ι] {J : GenerationCodec} {i : ι}

variable {w : ControlWorld ι}

section Lock

theorem Promise.locked (hfree : w.holder = none) : Promise J i w (w.locked J i) := by
  have hadvances : Progresses J w (w.locked J i) := by
    refine ⟨.refl _, [w.persisted J], rfl, ?_⟩
    intro d hd
    rw [List.mem_singleton.1 hd]
    exact .refl _
  have hlength : (w.locked J i).turns.length = w.turns.length + 1 := List.length_append
  refine ⟨hadvances, fun h => ⟨?_, ?_, ?_, h.distinct⟩, ?_, fun _ _ => rfl, ?_, ?_, ?_, ?_⟩
  · intro j t ht
    rw [hlength]
    simp only [ControlWorld.locked, Function.update_apply] at ht
    split at ht
    · exact Option.some.inj ht ▸ Nat.lt_succ_self _
    · exact Nat.lt_succ_of_lt (h.turn_lt ht)
  · -- the new turn is later than all others
    intro j t k hj hk
    simp only [ControlWorld.locked, Function.update_apply] at hj hk
    split at hj <;> split at hk
    · rw [‹j = i›, ‹k = i›]
    · exact absurd (h.turn_lt hk) (Option.some.inj hj ▸ Nat.lt_irrefl _)
    · exact absurd (h.turn_lt hj) (Option.some.inj hk ▸ Nat.lt_irrefl _)
    · exact h.turn_inj hj hk
  · exact fun issue hissue => (h.granted issue hissue).advances hadvances
  · exact fun j hj => Function.update_of_ne hj _ _
  · intro j hj
    rw [hfree]
    exact ⟨fun h => absurd (Option.some.inj h).symm hj, nofun⟩
  · intro j _ hother
    rw [hfree] at hother
    cases hother
  · intro j _ hother
    rw [hfree] at hother
    cases hother
  · exact ⟨[], (List.append_nil _).symm, nofun⟩

theorem Turn.locked (hw : Unlocked J i w) (hfree : w.holder = none) :
    Turn J i w.turns.length (w.persisted J) (w.persisted J) (w.counters i) (w.locked J i) where
  holder := rfl
  consistent := (Promise.locked hfree).consistent hw.consistent
  mine := Function.update_self ..
  last := List.length_append
  began := List.getElem?_concat_length
  persisted := rfl
  memory := rfl
  unissued issue hissue := by
    obtain ⟨_, hturn, _⟩ := (hw.consistent.granted issue hissue).above
    exact Nat.ne_of_lt (List.getElem?_eq_some_iff.1 hturn).1

theorem Promise.unlocked (w : ControlWorld ι) : Promise J i w (w.unlocked i) := by
  refine .quiet (.refl _) rfl rfl rfl (fun _ _ => rfl) ?_ fun _ _ _ _ _ => rfl
  intro j hj
  unfold ControlWorld.unlocked
  split
  · rename_i hmine
    rw [hmine]
    exact ⟨nofun, fun h => absurd (Option.some.inj h).symm hj⟩
  · exact .rfl

theorem holder_unlocked (w : ControlWorld ι) : (w.unlocked i).holder ≠ some i := by
  unfold ControlWorld.unlocked
  split
  · exact nofun
  · assumption

omit [DecidableEq ι] in
theorem Promise.refl (i : ι) (w : ControlWorld ι) : Promise J i w w :=
  .quiet (.refl _) rfl rfl rfl (fun _ _ => rfl) (fun _ _ => .rfl) fun _ _ _ _ _ => rfl

theorem lawful_flock : Lawful J i (Unlocked J i) (file .flock message) fun r w =>
      (∀ e, r = .error e → Unlocked J i w) ∧
        ∀ v, r = .ok v → ∃ turn d counters, Turn J i turn d d counters w := by
  have hlock : Lawful J i (Unlocked J i) (control (.file .flock)) fun r w =>
      (∃ e, r = .ok (.error e)) ∧ Unlocked J i w ∨
        r = .ok (.ok ()) ∧ ∃ turn d counters, Turn J i turn d d counters w := by
    apply abides_lift kept_unlocked.stable
    rintro w r w' hw (⟨rfl, hfree, rfl⟩ | ⟨⟨e, rfl⟩, rfl⟩)
    · exact ⟨Promise.locked hfree, .inr ⟨rfl, _, _, _, Turn.locked hw hfree⟩⟩
    · exact ⟨Promise.refl i w', .inl ⟨⟨e, rfl⟩, hw⟩⟩
  apply hlock.seq
  · intro reply
    cases reply with
    | ok v =>
      apply abides_pure
      rintro w (⟨⟨_, hr⟩, _⟩ | ⟨_, hturn⟩)
      · cases hr
      · exact ⟨nofun, fun _ _ => hturn⟩
    | error e =>
      apply abides_throw
      rintro w (⟨_, hw⟩ | ⟨hr, _⟩)
      · exact ⟨fun _ _ => hw, nofun⟩
      · cases hr
  · rintro e w (⟨⟨_, hr⟩, _⟩ | ⟨hr, _⟩) <;> cases hr

theorem lawful_withGenerationStateLock {operation : ControlAttempt α}
    {R : α → ControlWorld ι → Prop}
    (hoperation : ∀ turn d counters, Lawful J i (Turn J i turn d d counters) operation
      fun r w => Holding J i w ∧ ∀ a, r = .ok a → R a w)
    (hstable : ∀ a w w', Processes.Others (Promise J) i w w' → Consistent J w → R a w → R a w')
    (hunlocked : ∀ a w, R a w → R a (w.unlocked i)) :
    Lawful J i (Unlocked J i) (withGenerationStateLock operation)
      fun r w => Unlocked J i w ∧ ∀ a, r = .ok a → R a w := by
  apply (lawful_only kept_unlocked (tame_openGenerationStateLock (not_not.2 rfl))).seq ?_
    fun e w hw => ⟨hw, nofun⟩
  intro _
  apply lawful_flock.seq ?_ fun e w hw => ⟨hw.1 e rfl, nofun⟩
  intro _
  have hheld : Lawful J i (fun w => ∃ turn d counters, Turn J i turn d d counters w) operation
      fun r w => Holding J i w ∧ ∀ a, r = .ok a → R a w :=
    fun w ⟨turn, d, counters, hturn⟩ => hoperation turn d counters w hturn
  apply (hheld.mono (fun w hw => hw.2 _ rfl) fun _ _ h => h).result
  intro result
  have hunlock : Lawful J i (fun w => Holding J i w ∧ ∀ a, result = .ok a → R a w)
      (control .unlock) fun _ w => Unlocked J i w ∧ ∀ a, result = .ok a → R a w := by
    apply abides_lift
    · rintro w w' hothers ⟨hw, hR⟩
      exact ⟨hw.others hothers, fun a ha => hstable a w w' hothers hw.consistent (hR a ha)⟩
    · rintro w _ w' ⟨hw, hR⟩ rfl
      have hpromise := Promise.unlocked (J := J) (i := i) w
      exact ⟨hpromise, ⟨holder_unlocked w, hpromise.consistent hw.consistent⟩,
        fun a ha => hunlocked a w (hR a ha)⟩
  exact hunlock.seq (fun _ => abides_ofExcept fun w hw => hw) fun e w hw => ⟨hw.1, nofun⟩

end Lock

section Reserve

variable {turn : Nat} {first now : Option GenerationCounters} {counters : GenerationCounters}

theorem lawful_counters : Lawful J i (Turn J i turn first now counters) (control .counters)
      fun r w => Turn J i turn first now counters w ∧ r = .ok counters := by
  apply abides_lift kept_turn.stable
  rintro w r w' hw ⟨rfl, rfl⟩
  exact ⟨Promise.refl i w', hw, congrArg _ hw.memory⟩

theorem Promise.setCounters (w : ControlWorld ι) (counters : GenerationCounters) :
    Promise J i w { w with counters := Function.update w.counters i counters } :=
  .quiet (.refl _) rfl rfl rfl (fun _ hj => Function.update_of_ne hj _ _) (fun _ _ => .rfl)
    fun _ _ _ _ _ => rfl

theorem lawful_setCounters (counters' : GenerationCounters) :
    Lawful J i (Turn J i turn first now counters) (control (.setCounters counters'))
      fun _ => Turn J i turn first now counters' := by
  apply abides_lift kept_turn.stable
  rintro w r w' hw rfl
  have hpromise := Promise.setCounters (J := J) (i := i) w counters'
  exact ⟨hpromise, hw.holder, hpromise.consistent hw.consistent, hw.mine, hw.last, hw.began,
    hw.persisted, Function.update_self .., hw.unissued⟩

theorem lawful_persistGenerationState (hcovers : Covers now (some counters)) :
    Lawful J i (Turn J i turn first now counters) (persistGenerationState J)
      (Stored J i turn first counters counters) := by
  apply lawful_turn_seq (tame_control (c := .takeCommitFault) ⟨rfl, nofun⟩) ?_
    fun e w hw => .error e hw
  intro fault
  apply lawful_counters.seq ?_ fun e w hw => .error e hw.1.holding
  intro found
  apply abides_of_fact
  intro hfound
  obtain rfl := Except.ok.inj hfound
  exact lawful_persistGenerationStateWithFault fault hcovers

omit [DecidableEq ι] in
theorem Turn.earned {c : GenerationCounters}
    (h : Turn J i turn (some c) (some counters) counters' w) (kind : GenerationKind)
    (hlt : c.of kind < counters.of kind) : Earned J i kind (counters.of kind) w := by
  refine ⟨turn, h.mine,
    ⟨⟨c, h.began, hlt⟩, ?_, counters, h.persisted, UInt64.le_refl _⟩, h.unissued⟩
  intro t d ht hd
  have hlength := (List.getElem?_eq_some_iff.1 hd).1
  have hlast := h.last
  omega

theorem Earned.unlocked (h : Earned J i kind value w) : Earned J i kind value (w.unlocked i) := by
  obtain ⟨turn, hmine, hgranted, hunissued⟩ := h
  exact ⟨turn, hmine, hgranted.advances (.same (.refl _) rfl), hunissued⟩

theorem le_max_right64 (a b : UInt64) : b ≤ max a b := by
  change b ≤ if a ≤ b then b else a
  split
  · exact UInt64.le_refl b
  · rename_i h
    exact UInt64.le_of_lt (UInt64.not_le.1 h)

theorem lt_of_checkedSucc_right (h : checkedSucc (max a b) = some m) : b < m := by
  have hm := checkedSucc_eq_some h
  have hle := le_max_right64 a b
  rw [UInt64.le_iff_toNat_le] at hle
  rw [UInt64.lt_iff_toNat_lt]
  omega

theorem lawful_load_counters
    {f : ServiceGenerationState → GenerationCounters → ControlAttempt UInt64}
    {kind : GenerationKind} {turn : Nat} {d : Option GenerationCounters}
    {counters : GenerationCounters} (hf : ∀ persisted, Lawful J i
      (Turn J i turn (some persisted.counters) (some persisted.counters) counters)
      (f persisted counters) fun r w => Holding J i w ∧
        ∀ value, r = .ok value → Earned J i kind value w) :
    Lawful J i (Turn J i turn d d counters)
      (do
        let persisted ← loadGenerationState J
        let counters ← control .counters
        f persisted counters)
      fun r w => Holding J i w ∧ ∀ value, r = .ok value → Earned J i kind value w := by
  apply lawful_loadGenerationState.seq ?_ fun e w hw => ⟨hw.1, nofun⟩
  intro persisted
  apply Abides.mono (P := fun w => Turn J i turn d d counters w ∧ d = some persisted.counters)
    ?_ (fun w hw => hw.2 _ rfl) fun _ _ h => h
  apply abides_of_fact
  rintro rfl
  apply lawful_counters.seq ?_ fun e w hw => ⟨hw.1.holding, nofun⟩
  intro found
  apply abides_of_fact
  intro hfound
  obtain rfl := Except.ok.inj hfound
  exact hf persisted

theorem lawful_store {c : GenerationCounters} (kind : GenerationKind)
    (hle : c.Le stored) (hlt : c.of kind < stored.of kind) :
    Lawful J i (Turn J i turn (some c) (some c) counters)
      (do
        control (.setCounters stored)
        persistGenerationState J
        return stored.of kind)
      fun r w => Holding J i w ∧ ∀ value, r = .ok value → Earned J i kind value w := by
  apply (lawful_setCounters stored).seq ?_ fun e w hw => ⟨hw.holding, nofun⟩
  intro _
  have hcovers : Covers (some c) (some stored) := by
    rintro _ ⟨⟩
    exact ⟨stored, rfl, hle⟩
  apply (lawful_persistGenerationState hcovers).seq ?_ fun e w hw => ⟨hw.1, nofun⟩
  intro _
  apply abides_pure
  rintro w ⟨hholding, hstored⟩
  refine ⟨hholding, ?_⟩
  rintro _ ⟨⟩
  exact (hstored _ rfl).earned kind hlt

theorem lawful_reserveOwnerGeneration : Lawful J i (Unlocked J i) (reserveOwnerGeneration J)
      fun r w => Unlocked J i w ∧ ∀ value, r = .ok value → Earned J i .owner value w := by
  refine lawful_withGenerationStateLock (R := Earned J i .owner) (fun turn d counters => ?_)
    (fun _ _ _ hothers hw => Earned.others hothers hw) fun _ _ => Earned.unlocked
  apply lawful_load_counters
  intro persisted
  split
  · exact abides_throw fun w hw => ⟨hw.holding, nofun⟩
  · rename_i owner howner
    have hlt : persisted.ownerGeneration < owner := lt_of_checkedSucc_right howner
    exact lawful_store .owner ⟨UInt64.le_of_lt hlt, le_max_right64 _ _⟩ hlt

theorem lawful_reserveCoreInstanceGeneration :
    Lawful J i (Unlocked J i) (reserveCoreInstanceGeneration J)
      fun r w => Unlocked J i w ∧ ∀ value, r = .ok value → Earned J i .coreInstance value w := by
  refine lawful_withGenerationStateLock (R := Earned J i .coreInstance) (fun turn d counters => ?_)
    (fun _ _ _ hothers hw => Earned.others hothers hw) fun _ _ => Earned.unlocked
  apply lawful_load_counters
  intro persisted
  apply (lawful_setCounters _).seq ?_ fun e w hw => ⟨hw.holding, nofun⟩
  intro _
  split
  · exact abides_throw fun w hw => ⟨hw.holding, nofun⟩
  · rename_i instanceGeneration hinstance
    have hlt : persisted.coreInstanceGeneration < instanceGeneration :=
      lt_of_checkedSucc_right hinstance
    exact lawful_store .coreInstance ⟨le_max_right64 _ _, UInt64.le_of_lt hlt⟩ hlt

theorem lawful_stateMetadata :
    Lawful J i (Turn J i turn first now counters) (file (.metadata .generationState) message)
      fun r w => Holding J i w ∧ ∀ found, r = .ok found →
        Turn J i turn first now counters w ∧ (found = none → now = none) := by
  apply lawful_turn_file (c := .metadata _) ⟨rfl, nofun⟩
  intro w found hw hreply hturn
  refine ⟨hturn, ?_⟩
  rintro rfl
  have hmissing : w.root.entries.lookup .generationState = none :=
    Option.map_eq_none_iff.1 (Except.ok.inj hreply)
  rw [← hw.persisted, ControlWorld.persisted, ControlRoot.persisted, hmissing]
  rfl

theorem lawful_loadOrInitializeGenerationState :
    Lawful J i (Turn J i turn first now counters) (loadOrInitializeGenerationState J)
      fun _ => Holding J i := by
  apply lawful_turn_seq tame_validateControlRoot ?_ fun e w hw => hw
  intro _
  apply lawful_stateMetadata.seq ?_ fun e w hw => hw.1
  intro found
  apply Abides.mono
    (P := fun w => Turn J i turn first now counters w ∧ (found = none → now = none)) ?_
    (fun w hw => hw.2 _ rfl) fun _ _ h => h
  apply abides_of_fact
  intro hmissing
  cases found with
  | some metadata =>
    exact (lawful_readGenerationState metadata).mono (fun _ h => h) fun _ _ h => h.1
  | none =>
    -- nothing is stored yet, so nothing can be lost
    have hcovers : Covers now (some ⟨0, 0⟩) := by
      rw [hmissing rfl]
      exact nofun
    apply (lawful_persistGenerationStateWithFault none hcovers).seq ?_ fun e w hw => hw.1
    exact fun _ => abides_pure fun w hw => hw.1

theorem lawful_loadInitialGenerations :
    Lawful J i (Unlocked J i) (loadInitialGenerations J) fun _ => Unlocked J i := by
  have hlocked : Lawful J i (Unlocked J i)
      (withGenerationStateLock do
        cleanupPendingGenerationStates
        loadOrInitializeGenerationState J)
      fun r w => Unlocked J i w ∧ ∀ a, r = .ok a → True := by
    apply lawful_withGenerationStateLock (R := fun _ _ => True) ?_ (fun _ _ _ _ _ => id)
      fun _ _ => id
    intro turn d counters
    apply lawful_turn_seq (tame_cleanupPendingGenerationStates nofun) ?_
      fun e w hw => ⟨hw, fun _ _ => trivial⟩
    intro _
    exact lawful_loadOrInitializeGenerationState.mono (fun _ h => h)
      fun _ _ h => ⟨h, fun _ _ => trivial⟩
  apply hlocked.seq ?_ fun e w hw => hw.1
  intro state
  apply abides_lift
  · exact fun w w' hothers hw => ⟨hw.1.others hothers, fun _ _ => trivial⟩
  · rintro w r w' ⟨hw, _⟩ rfl
    have hpromise := Promise.setCounters (J := J) (i := i) w state.counters
    exact ⟨hpromise, hw.holder, hpromise.consistent hw.consistent⟩

end Reserve

section Runs

def Finishing (J : GenerationCodec) (i : ι) (answer : InstanceAnswer) (w : ControlWorld ι) : Prop :=
  Unlocked J i w ∧ ∀ kind value, answer = .ok (some (kind, value)) → Earned J i kind value w

theorem lawful_program (task : InstanceTask) :
    Lawful J i (Unlocked J i) (task.program J) (Finishing J i) := by
  have hreserve : ∀ {x : ControlAttempt UInt64} (kind : GenerationKind),
      Lawful J i (Unlocked J i) x (fun r w => Unlocked J i w ∧
        ∀ value, r = .ok value → Earned J i kind value w) →
      Lawful J i (Unlocked J i) (do
        let value ← x
        return some (kind, value)) (Finishing J i) := by
    intro x kind hx
    apply hx.seq ?_ fun e w hw => ⟨hw.1, nofun⟩
    intro value
    apply abides_pure
    rintro w ⟨hw, hearned⟩
    refine ⟨hw, ?_⟩
    rintro _ _ ⟨⟩
    exact hearned value rfl
  cases task with
  | construct =>
    apply lawful_loadInitialGenerations.seq ?_ fun e w hw => ⟨hw, nofun⟩
    exact fun _ => abides_pure fun w hw => ⟨hw, nofun⟩
  | reserve kind =>
    cases kind with
    | owner => exact hreserve .owner lawful_reserveOwnerGeneration
    | coreInstance => exact hreserve .coreInstance lawful_reserveCoreInstanceGeneration

omit [DecidableEq ι] in
theorem Promise.issue (hw : Consistent J w) (hearned : Earned J i kind value w) :
    Promise J i w (w.issue i kind value) := by
  obtain ⟨turn, hmine, hgranted, hunissued⟩ := hearned
  have hadvances : Progresses J w (w.issue i kind value) := .same (.refl _) rfl
  have hissued : (w.issue i kind value).issued = w.issued ++ [⟨turn, kind, value⟩] := by
    rw [ControlWorld.issue, hmine]
    rfl
  refine ⟨hadvances, fun _ => ⟨hw.turn_lt, hw.turn_inj, ?_, ?_⟩, fun _ _ => rfl, fun _ _ => rfl,
    fun _ _ => .rfl, fun _ _ _ _ _ => rfl, fun _ _ _ => rfl, [⟨turn, kind, value⟩], hissued, ?_⟩
  · intro issue hissue
    rw [hissued] at hissue
    obtain hold | hnew := List.mem_append.1 hissue
    · exact (hw.granted issue hold).advances hadvances
    · rw [List.mem_singleton.1 hnew]
      exact hgranted.advances hadvances
  · rw [hissued, List.pairwise_append]
    refine ⟨hw.distinct, List.pairwise_singleton _ _, ?_⟩
    intro issue hold _ hnew
    rw [List.mem_singleton.1 hnew]
    exact hunissued issue hold
  · intro issue hnew
    rw [List.mem_singleton.1 hnew]
    exact hmine

theorem serviceInstances_abide (J : GenerationCodec) :
    (serviceInstances J).Abide (Promise J) (Consistent J) (fun (i : ι) w => w.holder ≠ some i)
      (Finishing J) where
  kept h := h.consistent
  begins := by
    rintro i w p w' ⟨rfl, task, rfl, _⟩ hw hholder
    exact ⟨Promise.refl i w', lawful_program task w' ⟨hholder, hw⟩⟩
  ends := by
    rintro i w answer w' rfl hw ⟨hunlocked, hearned⟩
    match answer with
    | .error _ => exact ⟨Promise.refl i w, hunlocked.holder⟩
    | .ok none =>
      exact ⟨.quiet (.refl _) rfl rfl rfl (fun _ _ => rfl) (fun _ _ => .rfl) fun _ _ _ _ _ => rfl,
        hunlocked.holder⟩
    | .ok (some (kind, value)) =>
      exact ⟨Promise.issue hw (hearned kind value rfl), hunlocked.holder⟩
  dies := by
    rintro i w w' rfl hw
    have hunlocked := Promise.unlocked (J := J) (i := i) w
    exact ⟨.quiet (.refl _) rfl rfl rfl (fun _ _ => rfl) hunlocked.holder fun _ _ _ _ _ => rfl,
      holder_unlocked w⟩
  idle_stable := by
    rintro i w w' ⟨j, hj, hpromise⟩ _ hholder
    exact fun h => hholder ((hpromise.holder i hj.symm).1 h)
  answer_stable := by
    rintro i a w w' hothers hw ⟨hunlocked, hearned⟩
    exact ⟨hunlocked.others hothers, fun kind value h => (hearned kind value h).others hothers hw⟩

def beforeInstances (root : ControlRoot) :
    Ensemble ι controlCalls (ControlWorld ι) InstanceAnswer :=
  ⟨.start root, fun _ => none⟩

omit [DecidableEq ι] in
theorem consistent_start (root : ControlRoot) : Consistent J (.start root : ControlWorld ι) :=
  ⟨nofun, nofun, nofun, .nil⟩

omit [DecidableEq ι] in
theorem covers_of_promised {w' : ControlWorld ι}
    (h : Relation.ReflTransGen (fun w w' => ∃ i, Promise J i w w') w w') :
    Covers (w.persisted J) (w'.persisted J) := by
  induction h with
  | refl => exact .refl _
  | tail _ hpromise ih =>
    obtain ⟨_, hpromise⟩ := hpromise
    exact ih.trans hpromise.advances.persisted

/-- The generations of one kind that were returned are in the order of the turns of the lock, and
whatever happens from any point of a run on, the file does not go back. -/
theorem generations_never_reused (root : ControlRoot)
    (hrun : (serviceInstances J).Run (beforeInstances root) e) :
    (e.world.issued.Pairwise fun a b => a.turn ≠ b.turn ∧ (a.kind = b.kind →
      (a.turn < b.turn → a.value < b.value) ∧ (b.turn < a.turn → b.value < a.value))) ∧
    ∀ e', (serviceInstances J).Run e e' →
      Covers (e.world.persisted J) ((e'.world : ControlWorld ι).persisted J) := by
  have horderly : Processes.Orderly (serviceInstances J) (Promise J) (Consistent J)
      (fun (i : ι) w => w.holder ≠ some i) (Finishing J) (beforeInstances root) :=
    ⟨consistent_start root, fun _ => nofun⟩
  have hreached := (horderly.run (serviceInstances_abide J) hrun).1
  have hconsistent := hreached.inv
  constructor
  · have hordered : ∀ a ∈ e.world.issued, ∀ b ∈ e.world.issued, a.kind = b.kind →
        a.turn < b.turn → a.value < b.value := by
      intro a ha b hb hkind hlt
      obtain ⟨c, hturn, habove⟩ := (hconsistent.granted b hb).above
      obtain ⟨_, hc, hle⟩ := (hconsistent.granted a ha).later b.turn (some c) hlt hturn
      cases hc
      exact UInt64.lt_of_le_of_lt (hkind ▸ hle) habove
    apply hconsistent.distinct.imp_of_mem
    intro a b ha hb hne
    exact ⟨hne, fun hkind => ⟨hordered a ha b hb hkind, hordered b hb a ha hkind.symm⟩⟩
  · intro e' hrun'
    exact covers_of_promised (hreached.run (serviceInstances_abide J) hrun').2

end Runs

def unfailingControl (J : GenerationCodec) (i : ι) : Handler controlCalls (ControlWorld ι)
  | w, .counters => (w.counters i, w)
  | w, .setCounters counters => ((), { w with counters := Function.update w.counters i counters })
  | w, .takeCommitFault => (none, w)
  | w, .newUuid => (0, w)
  | w, .effectiveUid => (w.root.uid, w)
  | w, .unlock => ((), w.unlocked i)
  | w, .file .flock => if w.holder = none then (.ok (), w.locked J i) else (.error alreadyExists, w)
  | w, .file c => ((performControl w.root c).1, { w with root := (performControl w.root c).2 })

theorem instanceCall_of_unfailing (w : ControlWorld ι) (c : ControlCall) (r : c.Reply)
    (w' : ControlWorld ι) (h : (unfailingControl J i).reliable w c r w') :
    instanceCall J i w c r w' := by
  cases c with
  | file c =>
    cases c with
    | flock =>
      simp only [Handler.reliable, unfailingControl] at h
      split at h
      · rename_i hfree
        cases h
        exact .inl ⟨rfl, hfree, rfl⟩
      · cases h
        exact .inr ⟨⟨_, rfl⟩, rfl⟩
    | _ =>
      cases h
      exact ⟨_, rfl, .inl rfl⟩
  | counters | effectiveUid =>
    cases h
    exact ⟨rfl, rfl⟩
  | _ =>
    cases h
    rfl

def ControlWorld.perform (J : GenerationCodec) (w : ControlWorld ι) (i : ι) (task : InstanceTask) :
    ControlWorld ι :=
  let done := (task.program J).run.run (unfailingControl J i) w
  done.2.answered i done.1

theorem perform_run (w : ControlWorld ι) (i : ι) (task : InstanceTask)
    (htask : w.constructed i = true ↔ task ≠ .construct) :
    (serviceInstances J).Run ⟨w, fun _ => none⟩ ⟨w.perform J i task, fun _ => none⟩ :=
  .solo rfl ⟨rfl, task, rfl, htask⟩
    ((Prog.finishes_reliable.2 rfl).map id instanceCall_of_unfailing) rfl

def freshControlRoot : ControlRoot :=
  ⟨⟨false, true, 0, 0, serviceDirectoryMode, 2, 1, 1⟩, 0, ∅, 2⟩

def constructedFirst : ControlWorld Bool :=
  (ControlWorld.start freshControlRoot).perform numberedCodec false .construct

def constructedBoth : ControlWorld Bool :=
  constructedFirst.perform numberedCodec true .construct

def reservedOnce : ControlWorld Bool :=
  constructedBoth.perform numberedCodec true (.reserve .owner)

def reservedTwice : ControlWorld Bool :=
  reservedOnce.perform numberedCodec false (.reserve .owner)

theorem generations_never_reused_twice :
    (serviceInstances numberedCodec).Run (beforeInstances freshControlRoot)
      ⟨reservedTwice, fun _ => none⟩ ∧ reservedTwice.issued = [⟨2, .owner, 1⟩, ⟨3, .owner, 2⟩] ∧
    reservedTwice.issued.Pairwise fun a b => a.turn ≠ b.turn ∧ (a.kind = b.kind →
      (a.turn < b.turn → a.value < b.value) ∧ (b.turn < a.turn → b.value < a.value)) := by
  have hrun : (serviceInstances numberedCodec).Run (beforeInstances freshControlRoot)
      ⟨reservedTwice, fun _ => none⟩ :=
    .trans (perform_run _ false .construct (by decide +kernel))
      (.trans (perform_run constructedFirst true .construct (by decide +kernel))
        (.trans (perform_run constructedBoth true (.reserve .owner) (by decide +kernel))
          (perform_run reservedOnce false (.reserve .owner) (by decide +kernel))))
  exact ⟨hrun, by decide +kernel, (generations_never_reused freshControlRoot hrun).1⟩

end Ratash
