import Ratash.Generation.Contents
import Ratash.Generation.Interrupted
import Ratash.Generation.Prune
import Ratash.Server.Dispatch

/-!
An apply that spares the generation in use keeps it in the slots and keeps its directory, wherever
it is stopped and whatever fails.
-/

namespace Ratash

open Interaction Attempt

variable {outside : OutsideFiles} {D : Type} {X : Codec D} {M : ManifestCodec}
  {g g' : GenerationRoot} {n : RuntimeGeneration}

def Houses (g : GenerationRoot) (n : RuntimeGeneration) : Prop :=
  (g.label (generationName n)).isSome

theorem Houses.quiet {c : RootCall} (h : Houses g n) (houtcome : Outcome outside g c g')
    (hc : generationName n ∉ c.relabels) : Houses g' n := by
  rw [Houses, houtcome.label hc]
  exact h

theorem houses_keptByContent (n : RuntimeGeneration) : KeptByContent outside (Houses · n) := by
  intro c hc g h
  refine ensures_rootCall (fun g' hg' => ?_) (fun _ _ => trivial) fun _ _ _ => trivial
  exact h.quiet hg' (hc ▸ List.not_mem_nil)

theorem houses_pending {c : RootCall} (uuid : BitVec 128)
    (hc : c.relabels = [pendingName X n' uuid]) :
    Keeps (failingRoot outside) (Houses · n) (rootCall c) := by
  intro g h
  refine ensures_rootCall (fun g' hg' => h.quiet hg' ?_) (fun _ _ => trivial) fun _ _ _ => trivial
  rw [hc, List.mem_singleton]
  exact (pendingName_ne_generationName uuid n).symm

theorem rename_keeps_houses (uuid : BitVec 128) : Keeps (failingRoot outside) (Houses · n)
      (rootCall (.rename (pendingName X n' uuid) (generationName n'))) := by
  intro g h
  refine ensures_rootCall (fun g' hg' => ?_) (fun _ _ => trivial) fun _ _ _ => trivial
  by_cases hn : n = n'
  · subst hn
    have hmoved (entry : RootEntry) : Houses ((g.removeEntry (pendingName X n uuid)).setEntry
        (generationName n) entry) n := by
      rw [Houses, GenerationRoot.label, GenerationRoot.setEntry, AList.lookup_insert]
      rfl
    obtain rfl | rfl | ⟨_, _, _, hwork, _⟩ := hg'
    · exact h
    · simp only [performRoot, GenerationRoot.renameEntry]
      split
      · exact h
      · exact hmoved _
      · split
        · exact h
        · split
          · exact hmoved _
          · exact h
    · cases hwork
  · apply h.quiet hg'
    intro hmem
    obtain hname | hname := List.mem_pair.1 hmem
    · exact pendingName_ne_generationName uuid n hname.symm
    · exact hn (generationName_injective hname)

theorem houses_keptByStaging (n n' : RuntimeGeneration) :
    KeptByStaging outside X n' (Houses · n) fun _ => (Houses · n) where
  content := houses_keptByContent n
  filling _ := houses_keptByContent n
  of_filling _ _ h := h
  pending uuid _ _ hc := houses_pending uuid hc
  permitted uuid g h := (houses_pending uuid rfl g h).mono (fun _ h => h) fun _ _ h _ _ => h
  renamed := rename_keeps_houses

theorem generationDirectoryExists_houses (n : RuntimeGeneration) :
    Attains outside
      (generationDirectoryExists (generationName n)) fun found g => found = true → Houses g n := by
  have hmetadata : Attains outside
      (rootCall (.symlinkMetadata (generationName n)))
      fun found g => found = g.label (generationName n) := by
    apply achieves_rootCall
    rintro g _ found ⟨⟩
    rfl
  apply (hmetadata.orThrow _).seq
  intro found
  cases found with
  | none => exact achieves_pure _ fun _ _ h => by cases h
  | some metadata =>
    apply Achieves.seq (achieves_require _)
    intro _
    refine achieves_pure _ fun g h _ => ?_
    rw [Houses, ← h.1]
    rfl

theorem rename_houses (pending : String) (n : RuntimeGeneration) :
    Attains outside
      (rootCall (.rename pending (generationName n))) fun _ g => Houses g n := by
  apply achieves_rootCall
  intro g _ _ hok
  cases hentry : g.entries.lookup pending with
  | none =>
    simp only [performRoot, GenerationRoot.renameEntry, hentry] at hok
    cases hok
  | some entry =>
    have htarget : (performRoot outside g (.rename pending (generationName n))).2.entries.lookup
        (generationName n) = some entry := renameEntry_target hentry hok
    rw [Houses, GenerationRoot.label, htarget]
    rfl

theorem stageNewBundle_houses (ownerUid : Nat) (bundle : RuntimeBundle)
    (geoData : Option GeoDataIngress) : Attains outside
      (stageNewBundle X M ownerUid bundle geoData) fun _ g => Houses g bundle.generation := by
  apply (achieves_true _).seq
  intro _
  apply (achieves_true _).seq
  intro _
  apply (achieves_true _).seq
  intro _
  apply (achieves_true _).seq
  intro _
  apply (achieves_true _).seq
  intro _
  apply (achieves_true _).seq
  intro pending
  apply (achieves_true _).seq
  intro filled
  cases filled with
  | error error => exact (achieves_true _).seq fun _ => achieves_throw _
  | ok _ =>
    apply (rename_houses pending bundle.generation).result.seq
    intro renamed
    cases renamed with
    | ok _ =>
      exact ((houses_keptByContent _ _ rfl).orThrow _).achieves.mono (fun _ h => h () rfl)
        fun _ _ h => h
    | error error =>
      dsimp only
      split
      · apply (achieves_true _).seq
        intro _
        apply (generationDirectoryExists_houses _).seq
        intro staged
        exact (achieves_require _).mono (fun _ h => h) fun _ _ h => h.1 h.2
      · exact (achieves_true _).seq fun _ => achieves_throw _

theorem stageRuntimeBundle_houses (runtimeRoot : Path) (effectiveUid ownerUid : Nat)
    (bundle : RuntimeBundle) (geoData : Option GeoDataIngress) :
    Attains outside
      (stageRuntimeBundle X M runtimeRoot effectiveUid ownerUid bundle geoData)
      fun staged g => staged.generation = bundle.generation ∧ Houses g bundle.generation := by
  apply (achieves_true _).seq
  intro _
  apply (generationDirectoryExists_houses _).seq
  intro staged
  split
  · rename_i hstaged
    apply Achieves.seq (R := fun _ g => Houses g bundle.generation)
    · exact (keeps_forEach fun _ _ =>
        ensureStagedGeoData_keeps (houses_keptByContent _) _ _ _).achieves.mono
        (fun _ h => h hstaged) fun _ _ h => h
    · exact fun _ => achieves_pure _ fun _ h => ⟨rfl, h⟩
  · apply Achieves.seq (R := fun _ g => Houses g bundle.generation)
    · exact (stageNewBundle_houses _ _ _).mono (fun _ _ => trivial) fun _ _ h => h
    · exact fun _ => achieves_pure _ fun _ h => ⟨rfl, h⟩

theorem pruneKeeps_houses {retained : List RuntimeGeneration} {uses : RuntimeGeneration → Prop}
    (huses : ∀ n, uses n → n ∈ retained) :
    PruneKeeps outside X retained fun g => ∀ n, uses n → Houses g n := by
  intro g c g' hc houtcome h n hn
  apply (h n hn).quiet houtcome
  intro hname
  have htouched : generationName n ∈ c.touched := by
    cases c <;> first | exact hname | cases hname
  obtain ⟨n', hn', hname⟩ | ⟨n', uuid, hname⟩ := hc.touched _ htouched
  · exact hn' (generationName_injective hname ▸ huses n hn)
  · exact generationName_ne_temporaryName X n n' uuid _ hname

abbrev RetentionView := ServiceRuntimeRetention × (RuntimeGeneration → Prop)

def retentionOutside : Environment contextCalls RetentionView
  | v, .retention, r, v' => r = v.1 ∧ v' = v
  | v, .setRetention retention, _, v' => v' = (retention, v.2)
  | v, .applyCandidate _ bundle, .ok _, v' => v' = (v.1, fun n => v.2 n ∨ n = bundle.generation)
  | v, .applyCandidate _ _, .error _, v' => v' = v

def Housed (v : GenerationRoot × RetentionView) : Prop :=
  ∀ n, v.2.2 n → n ∈ v.2.1.retained ∧ Houses v.1 n

section Dispatch

variable {v : RetentionView} {Q : Except CoreRuntimeError β → _ → Prop}

theorem context_seq {f : c.Reply → ServerAttempt β} (hhoused : Housed (g, v))
    (hf : ∀ r v', retentionOutside v c r v' → (f r).run.Ensures
      ((failingRoot outside).sum retentionOutside) Housed Q (g, v')) :
    (context c >>= f).run.Ensures ((failingRoot outside).sum retentionOutside) Housed Q (g, v) := by
  refine ensures_bind.2 ⟨hhoused, ?_⟩
  rintro r ⟨g', v'⟩ ⟨hstep, rfl⟩
  exact ⟨(hf r v' hstep).here, hf r v' hstep⟩

theorem ingress_seq {x : IngressAttempt α} {f : α → ServerAttempt β}
    {R : Except BundleIngressError α → GenerationRoot → Prop}
    (hx : x.run.Ensures (failingRoot outside) (fun g => Housed (g, v)) R g)
    (hok : ∀ a g', Housed (g', v) → R (.ok a) g' → (f a).run.Ensures
      ((failingRoot outside).sum retentionOutside) Housed Q (g', v))
    (herr : ∀ e g', Housed (g', v) → Q (.error e) (g', v)) :
    (ingress x >>= f).run.Ensures ((failingRoot outside).sum retentionOutside) Housed Q (g, v) := by
  rw [ingress, bind_assoc]
  apply ensures_result_seq (R := fun r u => Housed (u.1, v) ∧ R r u.1 ∧ u.2 = v)
  · apply ensures_left.2
    exact hx.mono (fun _ h => h) fun _ _ hI hR => ⟨hI, hR, rfl⟩
  rintro r ⟨g', _⟩ hhoused ⟨_, hR, rfl⟩
  apply ensures_ofExcept_seq hhoused
  · intro a ha
    cases r with
    | ok b =>
      obtain rfl := Except.ok.inj ha
      exact hok b g' hhoused hR
    | error e => cases ha
  · exact fun e _ => herr e g' hhoused

theorem pruneRetained_seq {retention : ServiceRuntimeRetention} {f : Unit → ServerAttempt β}
    (extra : RuntimeGeneration → Prop) (hhoused : Housed (g, v))
    (hextra : ∀ n, extra n → Houses g n) (hretained : ∀ n, v.2 n ∨ extra n → n ∈ retention.retained)
    (hok : ∀ g', Housed (g', v) → (∀ n, extra n → Houses g' n) → (f ()).run.Ensures
      ((failingRoot outside).sum retentionOutside) Housed Q (g', v))
    (herr : ∀ e g', Housed (g', v) → Q (.error e) (g', v)) :
    (pruneRetained X retention >>= f).run.Ensures ((failingRoot outside).sum retentionOutside)
      Housed Q (g, v) := by
  have hprune : (pruneRuntimeGenerationsWithReserved X retention
      reservedServiceDirectories).run.Ensures (failingRoot outside) (fun g => Housed (g, v))
      (fun _ g' => ∀ n, extra n → Houses g' n) g := by
    have hkept : PruneKeeps outside X retention.retained
        fun g => ∀ n, v.2 n ∨ extra n → Houses g n :=
      pruneKeeps_houses hretained
    apply (pruneRuntimeGenerationsWithReserved_keeps hkept reservedServiceDirectories g
      fun n hn => hn.elim (fun h => (hhoused n h).2) (hextra n)).mono
    · exact fun g' h n hn => ⟨(hhoused n hn).1, h n (.inl hn)⟩
    · exact fun _ g' h _ n hn => h n (.inr hn)
  rw [pruneRetained, bind_assoc]
  apply ensures_orThrow_seq (R := fun _ u => (∀ n, extra n → Houses u.1 n) ∧ u.2 = v)
  · apply ensures_left.2
    exact hprune.mono (fun _ h => h) fun _ _ _ h => ⟨h, rfl⟩
  · rintro _ ⟨g', _⟩ hhoused' ⟨hextra', rfl⟩
    exact hok g' hhoused' hextra'
  · rintro e ⟨g', _⟩ hhoused' ⟨_, rfl⟩
    exact herr _ g' hhoused'

theorem stageRuntimeBundle_housed (server : CoreServiceServerConfig) (peerUid : Nat)
    (bundle : RuntimeBundle) (hhoused : Housed (g, v)) :
    (stageRuntimeBundle X M server.runtimeStagingRoot server.effectiveUid peerUid bundle
      server.installedGeoData).run.Ensures (failingRoot outside) (fun g => Housed (g, v))
      (fun r g' => ∀ staged, r = .ok staged →
        staged.generation = bundle.generation ∧ Houses g' bundle.generation) g := by
  apply Prog.Ensures.mono (Prog.Ensures.and
    (Prog.Ensures.all fun i : Subtype v.2 => stageRuntimeBundle_keeps (houses_keptByStaging i.1 _)
      server.runtimeStagingRoot server.effectiveUid peerUid server.installedGeoData g
      (hhoused i.1 i.2).2)
    (stageRuntimeBundle_houses server.runtimeStagingRoot server.effectiveUid peerUid bundle
      server.installedGeoData g trivial))
  · exact fun g' h n hn => ⟨(hhoused n hn).1, h.1 ⟨n, hn⟩⟩
  · exact fun _ _ _ h => h.2

theorem settleRetention_error {planned : ServiceRuntimeRetention}
    (hhoused : Housed (g, planned, uses))
    (hkept : ∀ n, uses n → n ∈ (planned.discardFailed generation).retained) :
    (settleRetention X planned generation (.error error)).run.Ensures
      ((failingRoot outside).sum retentionOutside) Housed (fun _ _ => True) (g, planned, uses) := by
  rw [settleRetention]
  split
  · exact ⟨hhoused, trivial⟩
  · apply pruneRetained_seq (fun _ => False) hhoused nofun
    case hretained => exact fun n hn => hkept n (hn.resolve_right id)
    case herr => exact fun _ _ _ => trivial
    intro g' hhoused' _
    apply context_seq hhoused'
    rintro ⟨⟩ _ rfl
    exact ⟨fun n hn => ⟨hkept n hn, (hhoused' n hn).2⟩, trivial⟩

theorem dispatchApplyCandidate_housed {retention : ServiceRuntimeRetention}
    {uses : RuntimeGeneration → Prop} (server : CoreServiceServerConfig) (peerUid : Nat)
    (owner : OwnerSessionProof) (bundle : RuntimeBundle) (hhoused : Housed (g, retention, uses))
    (hspares : ∀ n, uses n → retention.Spares bundle.generation n) :
    (dispatchApplyCandidate X M server peerUid owner bundle).run.Ensures
      ((failingRoot outside).sum retentionOutside) Housed (fun _ _ => True)
      (g, retention, uses) := by
  apply context_seq hhoused
  rintro slots _ ⟨rfl, rfl⟩
  apply ensures_ofExcept_seq hhoused ?_ fun _ _ => trivial
  intro planned hplanned
  have hplan : ServiceRuntimeRetention.plan slots bundle.generation = .ok planned := by
    cases hcase : ServiceRuntimeRetention.plan slots bundle.generation with
    | error e =>
      rw [hcase] at hplanned
      cases hplanned
    | ok planned' =>
      rw [hcase] at hplanned
      exact congrArg _ (Except.ok.inj hplanned)
  have hkept : ∀ n, uses n → n ∈ planned.retained := fun n hn =>
    ServiceRuntimeRetention.plan_spares hplan (hhoused n hn).1 (hspares n hn)
  have hself : bundle.generation ∈ planned.retained := ServiceRuntimeRetention.plan_self hplan
  apply ingress_seq (stageRuntimeBundle_housed server peerUid bundle hhoused) ?_
    fun _ _ _ => trivial
  intro staged g₁ hhoused₁ hstaged
  obtain ⟨hgeneration, hhouses⟩ := hstaged staged rfl
  apply pruneRetained_seq (· = bundle.generation) hhoused₁
  case hextra =>
    rintro _ rfl
    exact hhouses
  case hretained =>
    rintro n (hn | rfl)
    · exact hkept n hn
    · exact hself
  case herr => exact fun _ _ _ => trivial
  intro g₂ hhoused₂ hextra₂
  apply context_seq hhoused₂
  rintro ⟨⟩ _ rfl
  have hplanned₂ : Housed (g₂, planned, uses) := fun n hn => ⟨hkept n hn, (hhoused₂ n hn).2⟩
  apply context_seq hplanned₂
  intro answer v' hanswer
  cases answer with
  | ok result =>
    subst hanswer
    refine ⟨?_, trivial⟩
    rintro n (hn | rfl)
    · exact hplanned₂ n hn
    · rw [hgeneration]
      exact ⟨hself, hextra₂ _ rfl⟩
  | error error =>
    subst hanswer
    exact settleRetention_error hplanned₂ fun n hn =>
      ServiceRuntimeRetention.discardFailed_spares hplan (hhoused n hn).1 (hspares n hn)

end Dispatch

end Ratash
