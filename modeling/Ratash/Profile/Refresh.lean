import Mathlib.Logic.Relation
import Ratash.Profile.Catalog

namespace Ratash

namespace ProfileCatalog

variable {D U S : Type} {X : Codec D} {catalog : ProfileCatalog U S} {id : ProfileId}

theorem insert_error (h : (catalog.insert profile).1 = .error e) :
    (catalog.insert profile).2 = catalog := by
  unfold insert at h ⊢
  split
  · rfl
  · rw [if_neg ‹_›] at h
    cases h

theorem activate_error (h : (catalog.activate X selector).1 = .error e) :
    (catalog.activate X selector).2 = catalog := by
  unfold activate at h ⊢
  grind

theorem remove_error (h : (catalog.remove X selector).1 = .error e) :
    (catalog.remove X selector).2 = catalog := by
  unfold remove at h ⊢
  grind

theorem commitRefresh_error
    (h : (catalog.commitRefresh id context snapshot success next).1 = .error e) :
    (catalog.commitRefresh id context snapshot success next).2 = catalog := by
  unfold commitRefresh at h ⊢
  grind

theorem activate_cases (X : Codec D) (catalog : ProfileCatalog U S) (selector : String) :
    (catalog.activate X selector).2 = catalog ∨ ∃ id revision, catalog.resolve X selector = .ok id ∧
        checkedSucc catalog.activeRevision = some revision ∧ (catalog.activate X selector).2 =
          { catalog with activeRevision := revision, activeProfileId := some id } := by
  unfold activate
  grind

theorem remove_cases (X : Codec D) (catalog : ProfileCatalog U S) (selector : String) :
    (catalog.remove X selector).2 = catalog ∨ ∃ id, catalog.activeProfileId ≠ some id ∧
        (catalog.remove X selector).2 = { catalog with profiles := catalog.profiles.erase id } := by
  unfold remove
  grind

theorem insert_cases (catalog : ProfileCatalog U S) (profile : Profile U S) :
    (catalog.insert profile).2 = catalog ∨
      (profile.id ∉ catalog.profiles ∧ (catalog.insert profile).2 =
        { catalog with profiles := catalog.profiles.insert profile.id profile }) := by
  unfold insert
  grind

theorem commitRefresh_ok
    (h : (catalog.commitRefresh id context snapshot success next).1 = .ok revision) :
    ∃ profile, catalog.profiles[id]? = some profile ∧
      profile.revision = context.profileRevision ∧
      (catalog.activeProfileId = some id → context.activeRevision = some catalog.activeRevision) ∧
      checkedSucc profile.revision = some revision ∧
      (catalog.commitRefresh id context snapshot success next).2 = { catalog with
        profiles := catalog.profiles.insert id
          (profile.refreshed revision snapshot success next) } := by
  unfold commitRefresh at h ⊢
  grind

def Keyed (catalog : ProfileCatalog U S) : Prop :=
  ∀ (id : ProfileId) (profile : Profile U S), catalog.profiles[id]? = some profile → profile.id = id

theorem mem_of_resolve (hkeyed : catalog.Keyed) (h : catalog.resolve X selector = .ok id) :
    id ∈ catalog.profiles := by
  unfold resolve at h
  split at h
  · split at h
    · cases h
      assumption
    · cases h
  · split at h
    · cases h
    · rename_i hnamed
      cases h
      have hmem : id ∈ catalog.named selector := hnamed ▸ List.mem_singleton_self _
      obtain ⟨⟨key, profile⟩, hentry, rfl⟩ := List.mem_map.1 hmem
      have hget := Std.ExtTreeMap.mem_toList_iff_getElem?_eq_some.1 (List.mem_filter.1 hentry).1
      rw [hkeyed key profile hget]
      exact Std.ExtTreeMap.mem_iff_isSome_getElem?.2 (by rw [hget]; rfl)
    · cases h

end ProfileCatalog

section

variable {D U S : Type} (X : Codec D)

/-- What may happen to a catalog. A refresh commits with any context, also with one from before the
profile was removed and inserted again. -/
inductive CatalogStep : ProfileCatalog U S → ProfileCatalog U S → Prop where
  | commit {c : ProfileCatalog U S} (id : ProfileId) (context : RefreshContext) (snapshot : S)
      (success next : UInt64) :
      CatalogStep c (c.commitRefresh id context snapshot success next).2
  | amend {c c' : ProfileCatalog U S} {id : ProfileId} {change : Profile U S → Profile U S}
      (hid : ∀ profile, (change profile).id = profile.id)
      (hrevision : ∀ profile, (change profile).revision = profile.revision)
      (hsnapshot : ∀ profile, (change profile).snapshot = profile.snapshot)
      (hcatalog : c.amend id change = some c') : CatalogStep c c'
  | activate {c : ProfileCatalog U S} (selector : String) : CatalogStep c (c.activate X selector).2
  | add {c : ProfileCatalog U S} (profile : Profile U S) : CatalogStep c (c.insert profile).2
  | remove {c : ProfileCatalog U S} (selector : String) : CatalogStep c (c.remove X selector).2

def CatalogRuns (c c' : ProfileCatalog U S) : Prop := Relation.ReflTransGen (CatalogStep X) c c'

/-- A run in which the profile is in the catalog after every step. -/
def CatalogStays (id : ProfileId) (c c' : ProfileCatalog U S) : Prop :=
  Relation.ReflTransGen (fun a b => CatalogStep X a b ∧ id ∈ b.profiles) c c'

end

namespace ProfileCatalog

variable {D U S : Type} {X : Codec D} {c c' : ProfileCatalog U S} {id : ProfileId}

structure Onward (p q : Profile U S) : Prop where
  revision : p.revision ≤ q.revision
  snapshot : q.revision = p.revision → q.snapshot = p.snapshot

theorem Onward.refl (p : Profile U S) : Onward p p := ⟨UInt64.le_refl _, fun _ => rfl⟩

theorem Onward.trans {p q r : Profile U S} (h : Onward p q) (h' : Onward q r) : Onward p r := by
  refine ⟨UInt64.le_trans h.revision h'.revision, fun heq => ?_⟩
  have hq : q.revision = p.revision :=
    UInt64.le_antisymm (heq ▸ h'.revision) h.revision
  exact (h'.snapshot (heq.trans hq.symm)).trans (h.snapshot hq)

structure Sound (c : ProfileCatalog U S) : Prop where
  keyed : c.Keyed
  active : ∀ id, c.activeProfileId = some id → id ∈ c.profiles

/-- What a step keeps. Nothing is said of a profile that was not there before it. -/
structure Kept (c c' : ProfileCatalog U S) : Prop where
  sound : c.Sound → c'.Sound
  active : c.activeRevision ≤ c'.activeRevision
  profiles : ∀ (id : ProfileId) p q, c.profiles[id]? = some p → c'.profiles[id]? = some q →
    Onward p q

theorem Kept.refl (c : ProfileCatalog U S) : Kept c c where
  sound h := h
  active := UInt64.le_refl _
  profiles := by
    intro id p q hp hq
    cases hp.symm.trans hq
    exact .refl p

theorem mem_profiles_iff : id ∈ c.profiles ↔ ∃ profile, c.profiles[id]? = some profile := by
  rw [Std.ExtTreeMap.mem_iff_isSome_getElem?, Option.isSome_iff_exists]

theorem Kept.insert {q : Profile U S}
    (hp : ∀ p, c.profiles[id]? = some p → Onward p q) (hid : c.Keyed → q.id = id)
    (hc : c' = { c with profiles := c.profiles.insert id q }) : Kept c c' := by
  have hget : ∀ id' : ProfileId, c'.profiles[id']? =
      if id = id' then some q else c.profiles[id']? := by
    intro id'
    rw [hc, Std.ExtTreeMap.getElem?_insert]
    simp only [Std.compare_eq_iff_eq]
  have hsame : c'.activeProfileId = c.activeProfileId ∧ c'.activeRevision = c.activeRevision := by
    rw [hc]
    exact ⟨rfl, rfl⟩
  refine ⟨fun h => ⟨fun id' r hr => ?_, fun id' hactive => ?_⟩, hsame.2 ▸ UInt64.le_refl _,
    fun id' p r hp' hr => ?_⟩
  · rw [hget] at hr
    split at hr
    · rename_i heq
      cases hr
      exact heq ▸ hid h.keyed
    · exact h.keyed id' r hr
  · obtain ⟨p, hp'⟩ := mem_profiles_iff.1 (h.active id' (hsame.1 ▸ hactive))
    rw [mem_profiles_iff, hget]
    split
    · exact ⟨q, rfl⟩
    · exact ⟨p, hp'⟩
  · rw [hget] at hr
    split at hr
    · rename_i heq
      cases hr
      exact hp p (heq ▸ hp')
    · cases hp'.symm.trans hr
      exact .refl p

theorem Kept.activate (c : ProfileCatalog U S) (selector : String) :
    Kept c (c.activate X selector).2 := by
  rcases activate_cases X c selector with heq | ⟨id, revision, hresolve, hsucc, heq⟩
  · rw [heq]
    exact .refl c
  rw [heq]
  refine ⟨fun h => ⟨h.keyed, fun id' hactive => ?_⟩, ?_, (Kept.refl c).profiles⟩
  · cases hactive
    exact mem_of_resolve h.keyed hresolve
  · rw [UInt64.le_iff_toNat_le, checkedSucc_eq_some hsucc]
    exact Nat.le_succ _

theorem Kept.remove (c : ProfileCatalog U S) (selector : String) :
    Kept c (c.remove X selector).2 := by
  rcases remove_cases X c selector with heq | ⟨id, hactive, heq⟩
  · rw [heq]
    exact .refl c
  rw [heq]
  have hget : ∀ (id' : ProfileId) q, (c.profiles.erase id)[id']? = some q →
      c.profiles[id']? = some q := by
    intro id' q hq
    rw [Std.ExtTreeMap.getElem?_erase] at hq
    split at hq
    · cases hq
    · exact hq
  refine ⟨fun h => ⟨fun id' q hq => h.keyed id' q (hget id' q hq), fun id' hid' => ?_⟩,
    UInt64.le_refl _, fun id' p q hp hq => (Kept.refl c).profiles id' p q hp (hget id' q hq)⟩
  have hne : ¬compare id id' = .eq := fun hsame =>
    hactive (Std.compare_eq_iff_eq.1 hsame ▸ hid')
  exact Std.ExtTreeMap.mem_erase.2 ⟨hne, h.active id' hid'⟩

theorem kept_step (h : CatalogStep X c c') : Kept c c' := by
  cases h with
  | commit id context snapshot success next =>
    cases hresult : (c.commitRefresh id context snapshot success next).1 with
    | error e =>
      rw [commitRefresh_error hresult]
      exact .refl c
    | ok revision =>
      obtain ⟨profile, hprofile, -, -, hsucc, hcatalog⟩ := commitRefresh_ok hresult
      have hlt := checkedSucc_eq_some hsucc
      have hid : c.Keyed → (profile.refreshed revision snapshot success next).id = id :=
        fun hkeyed => hkeyed id profile hprofile
      refine .insert (fun p hp => ?_) hid hcatalog
      cases hprofile.symm.trans hp
      refine ⟨?_, fun hsame => ?_⟩
      · rw [UInt64.le_iff_toNat_le]
        exact hlt ▸ Nat.le_succ _
      · have hsame : revision = profile.revision := hsame
        rw [hsame] at hlt
        omega
  | @amend _ id change hid hrevision hsnapshot hcatalog =>
    obtain ⟨profile, hprofile, heq⟩ := Option.map_eq_some_iff.1 hcatalog
    refine .insert (fun p hp => ?_)
      (fun hkeyed => (hid profile).trans (hkeyed id profile hprofile)) heq.symm
    cases hprofile.symm.trans hp
    exact ⟨hrevision profile ▸ UInt64.le_refl _, fun _ => hsnapshot profile⟩
  | activate selector => exact .activate c selector
  | add profile =>
    rcases insert_cases c profile with heq | ⟨habsent, heq⟩
    · rw [heq]
      exact .refl c
    · refine .insert (fun p hp => ?_) (fun _ => rfl) heq
      exact absurd (mem_profiles_iff.2 ⟨p, hp⟩) habsent
  | remove selector => exact .remove c selector

theorem runs_kept (h : CatalogRuns X c c') :
    (c.Sound → c'.Sound) ∧ c.activeRevision ≤ c'.activeRevision := by
  induction h with
  | refl => exact ⟨id, UInt64.le_refl _⟩
  | tail _ hstep ih =>
    have hkept := kept_step hstep
    exact ⟨hkept.sound ∘ ih.1, UInt64.le_trans ih.2 hkept.active⟩

theorem stays_onward (h : CatalogStays X id c c') (hp : c.profiles[id]? = some p) :
    ∃ q, c'.profiles[id]? = some q ∧ Onward p q := by
  induction h with
  | refl => exact ⟨p, hp, .refl p⟩
  | tail _ hstep ih =>
    obtain ⟨q, hq, honward⟩ := ih
    obtain ⟨r, hr⟩ := mem_profiles_iff.1 hstep.2
    exact ⟨r, hr, honward.trans ((kept_step hstep.1).profiles id q r hq hr)⟩

theorem stays_runs (h : CatalogStays X id c c') : CatalogRuns X c c' :=
  Relation.ReflTransGen.mono (fun _ _ hstep => hstep.1) _ _ h

def ErrorsKeep (X : Codec D) (catalog : ProfileCatalog U S) : Prop :=
  (∀ profile e, (catalog.insert profile).1 = .error e → (catalog.insert profile).2 = catalog) ∧
  (∀ selector e, (catalog.activate X selector).1 = .error e →
    (catalog.activate X selector).2 = catalog) ∧
  (∀ selector e, (catalog.remove X selector).1 = .error e →
    (catalog.remove X selector).2 = catalog) ∧
  ∀ id context snapshot success next e,
    (catalog.commitRefresh id context snapshot success next).1 = .error e →
      (catalog.commitRefresh id context snapshot success next).2 = catalog

theorem errorsKeep (X : Codec D) (catalog : ProfileCatalog U S) : catalog.ErrorsKeep X :=
  ⟨fun _ _ => insert_error, fun _ _ => activate_error, fun _ _ => remove_error,
    fun _ _ _ _ _ _ => commitRefresh_error⟩

/-- A context captured in one catalog is committed in a later one: the profile has the revision it
had, if it stayed in between also the snapshot, and if it is active it was so and nothing else has
been activated. What is committed is the next revision. -/
def CommitsUnseen (X : Codec D) (captured c : ProfileCatalog U S) (id : ProfileId)
    (context : RefreshContext) (snapshot : S) (success next : UInt64)
    (revision : ProfileRevision) : Prop :=
  ∃ p q, captured.profiles[id]? = some p ∧ c.profiles[id]? = some q ∧ q.revision = p.revision ∧
    (CatalogStays X id captured c → q.snapshot = p.snapshot) ∧
    (c.activeProfileId = some id →
      captured.activeProfileId = some id ∧ captured.activeRevision = c.activeRevision) ∧
    revision.toNat = q.revision.toNat + 1 ∧
    (c.commitRefresh id context snapshot success next).2 = { c with
      profiles := c.profiles.insert id (q.refreshed revision snapshot success next) }

theorem commitsUnseen (hcaptured : c.refreshContext id = .ok context)
    (hok : (c'.commitRefresh id context snapshot success next).1 = .ok revision) :
    c.CommitsUnseen X c' id context snapshot success next revision := by
  obtain ⟨q, hq, hrevision, hactive, hsucc, hcatalog⟩ := commitRefresh_ok hok
  unfold refreshContext at hcaptured
  split at hcaptured
  · cases hcaptured
  rename_i p hp
  cases hcaptured
  refine ⟨p, q, hp, hq, hrevision, fun hstays => ?_, fun hid => ?_, checkedSucc_eq_some hsucc,
    hcatalog⟩
  · obtain ⟨q', hq', honward⟩ := stays_onward hstays hp
    cases hq.symm.trans hq'
    exact honward.snapshot hrevision
  · simpa using hactive hid

end ProfileCatalog

/-- No profile update is lost, however refreshes, activations, additions and removals of profiles
interleave. Revisions do not decrease while the profile stays. -/
theorem no_lost_profile_update {D U S : Type} (X : Codec D) {c₀ c c' : ProfileCatalog U S}
    (hkeyed : c₀.Keyed) (hactive : ∀ id, c₀.activeProfileId = some id → id ∈ c₀.profiles)
    (hrun : CatalogRuns X c₀ c) (hrun' : CatalogRuns X c c') :
    (∀ id context, c.refreshContext id = .ok context → ∀ snapshot success next revision,
      (c'.commitRefresh id context snapshot success next).1 = .ok revision →
        c.CommitsUnseen X c' id context snapshot success next revision) ∧
    (∀ id, c'.activeProfileId = some id → id ∈ c'.profiles) ∧
    c.activeRevision ≤ c'.activeRevision ∧
    (∀ (id : ProfileId) p q, CatalogStays X id c c' → c.profiles[id]? = some p →
      c'.profiles[id]? = some q → p.revision ≤ q.revision) ∧ c'.ErrorsKeep X := by
  have hsound := (ProfileCatalog.runs_kept hrun).1 ⟨hkeyed, hactive⟩
  have hkept := ProfileCatalog.runs_kept hrun'
  refine ⟨fun _ _ hcaptured _ _ _ _ hok => ProfileCatalog.commitsUnseen hcaptured hok,
    (hkept.1 hsound).active, hkept.2, fun id p q hstays hp hq => ?_, c'.errorsKeep X⟩
  obtain ⟨q', hq', honward⟩ := ProfileCatalog.stays_onward hstays hp
  cases hq.symm.trans hq'
  exact honward.revision

def homeProfile : Profile Unit String := .fresh ⟨1⟩ "home" () "first" 0 10

def workProfile : Profile Unit String := .fresh ⟨2⟩ "work" () "other" 0 10

def twoProfiles : ProfileCatalog Unit String :=
  (ProfileCatalog.insert workProfile (ProfileCatalog.insert homeProfile .new).2).2

theorem twoProfiles_runs : CatalogRuns Plain.codec .new twoProfiles :=
  .tail (.single (.add homeProfile)) (.add workProfile)

def workRefreshed : ProfileCatalog Unit String :=
  (twoProfiles.commitRefresh ⟨2⟩ ⟨1, none⟩ "third" 10 20).2

def workRemoved : ProfileCatalog Unit String := (workRefreshed.remove Plain.codec "aa").2

/-- The second profile has been refreshed, removed, inserted again under its id and activated. -/
def workActivated : ProfileCatalog Unit String :=
  ((workRemoved.insert workProfile).2.activate Plain.codec "aa").2

theorem home_stays : CatalogStays Plain.codec ⟨1⟩ twoProfiles workActivated :=
  .tail (.tail (.tail (.single ⟨.commit .., by decide +kernel⟩)
    ⟨.remove "aa", by decide +kernel⟩) ⟨.add workProfile, by decide +kernel⟩)
    ⟨.activate "aa", by decide +kernel⟩

theorem no_lost_profile_update_home :
    (workActivated.commitRefresh ⟨1⟩ ⟨1, none⟩ "second" 10 20).1 = .ok 2 ∧
      workActivated.activeProfileId = some ⟨2⟩ ∧
      CatalogStays Plain.codec ⟨1⟩ twoProfiles workActivated ∧
      twoProfiles.CommitsUnseen Plain.codec workActivated ⟨1⟩ ⟨1, none⟩ "second" 10 20 2 := by
  have hcommit : (workActivated.commitRefresh ⟨1⟩ ⟨1, none⟩ "second" 10 20).1 = .ok 2 := by
    decide +kernel
  have hkeyed : (ProfileCatalog.new : ProfileCatalog Unit String).Keyed := by
    intro id profile hget
    cases Std.ExtTreeMap.getElem?_empty.symm.trans hget
  have hall := no_lost_profile_update Plain.codec hkeyed (fun _ hactive => by cases hactive)
    twoProfiles_runs (ProfileCatalog.stays_runs home_stays)
  exact ⟨hcommit, by decide +kernel, home_stays,
    hall.1 ⟨1⟩ ⟨1, none⟩ (by decide +kernel) "second" 10 20 2 hcommit⟩

/-- A profile that was removed and inserted again under its id starts over. -/
theorem readded_profile_starts_over :
    ∃ c c' : ProfileCatalog Unit String, CatalogRuns Plain.codec .new c ∧
      CatalogRuns Plain.codec c c' ∧ c.profiles[(⟨2⟩ : ProfileId)]?.map (·.revision) = some 2 ∧
      c'.profiles[(⟨2⟩ : ProfileId)]?.map (·.revision) = some 1 := by
  refine ⟨workRefreshed, workActivated, .tail twoProfiles_runs (.commit ..),
    .tail (.tail (.single (.remove "aa")) (.add workProfile)) (.activate "aa"), ?_⟩
  decide +kernel

end Ratash
