import Ratash.Generation.Root

namespace Ratash

open Interaction Attempt

abbrev Attains (outside : OutsideFiles) {ε α : Type} (x : Attempt rootCalls ε α)
    (Q : α → GenerationRoot → Prop) : Prop :=
  Achieves (failingRoot outside) (fun _ => True) x Q

abbrev ReadsRoot (outside : OutsideFiles) (g : GenerationRoot) {ε α : Type}
    (x : Attempt rootCalls ε α) (v : Except ε α) : Prop :=
  Reads (performRoot outside) (Outcome outside) g x v

variable {outside : OutsideFiles} {g : GenerationRoot}
variable {I : GenerationRoot → Prop} {c : RootCall}

theorem ensures_rootCall {Q : IoResult c.Value → GenerationRoot → Prop}
    (hI : ∀ g', Outcome outside g c g' → I g')
    (hok : ∀ a, (performRoot outside g c).1 = .ok a → Q (.ok a) (performRoot outside g c).2)
    (herr : ∀ e g', Outcome outside g c g' → Q (.error e) g') :
    (rootCall c).run.Ensures (failingRoot outside) I Q g := by
  apply ensures_call_leaving (hI g (.inl rfl)) (hI _ (.inr (.inl rfl))) hI hok
  intro e g' hg'
  exact herr e g' (hg'.elim (fun h => .inr (.inl h)) fun h => h)

theorem achieves_rootCall {P : GenerationRoot → Prop} {Q : c.Value → GenerationRoot → Prop}
    (h : ∀ g, P g → ∀ a, (performRoot outside g c).1 = .ok a → Q a (performRoot outside g c).2) :
    Achieves (failingRoot outside) P (rootCall c) Q := by
  intro g hP
  apply ensures_rootCall (fun _ _ => trivial)
  · intro a ha b hb
    cases hb
    exact h g hP a ha
  · exact fun _ _ _ _ h => by cases h

theorem reads_rootCall (hc : (performRoot outside g c).2 = g) (hwork : c.worksIn = none) :
    ReadsRoot outside g (rootCall c) (performRoot outside g c).1 := by
  apply reads_call hc
  intro g' hg'
  obtain rfl | rfl | ⟨_, _, _, hsome, _⟩ := hg'
  · rfl
  · exact hc
  · rw [hwork] at hsome
    cases hsome

def RootCall.touched : RootCall → List String
  | .createDirAll name | .createDir name | .setPermissions name _ | .removeDirAll name
  | .removeDir name | .within name _ => [name]
  | .rename source target => [source, target]
  | _ => []

variable {g : GenerationRoot}

theorem lookup_setEntry_ne (h : name ≠ other) :
    (g.setEntry other entry).entries.lookup name = g.entries.lookup name :=
  AList.lookup_insert_ne h

theorem lookup_removeEntry_ne (h : name ≠ other) :
    (g.removeEntry other).entries.lookup name = g.entries.lookup name :=
  AList.lookup_erase_ne h

theorem performRoot_frame (h : name ∉ c.touched) :
    (performRoot outside g c).2.entries.lookup name = g.entries.lookup name := by
  cases c with
  | createDirAll other =>
    simp only [performRoot]
    split
    · exact AList.lookup_insert_ne (List.ne_of_not_mem_cons h)
    · rfl
  | createDir other =>
    simp only [performRoot]
    split
    · rfl
    · exact AList.lookup_insert_ne (List.ne_of_not_mem_cons h)
  | setPermissions other mode =>
    simp only [performRoot]
    split
    · rfl
    · exact lookup_setEntry_ne (List.ne_of_not_mem_cons h)
  | removeDirAll other =>
    simp only [performRoot]
    split
    · exact lookup_removeEntry_ne (List.ne_of_not_mem_cons h)
    · rfl
  | removeDir other =>
    simp only [performRoot]
    split
    · rfl
    · split
      · exact lookup_removeEntry_ne (List.ne_of_not_mem_cons h)
      · rfl
  | within other c =>
    simp only [performRoot]
    split
    · rfl
    · exact lookup_setEntry_ne (List.ne_of_not_mem_cons h)
  | rename source target =>
    have hsource : name ≠ source := List.ne_of_not_mem_cons h
    have htarget : name ≠ target := List.ne_of_not_mem_cons (List.not_mem_of_not_mem_cons h)
    have hmoved (entry : RootEntry) :
        ((g.removeEntry source).setEntry target entry).entries.lookup name =
          g.entries.lookup name :=
      (lookup_setEntry_ne htarget).trans (lookup_removeEntry_ne hsource)
    simp only [performRoot, GenerationRoot.renameEntry]
    split
    · rfl
    · exact hmoved _
    · split
      · rfl
      · split
        · exact hmoved _
        · rfl
  | _ => rfl

theorem Outcome.frame (h : Outcome outside g c g')
    (hname : name ∉ c.touched) : g'.entries.lookup name = g.entries.lookup name := by
  obtain rfl | rfl | ⟨other, entry, files, hother, _, rfl⟩ := h
  · rfl
  · exact performRoot_frame hname
  · have htouched : other ∈ c.touched := by
      cases c with
      | removeDirAll => cases hother; exact List.mem_singleton.2 rfl
      | within => cases hother; exact List.mem_singleton.2 rfl
      | _ => cases hother
    exact lookup_setEntry_ne fun hne => hname (hne ▸ htouched)

def RootCall.creates : RootCall → List String
  | .createDirAll name | .createDir name => [name]
  | .rename _ target => [target]
  | _ => []

theorem performRoot_absent (h : name ∉ c.creates) (hnone : g.entries.lookup name = none) :
    (performRoot outside g c).2.entries.lookup name = none := by
  by_cases htouched : name ∈ c.touched
  · cases c with
    | setPermissions other mode =>
      cases List.mem_singleton.1 htouched
      simp only [performRoot, hnone]
    | removeDirAll other =>
      cases List.mem_singleton.1 htouched
      simp only [performRoot]
      split
      · exact AList.lookup_erase _ _
      · exact hnone
    | within other c =>
      cases List.mem_singleton.1 htouched
      simp only [performRoot, hnone]
    | removeDir other =>
      cases List.mem_singleton.1 htouched
      simp only [performRoot, hnone]
    | rename source target =>
      have htarget : name ≠ target := List.ne_of_not_mem_cons h
      obtain rfl | hrest := List.mem_cons.1 htouched
      · simp only [performRoot, GenerationRoot.renameEntry, hnone]
      · exact absurd (List.mem_singleton.1 hrest) htarget
    | createDirAll | createDir => exact absurd htouched h
    | _ => cases htouched
  · rw [performRoot_frame htouched, hnone]

theorem Outcome.absent (h : Outcome outside g c g') (hname : name ∉ c.creates)
    (hnone : g.entries.lookup name = none) : g'.entries.lookup name = none := by
  obtain rfl | rfl | ⟨other, entry, files, _, hother, rfl⟩ := h
  · exact hnone
  · exact performRoot_absent hname hnone
  · rw [lookup_setEntry_ne, hnone]
    intro hsame
    rw [hsame, hother] at hnone
    cases hnone

/-- What a listing of the root shows of an entry. -/
def GenerationRoot.label (g : GenerationRoot) (name : String) : Option Metadata :=
  (g.entries.lookup name).map RootEntry.metadata

def RootCall.relabels : RootCall → List String
  | .within _ _ => []
  | c => c.touched

theorem Outcome.metadata (h : Outcome outside g c g') : g'.metadata = g.metadata := by
  obtain rfl | rfl | ⟨_, _, _, _, _, rfl⟩ := h
  · rfl
  · cases c with
    | rename source target =>
      simp only [performRoot, GenerationRoot.renameEntry]
      split <;> try rfl
      split <;> try rfl
      split <;> rfl
    | removeDir name =>
      simp only [performRoot]
      split <;> try rfl
      split <;> rfl
    | rootMetadata | readDir | symlinkMetadata | newUuid | syncRoot | node | outside => rfl
    | _ =>
      simp only [performRoot]
      split <;> rfl
  · rfl

theorem label_setEntry_files (h : g.entries.lookup other = some entry) (name : String)
    (files : Tree) :
    (g.setEntry other { entry with files := files }).label name = g.label name := by
  unfold GenerationRoot.label GenerationRoot.setEntry
  by_cases hname : name = other
  · subst hname
    rw [AList.lookup_insert, h]
    rfl
  · rw [AList.lookup_insert_ne hname]

theorem Outcome.label (h : Outcome outside g c g')
    (hname : name ∉ c.relabels) : g'.label name = g.label name := by
  by_cases htouched : name ∈ c.touched
  · cases c with
    | within other c =>
      obtain rfl | rfl | ⟨_, _, _, _, hentry, rfl⟩ := h
      · rfl
      · simp only [performRoot]
        split
        · rfl
        · exact label_setEntry_files ‹_› name _
      · exact label_setEntry_files hentry name _
    | _ => exact absurd htouched hname
  · exact congrArg (Option.map _) (h.frame htouched)

def OwnDirectory (g : GenerationRoot) (metadata : Metadata) : Prop :=
  metadata.fileType = .directory ∧ metadata.uid = g.metadata.uid

theorem label_createEntry {name other : String} (h : (g.createEntry other).label name = some m) :
    g.label name = some m ∨ OwnDirectory g m := by
  by_cases hname : name = other
  · subst hname
    rw [GenerationRoot.label, GenerationRoot.createEntry, AList.lookup_insert] at h
    cases h
    exact .inr ⟨rfl, rfl⟩
  · rw [GenerationRoot.label, GenerationRoot.createEntry, AList.lookup_insert_ne hname] at h
    exact .inl h

theorem label_removeEntry {name other : String}
    (h : (g.removeEntry other).label name = some m) : g.label name = some m := by
  by_cases hname : name = other
  · subst hname
    rw [GenerationRoot.label, GenerationRoot.removeEntry, AList.lookup_erase] at h
    cases h
  · rw [GenerationRoot.label, lookup_removeEntry_ne hname] at h
    exact h

theorem Outcome.origin (h : Outcome outside g c g')
    (hc : ∀ source target, c ≠ .rename source target) (hm : g'.label name = some m) :
    (∃ m₀, g.label name = some m₀ ∧ m₀.fileType = m.fileType ∧ m₀.uid = m.uid) ∨
      OwnDirectory g m := by
  have hsame : g.label name = some m → (∃ m₀, g.label name = some m₀ ∧ m₀.fileType = m.fileType ∧
      m₀.uid = m.uid) ∨ OwnDirectory g m := fun h => .inl ⟨m, h, rfl, rfl⟩
  obtain rfl | rfl | ⟨_, _, _, _, hentry, rfl⟩ := h
  · exact hsame hm
  · cases c with
    | createDirAll other =>
      simp only [performRoot] at hm
      split at hm
      · exact (label_createEntry hm).elim hsame .inr
      · exact hsame hm
    | createDir other =>
      simp only [performRoot] at hm
      split at hm
      · exact hsame hm
      · exact (label_createEntry hm).elim hsame .inr
    | setPermissions other mode =>
      simp only [performRoot] at hm
      split at hm
      · exact hsame hm
      · rename_i entry hentry
        by_cases hname : name = other
        · subst hname
          rw [GenerationRoot.label, GenerationRoot.setEntry, AList.lookup_insert] at hm
          cases hm
          exact .inl ⟨entry.metadata, congrArg _ hentry, rfl, rfl⟩
        · rw [GenerationRoot.label, lookup_setEntry_ne hname] at hm
          exact hsame hm
    | removeDirAll other =>
      simp only [performRoot] at hm
      split at hm
      · exact hsame (label_removeEntry hm)
      · exact hsame hm
    | removeDir other =>
      simp only [performRoot] at hm
      split at hm
      · exact hsame hm
      · split at hm
        · exact hsame (label_removeEntry hm)
        · exact hsame hm
    | rename source target => exact absurd rfl (hc source target)
    | within other c =>
      simp only [performRoot] at hm
      split at hm
      · exact hsame hm
      · rw [label_setEntry_files ‹_›] at hm
        exact hsame hm
    | _ => exact hsame hm
  · rw [label_setEntry_files hentry] at hm
    exact hsame hm

end Ratash
