import Ratash.Generation.Calls
import Ratash.Generation.Scan

namespace Ratash

open Interaction Attempt

variable {outside : OutsideFiles} {D : Type} {X : Codec D} {g : GenerationRoot}

def GenerationRoot.scanNames (X : Codec D) (g : GenerationRoot)
    (reservedDirectories : List String) : List String → RuntimeGenerationScan →
      Except RuntimeGenerationPruneErrorKind RuntimeGenerationScan
  | [], scan => .ok scan
  | name :: rest, scan =>
    if scan.scannedEntries < runtimeGenerationScanLimit then
      match g.entries.lookup name with
      | none => .error .unsafeEntry
      | some entry =>
        (scanEntry X reservedDirectories g.metadata.uid name entry.metadata scan).bind
          (g.scanNames X reservedDirectories rest)
    else .error .unsafeEntry

def GenerationRoot.scan (X : Codec D) (g : GenerationRoot) (reservedDirectories : List String) :
    Except RuntimeGenerationPruneErrorKind RuntimeGenerationScan :=
  if g.metadata.fileType = .directory ∧ g.metadata.mode &&& 0o022 = 0 then
    (g.scanNames X reservedDirectories g.entries.keys ⟨[], [], 0⟩).bind fun scan =>
      .ok { scan with
        entries := sortByGeneration scan.entries
        quarantines := sortByGeneration scan.quarantines }
  else .error .rootUnavailable

theorem scanEntries_reads (reservedDirectories names : List String) (scan : RuntimeGenerationScan) :
    ReadsRoot outside g
      (scanEntries X reservedDirectories g.metadata.uid names scan)
      (g.scanNames X reservedDirectories names scan) := by
  induction names generalizing scan with
  | nil => exact reads_pure scan
  | cons name rest ih =>
    simp only [GenerationRoot.scanNames]
    refine reads_require (fun hlimit => ?_) (fun hlimit => if_neg hlimit)
    rw [if_pos hlimit]
    apply (reads_rootCall (c := .symlinkMetadata name) rfl rfl).orThrow_seq
    · intro metadata hmetadata
      obtain rfl : (g.entries.lookup name).map RootEntry.metadata = metadata :=
        Except.ok.inj hmetadata
      cases g.entries.lookup name with
      | none =>
        apply (reads_ofExcept _).seq
        · intro _ h
          cases h
        · intro _ h
          cases h
          rfl
      | some entry =>
        apply (reads_ofExcept _).seq
        · intro metadata hentry
          cases hentry
          exact (reads_ofExcept _).bind ih
        · intro _ h
          cases h
    · intro _ h
      cases h

theorem scanRuntimeGenerations_reads (reservedDirectories : List String) :
    ReadsRoot outside g
      (scanRuntimeGenerations X reservedDirectories) (g.scan X reservedDirectories) := by
  apply (reads_rootCall (c := .rootMetadata) rfl rfl).orThrow_seq
  · intro metadata hmetadata
    obtain rfl : g.metadata = metadata := Except.ok.inj hmetadata
    refine reads_require (fun hroot => ?_) (fun hroot => if_neg hroot)
    rw [GenerationRoot.scan, if_pos hroot]
    apply (reads_rootCall (c := .readDir) rfl rfl).orThrow_seq
    · intro names hnames
      obtain rfl : g.entries.keys = names := Except.ok.inj hnames
      exact (scanEntries_reads reservedDirectories _ _).bind fun _ => reads_pure _
    · intro _ h
      cases h
  · intro _ h
    cases h

def Recognised (X : Codec D) (reservedDirectories : List String) (ownerUid : Nat) (name : String)
    (metadata : Metadata) : Prop :=
  if name ∈ reservedDirectories then reservedMetadata metadata ownerUid = true
  else ((parseRuntimeGenerationName name).isSome ∨ (parseRuntimeQuarantineName X name).isSome) ∧
    strictGenerationMetadata metadata ownerUid = true

structure Found (X : Codec D) (reservedDirectories names : List String)
    (scan : RuntimeGenerationScan) : Prop where
  count : scan.scannedEntries = names.length
  entries : ∀ e ∈ scan.entries, e.name = generationName e.generation
  quarantines : ∀ e ∈ scan.quarantines, ∃ uuid, e.name = quarantineName X e.generation uuid
  complete : ∀ name ∈ names, name ∉ reservedDirectories →
    ∀ n, parseRuntimeGenerationName name = some n → ∃ e ∈ scan.entries, e.generation = n

variable {reservedDirectories : List String}

theorem scanEntry_of_recognised {metadata : Metadata}
    (h : Recognised X reservedDirectories uid name metadata) (scan : RuntimeGenerationScan) :
    ∃ scan', scanEntry X reservedDirectories uid name metadata scan = .ok scan' := by
  unfold Recognised at h
  unfold scanEntry
  split at h
  · rw [if_pos ‹_›, if_pos h]
    exact ⟨_, rfl⟩
  · rw [if_neg ‹_›]
    split
    · rw [if_pos h.2]
      exact ⟨_, rfl⟩
    · rw [if_pos h.2]
      exact ⟨_, rfl⟩
    · simp_all

theorem Found.skip (h : Found X reservedDirectories names scan)
    (hcount : scan'.scannedEntries = scan.scannedEntries + 1)
    (hentries : scan'.entries = scan.entries)
    (hquarantines : ∀ e ∈ scan'.quarantines, ∃ uuid, e.name = quarantineName X e.generation uuid)
    (hname : name ∈ reservedDirectories ∨ parseRuntimeGenerationName name = none) :
    Found X reservedDirectories (names ++ [name]) scan' := by
  refine ⟨?_, hentries ▸ h.entries, hquarantines, ?_⟩
  · rw [hcount, h.count, List.length_append]
    rfl
  · intro other hother hreserved n hn
    rw [hentries]
    obtain hold | hnew := List.mem_append.1 hother
    · exact h.complete other hold hreserved n hn
    · cases List.mem_singleton.1 hnew
      obtain hname | hname := hname
      · exact absurd hname hreserved
      · rw [hname] at hn
        cases hn

theorem Found.generation (h : Found X reservedDirectories names scan)
    (hname : parseRuntimeGenerationName name = some n) (metadata : Metadata) (uid : Nat) :
    Found X reservedDirectories (names ++ [name])
      { scan with
        scannedEntries := scan.scannedEntries + 1
        entries := scan.entries ++ [⟨n, name, metadata.device, metadata.inode, uid⟩] } := by
  refine ⟨?_, ?_, h.quarantines, ?_⟩
  · rw [List.length_append, ← h.count]
    rfl
  · intro e he
    obtain hold | hnew := List.mem_append.1 he
    · exact h.entries e hold
    · cases List.mem_singleton.1 hnew
      exact (parseRuntimeGenerationName_eq_some hname).2
  · intro other hother hreserved n' hn'
    obtain hold | hnew := List.mem_append.1 hother
    · obtain ⟨e, he, hgeneration⟩ := h.complete other hold hreserved n' hn'
      exact ⟨e, List.mem_append_left _ he, hgeneration⟩
    · cases List.mem_singleton.1 hnew
      rw [hname] at hn'
      exact ⟨_, List.mem_append_right _ (List.mem_singleton.2 rfl), Option.some.inj hn'⟩

variable {scan : RuntimeGenerationScan}

theorem scanEntry_ok {names : List String} {metadata : Metadata}
    (h : scanEntry X reservedDirectories uid name metadata scan = .ok scan')
    (hfound : Found X reservedDirectories names scan) :
    Recognised X reservedDirectories uid name metadata ∧
      Found X reservedDirectories (names ++ [name]) scan' := by
  unfold Recognised
  unfold scanEntry at h
  split at h
  · rename_i hreserved
    rw [if_pos hreserved]
    split at h
    · cases h
      exact ⟨‹_›, hfound.skip rfl rfl hfound.quarantines (.inl hreserved)⟩
    · cases h
  · rw [if_neg ‹_›]
    split at h
    · rename_i n hparse
      split at h
      · cases h
        exact ⟨⟨.inl (hparse ▸ rfl), ‹_›⟩, hfound.generation hparse metadata uid⟩
      · cases h
    · rename_i n hnone hparse
      split at h
      · cases h
        refine ⟨⟨.inr (hparse ▸ rfl), ‹_›⟩, hfound.skip rfl rfl ?_ (.inr hnone)⟩
        intro e he
        obtain hold | hnew := List.mem_append.1 he
        · exact hfound.quarantines e hold
        · cases List.mem_singleton.1 hnew
          exact parseRuntimeQuarantineName_eq_some hparse
      · cases h
    · cases h

theorem scanNames_of_recognised (names : List String) (scan : RuntimeGenerationScan)
    (hcount : scan.scannedEntries + names.length ≤ runtimeGenerationScanLimit)
    (hnames : ∀ name ∈ names, ∃ entry, g.entries.lookup name = some entry ∧
      Recognised X reservedDirectories g.metadata.uid name entry.metadata)
    (hfound : Found X reservedDirectories seen scan) :
    ∃ scan', g.scanNames X reservedDirectories names scan = .ok scan' := by
  induction names generalizing scan seen with
  | nil => exact ⟨scan, rfl⟩
  | cons name rest ih =>
    obtain ⟨entry, hentry, hknown⟩ := hnames name List.mem_cons_self
    obtain ⟨scan', hscan'⟩ := scanEntry_of_recognised hknown scan
    have hfound' := (scanEntry_ok hscan' hfound).2
    rw [List.length_cons] at hcount
    have hcount' : scan'.scannedEntries + rest.length ≤ runtimeGenerationScanLimit := by
      rw [hfound'.count, List.length_append, ← hfound.count, List.length_singleton]
      omega
    obtain ⟨last, hlast⟩ := ih scan' hcount'
      (fun other hother => hnames other (List.mem_cons_of_mem _ hother)) hfound'
    refine ⟨last, ?_⟩
    rw [GenerationRoot.scanNames, if_pos (by omega), hentry]
    change (scanEntry X reservedDirectories g.metadata.uid name entry.metadata scan).bind _ = _
    rw [hscan']
    exact hlast

theorem scanNames_ok {names : List String} {scan' : RuntimeGenerationScan}
    (h : g.scanNames X reservedDirectories names scan = .ok scan')
    (hfound : Found X reservedDirectories seen scan) :
    Found X reservedDirectories (seen ++ names) scan' ∧
      (∀ name ∈ names, ∃ entry, g.entries.lookup name = some entry ∧
        Recognised X reservedDirectories g.metadata.uid name entry.metadata) ∧
      (names ≠ [] → scan'.scannedEntries ≤ runtimeGenerationScanLimit) := by
  induction names generalizing scan seen with
  | nil =>
    cases h
    simp [hfound]
  | cons name rest ih =>
    rw [GenerationRoot.scanNames] at h
    split at h
    · rename_i hlimit
      split at h
      · cases h
      · rename_i entry hentry
        cases hscan : scanEntry X reservedDirectories g.metadata.uid name entry.metadata scan with
        | error e =>
          rw [hscan] at h
          cases h
        | ok next =>
          rw [hscan] at h
          obtain ⟨hknown, hnext⟩ := scanEntry_ok hscan hfound
          obtain ⟨hlast, hrest, hcount⟩ := ih h hnext
          rw [List.append_assoc] at hlast
          refine ⟨hlast, ?_, ?_⟩
          · intro other hother
            obtain rfl | hother := List.mem_cons.1 hother
            · exact ⟨entry, hentry, hknown⟩
            · exact hrest other hother
          · intro _
            cases rest with
            | nil =>
              cases h
              rw [hnext.count, List.length_append, ← hfound.count]
              exact hlimit
            | cons other rest => exact hcount (List.cons_ne_nil _ _)
    · cases h

structure Accepted (X : Codec D) (reservedDirectories : List String) (g : GenerationRoot) :
    Prop where
  root : g.metadata.fileType = .directory ∧ g.metadata.mode &&& 0o022 = 0
  count : g.entries.keys.length ≤ runtimeGenerationScanLimit
  known : ∀ name entry, g.entries.lookup name = some entry →
    Recognised X reservedDirectories g.metadata.uid name entry.metadata

theorem Accepted.parse (h : Accepted X reservedDirectories g)
    (hreserved : generationName n ∉ reservedDirectories)
    (hentry : g.entries.lookup (generationName n) = some entry) :
    parseRuntimeGenerationName (generationName n) = some n := by
  have hknown := h.known _ entry hentry
  rw [Recognised, if_neg hreserved] at hknown
  obtain hparse | hparse := hknown.1
  · obtain ⟨n', hn'⟩ := Option.isSome_iff_exists.1 hparse
    rw [hn', generationName_injective (parseRuntimeGenerationName_eq_some hn').2]
  · obtain ⟨n', hn'⟩ := Option.isSome_iff_exists.1 hparse
    obtain ⟨uuid, hname⟩ := parseRuntimeQuarantineName_eq_some hn'
    exact absurd hname (generationName_ne_temporaryName X n n' uuid _)

theorem found_nil (reservedDirectories : List String) :
    Found X reservedDirectories [] ⟨[], [], 0⟩ :=
  ⟨rfl, by simp, by simp, by simp⟩

theorem scan_ok (h : g.scan X reservedDirectories = .ok scan) :
    Accepted X reservedDirectories g ∧ Found X reservedDirectories g.entries.keys scan := by
  unfold GenerationRoot.scan at h
  split at h
  · rename_i hroot
    cases hnames : g.scanNames X reservedDirectories g.entries.keys ⟨[], [], 0⟩ with
    | error e =>
      rw [hnames] at h
      cases h
    | ok raw =>
      rw [hnames] at h
      cases h
      obtain ⟨hfound, hknown, hcount⟩ := scanNames_ok hnames (found_nil _)
      rw [List.nil_append] at hfound
      refine ⟨⟨hroot, ?_, ?_⟩, ⟨hfound.count, ?_, ?_, ?_⟩⟩
      · rw [← hfound.count]
        by_cases hempty : g.entries.keys = []
        · rw [hfound.count, hempty]
          exact Nat.zero_le _
        · exact hcount hempty
      · intro name entry hentry
        obtain ⟨entry', hentry', hknown⟩ := hknown name
          (AList.mem_keys.1 (AList.lookup_isSome.1 (hentry ▸ rfl)))
        rw [hentry] at hentry'
        cases hentry'
        exact hknown
      · exact fun e he => hfound.entries e ((List.mem_insertionSort _).1 he)
      · exact fun e he => hfound.quarantines e ((List.mem_insertionSort _).1 he)
      · intro name hname hreserved n hn
        obtain ⟨e, he, hgeneration⟩ := hfound.complete name hname hreserved n hn
        exact ⟨e, (List.mem_insertionSort _).2 he, hgeneration⟩
  · cases h

theorem scan_of_accepted (h : Accepted X reservedDirectories g) :
    ∃ scan, g.scan X reservedDirectories = .ok scan := by
  have hnames : ∀ name ∈ g.entries.keys, ∃ entry, g.entries.lookup name = some entry ∧
      Recognised X reservedDirectories g.metadata.uid name entry.metadata := by
    intro name hname
    obtain ⟨entry, hentry⟩ := Option.isSome_iff_exists.1
      (AList.lookup_isSome.2 (AList.mem_keys.2 hname))
    exact ⟨entry, hentry, h.known name entry hentry⟩
  obtain ⟨scan, hscan⟩ := scanNames_of_recognised g.entries.keys ⟨[], [], 0⟩
    (by simpa using h.count) hnames (found_nil _)
  rw [GenerationRoot.scan, if_pos h.root, hscan]
  exact ⟨_, rfl⟩

theorem scan_isOk_iff :
    (∃ scan, g.scan X reservedDirectories = .ok scan) ↔ Accepted X reservedDirectories g := by
  constructor
  · intro h
    obtain ⟨_, hscan⟩ := h
    exact (scan_ok hscan).1
  · exact scan_of_accepted

end Ratash
