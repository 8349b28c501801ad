import Ratash.Service.Instances

/-!
What each instance promises the others about every one of its steps, and that the functions that
read and replace the state file keep to it while the lock is held.
-/

namespace Ratash

open Interaction Attempt

variable {ι : Type} {J : GenerationCodec}

def Covers (before after : Option GenerationCounters) : Prop :=
  ∀ c, before = some c → ∃ c', after = some c' ∧ c.Le c'

theorem Covers.refl (d : Option GenerationCounters) : Covers d d :=
  fun c h => ⟨c, h, .refl c⟩

theorem Covers.trans (h : Covers a b) (h' : Covers b c) : Covers a c := by
  intro counters hcounters
  obtain ⟨_, hb, hle⟩ := h counters hcounters
  obtain ⟨_, hc, hle'⟩ := h' _ hb
  exact ⟨_, hc, hle.trans hle'⟩

theorem GenerationCounters.Le.of {a b : GenerationCounters} (h : a.Le b) (kind : GenerationKind) :
    a.of kind ≤ b.of kind := by
  cases kind with
  | owner => exact h.1
  | coreInstance => exact h.2

def Reached (kind : GenerationKind) (value : UInt64) (d : Option GenerationCounters) : Prop :=
  ∃ c, d = some c ∧ value ≤ c.of kind

theorem Reached.covers (h : Reached kind value d) (hd : Covers d d') : Reached kind value d' := by
  obtain ⟨c, hc, hle⟩ := h
  obtain ⟨c', hc', hle'⟩ := hd c hc
  exact ⟨c', hc', UInt64.le_trans hle (hle'.of kind)⟩

structure Granted (J : GenerationCodec) (w : ControlWorld ι) (turn : Nat) (kind : GenerationKind)
    (value : UInt64) : Prop where
  above : ∃ c, w.turns[turn]? = some (some c) ∧ c.of kind < value
  later : ∀ t d, turn < t → w.turns[t]? = some d → Reached kind value d
  now : Reached kind value (w.persisted J)

structure Progresses (J : GenerationCodec) (w w' : ControlWorld ι) : Prop where
  persisted : Covers (w.persisted J) (w'.persisted J)
  turns : ∃ more, w'.turns = w.turns ++ more ∧ ∀ d ∈ more, Covers (w.persisted J) d

theorem Progresses.same {w w' : ControlWorld ι}
    (hpersisted : Covers (w.persisted J) (w'.persisted J)) (hturns : w'.turns = w.turns) :
    Progresses J w w' :=
  ⟨hpersisted, [], by rw [hturns, List.append_nil], nofun⟩

theorem Granted.advances (h : Granted J w turn kind value) (hw : Progresses J w w') :
    Granted J w' turn kind value := by
  obtain ⟨hpersisted, more, hturns, hmore⟩ := hw
  obtain ⟨c, hc, hlt⟩ := h.above
  have hturn : turn < w.turns.length := (List.getElem?_eq_some_iff.1 hc).1
  refine ⟨⟨c, ?_, hlt⟩, ?_, h.now.covers hpersisted⟩
  · rw [hturns, List.getElem?_append_left hturn]
    exact hc
  · intro t d ht hd
    rw [hturns] at hd
    by_cases hold : t < w.turns.length
    · rw [List.getElem?_append_left hold] at hd
      exact h.later t d ht hd
    · rw [List.getElem?_append_right (Nat.le_of_not_lt hold)] at hd
      exact h.now.covers (hmore d (List.mem_of_getElem? hd))

structure Consistent (J : GenerationCodec) (w : ControlWorld ι) : Prop where
  turn_lt : w.turn j = some t → t < w.turns.length
  turn_inj : w.turn j = some t → w.turn k = some t → j = k
  granted : ∀ issue ∈ w.issued, Granted J w issue.turn issue.kind issue.value
  distinct : w.issued.Pairwise fun a b => a.turn ≠ b.turn

theorem Consistent.advances (h : Consistent J w) (hw : Progresses J w w') (hturn : w'.turn = w.turn)
    (hissued : w'.issued = w.issued) : Consistent J w' := by
  constructor
  · intro j t ht
    rw [hturn] at ht
    obtain ⟨more, hturns, _⟩ := hw.turns
    rw [hturns, List.length_append]
    exact Nat.lt_add_right _ (h.turn_lt ht)
  · intro j t k hj hk
    rw [hturn] at hj hk
    exact h.turn_inj hj hk
  · intro issue hissue
    rw [hissued] at hissue
    exact (h.granted issue hissue).advances hw
  · rw [hissued]
    exact h.distinct

/-- What an instance promises the others about each of its steps. -/
structure Promise (J : GenerationCodec) (i : ι) (w w' : ControlWorld ι) : Prop where
  advances : Progresses J w w'
  consistent : Consistent J w → Consistent J w'
  turn : ∀ j, j ≠ i → w'.turn j = w.turn j
  counters : ∀ j, j ≠ i → w'.counters j = w.counters j
  holder : ∀ j, j ≠ i → (w'.holder = some j ↔ w.holder = some j)
  /-- While another instance holds the lock, only the lock file may change. -/
  files : ∀ j, j ≠ i → w.holder = some j → ∀ name, name ≠ .generationLock →
    w'.root.entries.lookup name = w.root.entries.lookup name
  turns : ∀ j, j ≠ i → w.holder = some j → w'.turns = w.turns
  issued : ∃ more, w'.issued = w.issued ++ more ∧ ∀ issue ∈ more, w.turn i = some issue.turn

theorem Promise.quiet {i : ι} {w w' : ControlWorld ι}
    (hpersisted : Covers (w.persisted J) (w'.persisted J)) (hturns : w'.turns = w.turns)
    (hturn : w'.turn = w.turn) (hissued : w'.issued = w.issued)
    (hcounters : ∀ j, j ≠ i → w'.counters j = w.counters j)
    (hholder : ∀ j, j ≠ i → (w'.holder = some j ↔ w.holder = some j))
    (hfiles : ∀ j, j ≠ i → w.holder = some j → ∀ name, name ≠ .generationLock →
      w'.root.entries.lookup name = w.root.entries.lookup name) : Promise J i w w' where
  advances := .same hpersisted hturns
  consistent h := h.advances (.same hpersisted hturns) hturn hissued
  turn j _ := congrFun hturn j
  counters := hcounters
  holder := hholder
  files := hfiles
  turns _ _ _ := hturns
  issued := ⟨[], by rw [hissued, List.append_nil], nofun⟩

structure Unlocked (J : GenerationCodec) (i : ι) (w : ControlWorld ι) : Prop where
  holder : w.holder ≠ some i
  consistent : Consistent J w

structure Turn (J : GenerationCodec) (i : ι) (turn : Nat) (first now : Option GenerationCounters)
    (counters : GenerationCounters) (w : ControlWorld ι) : Prop where
  holder : w.holder = some i
  consistent : Consistent J w
  mine : w.turn i = some turn
  last : w.turns.length = turn + 1
  began : w.turns[turn]? = some first
  persisted : w.persisted J = now
  memory : w.counters i = counters
  unissued : ∀ issue ∈ w.issued, issue.turn ≠ turn

structure Holding (J : GenerationCodec) (i : ι) (w : ControlWorld ι) : Prop where
  holder : w.holder = some i
  consistent : Consistent J w

def Earned (J : GenerationCodec) (i : ι) (kind : GenerationKind) (value : UInt64)
    (w : ControlWorld ι) : Prop :=
  ∃ turn, w.turn i = some turn ∧ Granted J w turn kind value ∧
    ∀ issue ∈ w.issued, issue.turn ≠ turn

section Stable

variable {i : ι} {w w' : ControlWorld ι}

theorem Unlocked.others (h : Processes.Others (Promise J) i w w') (hw : Unlocked J i w) :
    Unlocked J i w' := by
  obtain ⟨j, hj, hpromise⟩ := h
  exact ⟨fun hholder => hw.holder ((hpromise.holder i hj.symm).1 hholder),
    hpromise.consistent hw.consistent⟩

theorem Holding.others (h : Processes.Others (Promise J) i w w') (hw : Holding J i w) :
    Holding J i w' := by
  obtain ⟨j, hj, hpromise⟩ := h
  exact ⟨(hpromise.holder i hj.symm).2 hw.holder, hpromise.consistent hw.consistent⟩

theorem unissued_others (h : Processes.Others (Promise J) i w w') (hw : Consistent J w)
    (hmine : w.turn i = some turn) (hunissued : ∀ issue ∈ w.issued, issue.turn ≠ turn) :
    ∀ issue ∈ w'.issued, issue.turn ≠ turn := by
  obtain ⟨j, hj, hpromise⟩ := h
  obtain ⟨more, hissued, hmore⟩ := hpromise.issued
  intro issue hissue
  rw [hissued] at hissue
  obtain hold | hnew := List.mem_append.1 hissue
  · exact hunissued issue hold
  · rintro rfl
    exact hj (hw.turn_inj (hmore issue hnew) hmine)

theorem Turn.others (h : Processes.Others (Promise J) i w w')
    (hw : Turn J i turn first now counters w) : Turn J i turn first now counters w' := by
  have hunissued := unissued_others h hw.consistent hw.mine hw.unissued
  obtain ⟨j, hj, hpromise⟩ := h
  have hfiles := hpromise.files i hj.symm hw.holder
  have hturns := hpromise.turns i hj.symm hw.holder
  exact ⟨(hpromise.holder i hj.symm).2 hw.holder, hpromise.consistent hw.consistent,
    (hpromise.turn i hj.symm).trans hw.mine, hturns ▸ hw.last, hturns ▸ hw.began,
    (ControlRoot.persisted_congr (hfiles _ nofun)).trans hw.persisted,
    (hpromise.counters i hj.symm).trans hw.memory, hunissued⟩

theorem Earned.others (h : Processes.Others (Promise J) i w w') (hw : Consistent J w)
    (hearned : Earned J i kind value w) : Earned J i kind value w' := by
  obtain ⟨turn, hmine, hgranted, hunissued⟩ := hearned
  have hunissued' := unissued_others h hw hmine hunissued
  obtain ⟨j, hj, hpromise⟩ := h
  exact ⟨turn, (hpromise.turn i hj.symm).trans hmine,
    hgranted.advances hpromise.advances, hunissued'⟩

theorem Turn.holding (h : Turn J i turn first now counters w) : Holding J i w :=
  ⟨h.holder, h.consistent⟩

end Stable

variable {root : ControlRoot}

section Kept

variable {i : ι} {w : ControlWorld ι} {names : ControlName → Prop}

def SameFiles (names : ControlName → Prop) (root root' : ControlRoot) : Prop :=
  ∀ name, names name → root'.entries.lookup name = root.entries.lookup name

theorem Promise.sameFiles (hroot : SameFiles names w.root root) (hstate : names .generationState)
    (hsafe : w.holder = some i ∨ ∀ name, name ≠ .generationLock → names name) :
    Promise J i w { w with root } := by
  have hpersisted : root.persisted J = w.root.persisted J :=
    ControlRoot.persisted_congr (hroot _ hstate)
  have hcovers : Covers (w.persisted J) (ControlWorld.persisted J { w with root }) := by
    rw [ControlWorld.persisted, ControlWorld.persisted, hpersisted]
    exact .refl _
  refine .quiet hcovers rfl rfl rfl (fun _ _ => rfl) (fun _ _ => .rfl) ?_
  intro j hj hholder name hname
  obtain hmine | hall := hsafe
  · exact absurd (Option.some.inj (hmine.symm.trans hholder)).symm hj
  · exact hroot name (hall name hname)

structure KeptBy (J : GenerationCodec) (i : ι) (names : ControlName → Prop)
    (P : ControlWorld ι → Prop) : Prop where
  stable : StableUnder (Processes.Others (Promise J) i) P
  root : ∀ w root, P w → SameFiles names w.root root → Promise J i w { w with root } →
    P { w with root }
  safe : ∀ w, P w → w.holder = some i ∨ ∀ name, name ≠ .generationLock → names name
  state : names .generationState

theorem kept_unlocked : KeptBy J i (· ≠ .generationLock) (Unlocked J i) where
  stable _ _ := Unlocked.others
  root _ _ hw _ hpromise := ⟨hw.holder, hpromise.consistent hw.consistent⟩
  safe _ _ := .inr fun _ hname => hname
  state := nofun

theorem kept_holding : KeptBy J i (· = .generationState) (Holding J i) where
  stable _ _ := Holding.others
  root _ _ hw _ hpromise := ⟨hw.holder, hpromise.consistent hw.consistent⟩
  safe _ hw := .inl hw.holder
  state := rfl

theorem kept_turn : KeptBy J i (· = .generationState) (Turn J i turn first now counters) where
  stable _ _ := Turn.others
  root _ _ hw hroot hpromise := ⟨hw.holder, hpromise.consistent hw.consistent, hw.mine, hw.last,
    hw.began, (ControlRoot.persisted_congr (hroot _ rfl)).trans hw.persisted, hw.memory,
    hw.unissued⟩
  safe _ hw := .inl hw.holder
  state := rfl

end Kept

section Calls

variable [DecidableEq ι] {i : ι} {w w' : ControlWorld ι} {names : ControlName → Prop}

theorem instanceCall_plain {c : ControlCall} {r : c.Reply} (hc : c.plain = true)
    (h : instanceCall J i w c r w') : ∃ root, w' = { w with root } ∧
      ∀ name, name ∉ c.touches → root.entries.lookup name = w.root.entries.lookup name := by
  cases c with
  | counters | effectiveUid => exact ⟨w.root, h.2, fun _ _ => rfl⟩
  | takeCommitFault | newUuid => exact ⟨w.root, h, fun _ _ => rfl⟩
  | setCounters _ | unlock => cases hc
  | file c =>
    have hfile : ∃ root, w' = { w with root } ∧
        (performControl w.root c = (r, root) ∨ (∃ e, r = .error e) ∧
          ControlOutcome w.root c root) := by
      cases c with
      | flock => cases hc
      | _ => exact h
    obtain ⟨root, hw', hperform | ⟨_, houtcome⟩⟩ := hfile
    · refine ⟨root, hw', fun name hname => ?_⟩
      rw [show root = _ from (congrArg Prod.snd hperform).symm]
      exact ControlRoot.lookup_performControl hname
    · exact ⟨root, hw', fun name hname => ControlRoot.lookup_outcome houtcome hname⟩

abbrev Lawful (J : GenerationCodec) (i : ι) (P : ControlWorld ι → Prop) (x : ControlAttempt α)
    (Q : Except CoreRuntimeError α → ControlWorld ι → Prop) : Prop :=
  Abides (instanceCall J i) (Processes.Others (Promise J) i) (Promise J i) P x Q

theorem lawful_only {P : ControlWorld ι → Prop} {x : ControlAttempt α} (hP : KeptBy J i names P)
    (hx : Tame names x) : Lawful J i P x fun _ => P := by
  apply hx.only.abides hP.stable
  intro w c r w' hc hw hcall
  obtain ⟨root, rfl, hlookup⟩ := instanceCall_plain hc.1 hcall
  have hroot : SameFiles names w.root root :=
    fun name hname => hlookup name fun hmem => hc.2 name hmem hname
  have hpromise := Promise.sameFiles (J := J) hroot hP.state (hP.safe w hw)
  exact ⟨hpromise, hP.root w root hw hroot hpromise⟩

end Calls

section Only

variable {names : ControlName → Prop}

theorem tame_cleanupPendingGenerationState (hpending : ∀ uuid, ¬ names (.pending uuid))
    (name : ControlName) :
    Tame names (cleanupPendingGenerationState name) := by
  cases name with
  | pending uuid =>
    apply (tame_file ⟨rfl, nofun⟩ _).seq
    intro found
    cases found with
    | none => exact tame_unavailable _
    | some metadata =>
      apply tame_effectiveUid.seq
      intro uid
      split
      · apply (tame_file ⟨rfl, ?_⟩ _).seq fun _ => tame_pure true
        exact fun _ hmem => List.mem_singleton.1 hmem ▸ hpending uuid
      · exact tame_pure false
  | _ => exact tame_pure false

theorem tame_cleanupPendingGenerationStates (hpending : ∀ uuid, ¬ names (.pending uuid)) :
    Tame names cleanupPendingGenerationStates := by
  have hentries : ∀ entries, Tame names (cleanupPendingEntries entries) := by
    intro entries
    induction entries with
    | nil => exact tame_pure false
    | cons name entries ih =>
      exact (tame_cleanupPendingGenerationState hpending name).seq fun _ =>
        ih.seq fun _ => tame_pure _
  apply tame_validateControlRoot.seq
  intro _
  apply (tame_file ⟨rfl, nofun⟩ _).seq
  intro entries
  apply (hentries entries).seq
  intro removed
  exact tame_syncPrivateServiceDirectory.whenever

end Only

section Turn

variable [DecidableEq ι] {i : ι}

theorem lawful_turn_seq {x : ControlAttempt α} {f : α → ControlAttempt β}
    {Q : Except CoreRuntimeError β → ControlWorld ι → Prop}
    (hx : Tame (· = .generationState) x)
    (hf : ∀ a, Lawful J i (Turn J i turn first now counters) (f a) Q)
    (herr : ∀ e w, Holding J i w → Q (.error e) w) :
    Lawful J i (Turn J i turn first now counters) (x >>= f) Q :=
  (lawful_only kept_turn hx).seq hf fun e w hw => herr e w hw.holding

theorem instanceCall_file {c : FileCall} {w w' : ControlWorld ι} {v : c.Value}
    (hc : (ControlCall.file c).plain = true) (h : instanceCall J i w (.file c) (.ok v) w') :
    (performControl w.root c).1 = .ok v ∧ w' = { w with root := (performControl w.root c).2 } := by
  have hfile : ∃ root, w' = { w with root } ∧ (performControl w.root c = (.ok v, root) ∨
      (∃ e, (.ok v : IoResult c.Value) = .error e) ∧ ControlOutcome w.root c root) := by
    cases c with
    | flock => cases hc
    | _ => exact h
  obtain ⟨root, rfl, hperform | ⟨⟨_, he⟩, _⟩⟩ := hfile
  · rw [hperform]
    exact ⟨rfl, rfl⟩
  · cases he

theorem lawful_file {c : FileCall} {P : ControlWorld ι → Prop} {Q : c.Value → ControlWorld ι → Prop}
    (h : Lawful J i P (control (.file c)) fun r w => Holding J i w ∧ ∀ v, r = .ok (.ok v) → Q v w) :
    Lawful J i P (file c message) fun r w => Holding J i w ∧ ∀ v, r = .ok v → Q v w := by
  apply h.seq
  · intro reply
    cases reply with
    | ok v =>
      apply abides_pure
      rintro w ⟨hholding, hQ⟩
      refine ⟨hholding, ?_⟩
      rintro _ ⟨⟩
      exact hQ v rfl
    | error e => exact abides_throw fun w hw => ⟨hw.1, nofun⟩
  · exact fun e w hw => ⟨hw.1, nofun⟩

theorem lawful_turn_file {c : FileCall} {Q : c.Value → ControlWorld ι → Prop}
    (hspares : (ControlCall.file c).Spares (· = .generationState))
    (hQ : ∀ w v, Turn J i turn first now counters w → (performControl w.root c).1 = .ok v →
      Turn J i turn first now counters { w with root := (performControl w.root c).2 } →
        Q v { w with root := (performControl w.root c).2 }) :
    Lawful J i (Turn J i turn first now counters) (file c message)
      fun r w => Holding J i w ∧ ∀ v, r = .ok v → Q v w := by
  apply lawful_file
  apply abides_lift kept_turn.stable
  intro w r w' hw hcall
  obtain ⟨root, rfl, hlookup⟩ := instanceCall_plain hspares.1 hcall
  have hroot : SameFiles (· = .generationState) w.root root :=
    fun name hname => hlookup name fun hmem => hspares.2 name hmem hname
  have hpromise := Promise.sameFiles (J := J) hroot rfl (.inl hw.holder)
  have hturn := kept_turn.root w root hw hroot hpromise
  refine ⟨hpromise, hturn.holding, ?_⟩
  intro v hr
  obtain rfl := Except.ok.inj hr
  obtain ⟨hreply, hw'⟩ := instanceCall_file hspares.1 hcall
  obtain rfl : root = _ := congrArg ControlWorld.root hw'
  exact hQ w v hw hreply hturn

theorem lawful_readState :
    Lawful J i (Turn J i turn first now counters) (file (.read .generationState) message)
      fun r w => Holding J i w ∧ ∀ content, r = .ok content →
        Turn J i turn first now counters w ∧ ∀ state, parseGenerationState J content = .ok state →
          now = some state.counters := by
  apply lawful_turn_file (c := .read _) ⟨rfl, nofun⟩
  intro w content hw hreply hturn
  refine ⟨hturn, fun state hparse => ?_⟩
  rw [← hw.persisted]
  cases hentry : w.root.entries.lookup .generationState with
  | none =>
    simp only [performControl, hentry] at hreply
    cases hreply
  | some entry =>
    simp only [performControl, hentry] at hreply
    obtain rfl := Except.ok.inj hreply
    exact ControlRoot.persisted_eq_some hentry hparse

theorem lawful_readGenerationState (metadata : ControlMetadata) :
    Lawful J i (Turn J i turn first now counters) (readGenerationState J metadata)
      fun r w => Holding J i w ∧ ∀ state, r = .ok state →
        Turn J i turn first now counters w ∧ now = some state.counters := by
  have herr : ∀ (e : CoreRuntimeError) (w : ControlWorld ι), Holding J i w → Holding J i w ∧
      ∀ state, (.error e : Except _ ServiceGenerationState) = .ok state →
        Turn J i turn first now counters w ∧ now = some state.counters :=
    fun e w hw => ⟨hw, nofun⟩
  apply lawful_turn_seq (tame_validateGenerationStateMetadata _) (fun _ => ?_) herr
  apply lawful_turn_seq (tame_file (c := .openMetadata _) ⟨rfl, nofun⟩ _)
    (fun openedMetadata => ?_) herr
  apply lawful_turn_seq (tame_validateGenerationStateMetadata _) (fun _ => ?_) herr
  apply lawful_turn_seq (tame_require _) (fun _ => ?_) herr
  apply lawful_readState.seq (fun content => ?_) fun e w hw => herr e w hw.1
  apply abides_ofExcept
  rintro w ⟨hholding, hread⟩
  obtain ⟨hturn, hcontent⟩ := hread content rfl
  exact ⟨hholding, fun state hstate => ⟨hturn, hcontent state hstate⟩⟩

theorem lawful_loadGenerationState :
    Lawful J i (Turn J i turn first now counters) (loadGenerationState J)
      fun r w => Holding J i w ∧ ∀ state, r = .ok state →
        Turn J i turn first now counters w ∧ now = some state.counters := by
  apply lawful_turn_seq tame_validateControlRoot (fun _ => ?_) fun e w hw => ⟨hw, nofun⟩
  apply lawful_turn_seq (tame_file (c := .metadata _) ⟨rfl, nofun⟩ _) (fun found => ?_)
    fun e w hw => ⟨hw, nofun⟩
  cases found with
  | some metadata => exact lawful_readGenerationState metadata
  | none => exact abides_throw fun w hw => ⟨hw.holding, nofun⟩

def Written (J : GenerationCodec) (i : ι) (turn : Nat) (first now : Option GenerationCounters)
    (counters : GenerationCounters) (uuid : BitVec 128) (content : Bytes) (w : ControlWorld ι) :
    Prop :=
  Turn J i turn first now counters w ∧
    ∃ entry, w.root.entries.lookup (.pending uuid) = some entry ∧ entry.content = content

omit [DecidableEq ι] in
theorem kept_written : KeptBy J i (fun name => name = .generationState ∨ name = .pending uuid)
    (Written J i turn first now counters uuid content) where
  stable w w' hothers hw := by
    obtain ⟨hturn, entry, hentry, hcontent⟩ := hw
    have hturn' := hturn.others hothers
    obtain ⟨j, hj, hpromise⟩ := hothers
    exact ⟨hturn', entry,
      (hpromise.files i hj.symm hturn.holder (.pending uuid) nofun).trans hentry, hcontent⟩
  root w root hw hroot hpromise := by
    obtain ⟨hturn, entry, hentry, hcontent⟩ := hw
    exact ⟨kept_turn.root w root hturn (fun name hname => hroot name (.inl hname)) hpromise,
      entry, (hroot _ (.inr rfl)).trans hentry, hcontent⟩
  safe _ hw := .inl hw.1.holder
  state := .inl rfl

theorem lawful_write : Lawful J i (Turn J i turn first now counters)
      (file (.write (.pending uuid) content) message) fun r w => Holding J i w ∧
        ∀ v, r = .ok v → Written J i turn first now counters uuid content w := by
  have hspares :
      (ControlCall.file (.write (.pending uuid) content)).Spares (· = .generationState) := by
    refine ⟨rfl, ?_⟩
    rintro name hmem rfl
    cases List.mem_singleton.1 hmem
  apply lawful_turn_file hspares
  intro w _ _ hreply hturn
  refine ⟨hturn, ?_⟩
  cases hentry : w.root.entries.lookup (.pending uuid) with
  | none =>
    simp only [performControl, ControlRoot.change, hentry] at hreply
    cases hreply
  | some entry =>
    simp only [performControl, ControlRoot.change, hentry]
    exact ⟨{ entry with content }, AList.lookup_insert _, rfl⟩

omit [DecidableEq ι] in
theorem Promise.stored {w : ControlWorld ι} (hholder : w.holder = some i)
    (hcovers : Covers (w.persisted J) (root.persisted J)) : Promise J i w { w with root } := by
  refine .quiet hcovers rfl rfl rfl (fun _ _ => rfl) (fun _ _ => .rfl) ?_
  intro j hj hother
  exact absurd (Option.some.inj (hholder.symm.trans hother)).symm hj

theorem persisted_rename {stored : GenerationCounters}
    (hentry : root.entries.lookup (.pending uuid) = some entry)
    (hcontent : entry.content = J.encode (.new stored)) :
    ((performControl root (.rename (.pending uuid) .generationState)).2).persisted J =
      some stored := by
  have hparse : parseGenerationState J entry.content = .ok (.new stored) := by
    rw [hcontent]
    exact parseGenerationState_encode J stored
  simp only [performControl, hentry]
  exact ControlRoot.persisted_eq_some (AList.lookup_insert _) hparse

theorem lawful_rename {stored : GenerationCounters} (hcovers : Covers now (some stored)) :
    Lawful J i (Written J i turn first now counters uuid (J.encode (.new stored)))
      (file (.rename (.pending uuid) .generationState) message) fun r w => Holding J i w ∧
        ∀ v, r = .ok v → Turn J i turn first (some stored) counters w := by
  apply lawful_file
  apply abides_lift kept_written.stable
  rintro w r w' ⟨hw, entry, hentry, hcontent⟩ ⟨root, rfl, hstep⟩
  have hrenamed := persisted_rename hentry hcontent
  -- an error leaves the file as it was or as it was to be
  have hroot : root = w.root ∨
      root = (performControl w.root (.rename (.pending uuid) .generationState)).2 := by
    obtain hperform | ⟨_, rfl | rfl | ⟨_, _, _, hwrite, _⟩⟩ := hstep
    · exact .inr (congrArg Prod.snd hperform).symm
    · exact .inl rfl
    · exact .inr rfl
    · cases hwrite
  have hpersisted : Covers (w.persisted J) (root.persisted J) := by
    obtain rfl | rfl := hroot
    · exact .refl _
    · rw [hrenamed, hw.persisted]
      exact hcovers
  have hpromise := Promise.stored hw.holder hpersisted
  refine ⟨hpromise, ⟨hw.holder, hpromise.consistent hw.consistent⟩, ?_⟩
  intro v hr
  obtain rfl := Except.ok.inj hr
  obtain hperform | ⟨⟨_, he⟩, _⟩ := hstep
  · obtain rfl : _ = root := congrArg Prod.snd hperform
    exact ⟨hw.holder, hpromise.consistent hw.consistent, hw.mine, hw.last, hw.began, hrenamed,
      hw.memory, hw.unissued⟩
  · cases he

def Stored (J : GenerationCodec) (i : ι) (turn : Nat) (first : Option GenerationCounters)
    (counters stored : GenerationCounters) (r : Except CoreRuntimeError Unit) (w : ControlWorld ι) :
    Prop :=
  Holding J i w ∧ ∀ v, r = .ok v → Turn J i turn first (some stored) counters w

omit [DecidableEq ι] in
theorem Stored.error (e : CoreRuntimeError) (h : Holding J i w) :
    Stored J i turn first counters stored (.error e) w :=
  ⟨h, nofun⟩

theorem lawful_commitGenerationState (uuid : BitVec 128) (fault : Option CommitFault)
    (hcovers : Covers now (some stored)) : Lawful J i (Turn J i turn first now counters)
      (commitGenerationState (.pending uuid) (J.encode (.new stored)) fault)
      (Stored J i turn first counters stored) := by
  have hstaging : ∀ name ∈ [ControlName.pending uuid], name ≠ .generationState := by
    rintro _ hmem rfl
    cases List.mem_singleton.1 hmem
  apply lawful_turn_seq (tame_file (c := .setPermissions _ _) ⟨rfl, hstaging⟩ _) ?_
    fun e w hw => .error e hw
  intro _
  apply lawful_turn_seq (tame_require _) ?_ fun e w hw => .error e hw
  intro _
  apply lawful_write.seq ?_ fun e w hw => .error e hw.1
  intro _
  apply Abides.mono (P := Written J i turn first now counters uuid (J.encode (.new stored))) ?_
    (fun w hw => hw.2 _ rfl) fun _ _ h => h
  have hwritten : ∀ {α} {x : ControlAttempt α}, (∀ names, Tame names x) →
      Lawful J i (Written J i turn first now counters uuid (J.encode (.new stored))) x
        fun _ => Written J i turn first now counters uuid (J.encode (.new stored)) :=
    fun hx => lawful_only kept_written (hx _)
  apply (hwritten fun _ => tame_require _).seq ?_ fun e w hw => .error e hw.1.holding
  intro _
  apply (hwritten fun _ => tame_file (c := .sync _) ⟨rfl, nofun⟩ _).seq ?_
    fun e w hw => .error e hw.1.holding
  intro _
  apply (hwritten fun _ => tame_require _).seq ?_ fun e w hw => .error e hw.1.holding
  intro _
  apply (lawful_rename hcovers).seq ?_ fun e w hw => .error e hw.1
  intro _
  apply Abides.mono (P := Turn J i turn first (some stored) counters) ?_
    (fun w hw => hw.2 _ rfl) fun _ _ h => h
  apply lawful_turn_seq (tame_require _) ?_ fun e w hw => .error e hw
  intro _
  exact (lawful_only kept_turn tame_syncPrivateServiceDirectory).mono (fun _ h => h)
    fun _ w hw => ⟨hw.holding, fun _ _ => hw⟩

theorem lawful_persistGenerationStateWithFault (fault : Option CommitFault)
    (hcovers : Covers now (some stored)) : Lawful J i (Turn J i turn first now counters)
      (persistGenerationStateWithFault J (.new stored) fault)
      (Stored J i turn first counters stored) := by
  apply lawful_turn_seq tame_validateControlRoot ?_ fun e w hw => .error e hw
  intro _
  apply lawful_turn_seq (tame_require _) ?_ fun e w hw => .error e hw
  intro _
  apply lawful_turn_seq (tame_file (c := .metadata _) ⟨rfl, nofun⟩ _) ?_ fun e w hw => .error e hw
  intro found
  apply lawful_turn_seq (tame_validateReplacedGenerationState found) ?_ fun e w hw => .error e hw
  intro _
  apply lawful_turn_seq (tame_control (c := .newUuid) ⟨rfl, nofun⟩) ?_ fun e w hw => .error e hw
  intro uuid
  have hstaging : ∀ name ∈ [ControlName.pending uuid], name ≠ .generationState := by
    rintro _ hmem rfl
    cases List.mem_singleton.1 hmem
  apply lawful_turn_seq (tame_file (c := .createNew _ _) ⟨rfl, hstaging⟩ _) ?_
    fun e w hw => .error e hw
  intro staged
  apply (lawful_commitGenerationState uuid fault hcovers).result
  intro result
  cases result with
  | ok _ => exact abides_pure fun w hw => ⟨hw.1, fun _ _ => hw.2 _ rfl⟩
  | error e =>
    have hremoved : Lawful J i (Stored J i turn first counters stored (.error e))
        (removeCreatedPendingGenerationState (.pending uuid) staged) fun _ => Holding J i :=
      (lawful_only kept_holding
        (tame_removeCreatedPendingGenerationState (.pending uuid) staged nofun)).mono
        (fun w hw => hw.1) fun _ _ h => h
    apply hremoved.seq
    · exact fun _ => abides_throw fun w hw => .error e hw
    · exact fun e' w hw => .error e' hw

end Turn

end Ratash
