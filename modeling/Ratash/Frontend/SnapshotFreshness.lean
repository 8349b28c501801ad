import Mathlib.Data.List.Chain
import Ratash.Service.Platform

namespace Ratash

def milliseconds (n : Nat) : Duration := n * 10 ^ 6

def snapshotRefreshCoalesce : Duration := milliseconds 100
def snapshotRefreshMinInterval : Duration := milliseconds 500
def profileRefreshSettleDelay : Duration := seconds 1

/-- `Duration::saturating_add`. -/
def durationAdd (a b : Duration) : Duration := min (a + b) durationMax

structure SnapshotFreshness where
  generation : UInt64
  requestInFlight : Bool := false
  refreshPending : Bool := false
  refreshDeadline : Option Duration := none
  profileDeadline : Option Duration := none
  nextAllowedAt : Duration := 0
deriving DecidableEq

namespace SnapshotFreshness

def scheduleProfileDeadline (nextRefreshAtUnixMs : Option UInt64) (now : Duration)
    (nowUnixMs : UInt64) (freshness : SnapshotFreshness) : SnapshotFreshness :=
  { freshness with
    profileDeadline := nextRefreshAtUnixMs.map fun deadline =>
      durationAdd now (durationAdd (milliseconds (deadline.toNat - nowUnixMs.toNat))
        profileRefreshSettleDelay) }

def connected (generation : UInt64) (nextProfileRefreshAtUnixMs : Option UInt64) (now : Duration)
    (nowUnixMs : UInt64) : SnapshotFreshness :=
  scheduleProfileDeadline nextProfileRefreshAtUnixMs now nowUnixMs { generation }

def disconnect (freshness : SnapshotFreshness) : SnapshotFreshness :=
  { freshness with
    requestInFlight := false, refreshPending := false
    refreshDeadline := none, profileDeadline := none }

/-- A deadline is set when nothing is in flight and none is set yet. -/
def pend (deadline : Duration) (freshness : SnapshotFreshness) : SnapshotFreshness :=
  { freshness with
    refreshPending := true
    refreshDeadline :=
      if ¬ freshness.requestInFlight ∧ freshness.refreshDeadline.isNone then
        some (max deadline freshness.nextAllowedAt)
      else freshness.refreshDeadline }

def requestRefresh (generation : UInt64) (now : Duration) (freshness : SnapshotFreshness) :
    SnapshotFreshness :=
  if generation ≠ freshness.generation then freshness
  else freshness.pend (durationAdd now snapshotRefreshCoalesce)

def takeProfileDeadline (now : Duration) (freshness : SnapshotFreshness) : SnapshotFreshness :=
  if freshness.profileDeadline.any (· ≤ now) then
    { freshness with profileDeadline := none }.pend now
  else freshness

def takeDue (now : Duration) (freshness : SnapshotFreshness) : Option UInt64 × SnapshotFreshness :=
  let freshness := freshness.takeProfileDeadline now
  if freshness.requestInFlight ∨ ¬ freshness.refreshPending ∨
      freshness.refreshDeadline.all (now < ·) then (none, freshness)
  else
    (some freshness.generation,
      { freshness with
        requestInFlight := true, refreshPending := false, refreshDeadline := none
        nextAllowedAt := durationAdd now snapshotRefreshMinInterval })

def submitFailed (generation : UInt64) (now : Duration) (freshness : SnapshotFreshness) :
    SnapshotFreshness :=
  if generation ≠ freshness.generation then freshness
  else { freshness with requestInFlight := false }.requestRefresh generation now

def complete (generation : UInt64) (accepted : Bool) (nextProfileRefreshAtUnixMs : Option UInt64)
    (now : Duration) (nowUnixMs : UInt64) (freshness : SnapshotFreshness) : SnapshotFreshness :=
  if generation ≠ freshness.generation then freshness
  else
    let freshness := scheduleProfileDeadline nextProfileRefreshAtUnixMs now nowUnixMs
      { freshness with requestInFlight := false }
    let pending := freshness.refreshPending || !accepted
    { freshness with
      refreshPending := pending
      refreshDeadline :=
        if pending then
          some (max (durationAdd now snapshotRefreshCoalesce) freshness.nextAllowedAt)
        else freshness.refreshDeadline }

end SnapshotFreshness

inductive FreshnessCall where
  | requestRefresh (generation : UInt64) (now : Duration)
  | takeDue (now : Duration)
  | submitFailed (generation : UInt64) (now : Duration)
  | complete (generation : UInt64) (accepted : Bool) (nextProfileRefreshAtUnixMs : Option UInt64)
      (now : Duration) (nowUnixMs : UInt64)
  | disconnect
  | resetConnected (generation : UInt64) (nextProfileRefreshAtUnixMs : Option UInt64)
      (now : Duration) (nowUnixMs : UInt64)
deriving DecidableEq

/-- The connection is another one afterwards. -/
def FreshnessCall.changesConnection : FreshnessCall → Bool
  | .disconnect | .resetConnected .. => true
  | _ => false

/-- Besides the state: how many refreshes are under way, and when they were handed out, the latest
first. Both are counted from the last change of the connection. -/
structure FreshnessRun where
  freshness : SnapshotFreshness
  inFlight : Nat := 0
  handedOut : List Duration := []
deriving DecidableEq

namespace FreshnessRun

def settled (run : FreshnessRun) (generation : UInt64) : Nat :=
  if generation = run.freshness.generation then run.inFlight - 1 else run.inFlight

def step (run : FreshnessRun) : FreshnessCall → FreshnessRun
  | .requestRefresh generation now =>
    { run with freshness := run.freshness.requestRefresh generation now }
  | .takeDue now =>
    match run.freshness.takeDue now with
    | (none, freshness) => { run with freshness }
    | (some _, freshness) => ⟨freshness, run.inFlight + 1, now :: run.handedOut⟩
  | .submitFailed generation now =>
    { run with
      freshness := run.freshness.submitFailed generation now
      inFlight := run.settled generation }
  | .complete generation accepted next now nowUnixMs =>
    { run with
      freshness := run.freshness.complete generation accepted next now nowUnixMs
      inFlight := run.settled generation }
  | .disconnect => { freshness := run.freshness.disconnect }
  | .resetConnected generation next now nowUnixMs =>
    { freshness := .connected generation next now nowUnixMs }

end FreshnessRun

namespace SnapshotFreshness

variable {freshness : SnapshotFreshness}

structure Armed (freshness : SnapshotFreshness) : Prop where
  pending : freshness.refreshPending = true → freshness.requestInFlight = false →
    ∃ deadline, freshness.refreshDeadline = some deadline
  allowed : ∀ deadline, freshness.refreshDeadline = some deadline →
    freshness.nextAllowedAt ≤ deadline

theorem armed_pend (h : ∀ deadline, freshness.refreshDeadline = some deadline →
    freshness.nextAllowedAt ≤ deadline) (deadline : Duration) :
    (freshness.pend deadline).Armed := by
  by_cases hset : ¬ freshness.requestInFlight ∧ freshness.refreshDeadline.isNone
  · have hpend : (freshness.pend deadline).refreshDeadline =
        some (max deadline freshness.nextAllowedAt) := if_pos hset
    refine ⟨fun _ _ => ⟨_, hpend⟩, fun d hd => ?_⟩
    cases hpend.symm.trans hd
    exact Nat.le_max_right ..
  · have hpend : (freshness.pend deadline).refreshDeadline = freshness.refreshDeadline :=
      if_neg hset
    refine ⟨fun _ hidle => ?_, fun d hd => h d (hpend ▸ hd)⟩
    rw [hpend]
    apply Option.ne_none_iff_exists'.1
    intro hnone
    exact hset ⟨Bool.not_eq_true _ ▸ hidle, by rw [hnone]; rfl⟩

theorem Armed.requestRefresh (h : freshness.Armed) (generation : UInt64) (now : Duration) :
    (freshness.requestRefresh generation now).Armed := by
  unfold SnapshotFreshness.requestRefresh
  split
  · exact h
  · exact armed_pend h.allowed _

theorem Armed.takeProfileDeadline (h : freshness.Armed) (now : Duration) :
    (freshness.takeProfileDeadline now).Armed := by
  unfold SnapshotFreshness.takeProfileDeadline
  split
  · apply armed_pend
    exact h.allowed
  · exact h

theorem takeDue_cases (freshness : SnapshotFreshness) (now : Duration) :
    freshness.takeDue now = (none, freshness.takeProfileDeadline now) ∨
    ∃ deadline, deadline ≤ now ∧
      (freshness.takeProfileDeadline now).requestInFlight = false ∧
      (freshness.takeProfileDeadline now).refreshDeadline = some deadline ∧
      freshness.takeDue now = (some (freshness.takeProfileDeadline now).generation,
        { freshness.takeProfileDeadline now with
          requestInFlight := true, refreshPending := false, refreshDeadline := none
          nextAllowedAt := durationAdd now snapshotRefreshMinInterval }) := by
  unfold takeDue
  generalize freshness.takeProfileDeadline now = due
  by_cases hwait : due.requestInFlight ∨ ¬ due.refreshPending ∨ due.refreshDeadline.all (now < ·)
  · exact .inl (if_pos hwait)
  · refine .inr ?_
    obtain ⟨hidle, hrest⟩ := not_or.1 hwait
    cases hdeadline : due.refreshDeadline with
    | none => exact absurd (.inr (.inr (by rw [hdeadline]; rfl))) hwait
    | some deadline =>
      have hdue : ¬ now < deadline := by simpa [hdeadline] using (not_or.1 hrest).2
      refine ⟨deadline, Nat.not_lt.1 hdue, Bool.eq_false_iff.2 hidle, rfl, ?_⟩
      exact if_neg hwait

theorem Armed.takeDue_of_pending (h : freshness.Armed) (hpending : freshness.refreshPending = true)
    (hidle : freshness.requestInFlight = false) :
    ∃ deadline, freshness.refreshDeadline = some deadline ∧
      ∀ now, deadline ≤ now → (freshness.takeDue now).1 = some freshness.generation := by
  obtain ⟨deadline, hdeadline⟩ := h.pending hpending hidle
  refine ⟨deadline, hdeadline, fun now hdue => ?_⟩
  have hkept : (freshness.takeProfileDeadline now).requestInFlight = false ∧
      (freshness.takeProfileDeadline now).refreshPending = true ∧
      (freshness.takeProfileDeadline now).refreshDeadline = some deadline ∧
      (freshness.takeProfileDeadline now).generation = freshness.generation := by
    unfold SnapshotFreshness.takeProfileDeadline
    split
    · simp [SnapshotFreshness.pend, hidle, hdeadline]
    · exact ⟨hidle, hpending, hdeadline, rfl⟩
  unfold takeDue
  generalize freshness.takeProfileDeadline now = due at hkept
  obtain ⟨hidle, hpending, hdeadline, hgeneration⟩ := hkept
  simp only [hidle, hpending, hdeadline, hgeneration]
  simp [Nat.not_lt.2 hdue]

@[simp] theorem requestInFlight_requestRefresh (generation : UInt64) (now : Duration) :
    (freshness.requestRefresh generation now).requestInFlight = freshness.requestInFlight := by
  unfold requestRefresh
  split <;> rfl

@[simp] theorem nextAllowedAt_requestRefresh (generation : UInt64) (now : Duration) :
    (freshness.requestRefresh generation now).nextAllowedAt = freshness.nextAllowedAt := by
  unfold requestRefresh
  split <;> rfl

@[simp] theorem requestInFlight_takeProfileDeadline (now : Duration) :
    (freshness.takeProfileDeadline now).requestInFlight = freshness.requestInFlight := by
  unfold takeProfileDeadline
  split <;> rfl

@[simp] theorem generation_takeProfileDeadline (now : Duration) :
    (freshness.takeProfileDeadline now).generation = freshness.generation := by
  unfold takeProfileDeadline
  split <;> rfl

theorem refreshPending_takeProfileDeadline (now : Duration) :
    (freshness.takeProfileDeadline now).refreshPending =
      (freshness.refreshPending || freshness.profileDeadline.any (· ≤ now)) := by
  unfold takeProfileDeadline
  split
  · simp_all [pend]
  · simp_all

theorem takeDue_pending (hpending : (freshness.takeProfileDeadline now).refreshPending = true) :
    (freshness.takeDue now).1 = some freshness.generation ∨
      (freshness.takeDue now).2.refreshPending = true := by
  rcases freshness.takeDue_cases now with hwait | ⟨_, _, _, _, htaken⟩
  · rw [hwait]
    exact .inr hpending
  · rw [htaken]
    exact .inl (congrArg some (generation_takeProfileDeadline now))

@[simp] theorem nextAllowedAt_takeProfileDeadline (now : Duration) :
    (freshness.takeProfileDeadline now).nextAllowedAt = freshness.nextAllowedAt := by
  unfold takeProfileDeadline
  split <;> rfl

theorem Armed.complete (h : freshness.Armed) (accepted : Bool) (next : Option UInt64)
    (now : Duration) (nowUnixMs : UInt64) :
    (freshness.complete freshness.generation accepted next now nowUnixMs).Armed := by
  unfold SnapshotFreshness.complete
  rw [if_neg (not_not_intro rfl)]
  refine ⟨fun hpending _ => ⟨_, if_pos hpending⟩, fun deadline hdeadline => ?_⟩
  dsimp only [scheduleProfileDeadline] at hdeadline ⊢
  split at hdeadline
  · rw [← Option.some.inj hdeadline]
    exact Nat.le_max_right ..
  · exact h.allowed deadline hdeadline

theorem Armed.submitFailed (h : freshness.Armed) (now : Duration) :
    (freshness.submitFailed freshness.generation now).Armed := by
  unfold SnapshotFreshness.submitFailed SnapshotFreshness.requestRefresh
  rw [if_neg (not_not_intro rfl), if_neg (not_not_intro rfl)]
  apply armed_pend
  exact h.allowed

theorem unchanged_of_ne {generation : UInt64} (h : generation ≠ freshness.generation)
    (now : Duration) (accepted : Bool) (next : Option UInt64) (nowUnixMs : UInt64) :
    freshness.requestRefresh generation now = freshness ∧
    freshness.submitFailed generation now = freshness ∧
    freshness.complete generation accepted next now nowUnixMs = freshness :=
  ⟨if_pos h, if_pos h, if_pos h⟩

end SnapshotFreshness

namespace FreshnessRun

open SnapshotFreshness

variable {run : FreshnessRun}

structure Sound (run : FreshnessRun) : Prop where
  armed : run.freshness.Armed
  inFlight : run.inFlight = run.freshness.requestInFlight.toNat
  last : ∀ time ∈ run.handedOut.head?,
    durationAdd time snapshotRefreshMinInterval ≤ run.freshness.nextAllowedAt
  apart : run.handedOut.IsChain fun later earlier =>
    durationAdd earlier snapshotRefreshMinInterval ≤ later

theorem sound_start {freshness : SnapshotFreshness} (hidle : freshness.requestInFlight = false)
    (hpending : freshness.refreshPending = false) (hdeadline : freshness.refreshDeadline = none) :
    Sound { freshness } := by
  refine ⟨⟨fun h => ?_, fun _ h => ?_⟩, ?_, fun _ h => ?_, .nil⟩
  · cases hpending.symm.trans h
  · cases hdeadline.symm.trans h
  · rw [hidle]
    rfl
  · cases h

theorem Sound.takeDue (h : run.Sound) (now : Duration) : (run.step (.takeDue now)).Sound := by
  have harmed := h.armed.takeProfileDeadline now
  rcases run.freshness.takeDue_cases now with hwait | ⟨deadline, hdue, hidle, hdeadline, htaken⟩
  · simp only [step, hwait]
    refine ⟨harmed, ?_, ?_, h.apart⟩
    · simpa using h.inFlight
    · simpa using h.last
  · simp only [step, htaken]
    refine ⟨⟨fun hpending => ?_, fun _ hnone => ?_⟩, ?_, ?_, ?_⟩
    · cases hpending
    · cases hnone
    · rw [requestInFlight_takeProfileDeadline] at hidle
      rw [h.inFlight, hidle]
      rfl
    · rintro _ ⟨⟩
      exact Nat.le_refl _
    · refine List.isChain_cons.2 ⟨fun earlier hearlier => ?_, h.apart⟩
      calc durationAdd earlier snapshotRefreshMinInterval
        _ ≤ run.freshness.nextAllowedAt := h.last earlier hearlier
        _ ≤ deadline := by simpa using harmed.allowed deadline hdeadline
        _ ≤ now := hdue

theorem Sound.settled (h : run.Sound) {freshness : SnapshotFreshness} (harmed : freshness.Armed)
    (hidle : freshness.requestInFlight = false)
    (hnext : freshness.nextAllowedAt = run.freshness.nextAllowedAt) :
    Sound { run with freshness, inFlight := run.settled run.freshness.generation } := by
  refine ⟨harmed, ?_, hnext ▸ h.last, h.apart⟩
  rw [FreshnessRun.settled, if_pos rfl, h.inFlight, hidle]
  cases run.freshness.requestInFlight <;> rfl

theorem Sound.step (h : run.Sound) (call : FreshnessCall) : (run.step call).Sound := by
  cases call with
  | requestRefresh generation now =>
    refine ⟨h.armed.requestRefresh generation now, ?_, ?_, h.apart⟩
    · simpa [FreshnessRun.step] using h.inFlight
    · simpa [FreshnessRun.step] using h.last
  | takeDue now => exact h.takeDue now
  | submitFailed generation now =>
    simp only [FreshnessRun.step]
    by_cases hgeneration : generation = run.freshness.generation
    · subst hgeneration
      apply h.settled (h.armed.submitFailed now)
      · simp [submitFailed]
      · simp [submitFailed]
    · rw [(run.freshness.unchanged_of_ne hgeneration now true none 0).2.1, FreshnessRun.settled,
        if_neg hgeneration]
      exact h
  | complete generation accepted next now nowUnixMs =>
    simp only [FreshnessRun.step]
    by_cases hgeneration : generation = run.freshness.generation
    · subst hgeneration
      apply h.settled (h.armed.complete accepted next now nowUnixMs)
      · simp [complete, scheduleProfileDeadline]
      · simp [complete, scheduleProfileDeadline]
    · rw [(run.freshness.unchanged_of_ne hgeneration now accepted next nowUnixMs).2.2,
        FreshnessRun.settled, if_neg hgeneration]
      exact h
  | disconnect => exact sound_start rfl rfl rfl
  | resetConnected generation next now nowUnixMs => exact sound_start rfl rfl rfl

def after (start : SnapshotFreshness) (calls : List FreshnessCall) : FreshnessRun :=
  calls.foldl FreshnessRun.step { freshness := start }

structure Paced (run : FreshnessRun) : Prop where
  inFlight_le : run.inFlight ≤ 1
  apart : run.handedOut.IsChain fun later earlier =>
    min (earlier + snapshotRefreshMinInterval) durationMax ≤ later
  pending : run.freshness.refreshPending = true → run.freshness.requestInFlight = false →
    ∃ deadline, run.freshness.refreshDeadline = some deadline ∧
      ∀ now, deadline ≤ now → (run.freshness.takeDue now).1 = some run.freshness.generation
  stays : ∀ call : FreshnessCall, call.changesConnection = false →
    run.freshness.refreshPending = true → (run.step call).freshness.refreshPending = true ∨
      ∃ now, call = .takeDue now ∧
        (run.freshness.takeDue now).1 = some run.freshness.generation
  wanted : ∀ now next nowUnixMs,
    (run.freshness.requestRefresh run.freshness.generation now).refreshPending = true ∧
    (run.freshness.submitFailed run.freshness.generation now).refreshPending = true ∧
    (run.freshness.complete run.freshness.generation false next now nowUnixMs).refreshPending = true
  profile : ∀ deadline now, run.freshness.profileDeadline = some deadline → deadline ≤ now →
    (run.freshness.takeDue now).1 = some run.freshness.generation ∨
      (run.freshness.takeDue now).2.refreshPending = true
  others : ∀ generation now accepted next nowUnixMs, generation ≠ run.freshness.generation →
    run.freshness.requestRefresh generation now = run.freshness ∧
    run.freshness.submitFailed generation now = run.freshness ∧
    run.freshness.complete generation accepted next now nowUnixMs = run.freshness

theorem stays_pending (call : FreshnessCall) (hsame : call.changesConnection = false)
    (hpending : run.freshness.refreshPending = true) :
    (run.step call).freshness.refreshPending = true ∨ ∃ now, call = .takeDue now ∧
      (run.freshness.takeDue now).1 = some run.freshness.generation := by
  cases call with
  | requestRefresh generation now =>
    left
    simp only [step, requestRefresh]
    split
    · exact hpending
    · rfl
  | takeDue now =>
    have hkept : (run.freshness.takeProfileDeadline now).refreshPending = true := by
      rw [refreshPending_takeProfileDeadline, hpending, Bool.true_or]
    refine (takeDue_pending hkept).symm.imp (fun h => ?_) fun h => ⟨now, rfl, h⟩
    simp only [step]
    split <;> simp_all
  | submitFailed generation now =>
    left
    simp only [step, submitFailed]
    split
    · exact hpending
    · simp_all [requestRefresh, pend]
  | complete generation accepted next now nowUnixMs =>
    left
    simp only [step, complete]
    split
    · exact hpending
    · simp [scheduleProfileDeadline, hpending]
  | disconnect => cases hsame
  | resetConnected => cases hsame

theorem Sound.paced (h : run.Sound) : run.Paced where
  inFlight_le := h.inFlight ▸ Bool.toNat_le _
  apart := h.apart
  pending := h.armed.takeDue_of_pending
  stays := stays_pending
  wanted now next nowUnixMs := by
    simp [requestRefresh, submitFailed,
      complete, pend]
  profile deadline now hdeadline hdue := by
    apply takeDue_pending
    simp [refreshPending_takeProfileDeadline, hdeadline, hdue]
  others generation now accepted next nowUnixMs hne :=
    unchanged_of_ne hne now accepted next nowUnixMs

/-- Whatever is called, in whatever order and at whatever times, refreshes are handed out one by one
and not too often, and none that is wanted is forgotten. -/
theorem snapshot_refreshes_paced (generation : UInt64) (next : Option UInt64) (now : Duration)
    (nowUnixMs : UInt64) (calls : List FreshnessCall) :
    (after (.connected generation next now nowUnixMs) calls).Paced := by
  suffices h : ∀ run : FreshnessRun, run.Sound → (calls.foldl FreshnessRun.step run).Sound by
    exact (h _ (sound_start rfl rfl rfl)).paced
  induction calls with
  | nil => exact fun _ h => h
  | cons call calls ih => exact fun run h => ih _ (h.step call)

theorem snapshot_refreshes_at_once :
    (after (.connected 0 none 0 0) [.requestRefresh 0 durationMax, .takeDue durationMax,
      .complete 0 true none durationMax 0, .requestRefresh 0 durationMax,
      .takeDue durationMax]).handedOut = [durationMax, durationMax] := by
  decide

end FreshnessRun

end Ratash
