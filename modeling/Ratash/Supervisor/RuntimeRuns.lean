import Mathlib.Logic.Relation
import Ratash.Supervisor.RuntimeScopes

/-! Turns follow one another in any order, and between any two calls the Core may end or begin. -/

namespace Ratash

open Interaction Relation

structure CoreLife where
  running : Option CoreInstanceGeneration
  ended : List CoreInstanceGeneration
  /-- The last selection that an instance has accepted for a group, by its record id. -/
  accepted : CoreInstanceGeneration → String → Option String

namespace CoreLife

def started (core : CoreLife) (generation : CoreInstanceGeneration) : CoreLife :=
  { core with
    running := some generation
    accepted := fun g => if g = generation then fun _ => none else core.accepted g }

/-- The numbers of Core instances are never used again. -/
inductive Event (core : CoreLife) : CoreLife → Prop where
  | stop {generation : CoreInstanceGeneration} : core.running = some generation →
      Event core { core with running := none, ended := generation :: core.ended }
  | start {generation : CoreInstanceGeneration} : core.running = none →
      generation ∉ core.ended → Event core (core.started generation)

abbrev Onward : CoreLife → CoreLife → Prop := ReflTransGen Event

variable {U S V : Type}

/-- An instance that is reported, or that accepts a selection, is running. Everything else may
reply anything. -/
def Answers (core : CoreLife) : CoreReplies U S V
  | .runtimeStatus, .ok (some handle) => core.running = some handle.instanceGeneration
  | .selectNode handle _, .ok _ => core.running = some handle.instanceGeneration
  | _, _ => True

def accept (core : CoreLife) (generation : CoreInstanceGeneration) (selection : NodeSelection) :
    CoreLife :=
  { core with
    accepted := fun g group =>
      if g = generation ∧ group = selection.groupName then some selection.recordId
      else core.accepted g group }

def after (core : CoreLife) :
    (c : (coreCalls U S V).Call) → (coreCalls U S V).Reply c → CoreLife
  | .selectNode handle selection, .ok _ => core.accept handle.instanceGeneration selection
  | _, _ => core

end CoreLife

/-- Which replies a call may get is a parameter. -/
def coreEnvironment {U S V : Type}
    (permits : CoreReplies U S V) :
    Environment (coreCalls U S V) CoreLife := fun core c r core' =>
  permits c r ∧ SupervisorWorld.Replies c r ∧
    ∃ mid, core.Onward mid ∧ mid.Answers c r ∧ core' = mid.after c r

namespace Supervisor

structure RuntimeWorld (U S V : Type) where
  state : SupervisorState U S V
  core : CoreLife
  unexecuted : List RefreshTask

/-- What is asked of a run: of its turns, and of the replies in a turn from some state. -/
structure RunConditions (U S V : Type) where
  turn : RuntimeTurn U S → SupervisorState U S V → Prop
  reply : RuntimeTurn U S → SupervisorState U S V →
    CoreReplies U S V

def RunConditions.none : RunConditions U S V := ⟨fun _ _ => True, fun _ _ _ _ => True⟩

section

variable {D U S V : Type} (X : Codec D) (parts : ProfileParts U S V)
  (conditions : RunConditions U S V)

/-- The lock is taken, a scope is run to its end, and the lock is dropped. -/
inductive TakesRuntimeTurn (turn : RuntimeTurn U S) :
    RuntimeWorld U S V → RuntimeWorld U S V → Prop where
  | mk {x : RuntimeWorld U S V} {result : Except ApplicationError (List RefreshTask)}
      {state : SupervisorState U S V} {core : CoreLife} : conditions.turn turn x.state →
      Finishes (coreEnvironment (conditions.reply turn x.state))
        ((turn.scope X parts).runFrom x.state) x.core (result, state) core →
      TakesRuntimeTurn turn x
        ⟨state, core, turn.executes (x.unexecuted ++ (result.toOption.getD []))⟩

inductive RuntimeRuns : RuntimeWorld U S V → RuntimeWorld U S V → Prop where
  | refl {x : RuntimeWorld U S V} : RuntimeRuns x x
  | turn {x y z : RuntimeWorld U S V} (turn : RuntimeTurn U S) : RuntimeRuns x y →
      TakesRuntimeTurn X parts conditions turn y z → RuntimeRuns x z
  | core {x y : RuntimeWorld U S V} {core : CoreLife} : RuntimeRuns x y →
      y.core.Event core → RuntimeRuns x { y with core }

end

theorem RuntimeRuns.keeps {D U S V : Type} {X : Codec D} {parts : ProfileParts U S V}
    {conditions : RunConditions U S V} {x y : RuntimeWorld U S V} {P : RuntimeWorld U S V → Prop}
    (hrun : RuntimeRuns X parts conditions x y) (hx : P x)
    (hturn : ∀ turn y z, P y → TakesRuntimeTurn X parts conditions turn y z → P z)
    (hcore : ∀ y core, P y → y.core.Event core → P { y with core }) : P y := by
  induction hrun with
  | refl => exact hx
  | turn turn _ hstep ih => exact hturn turn _ _ ih hstep
  | core _ hevent ih => exact hcore _ _ ih hevent

def registerAll (profiles : ProfileCatalog U S) : RefreshRun :=
  profiles.profiles.toList.foldl (fun run entry =>
    run.step (.upsert entry.2.id entry.2.revision entry.2.nextRefreshAtUnixMs)) .initial

/-- What `Supervisor::open` has made of the stored memory when it reconciles for the first time. -/
def RuntimeWorld.opened (memory : SupervisorMemory U S V) (core : CoreLife) :
    RuntimeWorld U S V :=
  ⟨⟨memory, registerAll memory.profiles, .initial⟩, core, []⟩

def plainHandle (generation : CoreInstanceGeneration) : ManagedCoreHandle :=
  ⟨1, "core", ⟨"core.sock", ""⟩, generation, 1⟩

/-- Whichever Core is running accepts every selection and shows the given view, and the metadata is
always stored. Nothing is fetched, compiled or applied. -/
def plainReply (memory : SupervisorMemory U S V) (view : Option Proxy.View) (core : CoreLife) :
    (c : (coreCalls U S V).Call) → (coreCalls U S V).Reply c
  | .lock => memory
  | .tryLock => Option.none
  | .store _ | .unlock => ()
  | .fetch _ => .error ⟨"unreachable", true⟩
  | .newProfileId => ⟨1⟩
  | .nowUnixMs => (0 : UInt64)
  | .compile _ _ => .error internalError
  | .validate _ _ | .tryReserveRule | .persistMetadata _ => .ok ()
  | .apply _ _ | .applyReserved _ => .error ⟨.busy, Option.none, Option.none, .notRequired⟩
  | .runtimeStatus => .ok (core.running.map plainHandle)
  | .proxyView _ _ => match view with
    | some view => .ok view
    | none => .error ()
  | .selectNode handle _ =>
    if core.running = some handle.instanceGeneration then .ok () else .error ()

def plainOutside (memory : SupervisorMemory U S V) (view : Option Proxy.View) :
    Handler (coreCalls U S V) CoreLife := fun core c =>
  (plainReply memory view core c, core.after c (plainReply memory view core c))

theorem answers_plainReply (memory : SupervisorMemory U S V) (view : Option Proxy.View)
    (core : CoreLife) (c : (coreCalls U S V).Call) :
    SupervisorWorld.Replies c (plainReply memory view core c) ∧
      core.Answers c (plainReply memory view core c) := by
  cases c with
  | apply _ _ | applyReserved _ =>
    refine ⟨?_, trivial⟩
    intro success h
    cases h
  | runtimeStatus =>
    refine ⟨trivial, ?_⟩
    cases hrunning : core.running with
    | none =>
      simp only [plainReply, hrunning, Option.map_none]
      trivial
    | some generation =>
      simp only [plainReply, hrunning, Option.map_some]
      exact hrunning
  | selectNode handle selection =>
    refine ⟨trivial, ?_⟩
    simp only [plainReply]
    split
    · rename_i hrunning
      exact hrunning
    · trivial
  | _ => exact ⟨trivial, trivial⟩

section

variable {D U S V : Type} (X : Codec D) (parts : ProfileParts U S V)

def plainTurn (view : Option Proxy.View) (turn : RuntimeTurn U S) (x : RuntimeWorld U S V) :
    RuntimeWorld U S V :=
  let ((result, state), core) :=
    ((turn.scope X parts).runFrom x.state).run (plainOutside x.state.memory view) x.core
  ⟨state, core, turn.executes (x.unexecuted ++ (result.toOption.getD []))⟩

theorem takes_plainTurn {conditions : RunConditions U S V} (view : Option Proxy.View)
    {turn : RuntimeTurn U S} {x : RuntimeWorld U S V} (hturn : conditions.turn turn x.state)
    (hreply : ∀ c r, conditions.reply turn x.state c r) :
    TakesRuntimeTurn X parts conditions turn x (plainTurn X parts view turn x) := by
  apply TakesRuntimeTurn.mk hturn
  apply Finishes.map id _ (Prog.finishes_reliable.2 rfl)
  intro core c r core' hstep
  cases hstep
  obtain ⟨hreplies, hanswers⟩ := answers_plainReply x.state.memory view core c
  exact ⟨hreply _ _, hreplies, core, .refl, hanswers, rfl⟩

end

/-- Parts of which nothing is used without a download or a rule. -/
def homeParts : ProfileParts Unit String Unit where
  parseSnapshot _ := none
  snapshotRules _ := []
  groupOrder _ := []
  deriveProfileName _ _ _ := ""
  parseRule _ := .ok ()
  compilerPolicySha256 _ := ""
  coreVersion _ := ""

end Supervisor

end Ratash
