import Mathlib.Logic.Function.Basic
import Mathlib.Logic.Relation
import Ratash.Interaction.Rules

namespace Interaction

variable {S : Signature} {W α ι : Type}

/-- The outside of one of several programs: before each call the others may have acted. The record
says whether every call so far was as promised. -/
def Environment.amid (E : Environment S W) (Rely Guarantee : W → W → Prop) :
    Environment S (W × Prop) :=
  fun u c r u' => ∃ w, Relation.ReflTransGen Rely u.1 w ∧ E w c r u'.1 ∧
    u'.2 = (u.2 ∧ Guarantee w u'.1)

/-- Every call is as promised, whatever the others do. -/
def Prog.Abides (E : Environment S W) (Rely Guarantee : W → W → Prop) (Q : α → W → Prop)
    (p : Prog S α) (w : W) : Prop :=
  p.Ensures (E.amid Rely Guarantee) Prod.snd (fun a u => Q a u.1) (w, True)

section Abides

variable {E : Environment S W} {Rely Guarantee : W → W → Prop} {Q : α → W → Prop}

theorem Prog.Abides.answer (h : (Prog.ret a : Prog S α).Abides E Rely Guarantee Q w) : Q a w :=
  h.2

theorem Prog.Abides.call (h : (Prog.ask c next).Abides E Rely Guarantee Q w)
    (hcall : E w c r w') : Guarantee w w' ∧ (next r).Abides E Rely Guarantee Q w' := by
  have hnext := h.2 r (w', True ∧ Guarantee w w') ⟨w, .refl, hcall, rfl⟩
  have hkept : Guarantee w w' := hnext.here.2
  rw [eq_true hkept, true_and] at hnext
  exact ⟨hkept, hnext⟩

theorem Prog.Abides.wait {p : Prog S α} (h : p.Abides E Rely Guarantee Q w) (hrely : Rely w w')
    (hstable : ∀ a, Q a w → Q a w') : p.Abides E Rely Guarantee Q w' := by
  cases p with
  | ret a => exact ⟨trivial, hstable a h.2⟩
  | ask c next =>
    refine ⟨trivial, fun r u ⟨w₁, hothers, hcall⟩ => h.2 r u ⟨w₁, ?_, hcall⟩⟩
    exact .head hrely hothers

end Abides

/-- What each process may do: its calls, the programs it may begin, and what the end of a program
and the death of the process do to the world. -/
structure Processes (ι : Type) (S : Signature) (W α : Type) where
  call : ι → Environment S W
  begins : ι → W → Prog S α → W → Prop
  ends : ι → W → α → W → Prop
  dies : ι → W → W → Prop

/-- The world, and what is left of the program of each process. -/
structure Ensemble (ι : Type) (S : Signature) (W α : Type) where
  world : W
  running : ι → Option (Prog S α)

namespace Processes

variable [DecidableEq ι]

inductive Step (P : Processes ι S W α) (e : Ensemble ι S W α) : Ensemble ι S W α → Prop where
  | call (hrunning : e.running i = some (.ask c next)) (h : P.call i e.world c r w') :
      Step P e ⟨w', Function.update e.running i (some (next r))⟩
  | begin (hidle : e.running i = none) (h : P.begins i e.world p w') :
      Step P e ⟨w', Function.update e.running i (some p)⟩
  | finish (hrunning : e.running i = some (.ret a)) (h : P.ends i e.world a w') :
      Step P e ⟨w', Function.update e.running i none⟩
  | die (h : P.dies i e.world w') : Step P e ⟨w', Function.update e.running i none⟩

abbrev Run (P : Processes ι S W α) : Ensemble ι S W α → Ensemble ι S W α → Prop :=
  Relation.ReflTransGen P.Step

/-- What the processes other than one may do. -/
def Others (Guarantee : ι → W → W → Prop) (i : ι) (w w' : W) : Prop :=
  ∃ j, j ≠ i ∧ Guarantee j w w'

/-- Every process, taken alone, keeps its promise. -/
structure Abide (P : Processes ι S W α) (Guarantee : ι → W → W → Prop) (Inv : W → Prop)
    (Idle : ι → W → Prop) (Answer : ι → α → W → Prop) : Prop where
  kept : Guarantee i w w' → Inv w → Inv w'
  begins : P.begins i w p w' → Inv w → Idle i w → Guarantee i w w' ∧
    p.Abides (P.call i) (Others Guarantee i) (Guarantee i) (Answer i) w'
  ends : P.ends i w a w' → Inv w → Answer i a w → Guarantee i w w' ∧ Idle i w'
  dies : P.dies i w w' → Inv w → Guarantee i w w' ∧ Idle i w'
  idle_stable : Others Guarantee i w w' → Inv w → Idle i w → Idle i w'
  answer_stable : Others Guarantee i w w' → Inv w → Answer i a w → Answer i a w'

section Abide

variable {P : Processes ι S W α} {Guarantee : ι → W → W → Prop} {Inv : W → Prop}
  {Idle : ι → W → Prop} {Answer : ι → α → W → Prop}

def Standing (P : Processes ι S W α) (Guarantee : ι → W → W → Prop) (Idle : ι → W → Prop)
    (Answer : ι → α → W → Prop) (w : W) (i : ι) : Option (Prog S α) → Prop
  | none => Idle i w
  | some p => p.Abides (P.call i) (Others Guarantee i) (Guarantee i) (Answer i) w

structure Orderly (P : Processes ι S W α) (Guarantee : ι → W → W → Prop) (Inv : W → Prop)
    (Idle : ι → W → Prop) (Answer : ι → α → W → Prop) (e : Ensemble ι S W α) : Prop where
  inv : Inv e.world
  standing : ∀ i, Standing P Guarantee Idle Answer e.world i (e.running i)

variable (hP : P.Abide Guarantee Inv Idle Answer)

include hP

theorem Orderly.act (h : Orderly P Guarantee Inv Idle Answer e) (hact : Guarantee i e.world w')
    (hstanding : Standing P Guarantee Idle Answer w' i p) :
    Orderly P Guarantee Inv Idle Answer ⟨w', Function.update e.running i p⟩ := by
  refine ⟨hP.kept hact h.inv, fun j => ?_⟩
  by_cases hj : j = i
  · subst hj
    simpa only [Function.update_self] using hstanding
  · have hothers : Others Guarantee j e.world w' := ⟨i, Ne.symm hj, hact⟩
    have hstand := h.standing j
    simp only [Function.update_of_ne hj]
    cases hrunning : e.running j with
    | none =>
      rw [hrunning] at hstand
      exact hP.idle_stable hothers h.inv hstand
    | some q =>
      rw [hrunning] at hstand
      exact Prog.Abides.wait hstand hothers fun a => hP.answer_stable hothers h.inv

theorem Orderly.step (h : Orderly P Guarantee Inv Idle Answer e) (hstep : P.Step e e') :
    Orderly P Guarantee Inv Idle Answer e' ∧ ∃ i, Guarantee i e.world e'.world := by
  cases hstep with
  | @call i c next r w' hrunning hcall =>
    have hstand := h.standing i
    rw [hrunning] at hstand
    obtain ⟨hact, hnext⟩ := Prog.Abides.call hstand hcall
    exact ⟨h.act hP hact hnext, i, hact⟩
  | @begin i p w' hidle hbegins =>
    have hstand := h.standing i
    rw [hidle] at hstand
    obtain ⟨hact, hbegun⟩ := hP.begins hbegins h.inv hstand
    exact ⟨h.act hP hact hbegun, i, hact⟩
  | @finish i a w' hrunning hends =>
    have hstand := h.standing i
    rw [hrunning] at hstand
    obtain ⟨hact, hidle⟩ := hP.ends hends h.inv (Prog.Abides.answer hstand)
    exact ⟨h.act hP hact hidle, i, hact⟩
  | @die i w' hdies =>
    obtain ⟨hact, hidle⟩ := hP.dies hdies h.inv
    exact ⟨h.act hP hact hidle, i, hact⟩

theorem Orderly.run (h : Orderly P Guarantee Inv Idle Answer e) (hrun : P.Run e e') :
    Orderly P Guarantee Inv Idle Answer e' ∧
      Relation.ReflTransGen (fun w w' => ∃ i, Guarantee i w w') e.world e'.world := by
  induction hrun with
  | refl => exact ⟨h, .refl⟩
  | tail _ hstep ih =>
    obtain ⟨horderly, hact⟩ := ih.1.step hP hstep
    exact ⟨horderly, ih.2.tail hact⟩

end Abide

end Processes

end Interaction
