import Ratash.Interaction.Prog

/-!
`Finishes` is a run to the end and `Reaches` a run stopped between two calls. `Prog.Ensures`
asks for an invariant at every point where the run may be stopped and for a postcondition at
its end; it is computed by recursion on the program, and `ensures_iff` ties it to the runs.
-/

namespace Interaction

/-- Which replies a call may get, and what it may do to the world. -/
abbrev Environment (S : Signature) (W : Type) :=
  W → (c : S.Call) → S.Reply c → W → Prop

/-- An outside that answers every call in one way. -/
abbrev Handler (S : Signature) (W : Type) :=
  W → (c : S.Call) → S.Reply c × W

variable {S T : Signature} {W V : Type}

inductive Finishes (E : Environment S W) : Prog S α → W → α → W → Prop where
  | ret : Finishes E (.ret a) w a w
  | ask : E w c r w' → Finishes E (next r) w' a w'' → Finishes E (.ask c next) w a w''

inductive Reaches (E : Environment S W) : Prog S α → W → W → Prop where
  | here : Reaches E p w w
  | ask : E w c r w' → Reaches E (next r) w' w'' → Reaches E (.ask c next) w w''

variable {p : Prog S α}

theorem Finishes.reaches {E : Environment S W} (h : Finishes E p w a w') : Reaches E p w w' := by
  induction h with
  | ret => exact .here
  | ask hstep _ ih => exact .ask hstep ih

/-- Every world the program can be stopped in satisfies `I`, and every result satisfies `Q`. -/
def Prog.Ensures (E : Environment S W) (I : W → Prop) (Q : α → W → Prop) : Prog S α → W → Prop
  | .ret a, w => I w ∧ Q a w
  | .ask c next, w => I w ∧ ∀ r w', E w c r w' → (next r).Ensures E I Q w'

namespace Prog

variable {E : Environment S W} {I J : W → Prop} {Q : α → W → Prop}

@[simp] theorem ensures_ret : (ret a : Prog S α).Ensures E I Q w ↔ I w ∧ Q a w := .rfl

@[simp] theorem ensures_ask {next : S.Reply c → Prog S α} :
    (ask c next).Ensures E I Q w ↔ I w ∧ ∀ r w', E w c r w' → (next r).Ensures E I Q w' := .rfl

theorem Ensures.here (h : p.Ensures E I Q w) : I w := by
  cases p <;> exact h.1

theorem ensures_bind {f : α → Prog S β} {Q : β → W → Prop} :
    (p.bind f).Ensures E I Q w ↔ p.Ensures E I (fun a w' => (f a).Ensures E I Q w') w := by
  induction p generalizing w with
  | ret a => exact ⟨fun h => ⟨h.here, h⟩, And.right⟩
  | ask c next ih =>
    exact and_congr_right' (forall_congr' fun r => forall_congr' fun w' =>
      imp_congr_right fun _ => ih r)

theorem Ensures.mono {Q' : α → W → Prop} (h : p.Ensures E I Q w)
    (hI : ∀ w, I w → J w) (hQ : ∀ a w, I w → Q a w → Q' a w) : p.Ensures E J Q' w := by
  induction p generalizing w with
  | ret a => exact ⟨hI w h.1, hQ a w h.1 h.2⟩
  | ask c next ih => exact ⟨hI w h.1, fun r w' hstep => ih r (h.2 r w' hstep)⟩

theorem Ensures.and {Q' : α → W → Prop} (h : p.Ensures E I Q w) (h' : p.Ensures E J Q' w) :
    p.Ensures E (fun w => I w ∧ J w) (fun a w => Q a w ∧ Q' a w) w := by
  induction p generalizing w with
  | ret a => exact ⟨⟨h.1, h'.1⟩, h.2, h'.2⟩
  | ask c next ih => exact ⟨⟨h.1, h'.1⟩, fun r w' hstep => ih r (h.2 r w' hstep) (h'.2 r w' hstep)⟩

theorem Ensures.all {I : ι → W → Prop} {Q : ι → α → W → Prop} (h : ∀ i, p.Ensures E (I i) (Q i) w) :
    p.Ensures E (fun w => ∀ i, I i w) (fun a w => ∀ i, Q i a w) w := by
  induction p generalizing w with
  | ret a => exact ⟨fun i => (h i).1, fun i => (h i).2⟩
  | ask c next ih => exact ⟨fun i => (h i).1, fun r w' hstep => ih r fun i => (h i).2 r w' hstep⟩

theorem Ensures.within (h : p.Ensures E J Q w)
    (hJ : ∀ w, J w → I w) : p.Ensures E I (fun a w' => J w' ∧ Q a w') w :=
  h.mono hJ fun _ _ hJ hQ => ⟨hJ, hQ⟩

theorem Ensures.restrict {E' : Environment S W}
    (h : p.Ensures E I Q w) (hE : ∀ w c r w', E' w c r w' → E w c r w') : p.Ensures E' I Q w := by
  induction p generalizing w with
  | ret a => exact h
  | ask c next ih => exact ⟨h.1, fun r w' hstep => ih r (h.2 r w' (hE w c r w' hstep))⟩

theorem Ensures.frozen (h : p.Ensures E (· = w) Q w)
    (hI : I w) : p.Ensures E I (fun a w' => w = w' ∧ Q a w) w := by
  refine h.mono (fun w' hw => hw ▸ hI) ?_
  rintro a w' rfl hQ
  exact ⟨rfl, hQ⟩

theorem ensures_of_step (p : Prog S α) (hstep : ∀ w c r w', I w → E w c r w' → I w') (h : I w) :
    p.Ensures E I (fun _ _ => True) w := by
  induction p generalizing w with
  | ret a => exact ⟨h, trivial⟩
  | ask c next ih => exact ⟨h, fun r w' hE => ih r (hstep w c r w' h hE)⟩

theorem ensures_iff : p.Ensures E I Q w ↔
      (∀ w', Reaches E p w w' → I w') ∧ ∀ a w', Finishes E p w a w' → Q a w' := by
  constructor
  · intro h
    constructor
    · intro w' hr
      induction hr with
      | here => exact h.here
      | ask hstep _ ih => exact ih (h.2 _ _ hstep)
    · intro a w' hf
      induction hf with
      | ret => exact h.2
      | ask hstep _ ih => exact ih (h.2 _ _ hstep)
  · intro h
    induction p generalizing w with
    | ret a => exact ⟨h.1 w .here, h.2 a w .ret⟩
    | ask c next ih =>
      exact ⟨h.1 w .here, fun r w' hstep => ih r
        ⟨fun w'' hr => h.1 w'' (.ask hstep hr), fun a w'' hf => h.2 a w'' (.ask hstep hf)⟩⟩

theorem Ensures.reaches (h : p.Ensures E I Q w) (hr : Reaches E p w w') : I w' :=
  (ensures_iff.1 h).1 w' hr

theorem Ensures.finishes (h : p.Ensures E I Q w) (hf : Finishes E p w a w') : Q a w' :=
  (ensures_iff.1 h).2 a w' hf

end Prog

end Interaction
