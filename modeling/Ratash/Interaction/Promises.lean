import Ratash.Interaction.Only
import Ratash.Interaction.Processes

namespace Interaction

variable {S : Signature} {W : Type} {E : Environment S W} {Rely Guarantee : W → W → Prop}
  {P P' : W → Prop}

/-- What the others do leaves a property alone. -/
def StableUnder (Rely : W → W → Prop) (P : W → Prop) : Prop :=
  ∀ w w', Rely w w' → P w → P w'

theorem StableUnder.others (h : StableUnder Rely P) (hothers : Relation.ReflTransGen Rely w w')
    (hP : P w) : P w' := by
  induction hothers with
  | refl => exact hP
  | tail _ hrely ih => exact h _ _ hrely ih

namespace Attempt

/-- From a world with `P` every call is as promised, and the result satisfies `Q`. -/
def Abides (E : Environment S W) (Rely Guarantee : W → W → Prop) (P : W → Prop)
    (x : Attempt S ε α) (Q : Except ε α → W → Prop) : Prop :=
  ∀ w, P w → x.run.Abides E Rely Guarantee Q w

variable {Q : Except ε α → W → Prop} {x : Attempt S ε α}

theorem Abides.mono {Q' : Except ε α → W → Prop} (hx : Abides E Rely Guarantee P x Q)
    (hP : ∀ w, P' w → P w) (hQ : ∀ r w, Q r w → Q' r w) : Abides E Rely Guarantee P' x Q' :=
  fun w h => (hx w (hP w h)).mono (fun _ h => h) fun r u _ => hQ r u.1

theorem abides_of_fact {p : Prop}
    (h : p → Abides E Rely Guarantee P x Q) : Abides E Rely Guarantee (fun w => P w ∧ p) x Q :=
  fun w hw => h hw.2 w hw.1

theorem abides_pure (h : ∀ w, P w → Q (.ok a) w) : Abides E Rely Guarantee P (pure a) Q :=
  fun w hP => ⟨trivial, h w hP⟩

theorem abides_throw (h : ∀ w, P w → Q (.error e) w) : Abides E Rely Guarantee P (throw e) Q :=
  fun w hP => ⟨trivial, h w hP⟩

theorem abides_ofExcept {r : Except ε α} (h : ∀ w, P w → Q r w) :
    Abides E Rely Guarantee P (ofExcept r) Q :=
  fun w hP => ⟨trivial, h w hP⟩

theorem Abides.seq {f : α → Attempt S ε β} {R : Except ε α → W → Prop} {Q : Except ε β → W → Prop}
    (hx : Abides E Rely Guarantee P x R) (hf : ∀ a, Abides E Rely Guarantee (R (.ok a)) (f a) Q)
    (herr : ∀ e w, R (.error e) w → Q (.error e) w) : Abides E Rely Guarantee P (x >>= f) Q := by
  intro w hP
  apply ensures_seq (hx w hP)
  · rintro a ⟨w', kept⟩ hkept hR
    obtain rfl : kept = True := eq_true hkept
    exact hf a w' hR
  · exact fun e u _ hR => herr e u.1 hR

theorem Abides.result {f : Except ε α → Attempt S δ β}
    {R : Except ε α → W → Prop} {Q : Except δ β → W → Prop} (hx : Abides E Rely Guarantee P x R)
    (hf : ∀ r, Abides E Rely Guarantee (R r) (f r) Q) :
    Abides E Rely Guarantee P (x.result >>= f) Q := by
  intro w hP
  apply ensures_result_seq (hx w hP)
  rintro r ⟨w', kept⟩ hkept hR
  obtain rfl : kept = True := eq_true hkept
  exact hf r w' hR

theorem abides_require_seq {p : Prop} [Decidable p] {f : Unit → Attempt S ε β}
    {Q : Except ε β → W → Prop} (hpos : p → Abides E Rely Guarantee P (f ()) Q)
    (hneg : ¬p → ∀ w, P w → Q (.error e) w) : Abides E Rely Guarantee P (require p e >>= f) Q := by
  by_cases hp : p
  · rw [require, if_pos hp]
    exact hpos hp
  · rw [require, if_neg hp]
    exact fun w hP => ⟨trivial, hneg hp w hP⟩

theorem abides_lift {c : S.Call} {Q : Except ε (S.Reply c) → W → Prop} (hP : StableUnder Rely P)
    (hcall : ∀ w r w', P w → E w c r w' → Guarantee w w' ∧ Q (.ok r) w') :
    Abides E Rely Guarantee P (ExceptT.lift (Prog.call c)) Q := by
  intro w hw
  refine ⟨trivial, ?_⟩
  rintro r ⟨w', kept⟩ ⟨w₁, hothers, hstep, hkept⟩
  have h := hcall w₁ r w' (hP.others hothers hw) hstep
  obtain rfl : kept = True := hkept.trans (eq_true ⟨trivial, h.1⟩)
  exact ⟨trivial, h.2⟩

theorem Only.abides {C : S.Call → Prop} (hx : Only C x) (hP : StableUnder Rely P)
    (hcall : ∀ w c r w', C c → P w → E w c r w' → Guarantee w w' ∧ P w') :
    Abides E Rely Guarantee P x fun _ => P := by
  intro w hw
  have hkept : x.run.Ensures (E.amid Rely Guarantee) (fun u => u.2 ∧ P u.1) (fun _ _ => True)
      (w, True) := by
    apply Prog.Only.ensures hx _ ⟨trivial, hw⟩
    rintro ⟨w, kept⟩ c r ⟨w', kept'⟩ hc ⟨hkept, hP'⟩ ⟨w₁, hothers, hstep, hrecord⟩
    have h := hcall w₁ c r w' hc (hP.others hothers hP') hstep
    exact ⟨hrecord ▸ ⟨hkept, h.1⟩, h.2⟩
  exact hkept.mono (fun _ h => h.1) fun _ _ h _ => h.2

end Attempt

namespace Processes

variable {ι : Type} [DecidableEq ι] {α : Type} {P : Processes ι S W α}
  {running : ι → Option (Prog S α)}

theorem Run.call (hcall : P.call i w c r w') :
    P.Run ⟨w, Function.update running i (some (.ask c next))⟩
      ⟨w', Function.update running i (some (next r))⟩ := by
  have hstep := Step.call (P := P) (e := ⟨w, Function.update running i (some (.ask c next))⟩)
    (Function.update_self ..) hcall
  rw [Function.update_idem] at hstep
  exact .single hstep

theorem Run.calls (hfinishes : Finishes (P.call i) p w a w') :
    P.Run ⟨w, Function.update running i (some p)⟩
      ⟨w', Function.update running i (some (.ret a))⟩ := by
  induction p generalizing w with
  | ret b =>
    cases hfinishes
    exact .refl
  | ask c next ih =>
    cases hfinishes with
    | ask hcall hrest => exact (Run.call hcall).trans (ih _ hrest)

theorem Run.advance {perform : Handler S (W × V)}
    (hperform : ∀ u c r u', perform.reliable u c r u' → P.call i u.1 c r u'.1) (n : Nat)
    (p : Prog S α) (u : W × V) : P.Run ⟨u.1, Function.update running i (some p)⟩
      ⟨(p.advance perform n u).2.1, Function.update running i (p.advance perform n u).1⟩ := by
  induction n generalizing p u with
  | zero => exact .refl
  | succ n ih =>
    cases p with
    | ret a => exact .refl
    | ask c next => exact (Run.call (hperform _ _ _ _ rfl)).trans (ih _ _)

theorem Run.rest (hidle : running i = none) (hfinishes : Finishes (P.call i) p w a w₁)
    (hends : P.ends i w₁ a w₂) : P.Run ⟨w, Function.update running i (some p)⟩ ⟨w₂, running⟩ := by
  have hfinish := Step.finish (P := P) (e := ⟨w₁, Function.update running i (some (.ret a))⟩)
    (Function.update_self ..) hends
  rw [Function.update_idem, ← hidle, Function.update_eq_self] at hfinish
  exact .tail (Run.calls hfinishes) hfinish

theorem Run.solo (hidle : running i = none) (hbegins : P.begins i w p w₁)
    (hfinishes : Finishes (P.call i) p w₁ a w₂) (hends : P.ends i w₂ a w₃) :
    P.Run ⟨w, running⟩ ⟨w₃, running⟩ :=
  .head (.begin hidle hbegins) (Run.rest hidle hfinishes hends)

end Processes

end Interaction
