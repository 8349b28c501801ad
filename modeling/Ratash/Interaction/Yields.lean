import Ratash.Interaction.Attempt

/-! A total judgement: from a world with the precondition every run ends with a value. -/

namespace Interaction

variable {S T : Signature} {W V : Type} {E : Environment S W}

theorem Finishes.exists_of_total (htotal : ∀ w c, ∃ r w', E w c r w')
    (p : Prog S α) (w : W) : ∃ a w', Finishes E p w a w' := by
  induction p generalizing w with
  | ret a => exact ⟨a, w, .ret⟩
  | ask c next ih =>
    obtain ⟨r, w₁, hstep⟩ := htotal w c
    obtain ⟨a, w', hrest⟩ := ih r w₁
    exact ⟨a, w', .ask hstep hrest⟩

theorem Finishes.bind {p : Prog S α} {f : α → Prog S β} (hp : Finishes E p w a w')
    (hf : Finishes E (f a) w' b w'') : Finishes E (p.bind f) w b w'' := by
  induction hp with
  | ret => exact hf
  | ask hstep _ ih => exact .ask hstep (ih hf)

namespace Attempt

variable {x : Attempt S ε α} {f : α → Attempt S ε β}

theorem finishes_seq (hx : Finishes E x.run w (.ok a) w') (hf : Finishes E (f a).run w' r w'') :
    Finishes E (x >>= f).run w r w'' := by
  rw [bind_run]
  exact hx.bind hf

theorem finishes_result_seq {f : Except ε α → Attempt S δ β} (hx : Finishes E x.run w r w')
    (hf : Finishes E (f r).run w' b w'') : Finishes E (x.result >>= f).run w b w'' :=
  finishes_seq (hx.bind .ret) hf

/-- From a world with `P`, every run ends with a value, and `Q` holds of it. -/
def Yields (E : Environment S W) (P : W → Prop) (x : Attempt S ε α) (Q : α → W → Prop) : Prop :=
  ∀ w, P w → x.run.Ensures E (fun _ => True) (fun r w' => ∃ a, r = .ok a ∧ Q a w') w

variable {E : Environment S W} {P P' : W → Prop} {Q : α → W → Prop}

theorem Yields.mono {Q' : α → W → Prop} (hx : Yields E P x Q)
    (hP : ∀ w, P' w → P w) (hQ : ∀ a w, Q a w → Q' a w) : Yields E P' x Q' := by
  intro w h
  apply (hx w (hP w h)).mono (fun _ h => h)
  rintro _ w' _ ⟨a, rfl, hQa⟩
  exact ⟨a, rfl, hQ a w' hQa⟩

theorem yields_pure (a : α) (h : ∀ w, P w → Q a w) : Yields E P (pure a : Attempt S ε α) Q :=
  fun w hP => ⟨trivial, a, rfl, h w hP⟩

theorem Yields.ensures {R : α → W → Prop} {Q : Except ε β → W → Prop} (hx : Yields E P x R)
    (hP : P w) (hf : ∀ a w', R a w' → (f a).run.Ensures E (fun _ => True) Q w') :
    (x >>= f).run.Ensures E (fun _ => True) Q w := by
  apply ensures_seq (hx w hP)
  · rintro a w' _ ⟨b, hb, hR⟩
    cases hb
    exact hf a w' hR
  · rintro e w' _ ⟨b, hb, _⟩
    cases hb

theorem Yields.seq {R : α → W → Prop} {Q : β → W → Prop} (hx : Yields E P x R)
    (hf : ∀ a, Yields E (R a) (f a) Q) : Yields E P (x >>= f) Q :=
  fun _ hP => hx.ensures hP fun a w' hR => hf a w' hR

theorem yields_require {p : Prop} [Decidable p] (hp : p) (e : ε) :
    Yields E P (require p e : Attempt S ε Unit) fun _ => P :=
  fun _ hP => ensures_require.2 ⟨trivial, fun _ => ⟨(), rfl, hP⟩, fun hn => absurd hp hn⟩

theorem yields_ofExcept {r : Except ε α} (hr : r = .ok a) :
    Yields E P (ofExcept r : Attempt S ε α) fun b w => P w ∧ b = a :=
  fun _ hP => ⟨trivial, a, hr, hP, rfl⟩

theorem Yields.whenever {p : Prop} [Decidable p] {x : Attempt S ε Unit}
    (hx : Yields E P x fun _ => P) : Yields E P (whenever p x) fun _ => P := by
  unfold Attempt.whenever
  split
  · exact hx
  · exact yields_pure () fun _ h => h

theorem Yields.result (hx : Yields E P x Q) :
    Yields E P (x.result : Attempt S δ (Except ε α)) fun r w => ∃ a, r = .ok a ∧ Q a w :=
  fun w hP => ensures_result.2 ((hx w hP).mono (fun _ h => h) fun r _ _ h => ⟨r, rfl, h⟩)

theorem yields_of_fact {p : Prop} (h : p → Yields E P x Q) : Yields E (fun w => P w ∧ p) x Q :=
  fun w hw => h hw.2 w hw.1

theorem Yields.left {F : Environment T V} (hx : Yields E P x Q) (v : V) :
    Yields (E.sum F) (fun w => P w.1 ∧ w.2 = v) (x.left : Attempt (S.sum T) ε α)
      fun a w => Q a w.1 ∧ w.2 = v := by
  rintro ⟨w, _⟩ ⟨hP, rfl⟩
  apply ensures_left.2
  apply (hx w hP).mono (fun _ h => h)
  rintro _ w' _ ⟨a, rfl, hQ⟩
  exact ⟨a, rfl, hQ, rfl⟩

end Attempt

end Interaction
