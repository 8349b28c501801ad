import Ratash.Interaction.Handler

/-!
An `Attempt` is a program whose result is a value or an error; sequencing stops at the first error.
-/

namespace Interaction

variable {S T : Signature} {W V : Type}

abbrev Attempt (S : Signature) (ε α : Type) := ExceptT ε (Prog S) α

variable {p : Prop} {Q : Except ε β → W → Prop}

namespace Attempt

/-- Run a program to its result and look at it, error or not. -/
def result (x : Attempt S ε α) : Attempt S δ (Except ε α) :=
  ExceptT.lift x.run

def orThrow (x : Attempt S ε α) (e : δ) : Attempt S δ α :=
  ExceptT.adapt (fun _ => e) x

def require (p : Prop) [Decidable p] (e : ε) : Attempt S ε Unit :=
  if p then pure () else throw e

def whenever (p : Prop) [Decidable p] (x : Attempt S ε Unit) : Attempt S ε Unit :=
  if p then x else pure ()

def ofExcept (r : Except ε α) : Attempt S ε α :=
  ExceptT.mk (.ret r)

/-- The value of a result already at hand, or an error of the caller's own. -/
def okOr (r : Except δ α) (e : ε) : Attempt S ε α :=
  match r with
  | .ok a => pure a
  | .error _ => throw e

def forEach (f : α → Attempt S ε Unit) : List α → Attempt S ε Unit
  | [] => pure ()
  | a :: rest => do
    f a
    forEach f rest

def left (x : Attempt S ε α) : Attempt (S.sum T) ε α :=
  ExceptT.mk x.run.left

def right (x : Attempt T ε α) : Attempt (S.sum T) ε α :=
  ExceptT.mk x.run.right

variable {E : Environment S W} {I : W → Prop}

@[simp] theorem ensures_pure {Q : Except ε α → W → Prop} :
    (pure a : Attempt S ε α).run.Ensures E I Q w ↔ I w ∧ Q (.ok a) w := .rfl

@[simp] theorem ensures_throw {Q : Except ε α → W → Prop} :
    (throw e : Attempt S ε α).run.Ensures E I Q w ↔ I w ∧ Q (.error e) w := .rfl

@[simp] theorem ensures_require [Decidable p] {Q : Except ε Unit → W → Prop} :
    (require p e : Attempt S ε Unit).run.Ensures E I Q w ↔
      I w ∧ (p → Q (.ok ()) w) ∧ (¬p → Q (.error e) w) := by
  unfold require
  split <;> simp_all

theorem ensures_whenever [Decidable p] {x : Attempt S ε Unit}
    {Q : Except ε Unit → W → Prop} (hx : p → x.run.Ensures E I Q w)
    (hpure : ¬p → I w ∧ Q (.ok ()) w) : (whenever p x).run.Ensures E I Q w := by
  unfold whenever
  split
  · exact hx ‹p›
  · exact hpure ‹¬p›

variable {r : Except ε α}

@[simp] theorem ensures_ofExcept {Q : Except ε α → W → Prop} :
    (ofExcept r : Attempt S ε α).run.Ensures E I Q w ↔ I w ∧ Q r w := .rfl

theorem bind_run (x : Attempt S ε α) (f : α → Attempt S ε β) :
    (x >>= f).run = x.run.bind fun r => match r with
      | .ok a => (f a).run
      | .error e => .ret (.error e) := by
  rw [ExceptT.run_bind, Prog.bind_eq]
  congr 1

variable {x : Attempt S ε α} {f : α → Attempt S ε β}

theorem ensures_bind :
    (x >>= f).run.Ensures E I Q w ↔
      x.run.Ensures E I
        (fun r w' => match r with
          | .ok a => (f a).run.Ensures E I Q w'
          | .error e => Q (.error e) w') w := by
  rw [bind_run, Prog.ensures_bind]
  constructor
  · intro h
    refine h.mono (fun _ => id) fun r w' _ hr => ?_
    cases r with
    | ok a => exact hr
    | error e => exact hr.2
  · intro h
    refine h.mono (fun _ => id) fun r w' hI hr => ?_
    cases r with
    | ok a => exact hr
    | error e => exact ⟨hI, hr⟩

theorem ensures_seq {R Q} (hx : x.run.Ensures E I R w)
    (hok : ∀ a w', I w' → R (.ok a) w' → (f a).run.Ensures E I Q w')
    (herr : ∀ e w', I w' → R (.error e) w' → Q (.error e) w') : (x >>= f).run.Ensures E I Q w :=
  ensures_bind.2 (hx.mono (fun _ => id) fun
    | .ok a, w', hI, h => hok a w' hI h
    | .error e, w', hI, h => herr e w' hI h)

theorem ensures_require_seq [Decidable p] {f : Unit → Attempt S ε β} {Q} (hI : I w)
    (hpos : p → (f ()).run.Ensures E I Q w) (hneg : ¬p → Q (.error e) w) :
    (require p e >>= f).run.Ensures E I Q w :=
  ensures_bind.2 (ensures_require.2 ⟨hI, hpos, hneg⟩)

theorem ensures_ofExcept_seq {Q} (hI : I w) (hok : ∀ a, r = .ok a → (f a).run.Ensures E I Q w)
    (herr : ∀ e, r = .error e → Q (.error e) w) : (ofExcept r >>= f).run.Ensures E I Q w := by
  refine ensures_bind.2 (ensures_ofExcept.2 ⟨hI, ?_⟩)
  cases r with
  | ok a => exact hok a rfl
  | error e => exact herr e rfl

theorem ensures_okOr {r : Except δ α} {Q : Except ε α → W → Prop} (hI : I w)
    (hok : ∀ a, r = .ok a → Q (.ok a) w) (herr : Q (.error e) w) :
    (okOr r e : Attempt S ε α).run.Ensures E I Q w := by
  cases r with
  | ok a => exact ⟨hI, hok a rfl⟩
  | error _ => exact ⟨hI, herr⟩

theorem ensures_result {Q : Except δ (Except ε α) → W → Prop} :
    (x.result : Attempt S δ _).run.Ensures E I Q w ↔
      x.run.Ensures E I (fun r w' => Q (.ok r) w') w := by
  have hrun : (x.result : Attempt S δ _).run = x.run.bind fun r => .ret (.ok r) := rfl
  rw [hrun, Prog.ensures_bind]
  exact ⟨fun h => h.mono (fun _ => id) fun _ _ _ hQ => hQ.2,
    fun h => h.mono (fun _ => id) fun _ _ hI hQ => ⟨hI, hQ⟩⟩

theorem ensures_orThrow {e : δ} {Q : Except δ α → W → Prop} :
    (x.orThrow e).run.Ensures E I Q w ↔
      x.run.Ensures E I
        (fun r w' => match r with
          | .ok a => Q (.ok a) w'
          | .error _ => Q (.error e) w') w := by
  have hrun : (x.orThrow e).run = x.run.bind fun r => .ret (r.mapError fun _ => e) := rfl
  rw [hrun, Prog.ensures_bind]
  constructor
  · intro h
    refine h.mono (fun _ => id) fun r w' _ hr => ?_
    cases r <;> exact hr.2
  · intro h
    refine h.mono (fun _ => id) fun r w' hI hr => ?_
    cases r <;> exact ⟨hI, hr⟩

theorem ensures_orThrow_seq {e : δ} {f : α → Attempt S δ β} {R Q} (hx : x.run.Ensures E I R w)
    (hok : ∀ a w', I w' → R (.ok a) w' → (f a).run.Ensures E I Q w')
    (herr : ∀ e' w', I w' → R (.error e') w' → Q (.error e) w') :
    (x.orThrow e >>= f).run.Ensures E I Q w :=
  ensures_bind.2 (ensures_orThrow.2 (hx.mono (fun _ h => h) fun
    | .ok a, w', hI, h => hok a w' hI h
    | .error e', w', hI, h => herr e' w' hI h))

theorem ensures_result_seq {f : Except ε α → Attempt S δ β} {R Q} (hx : x.run.Ensures E I R w)
    (hf : ∀ r w', I w' → R r w' → (f r).run.Ensures E I Q w') :
    (x.result >>= f).run.Ensures E I Q w :=
  ensures_bind.2 (ensures_result.2 (hx.mono (fun _ h => h) hf))

theorem ensures_okOr_seq {r : Except δ α} {Q} (hI : I w)
    (hok : ∀ a, r = .ok a → (f a).run.Ensures E I Q w) (herr : Q (.error e) w) :
    (okOr r e >>= f).run.Ensures E I Q w :=
  ensures_bind.2 (ensures_okOr hI hok herr)

/-- Wherever it starts, the program keeps the invariant. -/
def Keeps (E : Environment S W) (I : W → Prop) (x : Attempt S ε α) : Prop :=
  ∀ w, I w → x.run.Ensures E I (fun _ _ => True) w

theorem keeps_pure (a : α) : Keeps E I (pure a : Attempt S ε α) :=
  fun _ hI => ⟨hI, trivial⟩

theorem keeps_throw (e : ε) : Keeps E I (throw e : Attempt S ε α) :=
  fun _ hI => ⟨hI, trivial⟩

theorem keeps_require [Decidable p] (e : ε) : Keeps E I (require p e : Attempt S ε Unit) :=
  fun _ hI => ensures_require.2 ⟨hI, fun _ => trivial, fun _ => trivial⟩

theorem keeps_ofExcept (r : Except ε α) : Keeps E I (ofExcept r : Attempt S ε α) :=
  fun _ hI => ⟨hI, trivial⟩

theorem keeps_of_step (hstep : ∀ w c r w', I w → E w c r w' → I w') (x : Attempt S ε α) :
    Keeps E I x :=
  fun _ hI => x.run.ensures_of_step hstep hI

theorem keeps_true (x : Attempt S ε α) : Keeps E (fun _ => True) x :=
  keeps_of_step (fun _ _ _ _ _ _ => trivial) x

theorem Keeps.seq (hx : Keeps E I x) (hf : ∀ a, Keeps E I (f a)) : Keeps E I (x >>= f) :=
  fun w hI => ensures_seq (hx w hI) (fun a w' hI' _ => hf a w' hI') fun _ _ _ _ => trivial

theorem Keeps.orThrow (hx : Keeps E I x) (e : δ) : Keeps E I (x.orThrow e) := by
  intro w hI
  apply ensures_orThrow.2
  apply (hx w hI).mono (fun _ h => h)
  intro r _ _ _
  cases r <;> trivial

theorem Keeps.result (hx : Keeps E I x) : Keeps E I (x.result : Attempt S δ (Except ε α)) :=
  fun w hI => ensures_result.2 (hx w hI)

theorem Keeps.whenever [Decidable p] {x : Attempt S ε Unit} (hx : Keeps E I x) :
    Keeps E I (whenever p x) :=
  fun w hI => ensures_whenever (fun _ => hx w hI) fun _ => ⟨hI, trivial⟩

theorem keeps_forEach {f : α → Attempt S ε Unit} {l : List α} (hf : ∀ a ∈ l, Keeps E I (f a)) :
    Keeps E I (forEach f l) := by
  induction l with
  | nil => exact keeps_pure ()
  | cons a rest ih =>
    apply (hf a List.mem_cons_self).seq
    intro _
    exact ih fun b hb => hf b (List.mem_cons_of_mem _ hb)

/-- From a world with `P`, whenever the program ends with a value, `Q` holds of it. -/
def Achieves (E : Environment S W) (P : W → Prop) (x : Attempt S ε α) (Q : α → W → Prop) : Prop :=
  ∀ w, P w → x.run.Ensures E (fun _ => True) (fun r w' => ∀ a, r = .ok a → Q a w') w

section Achieves

variable {P P' : W → Prop}

theorem Keeps.achieves (hx : Keeps E P x) : Achieves E P x fun _ => P :=
  fun w hP => (hx w hP).mono (fun _ _ => trivial) fun _ _ hP' _ _ _ => hP'

theorem achieves_true (x : Attempt S ε α) : Achieves E P x fun _ _ => True :=
  fun w _ => (keeps_true x w trivial).mono (fun _ h => h) fun _ _ _ _ _ _ => trivial

theorem achieves_fact (x : Attempt S ε α) : Achieves E (fun _ => p) x fun _ _ => p :=
  fun w hp => (keeps_true x w trivial).mono (fun _ h => h) fun _ _ _ _ _ _ => hp

variable {Q : α → W → Prop}

theorem achieves_of_fact (h : p → Achieves E P x Q) : Achieves E (fun w => P w ∧ p) x Q :=
  fun w hw => h hw.2 w hw.1

theorem achieves_pure (a : α) (h : ∀ w, P w → Q a w) : Achieves E P (pure a : Attempt S ε α) Q :=
  fun w hP => ⟨trivial, fun b hb => by cases hb; exact h w hP⟩

theorem achieves_throw (e : ε) : Achieves E P (throw e : Attempt S ε α) Q :=
  fun _ _ => ⟨trivial, fun _ h => by cases h⟩

theorem achieves_require [Decidable p] (e : ε) :
    Achieves E P (require p e : Attempt S ε Unit) fun _ w => P w ∧ p :=
  fun _ hP => ensures_require.2
    ⟨trivial, fun hp _ _ => ⟨hP, hp⟩, fun _ _ h => by cases h⟩

theorem achieves_ofExcept (r : Except ε α) :
    Achieves E P (ofExcept r : Attempt S ε α) fun a w => P w ∧ r = .ok a :=
  fun _ hP => ⟨trivial, fun _ h => ⟨hP, h⟩⟩

theorem Achieves.mono {Q' : α → W → Prop} (hx : Achieves E P x Q)
    (hP : ∀ w, P' w → P w) (hQ : ∀ a w, Q a w → Q' a w) : Achieves E P' x Q' :=
  fun w h => (hx w (hP w h)).mono (fun _ h => h) fun _ w' _ h a ha => hQ a w' (h a ha)

theorem Achieves.seq {R : α → W → Prop} {Q : β → W → Prop} (hx : Achieves E P x R)
    (hf : ∀ a, Achieves E (R a) (f a) Q) : Achieves E P (x >>= f) Q :=
  fun w hP =>
    ensures_seq (hx w hP) (fun a w' _ h => hf a w' (h a rfl)) fun _ _ _ _ _ h => by cases h

theorem Achieves.orThrow (hx : Achieves E P x Q) (e : δ) : Achieves E P (x.orThrow e) Q := by
  intro w hP
  apply ensures_orThrow.2
  apply (hx w hP).mono (fun _ h => h)
  intro r _ _ hr
  cases r with
  | ok a =>
    intro b hb
    cases hb
    exact hr a rfl
  | error _ => exact fun _ h => by cases h

theorem Achieves.result (hx : Achieves E P x Q) :
    Achieves E P (x.result : Attempt S δ (Except ε α)) fun r w => ∀ a, r = .ok a → Q a w := by
  intro w hP
  apply ensures_result.2
  apply (hx w hP).mono (fun _ h => h)
  intro r _ _ hr r' hr' a ha
  cases hr'
  exact hr a ha

theorem achieves_forEach {f : α → Attempt S ε Unit} {l : List α}
    (hf : ∀ a ∈ l, Achieves E P (f a) fun _ => P) : Achieves E P (forEach f l) fun _ => P := by
  induction l with
  | nil => exact achieves_pure () fun _ h => h
  | cons a rest ih =>
    apply (hf a List.mem_cons_self).seq
    intro _
    exact ih fun b hb => hf b (List.mem_cons_of_mem _ hb)

theorem achieves_forEach_mem {f : α → Attempt S ε Unit} {l : List α} (ha : a ∈ l)
    (hkeep : ∀ b ∈ l, Achieves E P (f b) fun _ => P)
    (hf : Achieves E (fun _ => True) (f a) fun _ => P) :
    Achieves E (fun _ => True) (forEach f l) fun _ => P := by
  induction l with
  | nil => cases ha
  | cons b rest ih =>
    have hrest : ∀ c ∈ rest, Achieves E P (f c) fun _ => P :=
      fun c hc => hkeep c (List.mem_cons_of_mem _ hc)
    obtain rfl | ha := List.mem_cons.1 ha
    · exact hf.seq fun _ => achieves_forEach hrest
    · exact (achieves_true (f b)).seq fun _ => ih ha hrest

end Achieves

theorem left_bind (x : Attempt S ε α) (f : α → Attempt S ε β) :
    ((x >>= f).left : Attempt (S.sum T) ε β) = x.left >>= fun a => (f a).left := by
  apply ExceptT.ext
  rw [bind_run]
  change ((x >>= f).run.left : Prog (S.sum T) _) = _
  rw [bind_run, Prog.left_bind]
  apply congrArg (Prog.bind _)
  funext r
  cases r <;> rfl

theorem ensures_left {F : Environment T V} {I : W × V → Prop} {Q : Except ε α → W × V → Prop} :
    (x.left : Attempt (S.sum T) ε α).run.Ensures (E.sum F) I Q (w, v) ↔
      x.run.Ensures E (fun w' => I (w', v)) (fun r w' => Q r (w', v)) w :=
  Prog.ensures_left

/-- Against a handler, the program ends with a value and in a world that satisfy `Q`. -/
def Succeeds (h : Handler S W) (x : Attempt S ε α) (Q : α → W → Prop) (w : W) : Prop :=
  ∃ a, (x.run.run h w).1 = .ok a ∧ Q a (x.run.run h w).2

section Succeeds

variable {h : Handler S W} {R : α → W → Prop} {Q : β → W → Prop}

theorem Succeeds.mono {Q Q' : α → W → Prop} (hx : x.Succeeds h Q w)
    (hQ : ∀ a w', Q a w' → Q' a w') : x.Succeeds h Q' w := by
  obtain ⟨a, ha, hQa⟩ := hx
  exact ⟨a, ha, hQ a _ hQa⟩

theorem succeeds_pure {Q : α → W → Prop} (hQ : Q a w) : (pure a : Attempt S ε α).Succeeds h Q w :=
  ⟨a, rfl, hQ⟩

theorem Succeeds.seq (hx : x.Succeeds h R w)
    (hf : ∀ a w', R a w' → (f a).Succeeds h Q w') : (x >>= f).Succeeds h Q w := by
  obtain ⟨a, ha, hR⟩ := hx
  obtain ⟨b, hb, hQ⟩ := hf a _ hR
  have hrun : (x >>= f).run.run h w = (f a).run.run h (x.run.run h w).2 := by
    rw [bind_run, Prog.run_bind, ha]
  exact ⟨b, hrun ▸ hb, hrun ▸ hQ⟩

theorem succeeds_require [Decidable p] {f : Unit → Attempt S ε β} (hp : p)
    (hf : (f ()).Succeeds h Q w) : (require p e >>= f).Succeeds h Q w := by
  rw [require, if_pos hp]
  exact hf

theorem succeeds_ofExcept (hr : r = .ok a)
    (hf : (f a).Succeeds h Q w) : (ofExcept r >>= f).Succeeds h Q w := by
  rw [hr]
  exact Succeeds.seq (R := fun b w' => b = a ∧ w' = w) ⟨a, rfl, rfl, rfl⟩
    fun _ _ hR => hR.1 ▸ hR.2 ▸ hf

theorem succeeds_okOr {r : Except δ α} (hr : r = .ok a)
    (hf : (f a).Succeeds h Q w) : (okOr r e >>= f).Succeeds h Q w := by
  rw [hr]
  exact hf

theorem succeeds_result {Q : Except ε α → W → Prop}
    (hQ : Q (x.run.run h w).1 (x.run.run h w).2) : (x.result : Attempt S δ _).Succeeds h Q w := by
  have hrun : (x.result : Attempt S δ _).run = x.run.bind fun r => .ret (.ok r) := rfl
  refine ⟨(x.run.run h w).1, ?_, ?_⟩ <;> rw [hrun, Prog.run_bind]
  · rfl
  · exact hQ

theorem Succeeds.orThrow (hx : x.Succeeds h R w) (e : δ) : (x.orThrow e).Succeeds h R w := by
  obtain ⟨a, ha, hR⟩ := hx
  have hrun : (x.orThrow e).run = x.run.bind fun r => .ret (r.mapError fun _ => e) := rfl
  refine ⟨a, ?_, ?_⟩ <;> rw [hrun, Prog.run_bind]
  · rw [ha]
    rfl
  · exact hR

theorem Succeeds.left {g : Handler T V} {Q : α → W × V → Prop}
    (hx : x.Succeeds h (fun a w' => Q a (w', v)) w) :
    (x.left : Attempt (S.sum T) ε α).Succeeds (h.sum g) Q (w, v) := by
  obtain ⟨a, ha, hQ⟩ := hx
  have hrun : (x.left : Attempt (S.sum T) ε α).run.run (h.sum g) (w, v) =
      ((x.run.run h w).1, ((x.run.run h w).2, v)) := Prog.run_left ..
  exact ⟨a, hrun ▸ ha, hrun ▸ hQ⟩

end Succeeds

end Attempt

/-- Calls every one of which may report an error of one type. -/
@[reducible] def Signature.fallible (Call : Type) (Value : Call → Type) (ε : Type) : Signature where
  Call := Call
  Reply c := Except ε (Value c)

section Fallible

variable {Call : Type} {Value : Call → Type}

def Attempt.call (c : Call) : Attempt (.fallible Call Value ε) ε (Value c) :=
  ExceptT.mk (Prog.call (S := .fallible Call Value ε) c)

/-- The outside in which, if `fails`, any call may report an error, having taken effect or not. -/
def Handler.failing (h : Handler (.fallible Call Value ε) W) (fails : Prop) :
    Environment (.fallible Call Value ε) W :=
  h.faulty fun _ r => fails ∧ ∃ e, r = .error e

variable {h : Handler (.fallible Call Value ε) W} {I : W → Prop} {fails : Prop} {c : Call}

theorem Attempt.ensures_call_failing {Q : Except ε (Value c) → W → Prop} (hI : I w ∧ I (h w c).2)
    (hok : ∀ a, (h w c).1 = .ok a → Q (.ok a) (h w c).2)
    (herr : ∀ e w', fails ∧ (w' = w ∨ w' = (h w c).2) ∨
      (h w c).1 = .error e ∧ w' = (h w c).2 → Q (.error e) w') :
    (Attempt.call c).run.Ensures (h.failing fails) I Q w := by
  refine ⟨hI.1, ?_⟩
  rintro r w' (hstep | ⟨⟨hfails, e, rfl⟩, rfl | rfl⟩)
  · obtain ⟨rfl, rfl⟩ := Prod.mk.inj hstep
    refine ⟨hI.2, ?_⟩
    cases hr : (h w c).1 with
    | ok a => exact hok a hr
    | error e => exact herr e _ (.inr ⟨hr, rfl⟩)
  · exact ⟨hI.1, herr e _ (.inl ⟨hfails, .inl rfl⟩)⟩
  · exact ⟨hI.2, herr e _ (.inl ⟨hfails, .inr rfl⟩)⟩

theorem Attempt.ensures_call_seq {f : Value c → Attempt (.fallible Call Value ε) ε β}
    (hI : I w ∧ I (h w c).2)
    (hok : ∀ a, (h w c).1 = .ok a → (f a).run.Ensures (h.failing fails) I Q (h w c).2)
    (herr : ∀ e w', fails ∧ (w' = w ∨ w' = (h w c).2) ∨
      (h w c).1 = .error e ∧ w' = (h w c).2 → Q (.error e) w') :
    (Attempt.call c >>= f).run.Ensures (h.failing fails) I Q w :=
  Attempt.ensures_bind.2 (Attempt.ensures_call_failing hI hok herr)

theorem Attempt.ensures_read_seq {f : Value c → Attempt (.fallible Call Value ε) ε β}
    (hsame : (h w c).2 = w) (hI : I w)
    (hok : ∀ a, (h w c).1 = .ok a → (f a).run.Ensures (h.failing fails) I Q w)
    (herr : ∀ e, Q (.error e) w) : (Attempt.call c >>= f).run.Ensures (h.failing fails) I Q w := by
  apply Attempt.ensures_call_seq ⟨hI, hsame.symm ▸ hI⟩
  · intro a ha
    rw [hsame]
    exact hok a ha
  · intro e w' hw'
    rw [hsame, or_self] at hw'
    obtain ⟨_, rfl⟩ | ⟨_, rfl⟩ := hw' <;> exact herr e

theorem Attempt.ensures_call_frozen (hsame : (h w c).2 = w) :
    (Attempt.call c).run.Ensures (h.failing fails) (· = w)
      (fun r _ => ∀ a, r = .ok a → (h w c).1 = .ok a) w := by
  refine Attempt.ensures_call_failing ⟨rfl, hsame⟩ ?_ ?_
  · intro a ha b hb
    rw [ha, hb]
  · intro e w' _ a ha
    cases ha

/-- The outside in which any call may report an error and leave one of the given worlds. -/
def Handler.leaving (h : Handler (.fallible Call Value ε) W) (Leaves : W → Call → W → Prop) :
    Environment (.fallible Call Value ε) W :=
  fun w c r w' => h w c = (r, w') ∨ (∃ e, r = .error e) ∧ Leaves w c w'

theorem Attempt.ensures_call_leaving {Leaves : W → Call → W → Prop}
    {Q : Except ε (Value c) → W → Prop} (hI : I w) (hdone : I (h w c).2)
    (hleft : ∀ w', Leaves w c w' → I w') (hok : ∀ a, (h w c).1 = .ok a → Q (.ok a) (h w c).2)
    (herr : ∀ e w', w' = (h w c).2 ∨ Leaves w c w' → Q (.error e) w') :
    (Attempt.call c).run.Ensures (h.leaving Leaves) I Q w := by
  refine ⟨hI, ?_⟩
  rintro r w' (hstep | ⟨⟨e, rfl⟩, hw'⟩)
  · obtain ⟨rfl, rfl⟩ := Prod.mk.inj hstep
    refine ⟨hdone, ?_⟩
    cases hr : (h w c).1 with
    | ok a => exact hok a hr
    | error e => exact herr e _ (.inl rfl)
  · exact ⟨hleft w' hw', herr e w' (.inr hw')⟩

/-- The program changes nothing, and its value, if it gets to one, is `v`; if no call fails, its
result is `v`. -/
structure Attempt.Reads (h : Handler (.fallible Call Value ε) W) (Leaves : W → Call → W → Prop)
    (w : W) (x : Attempt (.fallible Call Value ε) δ α) (v : Except δ α) : Prop where
  run : x.run.run h w = (v, w)
  ensures : x.run.Ensures (h.leaving Leaves) (· = w) (fun r _ => ∀ a, r = .ok a → v = .ok a) w

variable {x : Attempt (.fallible Call Value ε) δ α}

namespace Attempt

variable {Leaves : W → Call → W → Prop}

theorem reads_pure (a : α) :
    Reads h Leaves w (pure a : Attempt (.fallible Call Value ε) δ α) (.ok a) :=
  ⟨rfl, rfl, fun _ ha => ha⟩

theorem reads_ofExcept (v : Except δ α) : Reads h Leaves w (ofExcept v) v :=
  ⟨rfl, rfl, fun _ ha => ha⟩

theorem reads_call (hc : (h w c).2 = w) (hleft : ∀ w', Leaves w c w' → w' = w) :
    Reads h Leaves w (call c) (h w c).1 := by
  refine ⟨Prod.ext rfl hc, ?_⟩
  refine ensures_call_leaving rfl hc hleft ?_ ?_
  · intro a ha b hb
    rw [ha, hb]
  · intro e w' _ a ha
    cases ha

variable {v : Except δ α}

theorem Reads.orThrow (hx : Reads h Leaves w x v) (e : γ) :
    Reads h Leaves w (x.orThrow e) (v.mapError fun _ => e) := by
  have hrun : (x.orThrow e).run = x.run.bind fun r => .ret (r.mapError fun _ => e) := rfl
  constructor
  · rw [hrun, Prog.run_bind, hx.run]
    rfl
  · apply ensures_orThrow.2
    apply hx.ensures.mono (fun _ h => h)
    intro r _ _ hr
    cases r with
    | ok a =>
      intro b hb
      rw [hr a rfl]
      exact hb
    | error _ => exact fun b hb => by cases hb

theorem Reads.seq {f : α → Attempt (.fallible Call Value ε) δ β} {v' : Except δ β}
    (hx : Reads h Leaves w x v) (hok : ∀ a, v = .ok a → Reads h Leaves w (f a) v')
    (herr : ∀ e, v = .error e → v' = .error e) : Reads h Leaves w (x >>= f) v' := by
  constructor
  · rw [bind_run, Prog.run_bind, hx.run]
    cases v with
    | ok a => exact (hok a rfl).run
    | error e =>
      rw [herr e rfl]
      rfl
  · apply ensures_seq hx.ensures
    · intro a w' hw' ha
      obtain rfl := hw'
      exact (hok a (ha a rfl)).ensures
    · exact fun e _ _ _ b hb => by cases hb

theorem Reads.bind {f : α → Attempt (.fallible Call Value ε) δ β} {k : α → Except δ β}
    (hx : Reads h Leaves w x v) (hf : ∀ a, Reads h Leaves w (f a) (k a)) :
    Reads h Leaves w (x >>= f) (v.bind k) := by
  apply hx.seq
  · intro a ha
    rw [ha]
    exact hf a
  · intro e he
    rw [he]
    rfl

theorem Reads.orThrow_seq {e : γ} {f : α → Attempt (.fallible Call Value ε) γ β} {v' : Except γ β}
    (hx : Reads h Leaves w x v) (hok : ∀ a, v = .ok a → Reads h Leaves w (f a) v')
    (herr : ∀ e', v = .error e' → v' = .error e) : Reads h Leaves w (x.orThrow e >>= f) v' := by
  apply (hx.orThrow e).seq
  · intro a ha
    cases v with
    | ok b => exact hok a (congrArg _ (Except.ok.inj ha))
    | error _ => cases ha
  · intro e' he'
    cases v with
    | ok b => cases he'
    | error e'' =>
      cases he'
      exact herr e'' rfl

theorem reads_require [Decidable p] {e : δ} {f : Unit → Attempt (.fallible Call Value ε) δ β}
    {v : Except δ β} (hpos : p → Reads h Leaves w (f ()) v) (hneg : ¬p → v = .error e) :
    Reads h Leaves w (require p e >>= f) v := by
  by_cases hp : p
  · rw [require, if_pos hp]
    exact hpos hp
  · rw [require, if_neg hp, hneg hp]
    exact reads_ofExcept (.error e)

end Attempt

theorem Attempt.Achieves.run {Leaves : W → Call → W → Prop} {P : W → Prop} {Q : α → W → Prop}
    (hx : Attempt.Achieves (h.leaving Leaves) P x Q) (hP : P w) (hrun : (x.run.run h w).1 = .ok a) :
    Q a (x.run.run h w).2 :=
  (hx w hP).finishes (Finishes.map id (fun _ _ _ _ hstep => .inl hstep)
    (Prog.finishes_reliable.2 rfl)) a hrun

theorem Attempt.succeeds_call {Q : Value c → W → Prop} {a : Value c} (hc : h w c = (.ok a, w'))
    (hQ : Q a w') : (Attempt.call c).Succeeds h Q w :=
  ⟨a, congrArg Prod.fst hc, (congrArg Prod.snd hc).symm ▸ hQ⟩

end Fallible

end Interaction
