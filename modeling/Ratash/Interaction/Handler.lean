import Ratash.Interaction.Rules

namespace Interaction

variable {S T : Signature} {W V : Type}

namespace Handler

/-- The environment in which every call does what the handler says. -/
def reliable (h : Handler S W) : Environment S W :=
  fun w c r w' => h w c = (r, w')

/-- The environment in which a call may also fail: the reply is then a fault, and the effect of
the call has happened completely or not at all. -/
def faulty (h : Handler S W) (Fault : (c : S.Call) → S.Reply c → Prop) : Environment S W :=
  fun w c r w' => h w c = (r, w') ∨ Fault c r ∧ (w' = w ∨ w' = (h w c).2)

end Handler

variable {p : Prog S α} {Q : α → W → Prop}

namespace Prog

/-- The result of a program, and the world it leaves, under a handler. -/
def run (h : Handler S W) : Prog S α → W → α × W
  | .ret a, w => (a, w)
  | .ask c next, w => (next (h w c).1).run h (h w c).2

@[simp] theorem run_ret (h : Handler S W) (a : α) (w : W) :
    (ret a : Prog S α).run h w = (a, w) := rfl

@[simp] theorem run_ask (h : Handler S W) (c : S.Call) (next : S.Reply c → Prog S α) (w : W) :
    (ask c next).run h w = (next (h w c).1).run h (h w c).2 := rfl

@[simp] theorem run_bind (h : Handler S W) (p : Prog S α) (f : α → Prog S β) (w : W) :
    (p.bind f).run h w = (f (p.run h w).1).run h (p.run h w).2 := by
  induction p generalizing w with
  | ret a => rfl
  | ask c next ih => exact ih _ _

theorem ensures_reliable {h : Handler S W} :
    p.Ensures h.reliable (fun _ => True) Q w ↔ Q (p.run h w).1 (p.run h w).2 := by
  induction p generalizing w with
  | ret a => exact (true_and _).to_iff
  | ask c next ih =>
    simp only [ensures_ask, true_and, run_ask, Handler.reliable]
    constructor
    · intro hall
      exact (ih _).1 (hall _ _ rfl)
    · rintro hrun r w' hstep
      obtain ⟨rfl, rfl⟩ := Prod.mk.inj hstep
      exact (ih _).2 hrun

theorem finishes_reliable {h : Handler S W} :
    Finishes h.reliable p w a w' ↔ p.run h w = (a, w') := by
  constructor
  · intro hf
    induction hf with
    | ret => rfl
    | ask hstep _ ih =>
      rw [Handler.reliable] at hstep
      rw [run_ask, hstep]
      exact ih
  · induction p generalizing w with
    | ret b =>
      intro hrun
      obtain ⟨rfl, rfl⟩ := Prod.mk.inj hrun
      exact .ret
    | ask c next ih =>
      intro hrun
      exact .ask rfl (ih _ hrun)

end Prog

/-- The world a program leaves when it is cut off after a number of calls. -/
def Prog.runFor (h : Handler S W) : Nat → Prog S α → W → W
  | n + 1, .ask c next, w => (next (h w c).1).runFor h n (h w c).2
  | _, _, w => w

theorem Prog.reaches_runFor (h : Handler S W) (n : Nat) (p : Prog S α) (w : W) :
    Reaches h.reliable p w (p.runFor h n w) := by
  induction n generalizing p w with
  | zero => cases p <;> exact .here
  | succ n ih =>
    cases p with
    | ret a => exact .here
    | ask c next => exact .ask rfl (ih _ _)

/-- What is left of a program after a number of calls, and the world then. -/
def Prog.advance (h : Handler S W) : Nat → Prog S α → W → Prog S α × W
  | n + 1, .ask c next, w => (next (h w c).1).advance h n (h w c).2
  | _, p, w => (p, w)

variable {E : Environment S W}

theorem Finishes.map {F : Environment S V} (f : W → V)
    (hstep : ∀ w c r w', E w c r w' → F (f w) c r (f w')) (h : Finishes E p w a w') :
    Finishes F p (f w) a (f w') := by
  induction h with
  | ret => exact .ret
  | ask hE _ ih => exact .ask (hstep _ _ _ _ hE) ih

theorem Reaches.map {F : Environment S V} (f : W → V)
    (hstep : ∀ w c r w', E w c r w' → F (f w) c r (f w')) (h : Reaches E p w w') :
    Reaches F p (f w) (f w') := by
  induction h with
  | here => exact .here
  | ask hE _ ih => exact .ask (hstep _ _ _ _ hE) ih

/-- The calls of either of two signatures. -/
def Signature.sum (S T : Signature) : Signature where
  Call := S.Call ⊕ T.Call
  Reply := Sum.elim S.Reply T.Reply

/-- Each call reaches the outside it belongs to and leaves the other one alone. -/
def Environment.sum (E : Environment S W) (F : Environment T V) :
    Environment (S.sum T) (W × V)
  | w, .inl c, r, w' => E w.1 c r w'.1 ∧ w'.2 = w.2
  | w, .inr c, r, w' => F w.2 c r w'.2 ∧ w'.1 = w.1

def Handler.sum (h : Handler S W) (g : Handler T V) : Handler (S.sum T) (W × V)
  | w, .inl c => ((h w.1 c).1, ((h w.1 c).2, w.2))
  | w, .inr c => ((g w.2 c).1, (w.1, (g w.2 c).2))

namespace Prog

def left : Prog S α → Prog (S.sum T) α
  | .ret a => .ret a
  | .ask c next => .ask (.inl c) fun r => (next r).left

def right : Prog T α → Prog (S.sum T) α
  | .ret a => .ret a
  | .ask c next => .ask (.inr c) fun r => (next r).right

theorem left_bind (p : Prog S α) (f : α → Prog S β) :
    ((p.bind f).left : Prog (S.sum T) β) = p.left.bind fun a => (f a).left := by
  induction p with
  | ret a => rfl
  | ask c next ih => exact congrArg (Prog.ask (S := S.sum T) (Sum.inl c)) (funext ih)

theorem ensures_left {F : Environment T V} {I : W × V → Prop} {Q : α → W × V → Prop} :
    (p.left : Prog (S.sum T) α).Ensures (E.sum F) I Q (w, v) ↔
      p.Ensures E (fun w' => I (w', v)) (fun a w' => Q a (w', v)) w := by
  induction p generalizing w with
  | ret a => exact .rfl
  | ask c next ih =>
    refine and_congr_right' ⟨fun h r w' hE => (ih r).1 (h r (w', v) ⟨hE, rfl⟩), ?_⟩
    rintro h r ⟨w', v'⟩ ⟨hE, rfl⟩
    exact (ih r).2 (h r w' hE)

@[simp] theorem run_left (h : Handler S W) (g : Handler T V) (p : Prog S α) (w : W) (v : V) :
    (p.left : Prog (S.sum T) α).run (h.sum g) (w, v) = ((p.run h w).1, ((p.run h w).2, v)) := by
  induction p generalizing w with
  | ret a => rfl
  | ask c next ih => exact ih _ _

end Prog

/-- The same outside, with a record of whether a property of the world has ever held. -/
def Environment.watched (E : Environment S W) (P : W → Prop) : Environment S (W × Prop) :=
  fun u c r u' => E u.1 c r u'.1 ∧ u'.2 = (u.2 ∨ P u'.1)

theorem Finishes.watched (P : W → Prop) (h : Finishes E p w a w') (seen : Prop) :
    ∃ seen', Finishes (E.watched P) p (w, seen) a (w', seen') := by
  induction h generalizing seen with
  | ret => exact ⟨seen, .ret⟩
  | ask hstep _ ih =>
    obtain ⟨seen', hrest⟩ := ih (seen ∨ P _)
    exact ⟨seen', .ask ⟨hstep, rfl⟩ hrest⟩

namespace Prog

variable {E : Environment S W} {I P : W → Prop} {seen : Prop}

theorem Ensures.watched (h : p.Ensures E I Q w) (hseen : P w → seen) : p.Ensures (E.watched P)
      (fun u => I u.1 ∧ (seen → u.2) ∧ (P u.1 → u.2) ∧ (u.2 → seen ∨ ∃ w', I w' ∧ P w'))
      (fun a u => Q a u.1) (w, seen) := by
  induction p generalizing w seen with
  | ret a => exact ⟨⟨h.1, id, hseen, .inl⟩, h.2⟩
  | ask c next ih =>
    refine ⟨⟨h.1, id, hseen, .inl⟩, ?_⟩
    rintro r ⟨w', seen'⟩ ⟨hstep, hseen'⟩
    obtain rfl : seen' = (seen ∨ P w') := hseen'
    have hnext := h.2 r w' hstep
    apply (ih r hnext Or.inr).mono
    · rintro u ⟨hI, hold, hP, hnew⟩
      refine ⟨hI, fun hs => hold (.inl hs), hP, fun hu => ?_⟩
      obtain (hs | hP') | hex := hnew hu
      · exact .inl hs
      · exact .inr ⟨w', hnext.here, hP'⟩
      · exact .inr hex
    · exact fun _ _ _ => id

theorem Ensures.remember {I : W × Prop → Prop} {Q : α → W × Prop → Prop}
    (h : p.Ensures (E.watched P) I Q (w, seen)) :
    p.Ensures (E.watched P) I (fun a u => Q a u ∧ (seen → u.2)) (w, seen) := by
  induction p generalizing w seen with
  | ret a => exact ⟨h.1, h.2, id⟩
  | ask c next ih =>
    refine ⟨h.1, ?_⟩
    rintro r ⟨w', seen'⟩ hstep
    obtain rfl : seen' = (seen ∨ P w') := hstep.2
    apply (ih r (h.2 r _ hstep)).mono (fun _ hI => hI)
    exact fun a u _ hQ => ⟨hQ.1, fun hseen => hQ.2 (.inl hseen)⟩

theorem Ensures.of_watched
    (h : p.Ensures (E.watched P) (fun u => I u.1) (fun a u => Q a u.1) (w, seen)) :
    p.Ensures E I Q w := by
  induction p generalizing w seen with
  | ret a => exact h
  | ask c next ih =>
    exact ⟨h.1, fun r w' hstep => ih r (h.2 r (w', seen ∨ P w') ⟨hstep, rfl⟩)⟩

end Prog

end Interaction
