import Ratash.Interaction.Attempt

namespace Interaction

variable {S : Signature} {W : Type} {C : S.Call → Prop}

/-- Whatever the replies, the program makes no other calls than these. -/
def Prog.Only (C : S.Call → Prop) : Prog S α → Prop
  | .ret _ => True
  | .ask c next => C c ∧ ∀ r, (next r).Only C

namespace Prog

theorem Only.bind {p : Prog S α} {f : α → Prog S β} (hp : p.Only C) (hf : ∀ a, (f a).Only C) :
    (p.bind f).Only C := by
  induction p with
  | ret a => exact hf a
  | ask c next ih => exact ⟨hp.1, fun r => ih r (hp.2 r)⟩

theorem Only.ensures {E : Environment S W} {I : W → Prop} {p : Prog S α} (hp : p.Only C)
    (hstep : ∀ w c r w', C c → I w → E w c r w' → I w') (hI : I w) :
    p.Ensures E I (fun _ _ => True) w := by
  induction p generalizing w with
  | ret a => exact ⟨hI, trivial⟩
  | ask c next ih => exact ⟨hI, fun r w' hE => ih r (hp.2 r) (hstep w c r w' hp.1 hI hE)⟩

end Prog

namespace Attempt

def Only (C : S.Call → Prop) (x : Attempt S ε α) : Prop :=
  x.run.Only C

theorem only_pure (a : α) : Only C (pure a : Attempt S ε α) := trivial

theorem only_throw (e : ε) : Only C (throw e : Attempt S ε α) := trivial

theorem only_ofExcept (r : Except ε α) : Only C (ofExcept r : Attempt S ε α) := trivial

theorem only_lift {c : S.Call} (hc : C c) : Only C (ExceptT.lift (Prog.call c) : Attempt S ε _) :=
  ⟨hc, fun _ => trivial⟩

theorem only_require {p : Prop} [Decidable p] (e : ε) :
    Only C (require p e : Attempt S ε Unit) := by
  unfold require
  split
  · exact only_pure ()
  · exact only_throw e

theorem only_okOr (r : Except δ α) (e : ε) : Only C (okOr r e : Attempt S ε α) := by
  cases r <;> trivial

theorem Only.seq {x : Attempt S ε α} {f : α → Attempt S ε β} (hx : Only C x)
    (hf : ∀ a, Only C (f a)) : Only C (x >>= f) := by
  rw [Only, bind_run]
  apply Prog.Only.bind hx
  intro r
  cases r with
  | ok a => exact hf a
  | error e => exact trivial

theorem Only.result {x : Attempt S ε α} (hx : Only C x) :
    Only C (x.result : Attempt S δ (Except ε α)) :=
  Prog.Only.bind hx fun _ => trivial

theorem Only.whenever {p : Prop} [Decidable p] {x : Attempt S ε Unit} (hx : Only C x) :
    Only C (whenever p x) := by
  unfold Attempt.whenever
  split
  · exact hx
  · exact only_pure ()

end Attempt

end Interaction
