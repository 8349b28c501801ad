import Ratash.Interaction.Only

namespace Interaction

variable {S : Signature} {A : (c : S.Call) → S.Reply c → Prop} {C : S.Call → Prop}

/-- As long as the replies are among `A`, the program comes to one of the calls `C`. -/
def Prog.Bound (A : (c : S.Call) → S.Reply c → Prop) (C : S.Call → Prop) : Prog S α → Prop
  | .ret _ => False
  | .ask c next => C c ∨ ∀ r, A c r → (next r).Bound A C

theorem Prog.Bound.bind {p : Prog S α} (h : p.Bound A C) (f : α → Prog S β) :
    (p.bind f).Bound A C := by
  induction p with
  | ret a => exact h.elim
  | ask c next ih => exact h.imp_right fun hnext r hr => ih r (hnext r hr)

/-- A condition on a call and on what follows its replies. -/
abbrev Follows (S : Signature) := (α : Type) → (c : S.Call) → (S.Reply c → Prog S α) → Prop

/-- Every call of the program is followed by what the condition asks for. -/
def Prog.Everywhere (F : Follows S) : Prog S α → Prop
  | .ret _ => True
  | .ask c next => F α c next ∧ ∀ r, (next r).Everywhere F

/-- The condition is not lost when something comes after. -/
def Follows.Extends (F : Follows S) : Prop :=
  ∀ (α β : Type) (c : S.Call) (next : S.Reply c → Prog S α) (f : α → Prog S β),
    F α c next → F β c fun r => (next r).bind f

variable {F : Follows S}

theorem Prog.Everywhere.bind {p : Prog S α} {f : α → Prog S β} (hF : F.Extends)
    (hp : p.Everywhere F) (hf : ∀ a, (f a).Everywhere F) : (p.bind f).Everywhere F := by
  induction p with
  | ret a => exact hf a
  | ask c next ih => exact ⟨hF _ _ c next f hp.1, fun r => ih r (hp.2 r)⟩

theorem Prog.Only.everywhere {p : Prog S α} (hp : p.Only C)
    (hC : ∀ {β : Type} (c : S.Call) (next : S.Reply c → Prog S β), C c → F β c next) :
    p.Everywhere F := by
  induction p with
  | ret a => trivial
  | ask c next ih => exact ⟨hC c next hp.1, fun r => ih r (hp.2 r)⟩

namespace Attempt

theorem everywhere_seq {x : Attempt S ε α} {f : α → Attempt S ε β} (hF : F.Extends)
    (hx : x.run.Everywhere F) (hf : ∀ a, (f a).run.Everywhere F) : (x >>= f).run.Everywhere F := by
  rw [bind_run]
  apply hx.bind hF
  intro r
  cases r with
  | ok a => exact hf a
  | error e => exact trivial

theorem bound_seq {x : Attempt S ε α} (f : α → Attempt S ε β) (hx : x.run.Bound A C) :
    (x >>= f).run.Bound A C := by
  rw [bind_run]
  exact hx.bind _

end Attempt

end Interaction
