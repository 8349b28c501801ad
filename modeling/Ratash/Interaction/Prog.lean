import Mathlib.Logic.Basic

namespace Interaction

/-- The external calls a program can make, with the type of reply each one gets. -/
structure Signature where
  Call : Type
  Reply : Call → Type

inductive Prog (S : Signature) (α : Type) : Type where
  | ret (a : α)
  | ask (c : S.Call) (next : S.Reply c → Prog S α)

namespace Prog

variable {S : Signature}

def bind : Prog S α → (α → Prog S β) → Prog S β
  | .ret a, f => f a
  | .ask c next, f => .ask c fun r => (next r).bind f

instance : Monad (Prog S) where
  pure := .ret
  bind := bind

def call (c : S.Call) : Prog S (S.Reply c) :=
  .ask c .ret

@[simp] theorem pure_eq (a : α) : (pure a : Prog S α) = .ret a := rfl

@[simp] theorem bind_eq (p : Prog S α) (f : α → Prog S β) : p >>= f = p.bind f := rfl

@[simp] theorem bind_ret (a : α) (f : α → Prog S β) : (ret a : Prog S α).bind f = f a := rfl

@[simp] theorem bind_ask (c : S.Call) (next : S.Reply c → Prog S α) (f : α → Prog S β) :
    (ask c next).bind f = ask c fun r => (next r).bind f := rfl

@[simp] theorem bind_call (c : S.Call) (f : S.Reply c → Prog S α) : (call c).bind f = ask c f := rfl

theorem bind_assoc (p : Prog S α) (f : α → Prog S β) (g : β → Prog S γ) :
    (p.bind f).bind g = p.bind fun a => (f a).bind g := by
  induction p with
  | ret a => rfl
  | ask c next ih => exact congrArg (ask c) (funext ih)

theorem bind_ret_right (p : Prog S α) : p.bind ret = p := by
  induction p with
  | ret a => rfl
  | ask c next ih => exact congrArg (ask c) (funext ih)

instance : LawfulMonad (Prog S) :=
  LawfulMonad.mk' _ bind_ret_right (fun _ _ => rfl) bind_assoc

end Prog

end Interaction
