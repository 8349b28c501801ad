import Ratash.Interaction.Attempt

/-!
A `Stateful` attempt changes a state of its own besides calling the outside; an error does not undo
what it has changed.
-/

namespace Interaction

variable {S : Signature} {W : Type} {E : Environment S W} {I : W → Prop}

namespace Prog

/-- The program with a note that is brought up to date after every call. -/
def noting (note : M → (c : S.Call) → S.Reply c → M) : Prog S α → M → Prog S (α × M)
  | ret a, m => ret (a, m)
  | ask c next, m => ask c fun r => (next r).noting note (note m c r)

theorem ensures_finishes (p : Prog S α) (w : W) :
    p.Ensures E (fun _ => True) (fun a w' => Finishes E p w a w') w :=
  ensures_iff.2 ⟨fun _ _ => trivial, fun _ _ h => h⟩

end Prog

abbrev Stateful (S : Signature) (σ ε α : Type) := ExceptT ε (StateT σ (Prog S)) α

namespace Stateful

def runFrom (x : Stateful S σ ε α) (s : σ) : Prog S (Except ε α × σ) := x.run.run s

def attempt (x : Attempt S ε α) : Stateful S σ ε α :=
  ExceptT.mk fun s => x.run.bind fun r => .ret (r, s)

def update (p : σ → Prog S σ) : Stateful S σ ε Unit :=
  ExceptT.mk fun s => (p s).bind fun s' => .ret (.ok (), s')

variable {f : α → Stateful S σ ε β}

theorem ensures_bind {x : Stateful S σ ε α} {Q : Except ε β × σ → W → Prop} :
    ((x >>= f).runFrom s).Ensures E I Q w ↔ (x.runFrom s).Ensures E I (fun out w' =>
      match out with
      | (.ok a, s') => ((f a).runFrom s').Ensures E I Q w'
      | (.error e, s') => I w' ∧ Q (.error e, s') w') w := by
  apply Prog.ensures_bind.trans
  constructor
  · intro h
    apply h.mono fun _ hI => hI
    rintro ⟨r, s'⟩ w' _ hQ
    cases r <;> exact hQ
  · intro h
    apply h.mono fun _ hI => hI
    rintro ⟨r, s'⟩ w' _ hQ
    cases r <;> exact hQ

theorem ensures_seq {x : Stateful S σ ε α} {R Q} (hx : (x.runFrom s).Ensures E I R w)
    (hok : ∀ a s' w', I w' → R (.ok a, s') w' → ((f a).runFrom s').Ensures E I Q w')
    (herr : ∀ e s' w', I w' → R (.error e, s') w' → Q (.error e, s') w') :
    ((x >>= f).runFrom s).Ensures E I Q w := by
  rw [ensures_bind]
  apply hx.mono fun _ hI => hI
  rintro ⟨r, s'⟩ w' hI hR
  cases r with
  | ok a => exact hok a s' w' hI hR
  | error e => exact ⟨hI, herr e s' w' hI hR⟩

variable {Q : Except ε α × σ → W → Prop}

@[simp] theorem ensures_pure :
    ((pure a : Stateful S σ ε α).runFrom s).Ensures E I Q w ↔ I w ∧ Q (.ok a, s) w := .rfl

@[simp] theorem ensures_throw :
    ((throw e : Stateful S σ ε α).runFrom s).Ensures E I Q w ↔ I w ∧ Q (.error e, s) w := .rfl

theorem ensures_attempt {x : Attempt S ε α} :
    ((attempt x : Stateful S σ ε α).runFrom s).Ensures E I Q w ↔
      x.run.Ensures E I (fun r w' => Q (r, s) w') w := by
  apply Prog.ensures_bind.trans
  constructor
  · exact fun h => h.mono (fun _ hI => hI) fun _ _ _ hQ => hQ.2
  · exact fun h => h.mono (fun _ hI => hI) fun _ _ hI hQ => ⟨hI, hQ⟩

theorem ensures_require_seq {p : Prop} [Decidable p] {f : Unit → Stateful S σ ε β} {Q} (hI : I w)
    (hpos : p → ((f ()).runFrom s).Ensures E I Q w) (hneg : ¬p → Q (.error e, s) w) :
    ((attempt (Attempt.require p e) >>= f).runFrom s).Ensures E I Q w := by
  unfold Attempt.require
  split
  case isTrue h => exact hpos h
  case isFalse h => exact ⟨hI, hneg h⟩

theorem ensures_ofExcept_seq {r : Except ε α} {Q} (hI : I w)
    (hok : ∀ a, r = .ok a → ((f a).runFrom s).Ensures E I Q w)
    (herr : ∀ e, r = .error e → Q (.error e, s) w) :
    ((attempt (Attempt.ofExcept r) >>= f).runFrom s).Ensures E I Q w := by
  cases r with
  | ok a => exact hok a rfl
  | error e => exact ⟨hI, herr e rfl⟩

theorem ensures_okOr_seq {r : Except δ α} {Q} (hI : I w)
    (hok : ∀ a, r = .ok a → ((f a).runFrom s).Ensures E I Q w) (herr : Q (.error e, s) w) :
    ((attempt (Attempt.okOr r e) >>= f).runFrom s).Ensures E I Q w := by
  cases r with
  | ok a => exact hok a rfl
  | error _ => exact ⟨hI, herr⟩

theorem ensures_result_seq {x : Attempt S δ α} {f : Except δ α → Stateful S σ ε β} {R Q}
    (hx : x.run.Ensures E I R w) (hf : ∀ r w', I w' → R r w' → ((f r).runFrom s).Ensures E I Q w') :
    ((attempt x.result >>= f).runFrom s).Ensures E I Q w :=
  ensures_bind.2 (ensures_attempt.2 (Attempt.ensures_result.2 (hx.mono (fun _ hI => hI) hf)))

theorem ensures_update {p : σ → Prog S σ} {Q : Except ε Unit × σ → W → Prop} :
    ((update p : Stateful S σ ε Unit).runFrom s).Ensures E I Q w ↔
      (p s).Ensures E I (fun s' w' => Q (.ok (), s') w') w := by
  apply Prog.ensures_bind.trans
  constructor
  · exact fun h => h.mono (fun _ hI => hI) fun _ _ _ hQ => hQ.2
  · exact fun h => h.mono (fun _ hI => hI) fun _ _ hI hQ => ⟨hI, hQ⟩

theorem ensures_get_seq {f : σ → Stateful S σ ε β} {Q} (h : ((f s).runFrom s).Ensures E I Q w) :
    ((get >>= f).runFrom s).Ensures E I Q w := h

end Stateful

end Interaction
