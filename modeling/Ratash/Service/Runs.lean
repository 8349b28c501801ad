import Ratash.Service.ConformsApply

namespace Ratash

open Interaction

variable {config : PrivilegedServiceConfig} {J : GenerationCodec}

structure Sound (room : ServiceRoom) : Prop where
  settled : Settled room
  custody : Custody room.2
  epochs : Epochs room

theorem Sound.initial (counters : GenerationCounters) : Sound (counters, .initial) where
  settled := ⟨rfl, rfl, rfl, rfl, nofun⟩
  custody := .initial
  epochs := .initial counters

theorem Handles.course (h : Handles config J room q answer room') (hsound : Sound room) :
    Course config (room.asked q) room' ∧ Sound room' ∧ Concluded config room' := by
  have hperform := perform_ends config J hsound.settled hsound.custody hsound.epochs q
  have hcourse := hperform.reaches h.reaches
  have hends := hperform.finishes h
  exact ⟨hcourse, ⟨hends.1, (hsound.custody.asked q).course hcourse,
    (hsound.epochs.asked q).course hcourse⟩, hends.2⟩

theorem Serves.sound (h : Serves config J room room') (hsound : Sound room) : Sound room' := by
  cases h with
  | request hhandles => exact (hhandles.course hsound).2.1
  | cancel hcancel =>
    rename_i w w' counters
    have hmove : Move config (counters, w) (counters, w') := .cancel hcancel
    exact ⟨hsound.settled.of_calm hcancel.calm, hsound.custody.move hmove, hsound.epochs.move hmove⟩

theorem Served.sound (h : Served config J room) : Sound room := by
  obtain ⟨counters, hrun⟩ := h
  induction hrun with
  | refl => exact .initial counters
  | tail _ hstep ih => exact hstep.sound ih

structure Kept (config : PrivilegedServiceConfig) (P : ServiceRoom → Prop) : Prop where
  initial : ∀ counters, P (counters, .initial)
  asked : ∀ room q, Sound room → P room → P (room.asked q)
  move : ∀ room room', Custody room.2 → P room → Move config room room' → P room'

section Kept

variable {P : ServiceRoom → Prop} (hP : Kept config P)

include hP

theorem Kept.course (h : Course config base room) (hcustody : Custody base.2) (hbase : P base) :
    P room := by
  have hboth : Custody room.2 ∧ P room :=
    h.keeps (P := fun room => Custody room.2 ∧ P room)
      (fun _ _ hroom hmove => ⟨hroom.1.move hmove, hP.move _ _ hroom.1 hroom.2 hmove⟩)
      ⟨hcustody, hbase⟩
  exact hboth.2

theorem Kept.served (h : Served config J room) : P room := by
  obtain ⟨counters, hrun⟩ := h
  induction hrun with
  | refl => exact hP.initial counters
  | tail hrun hstep ih =>
    have hsound := Served.sound ⟨counters, hrun⟩
    cases hstep with
    | request hhandles =>
      exact hP.course (hhandles.course hsound).1 (hsound.custody.asked _) (hP.asked _ _ hsound ih)
    | cancel hcancel => exact hP.move _ _ hsound.custody ih (.cancel hcancel)

theorem Kept.serving (h : Serving config J room) : P room := by
  obtain ⟨room₀, hserved, rfl | ⟨q, hreaches⟩⟩ := h
  · exact hP.served hserved
  · have hsound := hserved.sound
    have hperform := perform_ends config J hsound.settled hsound.custody hsound.epochs q
    exact hP.course (hperform.reaches hreaches) (hsound.custody.asked q)
      (hP.asked room₀ q hsound (hP.served hserved))

end Kept

theorem Serving.custody (h : Serving config J room) : Custody room.2 := by
  obtain ⟨room₀, hserved, rfl | ⟨q, hreaches⟩⟩ := h
  · exact hserved.sound.custody
  · have hsound := hserved.sound
    have hperform := perform_ends config J hsound.settled hsound.custody hsound.epochs q
    exact (hsound.custody.asked q).course (hperform.reaches hreaches)

def Throughout (Q : ServiceEvent → List HistoryEvent → Prop) (h : List HistoryEvent) : Prop :=
  ∀ e older, .made e :: older <:+ h → Q e older

section Throughout

variable {Q : ServiceEvent → List HistoryEvent → Prop} {h : List HistoryEvent}

theorem Throughout.made (hall : Throughout Q h) (he : Q e h) : Throughout Q (.made e :: h) := by
  intro e' older hsuffix
  obtain heq | hsuffix := List.suffix_cons_iff.1 hsuffix
  · cases heq
    exact he
  · exact hall e' older hsuffix

theorem Throughout.other (hall : Throughout Q h) (hx : ∀ e, x ≠ .made e) :
    Throughout Q (x :: h) := by
  intro e older hsuffix
  obtain heq | hsuffix := List.suffix_cons_iff.1 hsuffix
  · exact absurd (List.cons.inj heq).1.symm (hx e)
  · exact hall e older hsuffix

theorem Kept.throughout {I : ServiceRoom → Prop} (hI : Kept config I)
    (hcall : ∀ room c r, Custody room.2 → I room → Permits config room c → room.2.Replies c r →
      Q ⟨room.2.request, room.2.state, c, r⟩ room.2.history) :
    Kept config fun room => I room ∧ Throughout Q room.2.history := by
  constructor
  · intro counters
    refine ⟨hI.initial counters, fun e older hsuffix => ?_⟩
    exact absurd (List.suffix_nil.1 hsuffix) (List.cons_ne_nil _ _)
  · intro room q hsound h
    exact ⟨hI.asked room q hsound h.1, h.2.other fun _ heq => HistoryEvent.noConfusion heq⟩
  · intro room room' hcustody h hmove
    refine ⟨hI.move room room' hcustody h.1 hmove, ?_⟩
    cases hmove with
    | reserve _ => exact h.2
    | cancel hcancel =>
      cases hcancel with
      | accept _ _ => exact h.2.other fun _ heq => HistoryEvent.noConfusion heq
      | deliver _ => exact h.2.other fun _ heq => HistoryEvent.noConfusion heq
    | call hpermit hreply =>
      rw [ServiceWorld.history_store]
      exact h.2.made (hcall _ _ _ hcustody h.1 hpermit hreply)

end Throughout

end Ratash
