import Lgnome.Input.MixerChords

/-!
# Runs of the mixer overlay

Every step keeps what the chords need, and without lost edges SDL has nothing down that
is up. So it is with every run whose openings find what is down.
-/
namespace Lgnome.Input

open Lgnome.Transition

variable {s s' t : Mixer} {sent : List SentButton} {b c : SdlButton} {i : Nat}
  {d d' : PointerDevice}

/-! ## No lost edges -/

/-- SDL has nothing down that the overlay looks at. -/
def Silent (s : Mixer) : Prop := ∀ b, s.sdlButtons b = false

/-- What SDL has down is down, and only an overlay that is up looks at it. -/
def Told (s : Mixer) : Prop :=
  ∀ b, s.sdlButtons b = true → s.visible = true ∧ s.devices.down b = true

theorem Silent.told (h : Silent s) : Told s := by
  intro b hb
  exact absurd ((h b).symm.trans hb) (by decide)

theorem Told.silent (h : Told s) (hv : s.visible = false) : Silent s := by
  intro b
  refine Bool.eq_false_iff.2 fun hb => ?_
  exact absurd (hv.symm.trans (h b hb).1) (by decide)

theorem Silent.evdevInputStart (h : Silent s) : Silent s.evdevInputStart := by
  rcases evdevInputStart_cases s with heq | heq
  · rw [heq]
    exact h
  · rw [heq]
    exact h

theorem Silent.showOverlay (h : Silent s) (opening : Opening) :
    Silent (s.showOverlay opening).1 := by
  unfold Mixer.showOverlay
  split
  · exact fun _ => rfl
  · exact h

theorem Silent.showHub (h : Silent s) : Silent s.showHub.1 := by
  unfold Mixer.showHub
  split
  · exact h
  · exact h

theorem Silent.hubButtonUp (h : Silent s) : Silent s.hubButtonUp.1 := by
  have hreleased : Silent { s with hubOpenButtonHeld := false } := h
  unfold Mixer.hubButtonUp
  dsimp only
  split
  · exact hreleased.showHub
  · exact hreleased

theorem Silent.pointerButton (h : Silent s) (b : SdlButton) (down mark : Bool) :
    Silent (s.pointerButton b down mark).1 := by
  unfold Mixer.pointerButton
  split
  · exact h
  · exact h

theorem Silent.enqueue (h : Silent s) (edge : QueuedButton) : Silent (s.enqueue edge) := by
  unfold Mixer.enqueue
  split
  · exact h
  · exact h

theorem Silent.pressOn (h : Silent s) (hv : s.visible = false) (i : Nat) (d : PointerDevice)
    (target : PressTarget) (opening : Opening) : Silent (s.pressOn i d b target opening).1 := by
  have hpressed : Silent (s.setDevice i (d.press b s.visible)) := h
  have hhidden : ¬ (s.setDevice i (d.press b s.visible)).visible = true :=
    fun hvis => absurd (hv.symm.trans hvis) (by decide)
  unfold Mixer.pressOn
  dsimp only
  split
  · exact hpressed.enqueue _
  · split
    · unfold Mixer.sdlDown
      rw [if_neg hhidden]
      split
      · exact hpressed
      · split
        · exact hpressed
        · split
          · exact hpressed.showOverlay opening
          · exact hpressed.pointerButton _ _ _
    · exact hpressed

theorem Silent.releaseOn (h : Silent s) (hv : s.visible = false) (i : Nat) (d : PointerDevice) :
    Silent (s.releaseOn i d b).1 := by
  have hreleased : Silent (s.setDevice i (d.release b)) := h
  have hhidden : ¬ (s.setDevice i (d.release b)).visible = true :=
    fun hvis => absurd (hv.symm.trans hvis) (by decide)
  unfold Mixer.releaseOn
  dsimp only
  split
  · exact hreleased.enqueue _
  · split
    · unfold Mixer.sdlUp
      rw [if_neg hhidden]
      split
      · exact hreleased
      · split
        · exact hreleased.hubButtonUp
        · exact hreleased.pointerButton _ _ _
    · exact hreleased

theorem Told.hide (h : Told s) : Told s.hide := by
  unfold Mixer.hide
  split
  · split
    · exact h
    · have hlowered : Silent s.lowered := fun _ => rfl
      unfold Mixer.closed
      split
      · exact hlowered.evdevInputStart.told
      · exact hlowered.told
  · exact h

theorem Told.completePending (h : Told s) : Told s.completePending := by
  unfold Mixer.completePending
  split
  · exact Told.hide h
  · exact h

theorem Told.dismissReleased (h : Told s) (released : Buttons) :
    Told (s.dismissReleased released) := by
  unfold Mixer.dismissReleased
  split
  · split
    · exact h
    · exact h
  · exact h

theorem Told.motion (h : Told s) {state : Buttons}
    (hdown : ∀ b, state b = true → s.devices.down b = true) : Told (s.motion state) := by
  unfold Mixer.motion
  split
  · rename_i hv
    have hstate : Told { s with
        dragging := s.dragging && state .left
        sdlButtons := state
        pointerButtons := s.pointerButtons.diff (s.sdlButtons.diff state) } :=
      fun b hb => ⟨hv, hdown b hb⟩
    exact (hstate.dismissReleased _).completePending
  · exact h

theorem Told.drainEdge (h : Silent s) (edge : QueuedButton) (opening : Opening) :
    Told (s.drainEdge edge opening).1 := by
  unfold Mixer.drainEdge
  split
  · split
    · exact h.told
    · exact h.hubButtonUp.told
  · split
    · split
      · split
        · exact h.told.hide
        · split
          · exact (h.showOverlay opening).told
          · exact h.told
      · exact h.told
    · exact (h.pointerButton _ _ _).told

/-- The devices of an overlay that is up keep what SDL has down. -/
theorem Told.sameButtons (h : Told s) (hv' : s'.visible = s.visible)
    (hsdl : s'.sdlButtons = s.sdlButtons)
    (hdown : s.visible = true → ∀ c, s.sdlButtons c = true → s.devices.down c = true →
      s'.devices.down c = true) : Told s' := by
  intro c hc
  rw [hsdl] at hc
  obtain ⟨hv, hold⟩ := h c hc
  exact ⟨hv'.trans hv, hdown hv c hc hold⟩

theorem Told.pressOn (h : Told s) (hinv : MixerInv s) (hi : s.devices[i]? = some d)
    (target : PressTarget) (opening : Opening) : Told (s.pressOn i d b target opening).1 := by
  cases hv : s.visible with
  | false => exact ((h.silent hv).pressOn hv i d target opening).told
  | true =>
    have hc := (hinv.shown hv).1
    have hshow : (s.setDevice i (d.press b s.visible)).visible = true := hv
    unfold Mixer.pressOn
    dsimp only
    rw [grabbed_false hc.ungrabbed hi, if_neg Bool.false_ne_true]
    split
    · rw [Mixer.sdlDown, if_pos hshow]
      obtain ⟨hvis, hdevices, -, -, hsdl, -⟩ :=
        overlayDown_kept (s.setDevice i (d.press b s.visible)) b target
      intro c hc'
      rw [hsdl, Buttons.insert_apply] at hc'
      rw [hvis, hdevices]
      refine ⟨hv, ?_⟩
      split at hc'
      · rename_i heq
        refine PointerDevices.set_any hi ?_
        rw [PointerDevice.press_down, if_pos heq]
      · exact press_keeps hi (h c hc').2
    · exact h.sameButtons rfl rfl fun _ c _ hold => press_keeps hi hold

theorem Told.releaseOn (h : Told s) (hinv : MixerInv s) (hi : s.devices[i]? = some d) :
    Told (s.releaseOn i d b).1 := by
  cases hv : s.visible with
  | false => exact ((h.silent hv).releaseOn hv i d).told
  | true =>
    have hc := (hinv.shown hv).1
    have hgrabbed : (s.setDevice i (d.release b)).devices.grabbed = false :=
      Eq.trans (PointerDevices.grabbed_set hi rfl) hc.ungrabbed
    have hshow : (s.setDevice i (d.release b)).visible = true := hv
    unfold Mixer.releaseOn
    dsimp only
    rw [grabbed_false hc.ungrabbed hi, if_neg Bool.false_ne_true, hc.parted.1, Bool.true_and,
      PointerDevices.onPointer_down hgrabbed]
    cases hup : (s.setDevice i (d.release b)).devices.down b with
    | false =>
      rw [Bool.not_false, if_pos rfl, Mixer.sdlUp, if_pos hshow]
      refine Told.completePending (Told.dismissReleased (fun c hc' => ?_) _)
      simp only [Mixer.setDevice, Buttons.erase_apply] at hc'
      split at hc'
      · cases hc'
      · rename_i hne
        exact ⟨hv, release_keeps hi hne (h c hc').2⟩
    | true =>
      refine h.sameButtons rfl rfl fun _ c _ hold => ?_
      by_cases hcb : c = b
      · rw [hcb]
        exact hup
      · exact release_keeps hi hcb hold

/-- Only a lost edge leaves SDL with a button that is not down. -/
theorem Told.step (h : Told s) (hinv : MixerInv s) {a : MixerAction} (ha : ∀ i b, a ≠ .lost i b)
    (hstep : s.step a = some (s', sent)) : Told s' := by
  cases a with
  | press i b target opening =>
    simp only [Mixer.step] at hstep
    split at hstep
    · rename_i d hi
      split at hstep
      · rw [← show _ = s' from congrArg Prod.fst (Option.some.inj hstep)]
        exact h.pressOn hinv hi target opening
      · cases hstep
    · cases hstep
  | release i b =>
    simp only [Mixer.step] at hstep
    split at hstep
    · rename_i d hi
      split at hstep
      · rw [← show _ = s' from congrArg Prod.fst (Option.some.inj hstep)]
        exact h.releaseOn hinv hi
      · cases hstep
    · cases hstep
  | lost i b => exact absurd rfl (ha i b)
  | motion state =>
    simp only [Mixer.step] at hstep
    split at hstep
    · rename_i hstate
      rw [Bool.and_eq_true, Buttons.subset_iff] at hstate
      obtain ⟨rfl, rfl⟩ := Prod.mk.inj (Option.some.inj hstep)
      refine h.motion fun b hb => ?_
      obtain ⟨d, hd, hdown⟩ := List.any_eq_true.1 (hstate.1 b hb)
      rw [Bool.and_eq_true] at hdown
      exact PointerDevices.down_iff.2 ⟨d, hd, hdown.2⟩
    · cases hstep
  | drain opening =>
    simp only [Mixer.step] at hstep
    split at hstep
    · rename_i edge queue hqueue
      split at hstep
      · have hv : s.visible = false := by
          by_contra hvis
          have hdrained := (hinv.shown (Bool.eq_true_of_not_eq_false hvis)).1.parted.2.2.2
          rw [hdrained] at hqueue
          cases hqueue
        have hrest : Silent { s with queue := queue } := h.silent hv
        rw [← show _ = s' from congrArg Prod.fst (Option.some.inj hstep)]
        exact Told.drainEdge hrest edge opening
      · cases hstep
    · cases hstep
  | key closes =>
    obtain ⟨rfl, rfl⟩ := Prod.mk.inj (Option.some.inj hstep)
    cases closes with
    | true => exact h.hide
    | false => exact h
  | frame passed =>
    obtain ⟨rfl, rfl⟩ := Prod.mk.inj (Option.some.inj hstep)
    unfold Mixer.overlayFrame
    split
    · exact h.hide
    · exact h
  | rgbaFrame =>
    obtain ⟨rfl, rfl⟩ := Prod.mk.inj (Option.some.inj hstep)
    have hdropped : Told { s with dragging := s.dragging && !s.visible } := h
    exact hdropped.hide
  | showOverlay opening =>
    simp only [Mixer.step] at hstep
    split at hstep
    · cases hstep
    · rename_i hfree
      rw [Bool.or_eq_true, not_or, Bool.not_eq_true] at hfree
      rw [← show _ = s' from congrArg Prod.fst (Option.some.inj hstep)]
      exact ((h.silent hfree.1).showOverlay opening).told
  | completeSessionSwitch =>
    obtain ⟨rfl, rfl⟩ := Prod.mk.inj (Option.some.inj hstep)
    exact h.hide
  | showHub =>
    have heq : s.showHub.1 = s' := congrArg Prod.fst (Option.some.inj hstep)
    rcases hinv.showHub with hsame | ⟨hv, -⟩
    · rw [← heq, hsame]
      exact h
    · rw [← heq]
      exact (h.silent hv).showHub.told
  | enterStreaming =>
    simp only [Mixer.step] at hstep
    split at hstep
    · cases hstep
    · rename_i hstream
      obtain ⟨rfl, rfl⟩ := Prod.mk.inj (Option.some.inj hstep)
      have hv : s.visible = false := by
        by_contra hvis
        exact hstream (hinv.shown (Bool.eq_true_of_not_eq_false hvis)).1.parted.1
      exact Silent.told (h.silent hv).evdevInputStart
  | evdevReset =>
    simp only [Mixer.step] at hstep
    split at hstep
    · obtain ⟨rfl, rfl⟩ := Prod.mk.inj (Option.some.inj hstep)
      exact h
    · cases hstep
  | arm =>
    obtain ⟨rfl, rfl⟩ := Prod.mk.inj (Option.some.inj hstep)
    exact h
  | plug isMouse =>
    obtain ⟨rfl, rfl⟩ := Prod.mk.inj (Option.some.inj hstep)
    refine h.sameButtons rfl rfl fun _ c _ hold => ?_
    rw [PointerDevices.down, List.any_append, Bool.or_eq_true]
    exact .inl hold
  | unplug i =>
    simp only [Mixer.step] at hstep
    split at hstep
    · rename_i d hi
      split at hstep
      · rename_i hfree
        rw [Bool.or_eq_true] at hfree
        obtain ⟨rfl, rfl⟩ := Prod.mk.inj (Option.some.inj hstep)
        refine h.sameButtons rfl rfl fun hv c _ hold => ?_
        have hup := Buttons.isEmpty_iff.1 (hfree.resolve_left fun hgrabbed =>
          absurd ((grabbed_false (hinv.shown hv).1.ungrabbed hi).symm.trans hgrabbed) (by decide))
        exact PointerDevices.set_keeps hi (fun hdown =>
          absurd ((hup c).symm.trans hdown) (by decide)) hold
      · cases hstep
    · cases hstep
  | busy i busy =>
    simp only [Mixer.step] at hstep
    split at hstep
    · rename_i d hi
      obtain ⟨rfl, rfl⟩ := Prod.mk.inj (Option.some.inj hstep)
      exact h.sameButtons rfl rfl fun _ c _ hold => PointerDevices.set_keeps hi id hold
    · cases hstep
  | scan =>
    simp only [Mixer.step] at hstep
    split at hstep
    · rename_i hrunning
      obtain ⟨rfl, rfl⟩ := Prod.mk.inj (Option.some.inj hstep)
      exact Silent.told (h.silent (hinv.reader hrunning).1)
    · cases hstep
  | removeDevice i =>
    simp only [Mixer.step] at hstep
    split at hstep
    · split at hstep
      · rename_i hgone
        rw [Bool.and_eq_true] at hgone
        obtain ⟨rfl, rfl⟩ := Prod.mk.inj (Option.some.inj hstep)
        exact Silent.told (h.silent (hinv.reader hgone.1).1)
      · cases hstep
    · cases hstep
  | overflow =>
    simp only [Mixer.step] at hstep
    split at hstep
    · obtain ⟨rfl, rfl⟩ := Prod.mk.inj (Option.some.inj hstep)
      exact h
    · cases hstep
  | giveUp =>
    simp only [Mixer.step] at hstep
    split at hstep
    · rename_i hrunning
      obtain ⟨rfl, rfl⟩ := Prod.mk.inj (Option.some.inj hstep)
      exact Silent.told (h.silent (hinv.reader hrunning).1)
    · cases hstep
  | starts works =>
    obtain ⟨rfl, rfl⟩ := Prod.mk.inj (Option.some.inj hstep)
    exact h

/-! ## Runs -/

instance (s : Mixer) (reads : Nat → Bool) : Decidable (SeedsHand s reads) :=
  decidable_of_iff (∀ n ∈ Mixer.recordOrder,
    if s.mouseActive then
      s.devices.down n.sdl = true → s.devices.kernelButtons reads n.sdl = true
    else s.devices.down n.sdl = s.heldMouse n)
    ⟨fun h n => h n (by cases n <;> decide), fun h n _ => h n⟩

/-- The opening of a step, if it is one, finds what is down. -/
def OpensSeeded (s : Mixer) (a : MixerAction) : Prop :=
  ∀ reads ∈ s.opens a, SeedsHand s reads

instance (s : Mixer) (a : MixerAction) : Decidable (OpensSeeded s a) :=
  match h : s.opens a with
  | none => .isTrue fun reads hreads => by rw [h] at hreads; cases hreads
  | some reads => decidable_of_iff (SeedsHand s reads) (by simp [OpensSeeded, h])

/-- The overlay where every opening finds what is down, in the held record or on
the grabbed mice. -/
def seededOverlay : Machine Mixer MixerAction (List SentButton) :=
  mixerOverlay.restrict OpensSeeded

theorem seededOverlay_inv {tr : List (MixerAction × List SentButton)}
    (h : seededOverlay.Run tr s) : MixerInv s := by
  refine h.invariant start_inv fun t a u e ht hstep => ?_
  obtain ⟨hseed, hstep⟩ := Machine.restrict_step.1 hstep
  exact (ht.step hseed hstep).inv

theorem seededOverlay_told {tr : List (MixerAction × List SentButton)}
    (h : seededOverlay.Run tr s) (hlost : ∀ x ∈ tr, ∀ i b, x.1 ≠ .lost i b) :
    MixerInv s ∧ Told s := by
  refine h.invariant_on (I := fun s => MixerInv s ∧ Told s)
    ⟨start_inv, Silent.told fun _ => rfl⟩ hlost fun t a u e ha ht hstep => ?_
  obtain ⟨hseed, hstep⟩ := Machine.restrict_step.1 hstep
  exact ⟨(ht.1.step hseed hstep).inv, ht.2.step ht.1 ha hstep⟩

/-- There is a panel, and the kernel answers for every mouse. -/
def Opening.full : Opening where
  available := true
  reads _ := true

/-- A mouse plugged in under a button of the remote empties the mask the same way. -/
example : (mixerOverlay.exec .start
    [.plug false, .press 0 .left .body .full, .plug true, .scan, .showOverlay .full, .key true]).map
      (fun r => (r.1.visible, r.1.devices.down .left)) = some (false, true) := by
  decide

end Lgnome.Input
