import Lgnome.Input.MixerOverlay

/-!
# Chords over the mixer overlay

The mask covers what is physically down from the moment the overlay opens, if
it does so then. From there on every event keeps it covered, so the overlay
leaves only an empty hand behind.
-/
namespace Lgnome.Input

open Lgnome.Transition

/-- The overlay is asked to close and has not done so. -/
def Requested (s : Mixer) : Prop := s.dismissButton ≠ none ∨ s.dismissPending = true

/-- None of the three buttons that a session knows is down on any device. -/
def HandEmpty (s : Mixer) : Prop := ∀ n : NativeInputButton, s.devices.down n.sdl = false

/-- Opening finds what is down: in the held record, or, with a mouse grabbed, on
the grabbed mice that the kernel answers for, since their state replaces the record. -/
def SeedsHand (s : Mixer) (reads : Nat → Bool) : Prop :=
  ∀ n : NativeInputButton,
    if s.mouseActive then
      s.devices.down n.sdl = true → s.devices.kernelButtons reads n.sdl = true
    else s.devices.down n.sdl = s.heldMouse n

/-- The session has nothing of the pointer. -/
def Parted (s : Mixer) : Prop :=
  s.streamingVisible = true ∧ (∀ n, s.heldMouse n = false) ∧ s.running = false ∧ s.queue = []

/-- Nothing of the session is left while the overlay is up, and the mask covers
the hands. A bit of the mask is down, or SDL has not told that it is up. -/
structure Covered (s : Mixer) : Prop where
  parted : Parted s
  ungrabbed : s.devices.grabbed = false
  hand : ∀ n : NativeInputButton, s.devices.down n.sdl = true → s.pointerButtons n.sdl = true
  reported : ∀ n : NativeInputButton, s.sdlButtons n.sdl = true → s.pointerButtons n.sdl = true
  dismiss : ∀ b, s.dismissButton = some b → s.pointerButtons b = true ∧ s.sdlButtons b = true
  real : ∀ b, s.pointerButtons b = true → s.devices.down b = true ∨ s.sdlButtons b = true

/-- Without the overlay nothing is down that was pressed over it. -/
structure Away (s : Mixer) : Prop where
  pressed : ∀ d ∈ s.devices, ∀ n : NativeInputButton, d.pressedOpen n.sdl = false
  queued : ∀ edge ∈ s.queue, ∀ n, nativeButtonFromSdl edge.button = some n →
    edge.pressedOpen = false

structure MixerInv (s : Mixer) : Prop where
  shown : s.visible = true → Covered s ∧ (s.dismissPending = true → ∃ b, s.pointerButtons b = true)
  away : s.visible = false → Away s

/-- What a step from a good state leads to. -/
structure Chorded (s s' : Mixer) (sent : List SentButton) : Prop where
  inv : MixerInv s'
  hidden : s.visible = true → s'.visible = false → HandEmpty s'
  persists : s.visible = true → Requested s → s'.visible = true → Requested s'
  clean : ∀ edge ∈ sent, edge.down = false → edge.pressedOpen = false

/-- What a routine leaves that is called without the overlay. -/
structure Outside (r : Mixer × List SentButton) : Prop where
  inv : MixerInv r.1
  clean : ∀ edge ∈ r.2, edge.down = false → edge.pressedOpen = false

variable {s s' t : Mixer} {sent : List SentButton} {b c : SdlButton} {i : Nat}
  {d d' : PointerDevice}

theorem start_inv : MixerInv .start where
  shown h := by cases h
  away _ := by
    refine ⟨fun d hd => ?_, fun edge hedge => ?_⟩
    · cases hd
    · cases hedge

theorem Outside.chorded (h : Outside (s', sent)) (hv : s.visible = false) : Chorded s s' sent := by
  refine ⟨h.inv, fun hvis => ?_, fun hvis => ?_, h.clean⟩
  · exact absurd (hv.symm.trans hvis) (by decide)
  · exact absurd (hv.symm.trans hvis) (by decide)

theorem Away.inv (h : Away s) (hv : s.visible = false) : MixerInv s :=
  ⟨fun hvis => absurd (hv.symm.trans hvis) (by decide), fun _ => h⟩

theorem Away.outside (h : Away s) (hv : s.visible = false) : Outside (s, []) :=
  ⟨h.inv hv, fun edge hedge => (by cases hedge)⟩

theorem Away.chorded (h : Away s') (hv' : s'.visible = false) (hv : s.visible = false) :
    Chorded s s' [] :=
  (h.outside hv').chorded hv

theorem Covered.onPointer (h : Covered s) : s.devices.onPointer = s.devices.down :=
  PointerDevices.onPointer_down h.ungrabbed

/-! ## Closing -/

theorem evdevInputStart_cases (s : Mixer) : s.evdevInputStart = s ∨
    s.evdevInputStart = { s with
      started := true
      running := true
      queue := []
      resetPending := false
      devices := s.devices.map .grab } := by
  unfold Mixer.evdevInputStart
  split
  · exact .inl rfl
  · split
    · exact .inr rfl
    · exact .inl rfl

theorem grab_pressed (h : ∀ d ∈ s.devices, ∀ n : NativeInputButton, d.pressedOpen n.sdl = false)
    {f : PointerDevice → PointerDevice} (hf : ∀ d, (f d).pressedOpen = d.pressedOpen) :
    ∀ d ∈ s.devices.map f, ∀ n : NativeInputButton, d.pressedOpen n.sdl = false := by
  intro d hd n
  obtain ⟨e, he, rfl⟩ := List.mem_map.1 hd
  rw [hf]
  exact h e he n

/-- A start of the reader changes neither what is down nor what is on the screen. -/
theorem Away.evdevInputStart (h : Away s) : Away s.evdevInputStart ∧
    s.evdevInputStart.visible = s.visible ∧ s.evdevInputStart.devices.down = s.devices.down ∧
      s.evdevInputStart.sdlButtons = s.sdlButtons := by
  rcases evdevInputStart_cases s with heq | heq
  · rw [heq]
    exact ⟨h, rfl, rfl, rfl⟩
  · rw [heq]
    refine ⟨⟨grab_pressed h.pressed fun d => rfl, fun edge hedge => (by cases hedge)⟩, rfl, ?_, rfl⟩
    exact PointerDevices.map_down fun d => rfl

/-- Behind an overlay that covered the hand and found its mask empty. -/
theorem Covered.closed (h : Covered s) (hmask : s.pointerButtons.isEmpty = true) :
    s.closed.visible = false ∧ Away s.closed ∧ HandEmpty s.closed := by
  have hempty := Buttons.isEmpty_iff.1 hmask
  have hhand : HandEmpty s := by
    intro n
    by_contra hdown
    have hbit := h.hand n (Bool.eq_true_of_not_eq_false hdown)
    rw [hempty] at hbit
    cases hbit
  have hlowered : Away s.lowered := by
    refine ⟨fun d hd n => ?_, fun edge hedge => ?_⟩
    · exact d.pressedOpen_down n.sdl (PointerDevices.mem_down hd (hhand n))
    · rw [show s.lowered.queue = [] from h.parted.2.2.2] at hedge
      cases hedge
  obtain ⟨haway, hvis, hdown, -⟩ := hlowered.evdevInputStart
  rw [Mixer.closed, if_pos h.parted.1]
  refine ⟨hvis, haway, fun n => ?_⟩
  rw [hdown]
  exact hhand n

/-- A close that is refused is remembered, and a bit of the mask refuses it. One
that completes leaves an empty hand. -/
theorem Covered.hide (h : Covered s) (hv : s.visible = true) :
    (s.hide = { s with dismissPending := true } ∧ ∃ b, s.pointerButtons b = true) ∨
      (s.hide = s.closed ∧ s.hide.visible = false ∧ Away s.hide ∧ HandEmpty s.hide) := by
  by_cases hblocked : s.dismissButton ≠ none ∨ s.pointerButtons.isEmpty = false
  · have heq : s.hide = { s with dismissPending := true } := by
      rw [Mixer.hide, if_pos hv, if_pos hblocked]
    refine .inl ⟨heq, ?_⟩
    rcases hblocked with hdismiss | hmask
    · obtain ⟨b, hb⟩ := Option.ne_none_iff_exists'.1 hdismiss
      exact ⟨b, (h.dismiss b hb).1⟩
    · exact Buttons.not_isEmpty hmask
  · have heq : s.hide = s.closed := by
      rw [Mixer.hide, if_pos hv, if_neg hblocked]
    have hmask := Bool.eq_true_of_not_eq_false (not_or.1 hblocked).2
    rw [heq]
    exact .inr ⟨rfl, h.closed hmask⟩

/-- A close is remembered or completes. -/
theorem Covered.hide_chorded (h : Covered s) (hv : s.visible = true) :
    MixerInv s.hide ∧ (s.hide.visible = false → HandEmpty s.hide) ∧
      (s.hide.visible = true → Requested s.hide) := by
  rcases h.hide hv with ⟨heq, hbit⟩ | ⟨-, hvis, haway, hhand⟩
  · rw [heq]
    refine ⟨⟨fun _ => ⟨⟨h.parted, h.ungrabbed, h.hand, h.reported, h.dismiss, h.real⟩,
      fun _ => hbit⟩, fun hvis => ?_⟩, fun hvis => ?_, fun _ => .inr rfl⟩
    · exact absurd (hvis.symm.trans hv) (by decide)
    · exact absurd (hvis.symm.trans hv) (by decide)
  · exact ⟨haway.inv hvis, fun _ => hhand, fun hup => absurd (hvis.symm.trans hup) (by decide)⟩

theorem hide_hidden (hv : s.visible = false) : s.hide = s := by
  rw [Mixer.hide, hv]
  rfl

/-- A pending close completes with the last bit of the mask. -/
theorem Covered.completePending (h : Covered s) (hv : s.visible = true) :
    MixerInv s.completePending ∧ (s.completePending.visible = false → HandEmpty s.completePending) ∧
      (Requested s → s.completePending.visible = true → Requested s.completePending) := by
  unfold Mixer.completePending
  by_cases hdone : s.dismissPending = true ∧ s.pointerButtons.isEmpty = true
  · rw [if_pos hdone]
    have hcleared : Covered { s with dismissPending := false } :=
      ⟨h.parted, h.ungrabbed, h.hand, h.reported, h.dismiss, h.real⟩
    obtain ⟨hinv, hhand, hreq⟩ := hcleared.hide_chorded hv
    exact ⟨hinv, hhand, fun _ hvis => hreq hvis⟩
  · rw [if_neg hdone]
    refine ⟨⟨fun _ => ⟨h, fun hpending => ?_⟩, fun hvis => ?_⟩, fun hvis => ?_,
      fun hreq _ => hreq⟩
    · exact Buttons.not_isEmpty (Bool.eq_false_iff.2 fun hmask => hdone ⟨hpending, hmask⟩)
    · exact absurd (hvis.symm.trans hv) (by decide)
    · exact absurd (hvis.symm.trans hv) (by decide)

/-! ## Events over the overlay -/

/-- Everything that `Covered` asks for, the dismissing button apart if the event
releases it. -/
theorem Covered.dismissReleased {released : Buttons} (hparted : Parted s)
    (hungrabbed : s.devices.grabbed = false)
    (hhand : ∀ n : NativeInputButton, s.devices.down n.sdl = true → s.pointerButtons n.sdl = true)
    (hreported : ∀ n : NativeInputButton, s.sdlButtons n.sdl = true →
      s.pointerButtons n.sdl = true)
    (hdismiss : ∀ b, s.dismissButton = some b → released b = false →
      s.pointerButtons b = true ∧ s.sdlButtons b = true)
    (hreal : ∀ b, s.pointerButtons b = true → s.devices.down b = true ∨ s.sdlButtons b = true) :
    Covered (s.dismissReleased released) ∧
      (Requested s → Requested (s.dismissReleased released)) := by
  unfold Mixer.dismissReleased
  cases hd : s.dismissButton with
  | none =>
    refine ⟨⟨hparted, hungrabbed, hhand, hreported, fun b hb => ?_, hreal⟩, id⟩
    rw [hd] at hb
    cases hb
  | some d =>
    dsimp only
    by_cases hr : released d = true
    · rw [if_pos hr]
      exact ⟨⟨hparted, hungrabbed, hhand, hreported, fun b hb => (by cases hb), hreal⟩,
        fun _ => .inr rfl⟩
    · rw [if_neg hr]
      refine ⟨⟨hparted, hungrabbed, hhand, hreported, fun b hb => ?_, hreal⟩, id⟩
      obtain rfl : d = b := Option.some.inj (hd.symm.trans hb)
      exact hdismiss d hd (Bool.eq_false_iff.2 hr)

@[simp] theorem dismissReleased_visible (released : Buttons) :
    (s.dismissReleased released).visible = s.visible := by
  unfold Mixer.dismissReleased
  split
  · split <;> rfl
  · rfl

/-- An event that ends with the dismissing button and the pending close. -/
theorem Covered.released {released : Buttons}
    (h : Covered (t.dismissReleased released) ∧
      (Requested t → Requested (t.dismissReleased released)))
    (hreq : Requested s → Requested t) (hv : t.visible = true) :
    Chorded s (t.dismissReleased released).completePending [] := by
  obtain ⟨hinv, hhand, hkeeps⟩ :=
    h.1.completePending (by rw [dismissReleased_visible, hv])
  exact ⟨hinv, fun _ => hhand, fun _ hr hvis => hkeeps (h.2 (hreq hr)) hvis,
    fun edge hedge => (by cases hedge)⟩

/-- A motion event clears what SDL had down and has no longer. -/
theorem Covered.motion (h : Covered s) (hv : s.visible = true) {state : Buttons}
    (hdown : ∀ b, state b = true → s.devices.down b = true)
    (hall : ∀ b, s.sdlButtons b = true → s.devices.down b = true → state b = true) :
    Chorded s (s.motion state) [] := by
  rw [Mixer.motion, if_pos hv]
  refine Covered.released (Covered.dismissReleased h.parted h.ungrabbed ?_ ?_ ?_ ?_) id hv
  · intro n hn
    have hkept : (s.sdlButtons n.sdl && !state n.sdl) = false := by
      cases hsdl : s.sdlButtons n.sdl with
      | false => rfl
      | true => simp [hall n.sdl hsdl hn]
    simp [h.hand n hn, hkept]
  · intro n hn
    have hn' : state n.sdl = true := hn
    simp [h.hand n (hdown n.sdl hn'), hn']
  · intro b hb hnot
    obtain ⟨hmask, hsdl⟩ := h.dismiss b hb
    have hstate : state b = true := by
      simpa [hsdl] using hnot
    exact ⟨by simp [hmask, hstate], hstate⟩
  · intro b hb
    simp only [Buttons.diff_apply, Bool.and_eq_true, Bool.not_eq_true'] at hb
    rcases h.real b hb.1 with hphys | hsdl
    · exact .inl hphys
    · exact .inr (by simpa [hsdl] using hb.2)

/-! ### Edges of a device -/

theorem grabbed_false (h : s.devices.grabbed = false) (hi : s.devices[i]? = some d) :
    d.grabbed = false :=
  Bool.eq_false_iff.2 (List.any_eq_false.1 h d (List.mem_of_getElem? hi))

theorem release_down_of (h : (s.setDevice i (d.release b)).devices.down c = true)
    (hi : s.devices[i]? = some d) : s.devices.down c = true := by
  rcases PointerDevices.any_set h with hdown | hdown
  · rw [PointerDevice.release_down] at hdown
    split at hdown
    · cases hdown
    · exact PointerDevices.down_iff.2 ⟨d, List.mem_of_getElem? hi, hdown⟩
  · exact hdown

theorem release_keeps (hi : s.devices[i]? = some d) (hne : c ≠ b)
    (h : s.devices.down c = true) : (s.setDevice i (d.release b)).devices.down c = true := by
  refine PointerDevices.set_keeps hi (fun hdown => ?_) h
  rw [PointerDevice.release_down, if_neg hne]
  exact hdown

theorem press_keeps {shown : Bool} (hi : s.devices[i]? = some d)
    (h : s.devices.down c = true) : (s.setDevice i (d.press b shown)).devices.down c = true := by
  refine PointerDevices.set_keeps hi (fun hdown => ?_) h
  rw [PointerDevice.press_down, hdown, ite_self]

theorem press_down_of {shown : Bool} (hi : s.devices[i]? = some d)
    (h : (s.setDevice i (d.press b shown)).devices.down c = true) :
    c = b ∨ s.devices.down c = true := by
  rcases PointerDevices.any_set h with hdown | hdown
  · rw [PointerDevice.press_down] at hdown
    split at hdown
    · rename_i heq
      exact .inl heq
    · exact .inr (PointerDevices.down_iff.2 ⟨d, List.mem_of_getElem? hi, hdown⟩)
  · exact .inr hdown

/-- A change of one device that stays with the compositor. -/
theorem Covered.setDevice (h : Covered s) (hi : s.devices[i]? = some d)
    (hgrabbed : d'.grabbed = d.grabbed)
    (hhand : ∀ n : NativeInputButton, (s.setDevice i d').devices.down n.sdl = true →
      s.pointerButtons n.sdl = true)
    (hreal : ∀ c, s.pointerButtons c = true → s.devices.down c = true →
      (s.setDevice i d').devices.down c = true ∨ s.sdlButtons c = true) :
    Covered (s.setDevice i d') := by
  refine ⟨h.parted, ?_, hhand, h.reported, h.dismiss, fun c hc => ?_⟩
  · exact (PointerDevices.grabbed_set hi hgrabbed).trans h.ungrabbed
  · rcases h.real c hc with hdown | hsdl
    · exact hreal c hc hdown
    · exact .inr hsdl

theorem Covered.overlayUp (h : Covered s) (hv : s.visible = true) (hi : s.devices[i]? = some d)
    (hup : (s.setDevice i (d.release b)).devices.down b = false) :
    Chorded s ((s.setDevice i (d.release b)).overlayUp b) [] := by
  have hgrabbed : (s.setDevice i (d.release b)).devices.grabbed = false :=
    Eq.trans (PointerDevices.grabbed_set hi rfl) h.ungrabbed
  refine Covered.released (Covered.dismissReleased h.parted hgrabbed ?_ ?_ ?_ ?_) id hv
  · intro n hn
    have hne : n.sdl ≠ b := by
      rintro rfl
      exact absurd (hup.symm.trans hn) (by decide)
    simp only [Mixer.setDevice, Buttons.erase_apply, if_neg hne]
    exact h.hand n (release_down_of hn hi)
  · intro n hn
    simp only [Mixer.setDevice, Buttons.erase_apply] at hn ⊢
    split at hn
    · cases hn
    · rename_i hne
      rw [if_neg hne]
      exact h.reported n hn
  · intro e he hnot
    have hne : e ≠ b := by
      rintro rfl
      simp at hnot
    simp only [Mixer.setDevice, Buttons.erase_apply, if_neg hne]
    exact h.dismiss e he
  · intro c hc
    simp only [Mixer.setDevice, Buttons.erase_apply] at hc ⊢
    split at hc
    · cases hc
    · rename_i hne
      rw [if_neg hne]
      exact (h.real c hc).imp (release_keeps hi hne) id

/-- The press itself: SDL has the button, and the mask has it. -/
theorem Covered.pressed (h : Covered s) (hi : s.devices[i]? = some d) (b : SdlButton)
    (shown : Bool) :
    Covered { s.setDevice i (d.press b shown) with
      sdlButtons := s.sdlButtons.insert b
      pointerButtons := s.pointerButtons.insert b } := by
  refine ⟨h.parted, Eq.trans (PointerDevices.grabbed_set hi rfl) h.ungrabbed, fun n hn => ?_,
    fun n hn => ?_, fun e he => ?_, fun c hc => ?_⟩
  · simp only [Buttons.insert_apply]
    split
    · rfl
    · rename_i hne
      exact h.hand n ((press_down_of hi hn).resolve_left hne)
  · simp only [Buttons.insert_apply] at hn ⊢
    split
    · rfl
    · rename_i hne
      rw [if_neg hne] at hn
      exact h.reported n hn
  · obtain ⟨hmask, hsdl⟩ := h.dismiss e he
    exact ⟨by simp [hmask], by simp [hsdl]⟩
  · simp only [Buttons.insert_apply] at hc ⊢
    by_cases hcb : c = b
    · exact .inr (by rw [if_pos hcb])
    · rw [if_neg hcb] at hc
      rw [if_neg hcb]
      exact (h.real c hc).imp (press_keeps hi) id

/-- A button that is down and known to be may take the close upon itself. -/
theorem Covered.withDismiss (h : Covered s) {e : Option SdlButton}
    (he : ∀ b, e = some b → s.pointerButtons b = true ∧ s.sdlButtons b = true) (dragging : Bool) :
    Covered { s with dismissButton := e, dragging := dragging } :=
  ⟨h.parted, h.ungrabbed, h.hand, h.reported, he, h.real⟩

/-- A press keeps the overlay up, with what was asked of it. -/
theorem overlayDown_kept (s : Mixer) (b : SdlButton) (target : PressTarget) :
    (s.overlayDown b target).visible = s.visible ∧
      (s.overlayDown b target).devices = s.devices ∧
      (s.overlayDown b target).dismissPending = s.dismissPending ∧
      (s.overlayDown b target).pointerButtons = s.pointerButtons.insert b ∧
      (s.overlayDown b target).sdlButtons = s.sdlButtons.insert b ∧
      (s.dismissButton ≠ none → (s.overlayDown b target).dismissButton = s.dismissButton) := by
  unfold Mixer.overlayDown
  dsimp only
  split
  · split
    · rename_i hfree
      exact ⟨rfl, rfl, rfl, rfl, rfl, fun hd => absurd hfree.1 hd⟩
    · exact ⟨rfl, rfl, rfl, rfl, rfl, fun _ => rfl⟩
  · cases target with
    | outside => exact ⟨rfl, rfl, rfl, rfl, rfl, fun hd => if_neg hd⟩
    | body => exact ⟨rfl, rfl, rfl, rfl, rfl, fun _ => rfl⟩
    | control => exact ⟨rfl, rfl, rfl, rfl, rfl, fun _ => rfl⟩
    | fader =>
      dsimp only
      split
      · exact ⟨rfl, rfl, rfl, rfl, rfl, fun _ => rfl⟩
      · exact ⟨rfl, rfl, rfl, rfl, rfl, fun _ => rfl⟩

theorem overlayDown_covered (target : PressTarget)
    (hpressed : Covered { t with
      sdlButtons := t.sdlButtons.insert b
      pointerButtons := t.pointerButtons.insert b }) : Covered (t.overlayDown b target) := by
  have hself : (t.pointerButtons.insert b) b = true ∧ (t.sdlButtons.insert b) b = true :=
    ⟨by simp, by simp⟩
  unfold Mixer.overlayDown
  dsimp only
  split
  · split
    · refine hpressed.withDismiss (fun e he => ?_) _
      obtain rfl := Option.some.inj he
      exact hself
    · exact hpressed
  · cases target with
    | outside =>
      refine hpressed.withDismiss (fun e he => ?_) _
      by_cases hfree : t.dismissButton = none
      · rw [if_pos hfree] at he
        obtain rfl := Option.some.inj he
        exact hself
      · rw [if_neg hfree] at he
        exact hpressed.dismiss e he
    | body => exact hpressed
    | control => exact hpressed
    | fader =>
      dsimp only
      split
      · exact hpressed.withDismiss hpressed.dismiss _
      · exact hpressed

/-- A press over the overlay is the overlay's. -/
theorem Covered.overlayDown (h : Covered s) (hv : s.visible = true) (hi : s.devices[i]? = some d)
    (target : PressTarget) (shown : Bool) :
    Chorded s ((s.setDevice i (d.press b shown)).overlayDown b target) [] := by
  obtain ⟨hvis, -, hpending, hmask, -, hdismiss⟩ :=
    overlayDown_kept (s.setDevice i (d.press b shown)) b target
  have hup : ((s.setDevice i (d.press b shown)).overlayDown b target).visible = true :=
    hvis.trans hv
  refine ⟨⟨fun _ => ⟨overlayDown_covered target (h.pressed hi b shown), fun _ => ⟨b, ?_⟩⟩,
    fun hdown => ?_⟩, fun _ hdown => ?_, fun _ hreq _ => ?_, fun edge hedge => (by cases hedge)⟩
  · simp [hmask]
  · exact absurd (hdown.symm.trans hup) (by decide)
  · exact absurd (hdown.symm.trans hup) (by decide)
  · rcases hreq with hd | hp
    · exact .inl (by rw [hdismiss hd]; exact hd)
    · exact .inr (hpending.trans hp)

/-- Nothing but the devices has changed, and the mask still covers them. -/
theorem MixerInv.sameOverlay (h : MixerInv s) (hv : s.visible = true) {devices : PointerDevices}
    (hc : Covered { s with devices := devices }) : Chorded s { s with devices := devices } [] := by
  refine ⟨⟨fun _ => ⟨hc, (h.shown hv).2⟩, fun hdown => ?_⟩, fun _ hdown => ?_,
    fun _ hreq _ => hreq, fun edge hedge => (by cases hedge)⟩
  · exact absurd (hdown.symm.trans hv) (by decide)
  · exact absurd (hdown.symm.trans hv) (by decide)

theorem MixerInv.pressOver (h : MixerInv s) (hv : s.visible = true) (hi : s.devices[i]? = some d)
    (target : PressTarget) (opening : Opening) :
    Chorded s (s.pressOn i d b target opening).1 (s.pressOn i d b target opening).2 := by
  have hc := (h.shown hv).1
  have hpointer : s.devices.onPointer b = s.devices.down b := congrFun hc.onPointer b
  have hshow : (s.setDevice i (d.press b s.visible)).visible = true := hv
  unfold Mixer.pressOn
  dsimp only
  rw [grabbed_false hc.ungrabbed hi, if_neg Bool.false_ne_true, hc.parted.1, hpointer,
    Bool.true_and]
  cases hdown : s.devices.down b with
  | false =>
    rw [Bool.not_false, if_pos rfl, Mixer.sdlDown, if_pos hshow]
    exact hc.overlayDown hv hi target s.visible
  | true =>
    refine h.sameOverlay hv (hc.setDevice hi rfl (fun n hn => ?_) fun c _ hc' => ?_)
    · rcases press_down_of hi hn with heq | hold
      · exact hc.hand n (by rw [heq]; exact hdown)
      · exact hc.hand n hold
    · exact .inl (press_keeps hi hc')

theorem MixerInv.releaseOver (h : MixerInv s) (hv : s.visible = true)
    (hi : s.devices[i]? = some d) :
    Chorded s (s.releaseOn i d b).1 (s.releaseOn i d b).2 := by
  have hc := (h.shown hv).1
  have hgrabbed : (s.setDevice i (d.release b)).devices.grabbed = false :=
    Eq.trans (PointerDevices.grabbed_set hi rfl) hc.ungrabbed
  have hpointer : (s.setDevice i (d.release b)).devices.onPointer b =
      (s.setDevice i (d.release b)).devices.down b :=
    congrFun (PointerDevices.onPointer_down hgrabbed) b
  have hshow : (s.setDevice i (d.release b)).visible = true := hv
  unfold Mixer.releaseOn
  dsimp only
  rw [grabbed_false hc.ungrabbed hi, if_neg Bool.false_ne_true, hc.parted.1, hpointer,
    Bool.true_and]
  cases hdown : (s.setDevice i (d.release b)).devices.down b with
  | false =>
    rw [Bool.not_false, if_pos rfl, Mixer.sdlUp, if_pos hshow]
    exact hc.overlayUp hv hi hdown
  | true =>
    refine h.sameOverlay hv (hc.setDevice hi rfl (fun n hn => ?_) fun c _ hc' => ?_)
    · exact hc.hand n (release_down_of hn hi)
    · by_cases hcb : c = b
      · exact .inl (by rw [hcb]; exact hdown)
      · exact .inl (release_keeps hi hcb hc')

/-- An edge that SDL loses is one of a button whose bit the mask has. -/
theorem MixerInv.lost (h : MixerInv s) (hv : s.visible = true) (hi : s.devices[i]? = some d)
    (hb : s.sdlButtons b = true) :
    Chorded s (s.setDevice i (if d.down b then d.release b else d.press b true)) [] := by
  have hc := (h.shown hv).1
  have hother : ∀ n : NativeInputButton, n.sdl = b → s.pointerButtons n.sdl = true :=
    fun n hnb => hc.reported n (by rw [hnb]; exact hb)
  cases d.down b with
  | true =>
    rw [if_pos rfl]
    refine h.sameOverlay hv (hc.setDevice hi rfl (fun n hn => ?_) fun c _ hc' => ?_)
    · exact hc.hand n (release_down_of hn hi)
    · by_cases hcb : c = b
      · exact .inr (by rw [hcb]; exact hb)
      · exact .inl (release_keeps hi hcb hc')
  | false =>
    rw [if_neg Bool.false_ne_true]
    refine h.sameOverlay hv (hc.setDevice hi rfl (fun n hn => ?_) fun c _ hc' => ?_)
    · rcases press_down_of hi hn with heq | hold
      · exact hother n heq
      · exact hc.hand n hold
    · exact .inl (press_keeps hi hc')

/-! ## Opening -/

theorem Away.mark (h : Away s) (n : NativeInputButton) :
    s.devices.pressedOpen n.sdl = false :=
  List.any_eq_false.2 fun d hd => Bool.eq_false_iff.1 (h.pressed d hd n)

/-- Releases of what the record holds were pressed before the overlay came up. -/
theorem Away.flushed (h : Away s) :
    ∀ edge ∈ s.flushHeldInputs.2, edge.down = false → edge.pressedOpen = false := by
  intro edge hedge _
  simp only [Mixer.flushHeldInputs, List.mem_flatMap, List.mem_filter] at hedge
  obtain ⟨n, -, hsent⟩ := hedge
  unfold Mixer.send at hsent
  split at hsent
  · obtain rfl := List.mem_singleton.1 hsent
    exact h.mark n
  · cases hsent

theorem recorded_iff (s : Mixer) (b : SdlButton) :
    s.recorded b = true ↔ ∃ n : NativeInputButton, b = n.sdl ∧ s.heldMouse n = true := by
  simp only [Mixer.recorded, Option.any_eq_true, nativeButtonFromSdl_iff]

/-- The mask an opening starts from is down, and has all of the hand. -/
theorem SeedsHand.seed {reads : Nat → Bool} (h : SeedsHand s reads) :
    let mask := if s.mouseActive then s.devices.kernelButtons reads else s.recorded
    (∀ n : NativeInputButton, s.devices.down n.sdl = true → mask n.sdl = true) ∧
      ∀ b, mask b = true → s.devices.down b = true := by
  unfold SeedsHand at h
  cases hm : s.mouseActive with
  | true =>
    simp only [hm, if_true] at h
    exact ⟨h, fun b => PointerDevices.kernelButtons_down⟩
  | false =>
    simp only [hm, Bool.false_eq_true, if_false] at h
    refine ⟨fun n hn => ?_, fun b hb => ?_⟩
    · exact (recorded_iff s n.sdl).2 ⟨n, rfl, (h n).symm.trans hn⟩
    · obtain ⟨n, rfl, hn⟩ := (recorded_iff s b).1 hb
      exact (h n).trans hn

/-- An opening that finds what is down. -/
theorem Away.showOverlay (h : Away s) (hv : s.visible = false)
    (hstream : s.streamingVisible = true) (opening : Opening)
    (hseed : opening.available = true → SeedsHand s opening.reads) :
    Outside (s.showOverlay opening) := by
  unfold Mixer.showOverlay
  split
  · rename_i havailable
    obtain ⟨hhand, hreal⟩ := (hseed havailable).seed
    have hdown : PointerDevices.down (s.devices.map .ungrab) = s.devices.down :=
      PointerDevices.map_down fun d => rfl
    refine ⟨⟨fun _ => ⟨⟨⟨hstream, fun _ => rfl, rfl, rfl⟩, PointerDevices.ungrab_grabbed, ?_,
      fun n hn => (by cases hn), fun b hb => (by cases hb), ?_⟩, fun hp => (by cases hp)⟩,
      fun hvis => (by cases hvis)⟩, h.flushed⟩
    · intro n hn
      exact hhand n ((congrFun hdown n.sdl).symm.trans hn)
    · intro b hb
      exact .inl ((congrFun hdown b).trans (hreal b hb))
  · exact h.outside hv

/-! ## The session's pointer -/

/-- The record is released where it was pressed. Over the overlay it is empty. -/
theorem MixerInv.flush (h : MixerInv s) : Outside s.flushHeldInputs := by
  refine ⟨⟨fun hv => ?_, fun hv => ?_⟩, fun edge hedge => ?_⟩
  · obtain ⟨hc, hpending⟩ := h.shown hv
    obtain ⟨hstream, -, hstopped, hdrained⟩ := hc.parted
    exact ⟨⟨⟨hstream, fun _ => rfl, hstopped, hdrained⟩, hc.ungrabbed, hc.hand, hc.reported,
      hc.dismiss, hc.real⟩, hpending⟩
  · exact ⟨(h.away hv).pressed, (h.away hv).queued⟩
  · cases hv : s.visible with
    | true =>
      simp only [Mixer.flushHeldInputs, List.mem_flatMap, List.mem_filter] at hedge
      obtain ⟨n, ⟨-, hheld⟩, -⟩ := hedge
      exact absurd (((h.shown hv).1.parted.2.1 n).symm.trans hheld) (by decide)
    | false => exact (h.away hv).flushed edge hedge

/-- Nothing that the overlay looks at has changed. -/
theorem MixerInv.withInput (h : MixerInv s)
    (dragging inputActive hubOpenButtonHeld resetPending starts : Bool) :
    MixerInv { s with
      dragging := dragging
      inputActive := inputActive
      hubOpenButtonHeld := hubOpenButtonHeld
      resetPending := resetPending
      starts := starts } where
  shown hv := by
    obtain ⟨hc, hpending⟩ := h.shown hv
    exact ⟨⟨hc.parted, hc.ungrabbed, hc.hand, hc.reported, hc.dismiss, hc.real⟩, hpending⟩
  away hv := ⟨(h.away hv).pressed, (h.away hv).queued⟩

theorem MixerInv.chorded (h : MixerInv s) : Chorded s s [] := by
  refine ⟨h, fun hv hvis => ?_, fun _ hreq _ => hreq, fun edge hedge => (by cases hedge)⟩
  exact absurd (hv.symm.trans hvis) (by decide)

/-- A request to close. -/
theorem MixerInv.hide (h : MixerInv s) : Chorded s s.hide [] := by
  cases hv : s.visible with
  | true =>
    obtain ⟨hinv, hhand, hreq⟩ := (h.shown hv).1.hide_chorded hv
    exact ⟨hinv, fun _ => hhand, fun _ _ => hreq, fun edge hedge => (by cases hedge)⟩
  | false =>
    rw [hide_hidden hv]
    exact h.chorded

/-- Only over a stream without the overlay does the HUB open. -/
theorem MixerInv.showHub (h : MixerInv s) :
    s.showHub = (s, []) ∨ (s.visible = false ∧ Outside s.showHub) := by
  unfold Mixer.showHub
  split
  · rename_i hopens
    rw [Bool.and_eq_true, Bool.not_eq_true'] at hopens
    have ha := h.away hopens.2
    refine .inr ⟨hopens.2, Away.inv ⟨?_, fun edge hedge => (by cases hedge)⟩ hopens.2, ha.flushed⟩
    exact grab_pressed ha.pressed fun d => rfl
  · exact .inl rfl

theorem Away.hubButtonUp (h : Away s) (hv : s.visible = false) : Outside s.hubButtonUp := by
  have hreleased : Away { s with hubOpenButtonHeld := false } := ⟨h.pressed, h.queued⟩
  unfold Mixer.hubButtonUp
  dsimp only
  split
  · rcases (hreleased.inv hv).showHub with heq | ⟨-, hkept⟩
    · rw [heq]
      exact hreleased.outside hv
    · exact hkept
  · exact hreleased.outside hv

/-- An edge that goes to the session is recorded, whatever the record said of
its button. -/
theorem Away.pointerButton (h : Away s) (hv : s.visible = false) {down mark : Bool}
    (hmark : ∀ n, nativeButtonFromSdl b = some n → down = false → mark = false) :
    Outside (s.pointerButton b down mark) := by
  unfold Mixer.pointerButton
  cases hb : nativeButtonFromSdl b with
  | none => exact h.outside hv
  | some n =>
    refine ⟨Away.inv ⟨h.pressed, h.queued⟩ hv, fun edge hedge hup => ?_⟩
    unfold Mixer.send at hedge
    dsimp only at hedge
    split at hedge
    · obtain rfl := List.mem_singleton.1 hedge
      exact hmark n hb hup
    · cases hedge

theorem Away.enqueue (h : Away s) {edge : QueuedButton}
    (hedge : ∀ n, nativeButtonFromSdl edge.button = some n → edge.pressedOpen = false) :
    Away (s.enqueue edge) := by
  unfold Mixer.enqueue
  split
  · exact h
  · refine ⟨h.pressed, fun e he => ?_⟩
    rcases List.mem_append.1 he with hold | hnew
    · exact h.queued e hold
    · obtain rfl := List.mem_singleton.1 hnew
      exact hedge

theorem enqueue_visible (s : Mixer) (edge : QueuedButton) :
    (s.enqueue edge).visible = s.visible := by
  unfold Mixer.enqueue
  split
  · rfl
  · rfl

theorem Away.setDevice (h : Away s)
    (hd : ∀ n : NativeInputButton, d'.pressedOpen n.sdl = false) : Away (s.setDevice i d') := by
  refine ⟨fun e he => ?_, h.queued⟩
  rcases List.mem_or_eq_of_mem_set he with hold | rfl
  · exact h.pressed e hold
  · exact hd

theorem Away.press (h : Away s) (hv : s.visible = false) (hi : s.devices[i]? = some d)
    (target : PressTarget) (opening : Opening)
    (hseed : b = .x2 → s.mouseActive = false → s.streamingVisible = true →
      s.devices.onPointer b = false → opening.available = true → SeedsHand s opening.reads) :
    Outside (s.pressOn i d b target opening) := by
  have hd := h.pressed d (List.mem_of_getElem? hi)
  have hpressed : Away (s.setDevice i (d.press b s.visible)) := by
    refine h.setDevice fun n => ?_
    rw [PointerDevice.press_pressedOpen, hv]
    split
    · rfl
    · exact hd n
  have hhidden : ¬ (s.setDevice i (d.press b s.visible)).visible = true :=
    fun hvis => absurd (hv.symm.trans hvis) (by decide)
  unfold Mixer.pressOn
  dsimp only
  split
  · refine (hpressed.enqueue fun _ _ => rfl).outside ((enqueue_visible _ _).trans hv)
  · split
    · rename_i htold
      rw [Bool.and_eq_true, Bool.not_eq_true'] at htold
      unfold Mixer.sdlDown
      rw [if_neg hhidden]
      split
      · exact hpressed.outside hv
      · rename_i hm
        split
        · exact Away.outside ⟨hpressed.pressed, hpressed.queued⟩ hv
        · split
          · rename_i hb
            refine hpressed.showOverlay hv htold.1 opening fun havailable n => ?_
            have hsame : (s.setDevice i (d.press b s.visible)).mouseActive = s.mouseActive :=
              PointerDevices.grabbed_set hi rfl
            have hfree : s.mouseActive = false := hsame.symm.trans (Bool.eq_false_iff.2 hm)
            have hold := hseed hb hfree htold.1 htold.2 havailable n
            rw [if_neg (by rw [hfree]; decide)] at hold
            rw [if_neg hm]
            refine (PointerDevices.set_same hi ?_).trans hold
            rw [PointerDevice.press_down, if_neg (by rw [hb]; cases n <;> decide)]
          · exact hpressed.pointerButton hv fun _ _ _ => rfl
    · exact hpressed.outside hv

theorem Away.release (h : Away s) (hv : s.visible = false) (hi : s.devices[i]? = some d) :
    Outside (s.releaseOn i d b) := by
  have hd := h.pressed d (List.mem_of_getElem? hi)
  have hreleased : Away (s.setDevice i (d.release b)) :=
    h.setDevice fun n => d.release_pressedOpen b n.sdl (hd n)
  have hhidden : ¬ (s.setDevice i (d.release b)).visible = true :=
    fun hvis => absurd (hv.symm.trans hvis) (by decide)
  have hmark : ∀ n, nativeButtonFromSdl b = some n → d.pressedOpen b = false := by
    intro n hn
    rw [nativeButtonFromSdl_iff.1 hn]
    exact hd n
  unfold Mixer.releaseOn
  dsimp only
  split
  · exact (hreleased.enqueue hmark).outside ((enqueue_visible _ _).trans hv)
  · split
    · unfold Mixer.sdlUp
      rw [if_neg hhidden]
      split
      · exact hreleased.outside hv
      · split
        · exact hreleased.hubButtonUp hv
        · exact hreleased.pointerButton hv fun n hn _ => hmark n hn
    · exact hreleased.outside hv

/-- An edge out of the queue. -/
theorem Away.drain (h : Away s) (hv : s.visible = false) {edge : QueuedButton}
    {queue : List QueuedButton} (hqueue : s.queue = edge :: queue) (opening : Opening)
    (hseed : edge.button = .x2 → edge.down = true → opening.available = true →
      SeedsHand s opening.reads) :
    Outside ({ s with queue := queue }.drainEdge edge opening) := by
  have hrest : Away { s with queue := queue } :=
    ⟨h.pressed, fun e he => h.queued e (by rw [hqueue]; exact List.mem_cons_of_mem _ he)⟩
  have hhidden : ¬ s.visible = true := fun hvis => absurd (hv.symm.trans hvis) (by decide)
  unfold Mixer.drainEdge
  split
  · split
    · exact Away.outside ⟨hrest.pressed, hrest.queued⟩ hv
    · exact hrest.hubButtonUp hv
  · split
    · rename_i hb
      split
      · rename_i hdown
        split
        · rename_i hstream
          exact hrest.showOverlay hv hstream opening (hseed hb hdown)
        · exact hrest.outside hv
      · exact hrest.outside hv
    · refine hrest.pointerButton hv fun n hn _ => ?_
      exact h.queued edge (by rw [hqueue]; exact List.mem_cons_self) n hn

/-! ## Devices come and go -/

/-- The compositor still has everything that is down, or the reader has it. -/
theorem MixerInv.sameHand (h : MixerInv s) {devices : PointerDevices}
    (hdown : devices.down = s.devices.down) (hgrabbed : devices.grabbed = s.devices.grabbed)
    (hpressed : s.visible = false → ∀ d ∈ devices, ∀ n : NativeInputButton,
      d.pressedOpen n.sdl = false) :
    Chorded s { s with devices := devices } [] := by
  rcases Bool.eq_false_or_eq_true s.visible with hv | hv
  · have hc := (h.shown hv).1
    have hcovered : Covered { s with devices := devices } := by
      refine ⟨hc.parted, hgrabbed.trans hc.ungrabbed, ?_, hc.reported, hc.dismiss, ?_⟩
      · rw [hdown]
        exact hc.hand
      · rw [hdown]
        exact hc.real
    exact h.sameOverlay hv hcovered
  · exact Away.chorded ⟨hpressed hv, (h.away hv).queued⟩ hv hv

theorem MixerInv.plug (h : MixerInv s) (isMouse : Bool) :
    Chorded s { s with devices := s.devices ++ [.new isMouse] } [] := by
  refine h.sameHand ?_ ?_ fun hv e he => ?_
  · funext b
    simp [PointerDevices.down, PointerDevice.down, PointerDevice.new]
  · simp [PointerDevices.grabbed, PointerDevice.new]
  · rcases List.mem_append.1 he with hold | hnew
    · exact (h.away hv).pressed e hold
    · obtain rfl := List.mem_singleton.1 hnew
      exact fun n => rfl

theorem MixerInv.unplug (h : MixerInv s) (hi : s.devices[i]? = some d)
    (hfree : d.grabbed = true ∨ d.down.isEmpty = true) :
    Chorded s (s.setDevice i d.pullOut) [] := by
  have hpulled : ∀ n : NativeInputButton, d.pullOut.pressedOpen n.sdl = false :=
    fun n => d.pullOut.pressedOpen_down n.sdl (d.pullOut_down n.sdl)
  cases hv : s.visible with
  | true =>
    have hc := (h.shown hv).1
    have hup := Buttons.isEmpty_iff.1 (hfree.resolve_left fun hgrabbed =>
      absurd ((grabbed_false hc.ungrabbed hi).symm.trans hgrabbed) (by decide))
    refine h.sameHand ?_ (PointerDevices.grabbed_set hi rfl) fun hdown =>
      absurd (hdown.symm.trans hv) (by decide)
    funext b
    exact PointerDevices.set_same hi ((d.pullOut_down b).trans (hup b).symm)
  | false => exact ((h.away hv).setDevice hpulled).chorded hv hv

theorem MixerInv.busy (h : MixerInv s) (hi : s.devices[i]? = some d) (busy : Bool) :
    Chorded s (s.setDevice i { d with busy := busy }) [] := by
  refine h.sameHand ?_ (PointerDevices.grabbed_set hi rfl) fun hv => ?_
  · funext b
    exact PointerDevices.set_same hi rfl
  · have haway : Away (s.setDevice i { d with busy := busy }) :=
      (h.away hv).setDevice fun n => (h.away hv).pressed d (List.mem_of_getElem? hi) n
    exact haway.pressed

/-- The reader runs only without the overlay. -/
theorem MixerInv.reader (h : MixerInv s) (hrunning : s.running = true) :
    s.visible = false ∧ Away s := by
  have hv : s.visible = false := by
    by_contra hvis
    have hstopped := (h.shown (Bool.eq_true_of_not_eq_false hvis)).1.parted.2.2.1
    exact absurd (hstopped.symm.trans hrunning) (by decide)
  exact ⟨hv, h.away hv⟩

/-! ## Steps -/

/-- The steps that open the overlay, and what the kernel answers there: the second
extra button of the compositor's pointer or of a grabbed mouse, and keys. -/
def Mixer.opens (s : Mixer) : MixerAction → Option (Nat → Bool)
  | .press _ b _ opening =>
    if b = .x2 ∧ s.visible = false ∧ s.mouseActive = false ∧ s.streamingVisible = true ∧
        s.devices.onPointer b = false ∧ opening.available = true then some opening.reads else none
  | .drain opening =>
    match s.queue with
    | edge :: _ =>
      if edge.button = .x2 ∧ edge.down = true ∧ opening.available = true then some opening.reads
      else none
    | [] => none
  | .showOverlay opening => if opening.available then some opening.reads else none
  | _ => none

/-- What one step does, if it opens the overlay only over a hand that the mask
starts from. -/
theorem MixerInv.step (h : MixerInv s) {a : MixerAction}
    (hseed : ∀ reads, s.opens a = some reads → SeedsHand s reads)
    (hstep : s.step a = some (s', sent)) : Chorded s s' sent := by
  cases a with
  | press i b target opening =>
    simp only [Mixer.step] at hstep
    split at hstep
    · rename_i d hi
      split at hstep
      · have heq := Option.some.inj hstep
        cases hv : s.visible with
        | true =>
          have hover := h.pressOver (b := b) hv hi target opening
          rw [heq] at hover
          exact hover
        | false =>
          have hkept := (h.away hv).press (b := b) hv hi target opening
            fun hb hm hstream hfree hpanel => hseed _ (if_pos ⟨hb, hv, hm, hstream, hfree, hpanel⟩)
          rw [heq] at hkept
          exact hkept.chorded hv
      · cases hstep
    · cases hstep
  | release i b =>
    simp only [Mixer.step] at hstep
    split at hstep
    · rename_i d hi
      split at hstep
      · have heq := Option.some.inj hstep
        cases hv : s.visible with
        | true =>
          have hover := h.releaseOver (b := b) hv hi
          rw [heq] at hover
          exact hover
        | false =>
          have hkept := (h.away hv).release (b := b) hv hi
          rw [heq] at hkept
          exact hkept.chorded hv
      · cases hstep
    · cases hstep
  | lost i b =>
    simp only [Mixer.step] at hstep
    split at hstep
    · rename_i d hi
      split at hstep
      · rename_i hlost
        simp only [Bool.and_eq_true] at hlost
        obtain ⟨rfl, rfl⟩ := Prod.mk.inj (Option.some.inj hstep)
        exact h.lost hlost.1.1 hi hlost.2
      · cases hstep
    · cases hstep
  | motion state =>
    simp only [Mixer.step] at hstep
    split at hstep
    · rename_i hstate
      rw [Bool.and_eq_true, Buttons.subset_iff, Buttons.subset_iff] at hstate
      obtain ⟨rfl, rfl⟩ := Prod.mk.inj (Option.some.inj hstep)
      cases hv : s.visible with
      | true =>
        have hc := (h.shown hv).1
        rw [hc.onPointer] at hstate
        exact hc.motion hv hstate.1 fun b hsdl hphys => hstate.2 b (by simp [hsdl, hphys])
      | false =>
        rw [Mixer.motion, if_neg (by rw [hv]; decide)]
        exact h.chorded
    · cases hstep
  | drain opening =>
    simp only [Mixer.step] at hstep
    split at hstep
    · rename_i edge queue hqueue
      split at hstep
      · have hv : s.visible = false := by
          by_contra hvis
          have hdrained := (h.shown (Bool.eq_true_of_not_eq_false hvis)).1.parted.2.2.2
          rw [hdrained] at hqueue
          cases hqueue
        have hkept := (h.away hv).drain hv hqueue opening fun hb hdown hpanel => by
          refine hseed _ ?_
          rw [Mixer.opens, hqueue]
          exact if_pos ⟨hb, hdown, hpanel⟩
        rw [Option.some.inj hstep] at hkept
        exact hkept.chorded hv
      · cases hstep
    · cases hstep
  | key closes =>
    obtain ⟨rfl, rfl⟩ := Prod.mk.inj (Option.some.inj hstep)
    cases closes with
    | true => exact h.hide
    | false => exact h.chorded
  | frame passed =>
    obtain ⟨rfl, rfl⟩ := Prod.mk.inj (Option.some.inj hstep)
    unfold Mixer.overlayFrame
    split
    · exact h.hide
    · exact h.chorded
  | rgbaFrame =>
    obtain ⟨rfl, rfl⟩ := Prod.mk.inj (Option.some.inj hstep)
    have hdropped := (h.withInput (s.dragging && !s.visible) s.inputActive s.hubOpenButtonHeld
      s.resetPending s.starts).hide
    exact ⟨hdropped.inv, hdropped.hidden, hdropped.persists, hdropped.clean⟩
  | showOverlay opening =>
    simp only [Mixer.step] at hstep
    split at hstep
    · cases hstep
    · rename_i hfree
      simp only [Bool.or_eq_true, Bool.not_eq_true', not_or, Bool.not_eq_true,
        Bool.not_eq_false] at hfree
      have hkept := (h.away hfree.1).showOverlay hfree.1 hfree.2 opening
        fun hpanel => hseed _ (if_pos hpanel)
      rw [Option.some.inj hstep] at hkept
      exact hkept.chorded hfree.1
  | completeSessionSwitch =>
    obtain ⟨rfl, rfl⟩ := Prod.mk.inj (Option.some.inj hstep)
    have hhidden := h.hide
    have hkept := hhidden.inv.flush
    exact ⟨hkept.inv.withInput _ false _ _ _, hhidden.hidden, hhidden.persists, hkept.clean⟩
  | showHub =>
    have heq := Option.some.inj hstep
    rcases h.showHub with hsame | ⟨hv, hkept⟩
    · obtain ⟨rfl, rfl⟩ := Prod.mk.inj (hsame.symm.trans heq)
      exact h.chorded
    · rw [heq] at hkept
      exact hkept.chorded hv
  | enterStreaming =>
    simp only [Mixer.step] at hstep
    split at hstep
    · cases hstep
    · rename_i hstream
      obtain ⟨rfl, rfl⟩ := Prod.mk.inj (Option.some.inj hstep)
      have hv : s.visible = false := by
        by_contra hvis
        exact hstream (h.shown (Bool.eq_true_of_not_eq_false hvis)).1.parted.1
      obtain ⟨haway, hvis, -⟩ := (h.away hv).evdevInputStart
      exact Away.chorded ⟨haway.pressed, haway.queued⟩ (hvis.trans hv) hv
  | evdevReset =>
    simp only [Mixer.step] at hstep
    split at hstep
    · obtain ⟨rfl, rfl⟩ := Prod.mk.inj (Option.some.inj hstep)
      have hkept := h.flush
      have hsame := h.chorded
      exact ⟨hkept.inv.withInput _ _ false false _, hsame.hidden, hsame.persists, hkept.clean⟩
    · cases hstep
  | arm =>
    obtain ⟨rfl, rfl⟩ := Prod.mk.inj (Option.some.inj hstep)
    have hsame := h.chorded
    exact ⟨h.withInput s.dragging _ s.hubOpenButtonHeld s.resetPending s.starts, hsame.hidden,
      hsame.persists, hsame.clean⟩
  | plug isMouse =>
    obtain ⟨rfl, rfl⟩ := Prod.mk.inj (Option.some.inj hstep)
    exact h.plug isMouse
  | unplug i =>
    simp only [Mixer.step] at hstep
    split at hstep
    · rename_i d hi
      split at hstep
      · rename_i hfree
        rw [Bool.or_eq_true] at hfree
        obtain ⟨rfl, rfl⟩ := Prod.mk.inj (Option.some.inj hstep)
        exact h.unplug hi hfree
      · cases hstep
    · cases hstep
  | busy i busy =>
    simp only [Mixer.step] at hstep
    split at hstep
    · rename_i d hi
      obtain ⟨rfl, rfl⟩ := Prod.mk.inj (Option.some.inj hstep)
      exact h.busy hi busy
    · cases hstep
  | scan =>
    simp only [Mixer.step] at hstep
    split at hstep
    · rename_i hrunning
      obtain ⟨rfl, rfl⟩ := Prod.mk.inj (Option.some.inj hstep)
      obtain ⟨hv, haway⟩ := h.reader hrunning
      exact Away.chorded ⟨grab_pressed haway.pressed fun d => rfl, haway.queued⟩ hv hv
    · cases hstep
  | removeDevice i =>
    simp only [Mixer.step] at hstep
    split at hstep
    · rename_i d hi
      split at hstep
      · rename_i hgone
        rw [Bool.and_eq_true] at hgone
        obtain ⟨rfl, rfl⟩ := Prod.mk.inj (Option.some.inj hstep)
        obtain ⟨hv, haway⟩ := h.reader hgone.1
        have hset : Away (s.setDevice i d.ungrab) :=
          haway.setDevice (haway.pressed d (List.mem_of_getElem? hi))
        exact Away.chorded ⟨hset.pressed, fun edge hedge => (by cases hedge)⟩ hv hv
      · cases hstep
    · cases hstep
  | overflow =>
    simp only [Mixer.step] at hstep
    split at hstep
    · rename_i hrunning
      obtain ⟨rfl, rfl⟩ := Prod.mk.inj (Option.some.inj hstep)
      obtain ⟨hv, haway⟩ := h.reader hrunning
      exact Away.chorded ⟨haway.pressed, fun edge hedge => (by cases hedge)⟩ hv hv
    · cases hstep
  | giveUp =>
    simp only [Mixer.step] at hstep
    split at hstep
    · rename_i hrunning
      obtain ⟨rfl, rfl⟩ := Prod.mk.inj (Option.some.inj hstep)
      obtain ⟨hv, haway⟩ := h.reader hrunning
      exact Away.chorded ⟨grab_pressed haway.pressed fun d => rfl,
        fun edge hedge => (by cases hedge)⟩ hv hv
    · cases hstep
  | starts works =>
    obtain ⟨rfl, rfl⟩ := Prod.mk.inj (Option.some.inj hstep)
    have hsame := h.chorded
    exact ⟨h.withInput s.dragging s.inputActive s.hubOpenButtonHeld s.resetPending works,
      hsame.hidden, hsame.persists, hsame.clean⟩

/-! ## Requests -/

/-- The steps that ask an overlay to close: keys, frames, timeouts, switches, a press
outside, and an extra button that is not pressed in the middle of a drag. -/
def Mixer.asks (s : Mixer) : MixerAction → Bool
  | .press _ b target _ =>
    !s.devices.onPointer b && if b = .x1 ∨ b = .x2 then !s.dragging else decide (target = .outside)
  | .key closes => closes
  | .frame passed => passed && !s.dragging && s.dismissButton.isNone
  | .rgbaFrame => true
  | .completeSessionSwitch => true
  | _ => false

theorem hide_asked (s : Mixer) : s.hide.visible = false ∨ Requested s.hide := by
  have hclosed : s.closed.visible = false := by
    unfold Mixer.closed
    split
    · rcases evdevInputStart_cases s.lowered with heq | heq
      · rw [heq]
        rfl
      · rw [heq]
        rfl
    · rfl
  unfold Mixer.hide
  split
  · split
    · exact .inr (.inr rfl)
    · exact .inl hclosed
  · rename_i hdown
    exact .inl (Bool.eq_false_iff.2 hdown)

/-- A press that asks takes the close upon itself, if no other has it. -/
theorem overlayDown_asked {target : PressTarget}
    (hasks : (if b = .x1 ∨ b = .x2 then !s.dragging else decide (target = .outside)) = true) :
    (s.overlayDown b target).dismissButton ≠ none := by
  by_cases hd : s.dismissButton = none
  · unfold Mixer.overlayDown
    dsimp only
    split
    · rename_i hextra
      rw [if_pos hextra, Bool.not_eq_true'] at hasks
      rw [if_pos ⟨hd, hasks⟩]
      exact Option.some_ne_none b
    · rename_i hextra
      rw [if_neg hextra, decide_eq_true_iff] at hasks
      rw [hasks]
      exact Option.some_ne_none b
  · rw [(overlayDown_kept s b target).2.2.2.2.2 hd]
    exact hd

/-- A request leaves the overlay down, or the request behind. -/
theorem MixerInv.asks_step (h : MixerInv s) (hv : s.visible = true) {a : MixerAction}
    (hasks : s.asks a = true) (hstep : s.step a = some (s', sent)) :
    s'.visible = false ∨ Requested s' := by
  cases a with
  | press i b target opening =>
    have hc := (h.shown hv).1
    simp only [Mixer.step] at hstep
    split at hstep
    · rename_i d hi
      split at hstep
      · simp only [Mixer.asks, Bool.and_eq_true] at hasks
        have hshow : (s.setDevice i (d.press b s.visible)).visible = true := hv
        have hdown : s.pressOn i d b target opening =
            ((s.setDevice i (d.press b s.visible)).overlayDown b target, []) := by
          unfold Mixer.pressOn
          dsimp only
          rw [grabbed_false hc.ungrabbed hi, if_neg Bool.false_ne_true, hc.parted.1,
            Bool.true_and, if_pos hasks.1, Mixer.sdlDown, if_pos hshow]
        rw [hdown] at hstep
        obtain ⟨rfl, rfl⟩ := Prod.mk.inj (Option.some.inj hstep)
        exact .inr (.inl (overlayDown_asked hasks.2))
      · cases hstep
    · cases hstep
  | key closes =>
    obtain ⟨rfl, rfl⟩ := Prod.mk.inj (Option.some.inj hstep)
    rw [if_pos (show closes = true from hasks)]
    exact hide_asked s
  | frame passed =>
    obtain ⟨rfl, rfl⟩ := Prod.mk.inj (Option.some.inj hstep)
    simp only [Mixer.asks, Bool.and_eq_true, Bool.not_eq_true', Option.isNone_iff_eq_none] at hasks
    rw [Mixer.overlayFrame, if_pos ⟨hv, hasks.1.2, hasks.2, hasks.1.1⟩]
    exact hide_asked s
  | rgbaFrame =>
    obtain ⟨rfl, rfl⟩ := Prod.mk.inj (Option.some.inj hstep)
    exact hide_asked _
  | completeSessionSwitch =>
    obtain ⟨rfl, rfl⟩ := Prod.mk.inj (Option.some.inj hstep)
    exact hide_asked s
  | _ => cases hasks

/-- What an overlay waits for is in its mask. -/
theorem MixerInv.waits (h : MixerInv s) (hv : s.visible = true) (hreq : Requested s) :
    ∃ b, s.devices.down b = true ∨ s.sdlButtons b = true := by
  obtain ⟨hc, hpending⟩ := h.shown hv
  rcases hreq with hd | hp
  · obtain ⟨b, hb⟩ := Option.ne_none_iff_exists'.1 hd
    exact ⟨b, hc.real b (hc.dismiss b hb).1⟩
  · obtain ⟨b, hb⟩ := hpending hp
    exact ⟨b, hc.real b hb⟩

end Lgnome.Input
