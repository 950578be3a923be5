import Lgnome.Foreground.Ticks

/-!
# Navigation

The buttons of the remote: the HUB, the configurator of a slot without a session,
and the switch to one with a session, at once or deferred.
-/
namespace Lgnome.Foreground

open Lgnome.Native Lgnome.Native.App
open Lgnome.Transition (Prog)

variable {scan : Scanner} {m c : Prop} {s : LoopState} {target : SlotIndex}

theorem showHub_ends (h : Steady m c s) : Ends showHub (fun _ t => Steady m c t) s := by
  refine Ends.store fun t ht => ?_
  have hsteady := h.meanwhile ht
  split
  · exact hsteady
  · exact hsteady.display ⟨rfl⟩ (fun hnone => nomatch hnone) (fun hv => nomatch hv)
      fun hv => nomatch hv

/-! ## The configurator -/

theorem captureHubReturn_eq (a : App) (hasFrame : Bool) :
    LoopState.captureHubReturn a hasFrame =
      { a with
        rgba := (LoopState.captureHubReturn a hasFrame).rgba
        hubReturnRgba := (LoopState.captureHubReturn a hasFrame).hubReturnRgba } := by
  unfold LoopState.captureHubReturn
  split
  · rfl
  · split
    · rfl
    · split <;> rfl

/-- A slot without a session takes the screen, and the old one is not yet silenced. -/
structure Opening (m c : Prop) (old target : SlotIndex) (w : LoopState) : Prop
    extends Aimed m c w where
  active : w.app.activeIndex = target
  others : ∀ j, j ≠ old → TidySlot w j
  leaving : Leaving (w.slot old) (w.sentSuppress old) w.wipedReady
  seen : OnScreen (w.slot target)

theorem opening_published {old : SlotIndex} {f : App → App} (h : Aimed m c s)
    (hf : Published target s.app (f s.pauseCapture.app))
    (hdeferred : (f s.pauseCapture.app).pendingSwitchTarget = none)
    (hsessions : (f s.pauseCapture.app).sessions = s.app.sessions)
    (hothers : ∀ j, j ≠ old → TidySlot s j)
    (hleaving : Leaving (s.slot old) (s.sentSuppress old) s.wipedReady)
    (hseen : OnScreen (s.slot target)) :
    Opening m c old target (s.pauseCapture.onApp f).duckRetarget := by
  have hslot : ∀ j, (s.pauseCapture.onApp f).duckRetarget.slot j = s.slot j := congrFun hsessions
  refine ⟨h.published hf hdeferred fun j => ?_, hf.activeIndex, fun j hj => ?_, ?_, ?_⟩
  · rw [hsessions]
    exact ⟨rfl, rfl⟩
  · rw [TidySlot, hslot]
    exact hothers j hj
  · rw [hslot]
    exact hleaving
  · rw [hslot]
    exact hseen

theorem showForm_opening (target : SlotIndex) (h : Steady m c s)
    (hdeferred : s.app.pendingSwitchTarget = none)
    (hoff : (s.slot target).rdp = none) (answer : Answer) :
    Opening m c s.app.activeIndex target (s.showForm target answer) := by
  have heq := captureHubReturn_eq s.pauseCapture.app answer.hasFrame
  have hgood := h.good s.app.activeIndex
  refine opening_published h.toAimed ⟨?_⟩ ?_ ?_ (fun j _ => (h.good j).tidy)
    (hgood.tidy.leaving (hgood.onScreen rfl)) ((h.good target).tidy.onScreen hoff)
  · simp only
    rw [heq]
    rfl
  · have hfield := congrArg App.pendingSwitchTarget heq
    exact hfield.trans hdeferred
  · have hfield := congrArg App.sessions heq
    exact hfield

/-- The old slot is in the background, and the input follows at last. -/
theorem Opening.closed {old : SlotIndex} {t : LoopState} (h : Opening m c old target s)
    (hb : Beside old s t) (hold : TidySlot t old) (hne : old ≠ target) :
    Steady m c (t.onApp fun a =>
      { a with
        inputSession := (t.slot target).rdp
        switchDeadlineTicks := 0
        streamingVisible := false }) := by
  have hactive : t.app.activeIndex = target := hb.ui.activeIndex.trans h.active
  have haimed := (h.toAimed.beside hb).wired (t.slot target).rdp
  constructor
  · refine ⟨haimed.display ⟨rfl⟩ haimed.deferred (fun hv => nomatch hv), ?_, fun hv => nomatch hv⟩
    show (t.slot target).rdp = (t.slot t.app.activeIndex).rdp
    rw [hactive]
  · intro j
    have htidy : TidySlot t j := by
      by_cases hj : j = old
      · subst hj
        exact hold
      · exact tidySlot_beside (h.others j hj) hb hj
    refine ⟨htidy, fun ha => ?_⟩
    obtain rfl : target = j := hactive.symm.trans ha
    exact h.seen.moved (hb.slots target hne.symm)

theorem showSlotConfigurator_ends (h : Steady m c s) (hoff : (s.slot target).rdp = none) :
    Ends (showSlotConfigurator target) (fun _ t => Steady m c t) s := by
  refine Ends.storeThen fun t ht => ?_
  have hsteady := h.meanwhile ht
  have hcleared : Steady m c (t.onApp fun a =>
      { a with pendingSwitchTarget := none, hubConnectTarget := none }) :=
    hsteady.display ⟨rfl⟩ (fun hnone => nomatch hnone) hsteady.screens hsteady.watched
  refine Ends.loadThen fun u hu => ?_
  split
  · refine Ends.store fun v hv => ?_
    have hlater := hcleared.meanwhile (hu.trans hv)
    exact hlater.display ⟨rfl⟩ hlater.deferred (fun hv => nomatch hv) fun hv => nomatch hv
  rename_i hne
  refine Ends.actThen fun v hv answer => ?_
  have htv := hu.trans hv
  have hopening := showForm_opening target (hcleared.meanwhile htv)
    htv.app.ui.pendingSwitchTarget ((htv.slot target).rdp.trans ((ht.slot target).rdp.trans hoff))
    answer
  rw [hv.app.ui.activeIndex] at hopening
  refine Ends.andThen (backgroundSlot_ends hopening.leaving
    (by rw [hopening.active]; exact Ne.symm hne) hopening.interactive) fun _ w hw => ?_
  refine Ends.store fun x hx => ?_
  exact hopening.closed (hw.1.meanwhile hx) (tidySlot_meanwhile hw.2 hx) hne

/-! ## A press of a button -/

/-- Only a slot in the background has to be waited for. -/
theorem readyNow_ends (h : Steady m c s) :
    Ends (readyNow target) (fun ready t => Meanwhile s t ∧
      (ready = false → s.app.activeIndex ≠ target)) s := by
  have hseen : ∀ t, Meanwhile s t → s.app.activeIndex = target → OnScreen (t.slot target) :=
    fun t ht ha => ((h.meanwhile ht).good target).onScreen (ht.app.ui.activeIndex.trans ha)
  refine Ends.loadThen fun t ht => ?_
  split
  · exact ⟨ht, fun hr => nomatch hr⟩
  refine Ends.loadThen fun u hu => ?_
  have hsu := ht.trans hu
  split
  · rename_i hfilling
    refine ⟨hsu, fun _ ha => ?_⟩
    rw [(hseen u hsu ha).pending] at hfilling
    cases hfilling
  refine Ends.loadThen fun v hv => ?_
  have hsv := hsu.trans hv
  split
  swap
  · exact ⟨hsv, fun hr => nomatch hr⟩
  rename_i hsuppressed
  have haway : s.app.activeIndex ≠ target := by
    intro ha
    rw [(hseen v hsv ha).suppressed] at hsuppressed
    cases hsuppressed
  refine Ends.loadThen fun w hw => ?_
  split
  · exact Ends.act fun x hx _ => ⟨(hsv.trans hw).trans hx, fun _ => haway⟩
  · exact ⟨hsv.trans hw, fun _ => haway⟩

theorem deferSwitch_ends (h : Steady m c s) (haway : s.app.activeIndex ≠ target)
    (hrdp : (s.slot target).rdp.isSome) :
    Ends (deferSwitch scan target) (fun _ t => Steady m c t) s := by
  refine Ends.actThen fun t ht answer => ?_
  have hsteady := h.meanwhile ht
  have haway' : t.app.activeIndex ≠ target := by rw [ht.app.ui.activeIndex]; exact haway
  have hasked : Steady m c ((t.onApp fun a =>
      { a with
        pendingSwitchTarget := some target
        pendingSwitchDeadlineTicks := answer.now + pendingSwitchTimeoutMs }).modifySlot target
          fun s => { s with snapshotRetryUsed := false }) := by
    refine Steady.noted ?_ fun _ => ⟨_, _, _, rfl⟩
    exact hsteady.display ⟨rfl⟩ (fun heq => haway' (Option.some.inj heq).symm) hsteady.screens
      hsteady.watched
  refine Ends.loadThen fun u hu => ?_
  have hlater := hasked.meanwhile hu
  split
  · exact hlater
  · refine preparePendingSwitch_ends (hlater.behind ?_) ?_ (.inl (hlater.good target).tidy)
    · rw [hu.app.ui.activeIndex]
      exact haway'
    · rw [(hu.slot target).rdp, LoopState.modifySlot_same]
      show (t.slot target).rdp.isSome
      rw [(ht.slot target).rdp]
      exact hrdp

theorem isLiveStreamTarget_rdp {slot : Slot} (h : slot.isLiveStreamTarget) : slot.rdp.isSome := by
  simp only [Slot.isLiveStreamTarget, Bool.and_eq_true] at h
  exact h.1.1

theorem requestSessionSwitch_ends (h : Steady m c s) :
    Ends (requestSessionSwitch scan target) (fun _ t => Steady m c t) s := by
  refine Ends.loadThen fun t ht => ?_
  have hsteady := h.meanwhile ht
  split
  · refine Ends.act fun u hu answer => ?_
    have hlater := hsteady.meanwhile hu
    split
    · exact hideMixerOverlay_steady hlater answer
    · exact hlater
  refine Ends.loadThen fun u hu => ?_
  split
  · refine Ends.store fun v hv => ?_
    have hlater := hsteady.meanwhile (hu.trans hv)
    exact hlater.display ⟨rfl⟩ (fun hnone => nomatch hnone) hlater.screens hlater.watched
  refine Ends.loadThen fun v hv => ?_
  split
  · rename_i hlive
    refine Ends.storeThen fun w hw => ?_
    have hlater := hsteady.meanwhile ((hu.trans hv).trans hw)
    have hanswered : Steady m c (w.onApp fun a =>
        { a with hubVisible := false, hubConnectTarget := none }) :=
      hlater.display ⟨rfl⟩ hlater.deferred (fun _ => rfl) hlater.watched
    refine Ends.loadThen fun x hx => ?_
    have hpressed := hanswered.meanwhile hx
    split
    · exact Ends.act fun y hy answer => showMixerOverlay_steady (hpressed.meanwhile hy) answer
    · exact hpressed
    · refine Ends.andThen (readyNow_ends hpressed) fun ready y hy => ?_
      have hready := hpressed.meanwhile hy.1
      split
      · exact switchAtOnce_ends hready
      · rename_i hwaits
        refine deferSwitch_ends hready ?_ ?_
        · rw [hy.1.app.ui.activeIndex]
          exact hy.2 (Bool.eq_false_iff.mpr hwaits)
        · have hkept : (y.slot target).rdp = (w.slot target).rdp :=
            ((hx.trans hy.1).slot target).rdp
          rw [hkept, (hw.slot target).rdp]
          exact isLiveStreamTarget_rdp hlive
  · refine Ends.loadThen fun w hw => ?_
    have hlater := hsteady.meanwhile ((hu.trans hv).trans hw)
    split
    · exact hlater
    · rename_i hoff
      exact showSlotConfigurator_ends hlater (by simpa using hoff)

/-! ## Events -/

theorem ringSearch_ends (candidates : List SlotIndex) (h : Steady m c s) :
    Ends (ringSearch scan candidates) (fun _ t => Steady m c t) s := by
  induction candidates generalizing s with
  | nil => exact h
  | cons candidate rest ih =>
    refine Ends.loadThen fun t ht => ?_
    split
    · exact requestSessionSwitch_ends (h.meanwhile ht)
    · exact ih (h.meanwhile ht)

theorem handleEvent_ends (event : SdlEvent) (h : Steady m c s) :
    Ends (handleEvent scan event) (fun _ t => Steady m c t) s := by
  cases event with
  | colourKey target => exact requestSessionSwitch_ends h
  | channelKey up => exact Ends.loadThen fun t ht => ringSearch_ends _ (h.meanwhile ht)
  | confirmKey => exact showHub_ends h
  | mixerShow =>
    refine Ends.act fun t ht answer => ?_
    have hsteady := h.meanwhile ht
    split
    · exact showMixerOverlay_steady hsteady answer
    · exact hsteady
  | mixerHide => exact Ends.act fun t ht answer => hideMixerOverlay_steady (h.meanwhile ht) answer
  | duckToggle => exact Ends.store fun t ht => (h.meanwhile ht).duckRetarget
  | quit =>
    refine Ends.store fun t ht => ?_
    have hsteady := h.meanwhile ht
    exact hsteady.display ⟨rfl⟩ hsteady.deferred hsteady.screens hsteady.watched

theorem handleEvents_ends (events : List SdlEvent) (h : Steady m c s) :
    Ends (handleEvents scan events) (fun _ t => Steady m c t) s := by
  induction events generalizing s with
  | nil => exact h
  | cons event rest ih => exact Ends.andThen (handleEvent_ends event h) fun _ _ ht => ih ht

end Lgnome.Foreground
