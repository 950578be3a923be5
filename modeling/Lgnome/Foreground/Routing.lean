import Lgnome.Foreground.Sessions

/-!
# What keeps the invariant

Work on a background slot, a change of what is shown, a reconnect of the slot on
screen and the end of a session each keep what they do not speak of.
-/
namespace Lgnome.Foreground

open Lgnome.Native Lgnome.Native.App

variable {m c : Prop} {s t : LoopState} {i j : SlotIndex}

/-! ## Slots -/

theorem tidySlot_meanwhile (h : TidySlot s i) (hm : Meanwhile s t) : TidySlot t i := by
  rw [TidySlot, hm.sentSuppress, hm.wipedReady]
  exact h.moved (hm.slot i)

theorem tidySlot_modifySlot {f : Slot → Slot}
    (h : Tidy (f (s.slot i)) (s.sentSuppress i) s.wipedReady) : TidySlot (s.modifySlot i f) i := by
  rw [TidySlot, LoopState.modifySlot_same]
  exact h

theorem tidySlot_beside (h : TidySlot s j) (hb : Beside i s t) (hj : j ≠ i) : TidySlot t j := by
  rw [TidySlot, hb.sent j hj, hb.wipedReady]
  exact h.moved (hb.slots j hj)

theorem Good.beside (h : Good s j) (hb : Beside i s t) (hj : j ≠ i) : Good t j where
  tidy := tidySlot_beside h.tidy hb hj
  onScreen ha := (h.onScreen (hb.ui.activeIndex ▸ ha)).moved (hb.slots j hj)

/-- Another slot's stop or start. -/
theorem tidySlot_onlySlot (h : TidySlot s j) (ho : OnlySlot i s t) (hj : j ≠ i) :
    TidySlot t j := by
  rw [TidySlot, ho.slots j hj, ho.sent j hj, ho.wipedReady]
  exact h

theorem OnlySlot.activeIndex (h : OnlySlot i s t) : t.app.activeIndex = s.app.activeIndex :=
  h.ui.activeIndex

theorem Good.onlySlot (h : Good s j) (ho : OnlySlot i s t) (hj : j ≠ i) : Good t j where
  tidy := tidySlot_onlySlot h.tidy ho hj
  onScreen ha := by
    rw [ho.slots j hj]
    exact h.onScreen (ho.activeIndex.symm.trans ha)

theorem Ended.good (h : Ended (s.slot i)) : Good s i := ⟨h.tidy, fun _ => h.onScreen⟩

/-! ## Beside one slot -/

theorem Aimed.beside (h : Aimed m c s) (hb : Beside i s t) : Aimed m c t where
  interactive := by rw [hb.ui.interactiveUi]; exact h.interactive
  duck := by rw [hb.ui.duckForeground, hb.ui.activeIndex]; exact h.duck
  deferred := by rw [hb.ui.pendingSwitchTarget, hb.ui.activeIndex]; exact h.deferred
  screens hv := by
    rw [hb.ui.hubVisible]
    exact h.screens (hb.ui.streamingVisible ▸ hv)
  supervised := by rw [hb.supervised, hb.stranded]; exact h.supervised
  handles := hb.handles h.handles
  media hmedia := hb.media (h.media hmedia)
  capture hcapture foreground hf := by
    rw [hb.ui.activeIndex]
    exact h.capture hcapture foreground (hb.ui.captureForeground ▸ hf)

theorem Routed.beside (h : Routed m c s) (hb : Beside i s t)
    (hactive : s.app.activeIndex = i → (t.slot i).rdp = (s.slot i).rdp ∧
      ((s.slot i).sessionFailed → (t.slot i).sessionFailed)) : Routed m c t := by
  have hslot : (t.slot s.app.activeIndex).rdp = (s.slot s.app.activeIndex).rdp ∧
      ((s.slot s.app.activeIndex).sessionFailed → (t.slot s.app.activeIndex).sessionFailed) := by
    by_cases hi : s.app.activeIndex = i
    · rw [hi]
      exact hactive hi
    · have hmoved := hb.slots _ hi
      exact ⟨hmoved.rdp, hmoved.failed⟩
  refine ⟨h.toAimed.beside hb, ?_, fun hv => ?_⟩
  · rw [hb.ui.inputSession, h.input]
    unfold activeSlot
    rw [hb.ui.activeIndex]
    exact hslot.1.symm
  · rw [hb.stranded]
    unfold activeSlot
    rw [hb.ui.activeIndex]
    refine (h.watched (hb.ui.streamingVisible ▸ hv)).imp_right fun hseen => ?_
    refine hseen.imp (fun hr => ?_) hslot.2
    rw [show (t.app.sessions _).rdp = _ from hslot.1]
    exact hr

/-- The screen and the slots beside one in the background. -/
structure Behind (m c : Prop) (i : SlotIndex) (w : LoopState) : Prop extends Routed m c w where
  away : w.app.activeIndex ≠ i
  others : ∀ j, j ≠ i → Good w j

theorem Steady.behind (h : Steady m c s) (hi : s.app.activeIndex ≠ i) : Behind m c i s :=
  ⟨h.toRouted, hi, fun j _ => h.good j⟩

theorem Behind.beside (h : Behind m c i s) (hb : Beside i s t) : Behind m c i t where
  toRouted := h.toRouted.beside hb fun ha => absurd ha h.away
  away := by rw [hb.ui.activeIndex]; exact h.away
  others j hj := (h.others j hj).beside hb hj

theorem Behind.meanwhile (h : Behind m c i s) (hm : Meanwhile s t) : Behind m c i t :=
  h.beside (.of_meanwhile i hm)

theorem Behind.steady (h : Behind m c i s) (ht : TidySlot s i) : Steady m c s where
  toRouted := h.toRouted
  good j := by
    by_cases hj : j = i
    · subst hj
      exact ⟨ht, fun ha => absurd ha h.away⟩
    · exact h.others j hj

/-- A cache may be wiped in public once that is on record. -/
theorem Behind.wipe (h : Behind m c i s) {b : Bool} (hb : s.wipedReady → b) :
    Behind m c i { s with wipedReady := b } where
  toAimed := ⟨h.interactive, h.duck, h.deferred, h.screens, h.supervised,
    h.handles.kept rfl fun _ => rfl, h.media, h.capture⟩
  input := h.input
  watched := h.watched
  away := h.away
  others j hj := ⟨(h.others j hj).tidy.wipe hb, (h.others j hj).onScreen⟩

/-- All but that the session on screen is there to be seen. -/
structure Unwatched (m c : Prop) (w : LoopState) : Prop extends Aimed m c w where
  input : w.app.inputSession = w.app.activeSlot.rdp
  good : ∀ i, Good w i

theorem Steady.unwatched (h : Steady m c s) : Unwatched m c s := ⟨h.toAimed, h.input, h.good⟩

theorem Unwatched.steady (h : Unwatched m c s) (hw : Watched s.app s.stranded) : Steady m c s :=
  ⟨⟨h.toAimed, h.input, hw⟩, h.good⟩

theorem Unwatched.meanwhile (h : Unwatched m c s) (hm : Meanwhile s t) : Unwatched m c t where
  toAimed := h.toAimed.meanwhile hm
  input := by
    unfold activeSlot
    rw [hm.app.ui.inputSession, hm.app.ui.activeIndex, (hm.app.slots _).rdp]
    exact h.input
  good i := (h.good i).meanwhile hm

/-- A change of one slot that its own flags do not speak of. -/
theorem Unwatched.onSlot (h : Unwatched m c s) (hb : Beside i s t)
    (hrdp : (t.slot i).rdp = (s.slot i).rdp) (hgood : Good t i) : Unwatched m c t where
  toAimed := h.toAimed.beside hb
  input := by
    rw [hb.ui.inputSession, h.input]
    unfold activeSlot
    rw [hb.ui.activeIndex]
    by_cases ha : s.app.activeIndex = i
    · rw [ha]
      exact hrdp.symm
    · exact (hb.slots _ ha).rdp.symm
  good j := by
    by_cases hj : j = i
    · subst hj
      exact hgood
    · exact (h.good j).beside hb hj

/-- What a slot remembers for its next switch bears on nothing. -/
theorem Unwatched.noted (h : Unwatched m c s) {f : Slot → Slot}
    (hf : ∀ slot, ∃ refreshIneffective snapshotRetryUsed snapshotDeadlineTicks, f slot =
      { slot with refreshIneffective, snapshotRetryUsed, snapshotDeadlineTicks }) :
    Unwatched m c (s.modifySlot i f) := by
  obtain ⟨_, _, _, hslot⟩ := hf (s.slot i)
  refine h.onSlot (.modifySlot s i (by rw [hslot]) (by rw [hslot])) ?_ ⟨?_, fun ha => ?_⟩
  · rw [LoopState.modifySlot_same, hslot]
  · have htidy := (h.good i).tidy
    refine tidySlot_modifySlot ?_
    rw [hslot]
    exact ⟨htidy.pending, htidy.armed, htidy.ready, htidy.commanded, htidy.offline⟩
  · have hseen := (h.good i).onScreen ha
    rw [LoopState.modifySlot_same, hslot]
    exact ⟨hseen.suppressed, hseen.pending, hseen.armed⟩

theorem Steady.noted (h : Steady m c s) {f : Slot → Slot}
    (hf : ∀ slot, ∃ refreshIneffective snapshotRetryUsed snapshotDeadlineTicks, f slot =
      { slot with refreshIneffective, snapshotRetryUsed, snapshotDeadlineTicks }) :
    Steady m c (s.modifySlot i f) := by
  refine (h.unwatched.noted hf).steady fun hv => ?_
  have hsession : ((s.modifySlot i f).slot s.app.activeIndex).rdp = s.app.activeSlot.rdp ∧
      ((s.modifySlot i f).slot s.app.activeIndex).sessionFailed =
        s.app.activeSlot.sessionFailed := by
    by_cases ha : s.app.activeIndex = i
    · obtain ⟨_, _, _, hslot⟩ := hf (s.slot i)
      unfold activeSlot
      rw [ha, LoopState.modifySlot_same, hslot]
      exact ⟨rfl, rfl⟩
    · rw [LoopState.modifySlot_other _ _ ha]
      exact ⟨rfl, rfl⟩
  have hseen := h.watched hv
  rw [← hsession.1, ← hsession.2] at hseen
  exact hseen

/-! ## What is shown -/

/-- A change of what is shown and of what is asked for. -/
structure Display (a b : App) : Prop where
  eq : b =
    { a with
      running := b.running
      streamingVisible := b.streamingVisible
      hubVisible := b.hubVisible
      mixerOverlayVisible := b.mixerOverlayVisible
      hubReturnSlot := b.hubReturnSlot
      hubConnectTarget := b.hubConnectTarget
      pendingSwitchTarget := b.pendingSwitchTarget
      pendingSwitchDeadlineTicks := b.pendingSwitchDeadlineTicks
      switchDeadlineTicks := b.switchDeadlineTicks
      switchBaselineFrames := b.switchBaselineFrames
      switchReconnectUsed := b.switchReconnectUsed
      videoRefreshNeeded := b.videoRefreshNeeded
      rgba := b.rgba
      hubReturnRgba := b.hubReturnRgba }

section Display

variable {b : App}

theorem Display.sessions {a : App} (h : Display a b) : b.sessions = a.sessions := by
  have hfield := congrArg App.sessions h.eq
  exact hfield

theorem Display.activeIndex {a : App} (h : Display a b) : b.activeIndex = a.activeIndex := by
  have hfield := congrArg App.activeIndex h.eq
  exact hfield

theorem Display.captureForeground {a : App} (h : Display a b) :
    b.captureForeground = a.captureForeground := by
  have hfield := congrArg App.captureForeground h.eq
  exact hfield

theorem Display.media {a : App} (h : Display a b) : b.media = a.media := by
  have hfield := congrArg App.media h.eq
  exact hfield

theorem Good.display (h : Good s i) (hb : Display s.app b) : Good { s with app := b } i := by
  have hslot : ({ s with app := b } : LoopState).slot i = s.slot i := congrFun hb.sessions i
  constructor
  · rw [hslot]
    exact h.tidy
  · intro ha
    rw [hslot]
    exact h.onScreen (hb.activeIndex.symm.trans ha)

theorem Aimed.display (h : Aimed m c s) (hb : Display s.app b)
    (htarget : b.pendingSwitchTarget ≠ some s.app.activeIndex)
    (hscreens : b.streamingVisible → b.hubVisible = false) : Aimed m c { s with app := b } where
  interactive := by
    have hfield := congrArg App.interactiveUi hb.eq
    exact hfield.trans h.interactive
  duck := by
    have hfield := congrArg App.duckForeground hb.eq
    exact hfield.trans (h.duck.trans hb.activeIndex.symm)
  deferred := by
    show b.pendingSwitchTarget ≠ some b.activeIndex
    rw [hb.activeIndex]
    exact htarget
  screens := hscreens
  supervised := h.supervised
  handles := h.handles.kept rfl fun j => by
    rw [show ({ s with app := b } : LoopState).slot j = s.slot j from congrFun hb.sessions j]
  media hmedia hopen := by
    obtain ⟨j, hj⟩ := h.media hmedia (hb.media.symm.trans hopen)
    refine ⟨j, ?_⟩
    rw [show ({ s with app := b } : LoopState).slot j = s.slot j from congrFun hb.sessions j]
    exact hj
  capture hcapture foreground hf := by
    show _ = some b.activeIndex
    rw [hb.activeIndex]
    exact h.capture hcapture foreground (hb.captureForeground.symm.trans hf)

theorem Steady.display (h : Steady m c s) (hb : Display s.app b)
    (htarget : b.pendingSwitchTarget ≠ some s.app.activeIndex)
    (hscreens : b.streamingVisible → b.hubVisible = false)
    (hwatched : b.streamingVisible →
      s.stranded ∨ s.app.activeSlot.rdp.isSome ∨ s.app.activeSlot.sessionFailed) :
    Steady m c { s with app := b } where
  toAimed := h.toAimed.display hb htarget hscreens
  input := by
    have hfield := congrArg App.inputSession hb.eq
    show b.inputSession = (b.sessions b.activeIndex).rdp
    rw [hb.sessions, hb.activeIndex]
    exact hfield.trans h.input
  watched := by
    show Watched b s.stranded
    unfold Watched activeSlot
    rw [hb.sessions, hb.activeIndex]
    exact hwatched
  good i := (h.good i).display hb

theorem hideMixerOverlay_steady (h : Steady m c s) (answer : Answer) :
    Steady m c (s.hideMixerOverlay answer) :=
  h.display ⟨rfl⟩ h.deferred h.screens h.watched

theorem showMixerOverlay_steady (h : Steady m c s) (answer : Answer) :
    Steady m c (s.showMixerOverlay answer) := by
  unfold LoopState.showMixerOverlay
  split
  · exact h
  · exact h.display ⟨rfl⟩ h.deferred h.screens h.watched

end Display

/-- The capture is put behind the slot on screen. -/
theorem Steady.followActiveSlot {c' : Prop} (h : Steady m c s) :
    Steady m c' s.followActiveSlot where
  interactive := h.interactive
  duck := h.duck
  deferred := h.deferred
  screens := h.screens
  supervised := h.supervised
  handles := h.handles.kept rfl fun _ => rfl
  media := h.media
  capture _ foreground hmanaged := by
    obtain ⟨_, -, rfl⟩ := Option.map_eq_some_iff.mp hmanaged
    rfl
  input := h.input
  watched := h.watched
  good i := ⟨(h.good i).tidy, (h.good i).onScreen⟩

theorem Steady.duckRetarget {c' : Prop} (h : Steady m c s) : Steady m c' s.duckRetarget := by
  refine Steady.followActiveSlot (m := m) (c := c) ?_
  exact
    { interactive := h.interactive, duck := rfl, deferred := h.deferred, screens := h.screens
      supervised := h.supervised, handles := h.handles.kept rfl fun _ => rfl, media := h.media
      capture := h.capture, input := h.input, watched := h.watched
      good := fun i => ⟨(h.good i).tidy, (h.good i).onScreen⟩ }

/-! ## The slot on screen reconnects -/

theorem Aimed.onlySlot {m' : Prop} (h : Aimed m c s) (ho : OnlySlot i s t)
    (hhandles : Handles t) (hmedia : m' → MediaHeld t) : Aimed m' c t where
  interactive := by
    have hui := ho.ui.interactiveUi
    exact hui.trans h.interactive
  duck := by
    have hui := ho.ui.duckForeground
    exact hui.trans (h.duck.trans ho.activeIndex.symm)
  deferred := by
    have hui := ho.ui.pendingSwitchTarget
    rw [hui, ho.activeIndex]
    exact h.deferred
  screens hv := by
    have hvisible := ho.ui.streamingVisible
    have hhub := ho.ui.hubVisible
    exact hhub.trans (h.screens (hvisible.symm.trans hv))
  supervised := by rw [ho.supervised, ho.stranded]; exact h.supervised
  handles := hhandles
  media := hmedia
  capture hcapture foreground hf := by
    have hui := ho.ui.captureForeground
    rw [ho.activeIndex]
    exact h.capture hcapture foreground (hui.symm.trans hf)

/-- A connect leaves a session or a flag. -/
theorem Connected.present {armSnapshot ok : Bool} (h : Connected i armSnapshot ok s t) :
    (t.slot i).rdp.isSome ∨ (t.slot i).sessionFailed := by
  cases ok with
  | true => exact .inl (h.fresh rfl).rdp
  | false =>
    obtain ⟨-, -, -, -, hflag⟩ := h.offline rfl
    exact .inr hflag

theorem Connected.good {ok : Bool} (h : Connected i false ok s t) : Good t i := by
  cases ok with
  | true =>
    have hfresh := h.fresh rfl
    have hunarmed := h.unarmed rfl
    exact ⟨hfresh.tidy hunarmed, fun _ => hfresh.onScreen hunarmed⟩
  | false => exact h.ended.good

theorem Routed.reconnected {m' : Prop} {armSnapshot ok : Bool} (h : Aimed m c s)
    (hc : Connected i armSnapshot ok s t) (hi : s.app.activeIndex = i) : Routed m' c t where
  toAimed := h.onlySlot hc.toOnlySlot (h.handles.connected hc) fun _ _ => ⟨i, hc.present⟩
  input := by
    have hinput := hc.input
    rw [if_pos hi] at hinput
    unfold activeSlot
    rw [hc.activeIndex, hi]
    exact hinput
  watched _ := by
    unfold activeSlot
    rw [hc.activeIndex, hi]
    exact .inr hc.present

theorem Steady.reconnected {ok : Bool} (h : Steady m c s) (hc : Connected i false ok s t)
    (hi : s.app.activeIndex = i) : Steady m c t where
  toRouted := .reconnected h.toAimed hc hi
  good j := by
    by_cases hj : j = i
    · subst hj
      exact hc.good
    · exact (h.good j).onlySlot hc.toOnlySlot hj

/-! ## Sessions that end -/

theorem Aimed.stopped (h : Aimed m c s) (hs : Stopped i s t) : Aimed False c t :=
  h.onlySlot hs.toOnlySlot (h.handles.stopped hs) False.elim

theorem Unwatched.stopped (h : Unwatched m c s) (hs : Stopped i s t) : Unwatched False c t where
  toAimed := h.toAimed.stopped hs
  input := by
    rw [hs.input]
    unfold activeSlot
    rw [hs.activeIndex]
    split
    · rename_i hi
      rw [hi]
      exact hs.ended.rdp.symm
    · rename_i hi
      rw [show t.app.sessions s.app.activeIndex = _ from hs.slots _ hi]
      exact h.input
  good j := by
    by_cases hj : j = i
    · subst hj
      exact hs.ended.good
    · exact (h.good j).onlySlot hs.toOnlySlot hj

theorem Steady.stopped (h : Steady m c s) (hs : Stopped i s t)
    (hwatched : s.app.activeIndex = i → s.app.streamingVisible → s.stranded) :
    Steady False c t := by
  refine (h.unwatched.stopped hs).steady fun hv => ?_
  have hvisible := hs.ui.streamingVisible
  have hv' : s.app.streamingVisible = true := hvisible.symm.trans hv
  rw [hs.stranded]
  unfold activeSlot
  rw [hs.activeIndex]
  by_cases hi : s.app.activeIndex = i
  · exact .inl (hwatched hi hv')
  · rw [show t.app.sessions s.app.activeIndex = _ from hs.slots _ hi]
    exact h.watched hv'

theorem Supervised.Ok.strand {tick : Supervised} {a b : Bool} (h : tick.Ok a) (hab : a → b) :
    tick.Ok b :=
  { h with watched := fun hv => (h.watched hv).imp_left hab }

theorem Aimed.strand (h : Aimed m c s) {b : Bool} (hb : s.stranded → b) :
    Aimed m c { s with stranded := b } :=
  { interactive := h.interactive, duck := h.duck, deferred := h.deferred, screens := h.screens,
    handles := h.handles.kept rfl fun _ => rfl, media := h.media, capture := h.capture,
    supervised := fun tick ht => (h.supervised tick ht).strand hb }

/-- The slot on screen may be without a session once that is on record. -/
theorem Steady.strand (h : Steady m c s) {b : Bool} (hb : s.stranded → b) :
    Steady m c { s with stranded := b } where
  toAimed := h.toAimed.strand hb
  input := h.input
  watched hv := (h.watched hv).imp_left hb
  good i := ⟨(h.good i).tidy, (h.good i).onScreen⟩

theorem anySlotConnected_iff (a : App) :
    a.anySlotConnected ↔ ∃ i, (a.sessions i).rdp.isSome := by
  simp [anySlotConnected]

/-- Once no slot has a session, media is closed. -/
theorem mediaBeside_stopMedia (w : LoopState) (h : w.stopMediaUnlessConnected.app.media) :
    ∃ i, (w.stopMediaUnlessConnected.slot i).rdp.isSome := by
  unfold LoopState.stopMediaUnlessConnected at h ⊢
  split at h
  · rename_i hany
    rw [if_pos hany]
    exact (anySlotConnected_iff w.app).mp hany
  · exact nomatch h

theorem Steady.stopMediaUnlessConnected (h : Steady m c s) :
    Steady True c s.stopMediaUnlessConnected := by
  have hheld : MediaHeld s.stopMediaUnlessConnected := fun hopen =>
    (mediaBeside_stopMedia s hopen).imp fun _ => .inl
  unfold LoopState.stopMediaUnlessConnected at hheld ⊢
  split
  · rename_i hany
    rw [if_pos hany] at hheld
    exact { h with media := fun _ => hheld }
  · exact
      { interactive := h.interactive, duck := h.duck, deferred := h.deferred, screens := h.screens
        supervised := h.supervised, handles := h.handles.kept rfl fun _ => rfl
        capture := h.capture, input := h.input, watched := h.watched
        media := fun _ hopen => nomatch hopen
        good := fun i => ⟨(h.good i).tidy, (h.good i).onScreen⟩ }

end Lgnome.Foreground
