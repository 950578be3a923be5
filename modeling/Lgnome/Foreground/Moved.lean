import Lgnome.Foreground.Loop

/-!
# What the workers can do meanwhile

A callback leaves the SDL thread's fields alone. Of its own slot it may raise the
failure flag but not lower it, void the cache but not arm it, and it publishes
the cache as ready only when it is. Media opens only beside a session.
-/
namespace Lgnome.Foreground

open Lgnome.Native Lgnome.Native.App
open Lgnome.Transition (Prog Contract)

/-! ## The SDL thread's fields -/

/-- The fields that only the SDL thread writes. -/
structure SameUi (a b : App) : Prop where
  eq : b =
    { a with
      sessions := b.sessions
      running := b.running
      videoRefreshNeeded := b.videoRefreshNeeded
      decoderKeyframePending := b.decoderKeyframePending
      video := b.video
      audio := b.audio
      media := b.media
      rgba := b.rgba
      hubReturnRgba := b.hubReturnRgba
      videoLastFeedMs := b.videoLastFeedMs
      videoFeedStarted := b.videoFeedStarted }

namespace SameUi

variable {a b c : App} {i : SlotIndex}

theorem refl (a : App) : SameUi a a := ⟨rfl⟩

theorem trans (h : SameUi a b) (h' : SameUi b c) : SameUi a c where
  eq := by
    have ha := h.eq
    have ha' := h'.eq
    cases a
    cases b
    cases c
    simp only [App.mk.injEq] at ha ha' ⊢
    simp [ha, ha']

theorem activeIndex (h : SameUi a b) : b.activeIndex = a.activeIndex := by
  have hfield := congrArg App.activeIndex h.eq
  exact hfield

theorem interactiveUi (h : SameUi a b) : b.interactiveUi = a.interactiveUi := by
  have hfield := congrArg App.interactiveUi h.eq
  exact hfield

theorem streamingVisible (h : SameUi a b) : b.streamingVisible = a.streamingVisible := by
  have hfield := congrArg App.streamingVisible h.eq
  exact hfield

theorem hubVisible (h : SameUi a b) : b.hubVisible = a.hubVisible := by
  have hfield := congrArg App.hubVisible h.eq
  exact hfield

theorem pendingSwitchTarget (h : SameUi a b) : b.pendingSwitchTarget = a.pendingSwitchTarget := by
  have hfield := congrArg App.pendingSwitchTarget h.eq
  exact hfield

theorem inputSession (h : SameUi a b) : b.inputSession = a.inputSession := by
  have hfield := congrArg App.inputSession h.eq
  exact hfield

theorem captureForeground (h : SameUi a b) : b.captureForeground = a.captureForeground := by
  have hfield := congrArg App.captureForeground h.eq
  exact hfield

theorem duckForeground (h : SameUi a b) : b.duckForeground = a.duckForeground := by
  have hfield := congrArg App.duckForeground h.eq
  exact hfield

/-- Both may be wired to another session. -/
theorem withInput {x : Option Session} (h : SameUi { a with inputSession := x } b)
    (y : Option Session) : SameUi { a with inputSession := y } { b with inputSession := y } where
  eq := by
    have hwired := congrArg (fun b : App => { b with inputSession := y }) h.eq
    exact hwired

theorem of_presented (h : Presented i a b) : SameUi a b where
  eq := by
    have ha := h.app
    cases a
    cases b
    simp only [App.mk.injEq] at ha ⊢
    simp [ha]

end SameUi

/-! ## One slot -/

/-- What its worker may do to a slot. -/
structure SlotServed (s t : Slot) : Prop where
  rdp : t.rdp = s.rdp
  suppressed : t.suppressed = s.suppressed
  snapshotPending : t.snapshotPending = s.snapshotPending
  refreshIneffective : t.refreshIneffective = s.refreshIneffective
  failed : s.sessionFailed → t.sessionFailed
  armed : t.snapshot.armed → s.snapshot.armed
  ready : (s.snapshotIdrReady → s.snapshot.ready) → t.snapshotIdrReady → t.snapshot.ready

theorem SlotServed.refl (s : Slot) : SlotServed s s := ⟨rfl, rfl, rfl, rfl, id, id, id⟩

theorem SlotServed.trans {s t u : Slot} (h : SlotServed s t) (h' : SlotServed t u) :
    SlotServed s u where
  rdp := h'.rdp.trans h.rdp
  suppressed := h'.suppressed.trans h.suppressed
  snapshotPending := h'.snapshotPending.trans h.snapshotPending
  refreshIneffective := h'.refreshIneffective.trans h.refreshIneffective
  failed hf := h'.failed (h.failed hf)
  armed ha := h.armed (h'.armed ha)
  ready hr := h'.ready (h.ready hr)

/-- A callback of one slot's worker. -/
structure Served (i : SlotIndex) (a b : App) : Prop where
  ui : SameUi a b
  others : ∀ j, j ≠ i → b.sessions j = a.sessions j
  slot : SlotServed (a.sessions i) (b.sessions i)

namespace Served

variable {a b c : App} {i : SlotIndex}

theorem refl (i : SlotIndex) (a : App) : Served i a a := ⟨.refl a, fun _ _ => rfl, .refl _⟩

theorem trans (h : Served i a b) (h' : Served i b c) : Served i a c where
  ui := h.ui.trans h'.ui
  others j hj := (h'.others j hj).trans (h.others j hj)
  slot := h.slot.trans h'.slot

theorem of_presented (h : Presented i a b) : Served i a b where
  ui := .of_presented h
  others := h.others
  slot := by
    have hslot := h.slot
    have hfailed := h.failed
    generalize b.sessions i = t at hslot hfailed
    rw [hslot]
    exact ⟨rfl, rfl, rfl, rfl, by rw [← hslot]; exact hfailed, id, id⟩

theorem modifySlot (a : App) (i : SlotIndex) {f : Slot → Slot}
    (h : SlotServed (a.sessions i) (f (a.sessions i))) : Served i a (a.modifySlot i f) where
  ui := ⟨rfl⟩
  others j hj := modifySlot_other _ _ _ hj
  slot := by rwa [modifySlot_same]

end Served

section Callbacks

variable (a : App) (i : SlotIndex)

theorem served_reportTerminal (state : RdpState) : Served i a (a.reportTerminal i state) :=
  .of_presented (presented_reportTerminal a i state)

theorem served_recordState (state : RdpState) : Served i a (a.recordState i state) := by
  have hstate : Served i a (a.modifySlot i fun s => { s with currentState := state }) :=
    .modifySlot a i ⟨rfl, rfl, rfl, rfl, id, id, id⟩
  unfold recordState
  split
  · exact .refl i a
  · simp only
    split
    · exact hstate.trans (served_reportTerminal _ i state)
    · exact hstate

theorem served_desktopSize (width height : UInt16) : Served i a
    (a.modifySlot i fun s => { s with desktopWidth := width, desktopHeight := height }) :=
  .modifySlot a i ⟨rfl, rfl, rfl, rfl, id, id, id⟩

theorem served_ingestAuLocked (scan : Scanner) (au : AccessUnit) (env : FeedEnv) :
    Served i a (a.ingestAuLocked scan i au env).1 := by
  have hnoted : Served i a (a.noteVideoStream i (scan (a.sessions i).videoCodec au.data).valid
      env.seenMs) := by
    refine .modifySlot a i ?_
    split <;> exact ⟨rfl, rfl, rfl, rfl, id, id, id⟩
  unfold ingestAuLocked
  simp only
  generalize a.noteVideoStream i (scan (a.sessions i).videoCodec au.data).valid env.seenMs = b
    at hnoted ⊢
  split
  · rename_i harmed
    -- The unit goes into the cache, which says itself whether it is ready.
    refine hnoted.trans ?_
    simp only
    exact .modifySlot b i ⟨rfl, rfl, rfl, rfl, id, fun _ => harmed, fun _ => id⟩
  · split
    · exact hnoted
    · split
      · exact hnoted.trans (served_reportTerminal b i .decoderError)
      · exact hnoted.trans (.of_presented (presented_presentAu b i au _ env))

theorem served_changeCodec (codec : VideoCodec) (allocates : Bool) :
    Served i a (a.changeCodec i codec allocates) := by
  unfold changeCodec
  split
  · exact .refl i a
  · refine .modifySlot a i ⟨rfl, rfl, rfl, rfl, id, fun h => ?_, fun _ h => nomatch h⟩
    by_cases harmed : (a.sessions i).snapshot.armed
    · exact harmed
    · simp [harmed] at h

theorem served_bitmapUpdate (empty : Bool) (env : BitmapEnv) :
    Served i a (a.bitmapUpdate i empty env).1 := by
  have hmarked : ∀ (b : App) (via : Bool),
      Served i b (b.modifySlot i fun s => { s with videoViaBitmap := via }) :=
    fun b via => .modifySlot b i ⟨rfl, rfl, rfl, rfl, id, id, id⟩
  have hdropped : ∀ b : App, Served i b (b.dropForeignCanvas i) := by
    intro b
    unfold dropForeignCanvas
    split
    · exact ⟨⟨rfl⟩, fun _ _ => rfl, .refl _⟩
    · exact .refl i b
  have hyielded : ∀ b : App, Served i b (b.yieldDecoder i env.fedMs).1 := by
    intro b
    have hclosed : Served i b { b with video := none, decoderKeyframePending := false } :=
      ⟨⟨rfl⟩, fun _ _ => rfl, .refl _⟩
    have hswitched := presented_noteGraphicsPathSwitch
      { b with video := none, decoderKeyframePending := false } i
    unfold yieldDecoder
    cases b.video with
    | none => exact .refl i b
    | some d =>
      simp only
      split
      · exact hmarked b false
      · split
        · generalize noteGraphicsPathSwitch _ i = switched at hswitched ⊢
          obtain ⟨c, _ | _⟩ := switched <;> exact hclosed.trans (.of_presented hswitched)
        · exact hclosed
  have hopened : ∀ b : App, Served i b (b.openCanvas i env) := by
    intro b
    unfold openCanvas
    split
    · split
      · exact ⟨⟨rfl⟩, fun _ _ => rfl, .refl _⟩
      · exact .refl i b
    · split
      · exact .refl i b
      · exact ⟨⟨rfl⟩, fun _ _ => rfl, .refl _⟩
  have hdrawn : ∀ b : App, Served i b (b.drawBitmap i env).1 := by
    intro b
    unfold drawBitmap
    split
    · simp only
      exact .modifySlot b i ⟨rfl, rfl, rfl, rfl, id, id, id⟩
    · exact served_reportTerminal b i .decoderError
  unfold bitmapUpdate
  simp only
  split
  · exact hmarked a _
  · split
    · exact (hmarked a true).trans (served_reportTerminal _ i .decoderError)
    · have hready := ((hmarked a true).trans (hdropped _)).trans (hyielded _)
      generalize yieldDecoder _ i env.fedMs = yielded at hready ⊢
      obtain ⟨b, _ | outcome⟩ := yielded
      · exact hready.trans ((hopened b).trans (hdrawn _))
      · exact hready

theorem served_openAudioTrack (mediaOpens audioOpens : Bool) :
    Served i a (a.openAudioTrack mediaOpens audioOpens) := by
  have hsame : ∀ b : App, SameUi a b → b.sessions = a.sessions → Served i a b :=
    fun b hui hsessions => ⟨hui, fun j _ => by rw [hsessions], by rw [hsessions]; exact .refl _⟩
  unfold openAudioTrack
  split
  · exact .refl i a
  · simp only
    split
    · split <;> exact hsame _ ⟨rfl⟩ rfl
    · exact hsame _ ⟨rfl⟩ rfl

theorem served_apply (scan : Scanner) (c : Callback) : Served i a (c.apply scan a i) := by
  cases c with
  | videoAu codec au env =>
    exact (served_changeCodec a i codec env.allocates).trans (served_ingestAuLocked _ i scan au env)
  | unsupportedVideo => exact served_reportTerminal a i .protocolError
  | bitmap empty env => exact served_bitmapUpdate a i empty env
  | audioFormat mediaOpens audioOpens => exact served_openAudioTrack a i mediaOpens audioOpens
  | state reported => exact served_recordState a i reported
  | desktopSize width height => exact served_desktopSize a i width height

end Callbacks

/-! ## All slots -/

/-- What the workers may do to a slot, as long as it has one. -/
structure SlotMoved (s t : Slot) : Prop extends SlotServed s t where
  offline : s.rdp = none → t = s

theorem SlotMoved.refl (s : Slot) : SlotMoved s s := ⟨.refl s, fun _ => rfl⟩

theorem SlotMoved.trans {s t u : Slot} (h : SlotMoved s t) (h' : SlotMoved t u) : SlotMoved s u :=
  ⟨h.toSlotServed.trans h'.toSlotServed, fun hoff =>
    (h'.offline (h.rdp.trans hoff)).trans (h.offline hoff)⟩

/-- What the workers may do to the application. -/
structure Moved (a b : App) : Prop where
  ui : SameUi a b
  slots : ∀ i, SlotMoved (a.sessions i) (b.sessions i)
  media : b.media → a.media ∨ ∃ i, (a.sessions i).rdp.isSome

namespace Moved

variable {a b c : App} {i : SlotIndex}

theorem refl (a : App) : Moved a a := ⟨.refl a, fun _ => .refl _, .inl⟩

theorem trans (h : Moved a b) (h' : Moved b c) : Moved a c where
  ui := h.ui.trans h'.ui
  slots i := (h.slots i).trans (h'.slots i)
  media hmedia := by
    rcases h'.media hmedia with hmedia | ⟨i, hi⟩
    · exact h.media hmedia
    · exact .inr ⟨i, by rwa [← (h.slots i).rdp]⟩

/-- A callback of a worker that exists. -/
theorem of_served (h : Served i a b) (hrdp : (a.sessions i).rdp.isSome) : Moved a b where
  ui := h.ui
  slots j := by
    by_cases hj : j = i
    · subst hj
      refine ⟨h.slot, fun hoff => ?_⟩
      rw [hoff] at hrdp
      cases hrdp
    · rw [h.others j hj]
      exact .refl _
  media _ := .inr ⟨i, hrdp⟩

end Moved

/-- What happens to the loop's state between two steps of the SDL thread. -/
structure Meanwhile (s t : LoopState) : Prop where
  app : Moved s.app t.app
  eq : t = { s with app := t.app }

namespace Meanwhile

variable {s t u : LoopState}

theorem refl (s : LoopState) : Meanwhile s s := ⟨.refl _, rfl⟩

theorem trans (h : Meanwhile s t) (h' : Meanwhile t u) : Meanwhile s u where
  app := h.app.trans h'.app
  eq := by
    have ht := h.eq
    have hu := h'.eq
    generalize t.app = b at ht hu
    generalize u.app = c at hu
    rw [hu, ht]

theorem slot (h : Meanwhile s t) (i : SlotIndex) : SlotMoved (s.slot i) (t.slot i) := h.app.slots i

theorem sentSuppress (h : Meanwhile s t) : t.sentSuppress = s.sentSuppress := by
  have hfield := congrArg LoopState.sentSuppress h.eq
  exact hfield

theorem nextSession (h : Meanwhile s t) : t.nextSession = s.nextSession := by
  have hfield := congrArg LoopState.nextSession h.eq
  exact hfield

theorem wipedReady (h : Meanwhile s t) : t.wipedReady = s.wipedReady := by
  have hfield := congrArg LoopState.wipedReady h.eq
  exact hfield

theorem stranded (h : Meanwhile s t) : t.stranded = s.stranded := by
  have hfield := congrArg LoopState.stranded h.eq
  exact hfield

theorem supervised (h : Meanwhile s t) : t.supervised = s.supervised := by
  have hfield := congrArg LoopState.supervised h.eq
  exact hfield

theorem callBack (scan : Scanner) (s : LoopState) (i : SlotIndex) (c : Callback) :
    Meanwhile s (s.callBack scan i c) := by
  unfold LoopState.callBack
  split
  · rename_i hrdp
    exact ⟨.of_served (served_apply s.app i scan c) hrdp, rfl⟩
  · exact .refl s

end Meanwhile

/-! ## The contract -/

/-- The SDL thread relies on what workers may do; the workers rely on nothing. -/
def meanwhile (rest : LoopState → Prop) (hrest : ∀ s t, Meanwhile s t → rest s → rest t) :
    Contract Party LoopState where
  inv _ := True
  rely p s t := p = .sdl → Meanwhile s t
  guar p s t := p ≠ .sdl → Meanwhile s t
  rest p s := p = .sdl → rest s
  rely_refl _ s _ := .refl s
  guar_refl _ s _ := .refl s
  rely_trans _ _ _ _ h h' hp := (h hp).trans (h' hp)
  guar_rely _ _ _ _ hne hguar hq := hguar fun hp => hne (hp.trans hq.symm)
  rest_stable _ s t hrely hr hp := hrest s t (hrely hp) (hr hp)

end Lgnome.Foreground
