import Lgnome.Foreground.Supervise

/-!
# The rest of an iteration

The stream that is ready is entered, the canvas is drawn, and the requests of the
HUB are taken: a reconfigured capture, profiles that are saved or deleted, and the
connect of a slot, whose session is on screen before it is there.
-/
namespace Lgnome.Foreground

open Lgnome.Native Lgnome.Native.App
open Lgnome.Transition (Prog)

variable {scan : Scanner} {m c : Prop} {s t : LoopState} {i : SlotIndex}

/-! ## Entering the stream and drawing -/

/-- The slot on screen is not silenced, so there is nothing to take back. -/
theorem enterStream_steady (h : Steady m c s) (hrdp : s.app.activeSlot.rdp.isSome) :
    Steady m c s.enterStream := by
  have hseen := ((h.good s.app.activeIndex).onScreen rfl).suppressed
  unfold LoopState.enterStream
  simp only [hseen, Bool.false_eq_true, if_false]
  exact h.display ⟨rfl⟩ h.deferred (fun _ => rfl) fun _ => .inr (.inl hrdp)

theorem transitionTick_ends (h : Steady m c s) :
    Ends transitionTick (fun _ t => Steady m c t) s := by
  refine Ends.loadThen fun t ht => ?_
  split
  swap
  · exact h.meanwhile ht
  rename_i hready
  refine Ends.loadThen fun u hu => Ends.loadThen fun v hv => Ends.storeThen fun w hw => ?_
  have htw := (hu.trans hv).trans hw
  have hrdp : w.app.activeSlot.rdp.isSome := by
    unfold activeSlot
    rw [htw.app.ui.activeIndex, (htw.app.slots _).rdp]
    simp only [Bool.and_eq_true] at hready
    exact hready.1.1.1.1
  have hentered := enterStream_steady (h.meanwhile (ht.trans htw)) hrdp
  split
  · exact (startWatchdog_ends hentered _ _).mono fun _ _ hlast => hlast.1
  · exact hentered

/-- A report of a slot, with a session or without. -/
theorem Steady.served (h : Steady m c s) {b : App} (hserved : Served i s.app b)
    (hmedia : b.media = s.app.media) : Steady m c { s with app := b } := by
  have hbeside : Beside i s { s with app := b } := by
    refine ⟨hserved.ui, fun j hj => ?_, fun _ _ => rfl, rfl, rfl, rfl,
      fun hhandles => hhandles.kept rfl fun j => ?_, fun hheld hopen => ?_⟩
    · rw [show ({ s with app := b } : LoopState).slot j = s.slot j from hserved.others j hj]
      exact .refl _
    · by_cases hji : j = i
      · subst hji
        exact hserved.slot.rdp
      · rw [show ({ s with app := b } : LoopState).slot j = s.slot j from hserved.others j hji]
    · obtain ⟨j, hj⟩ := hheld (hmedia.symm.trans hopen)
      refine ⟨j, ?_⟩
      by_cases hji : j = i
      · subst hji
        refine hj.imp (fun hr => ?_) hserved.slot.failed
        show (b.sessions j).rdp.isSome
        rw [hserved.slot.rdp]
        exact hr
      · rw [show ({ s with app := b } : LoopState).slot j = s.slot j from hserved.others j hji]
        exact hj
  refine ⟨h.toRouted.beside hbeside fun _ => ⟨hserved.slot.rdp, hserved.slot.failed⟩, fun j => ?_⟩
  by_cases hj : j = i
  · subst hj
    exact ⟨(h.good j).tidy.served hserved.slot, fun ha =>
      ((h.good j).onScreen (hserved.ui.activeIndex.symm.trans ha)).served hserved.slot⟩
  · exact (h.good j).beside hbeside hj

theorem drawCanvas_ends (undrawn : Option SlotIndex) (h : Steady m c s) :
    Ends (drawCanvas undrawn) (fun _ t => Steady m c t) s := by
  cases undrawn with
  | none => exact h
  | some failed =>
    exact Ends.store fun t ht => (h.meanwhile ht).served (served_reportTerminal t.app failed _)
      (reportTerminal_media t.app failed _)

/-! ## The capture -/

theorem awaited_ends (h : Behind m c i s) (hfresh : Fresh (s.slot i) (s.sentSuppress i)) :
    Ends (awaitSnapshot i) (fun _ t => Steady m c t) s :=
  (awaitSnapshot_ends hfresh).mono fun _ _ ht => (h.beside ht.1).steady ht.2

theorem reconfigureSlot_ends (r : Reconfigure) (h : Steady m c s) :
    Ends (reconfigureSlot r i) (fun _ t => Steady m c t) s := by
  refine Ends.loadThen fun t ht => ?_
  split
  swap
  · exact h.meanwhile ht
  refine Ends.loadThen fun u hu => Ends.actThen fun v hv answer => ?_
  have hsteady := h.meanwhile ((ht.trans hu).trans hv)
  have hactive : v.app.activeIndex = u.app.activeIndex := hv.app.ui.activeIndex
  have hconnected := reconnectSlot_connected v i (!u.isActive i) answer hsteady.interactive
  generalize v.reconnectSlot i (!u.isActive i) answer = r at hconnected ⊢
  obtain ⟨started, w⟩ := r
  by_cases ha : u.app.activeIndex = i
  · have hscreen : u.isActive i = true := by simp [LoopState.isActive, ha]
    simp only [hscreen, Bool.not_true, Bool.and_false, Bool.false_eq_true, if_false] at hconnected ⊢
    exact hsteady.reconnected hconnected (hactive.trans ha)
  · have hback : u.isActive i = false := by simp [LoopState.isActive, ha]
    have haway : v.app.activeIndex ≠ i := by rw [hactive]; exact ha
    simp only [hback, Bool.not_false, Bool.and_true] at hconnected ⊢
    have hbehind := (hsteady.behind haway).beside (.of_connected hconnected haway)
    cases started with
    | false => exact hbehind.steady hconnected.ended.tidy
    | true => exact awaited_ends hbehind (hconnected.fresh rfl)

theorem startManager_steady (r : Reconfigure) (h : Steady m c s) :
    Steady m False (s.startManager r) := by
  have hkept : ∀ foreground, Steady m False
      (s.onApp fun a => { a with captureForeground := foreground }) := fun _ =>
    { interactive := h.interactive, duck := h.duck, deferred := h.deferred, screens := h.screens
      supervised := h.supervised, handles := h.handles.kept rfl fun _ => rfl, media := h.media
      capture := False.elim, input := h.input, watched := h.watched
      good := fun i => ⟨(h.good i).tidy, (h.good i).onScreen⟩ }
  unfold LoopState.startManager
  split
  · exact hkept _
  · exact { h with capture := False.elim }

/-- Without a manager there is nobody to follow the screen. -/
theorem unmanaged_steady (h : Steady m False s) (hnone : s.app.captureForeground = none) :
    Steady m c s :=
  { h with capture := fun _ _ hf => nomatch hnone.symm.trans hf }

theorem reconfigureCapture_ends (r : Reconfigure) (h : Steady m c s) :
    Ends (reconfigureCapture r) (fun _ t => Steady m c t) s := by
  refine Ends.actThen fun t ht _ => ?_
  have hstarted := startManager_steady r (h.meanwhile ht)
  split
  · refine Ends.andThen (Ends.forSlots (fun _ _ hu => reconfigureSlot_ends r hu) hstarted slots)
      fun _ u hu => ?_
    exact Ends.store fun v hv => (hu.meanwhile hv).followActiveSlot
  · rename_i hunmanaged
    refine unmanaged_steady hstarted ?_
    simp only [Bool.or_eq_true, not_or] at hunmanaged
    simpa using hunmanaged.2

/-! ## Navigation and profiles -/

theorem findSlot_ends (test : LoopState → SlotIndex → Bool) (list : List SlotIndex)
    (h : Steady m c s) : Ends (findSlot test list) (fun _ t => Steady m c t) s := by
  induction list generalizing s with
  | nil => exact h
  | cons i rest ih =>
    refine Ends.loadThen fun t ht => ?_
    split
    · exact h.meanwhile ht
    · exact ih (h.meanwhile ht)

theorem returnSlot_ends (h : Steady m c s) : Ends returnSlot (fun _ t => Steady m c t) s := by
  refine Ends.loadThen fun t ht => ?_
  split
  · exact h.meanwhile ht
  · refine Ends.andThen (findSlot_ends _ slots (h.meanwhile ht)) fun active u hu => ?_
    split
    · exact hu
    · exact findSlot_ends _ slots hu

theorem drainNavigation_ends (requests : HubRequests) (h : Steady m c s) :
    Ends (drainNavigation scan requests) (fun _ t => Steady m c t) s := by
  unfold drainNavigation
  split
  · refine Ends.loadThen fun t ht => ?_
    split
    · refine Ends.andThen (returnSlot_ends (h.meanwhile ht)) fun back u hu => ?_
      split
      · exact requestSessionSwitch_ends hu
      · exact hu
    · exact h.meanwhile ht
  · split
    · exact requestSessionSwitch_ends h
    · exact h

theorem modeSaveConnecting_ends (r : Reconfigure) (h : Steady m c s) :
    Ends (modeSaveConnecting r) (fun _ t => Steady m c t) s :=
  Ends.andThen (findSlot_ends _ slots h) fun _ _ ht => ht

theorem drainCaptureSave_ends (request : Option Reconfigure) (h : Steady m c s) :
    Ends (drainCaptureSave request) (fun _ t => Steady m c t) s := by
  cases request with
  | none => exact h
  | some r =>
    refine Ends.andThen (modeSaveConnecting_ends r h) fun connecting t ht => ?_
    split
    · exact ht
    · exact reconfigureCapture_ends r ht

theorem forgetRefresh_ends (h : Steady m c s) :
    Ends (forgetRefresh i) (fun _ t => Steady m c t) s :=
  Ends.store fun _ ht => (h.meanwhile ht).noted fun _ => ⟨_, _, _, rfl⟩

theorem dropSession_steady (h : Steady m c s) : Steady False c (s.dropSession i) := by
  have hstrand : Steady m c { s with
      stranded := s.stranded || (s.app.streamingVisible && s.isActive i) } :=
    h.strand fun hs => by rw [hs, Bool.true_or]
  refine hstrand.stopped (stopSlot_stopped _ i) fun ha hv => ?_
  have hactive : s.isActive i = true := by simpa [LoopState.isActive] using ha
  show (s.stranded || (s.app.streamingVisible && s.isActive i)) = true
  rw [hactive, show s.app.streamingVisible = true from hv]
  simp

theorem stopMediaUnlessConnected_ends (h : Steady m c s) :
    Ends (Prog.store LoopState.stopMediaUnlessConnected) (fun _ t => Steady True c t) s :=
  Ends.store fun _ ht => (h.meanwhile ht).stopMediaUnlessConnected

theorem drainSave_ends (request : Option ProfileRequest) (h : AtRest s) :
    Ends (drainSave request) (fun _ t => AtRest t) s := by
  cases request with
  | none => exact h
  | some r =>
    refine Ends.loadThen fun t ht => ?_
    split
    · exact h.meanwhile ht
    refine Ends.andThen (reconfigureCapture_ends r.reconfigure (h.meanwhile ht)) fun _ u hu => ?_
    have hforget : ∀ v, AtRest v → Ends (do
        let offline ← Prog.load fun w => (w.slot r.slot).rdp.isNone && r.endpointChanged
        if offline then forgetRefresh r.slot else pure ()) (fun _ t => AtRest t) v := by
      intro v hv
      refine Ends.loadThen fun w hw => ?_
      split
      · exact forgetRefresh_ends (hv.meanwhile hw)
      · exact hv.meanwhile hw
    refine Ends.loadThen fun v hv => ?_
    split
    · refine Ends.storeThen fun w hw => ?_
      have hdropped := dropSession_steady (i := r.slot) (hu.meanwhile (hv.trans hw))
      exact Ends.andThen (stopMediaUnlessConnected_ends hdropped) fun _ x hx => hforget x hx
    · exact hforget v (hu.meanwhile hv)

theorem drainDelete_ends (request : Option ProfileRequest) (h : AtRest s) :
    Ends (drainDelete request) (fun _ t => AtRest t) s := by
  cases request with
  | none => exact h
  | some r =>
    refine Ends.loadThen fun t ht => ?_
    split
    · exact h.meanwhile ht
    refine Ends.storeThen fun u hu => ?_
    have hdropped := dropSession_steady (i := r.slot) (h.meanwhile (ht.trans hu))
    refine Ends.andThen (forgetRefresh_ends hdropped) fun _ v hv => ?_
    refine Ends.andThen (reconfigureCapture_ends r.reconfigure hv) fun _ w hw => ?_
    refine Ends.storeThen fun x hx => ?_
    exact stopMediaUnlessConnected_ends (hw.meanwhile hx).duckRetarget

/-! ## The connect -/

section Connect

variable {old target : SlotIndex}

theorem OnScreen.leaving {slot : Slot} {sent wiped : Bool} (h : OnScreen slot)
    (hready : slot.snapshotIdrReady → wiped ∨ slot.snapshot.ready) : Leaving slot sent wiped where
  pending := h.pending
  armed ha := .inr (h.armed ha)
  ready := hready
  commanded _ hsuppressed := by
    rw [h.suppressed] at hsuppressed
    cases hsuppressed
  offline _ := h.suppressed

/-- The server that may be silenced ahead of the hand-over is that of the slot on screen. -/
theorem switchToConnect_opening (h : Unwatched m c s) (hoff : (s.slot target).rdp = none)
    (answer : Answer) :
    Opening m c s.app.activeIndex target (s.switchToConnect target answer) := by
  have hgood := h.good s.app.activeIndex
  have hseen := (h.good target).tidy.onScreen hoff
  have hahead : ∀ w : LoopState, w.app = s.app → Aimed m c w →
      (∀ j, j ≠ s.app.activeIndex → TidySlot w j) → w.wipedReady = s.wipedReady →
      Opening m c s.app.activeIndex target ((w.pauseCapture.onApp fun a =>
        let a := if a.hubVisible then LoopState.captureHubReturn a answer.hasFrame else a
        { a with
          pendingSwitchTarget := none
          switchDeadlineTicks := 0
          rgba := none
          activeIndex := target
          videoRefreshNeeded := false }).duckRetarget) := by
    intro w happ haimed hothers hwiped
    have hslot : ∀ j, w.slot j = s.slot j := fun j => by
      unfold LoopState.slot
      rw [happ]
    refine opening_published haimed ⟨?_⟩ rfl ?_ hothers ?_ (by rw [hslot]; exact hseen)
    · simp only
      split
      · rw [captureHubReturn_eq]
        rfl
      · rfl
    · simp only
      split
      · rw [captureHubReturn_eq]
        rfl
      · rfl
    · rw [hslot, hwiped]
      exact (hgood.onScreen rfl).leaving hgood.tidy.ready
  unfold LoopState.switchToConnect
  simp only
  split
  · exact hahead _ rfl (h.toAimed.beside (.setSuppressOutput s _ false))
      (fun j hj => tidySlot_beside (h.good j).tidy (.setSuppressOutput s _ false) hj) rfl
  · exact hahead s rfl h.toAimed (fun j _ => (h.good j).tidy) rfl

/-- The connect of the slot on screen, which has no session yet. -/
theorem connectScreen_ends (h : Aimed m c s) (hactive : s.app.activeIndex = target)
    (hothers : ∀ j, j ≠ target → TidySlot s j) :
    Ends (do
        let started ← Prog.act fun answer w => w.slotConnect target false answer
        if started then pure ()
        else
          Prog.store fun w => w.startFailed target
          Prog.store LoopState.stopMediaUnlessConnected) (fun _ t => Steady True c t) s := by
  refine Ends.actThen fun t ht answer => ?_
  have haimed := h.meanwhile ht
  replace hactive := ht.app.ui.activeIndex.trans hactive
  replace hothers := fun j hj => tidySlot_meanwhile (hothers j hj) ht
  have hconnected := slotConnect_connected t target false answer haimed.interactive
  generalize t.slotConnect target false answer = r at hconnected ⊢
  obtain ⟨started, u⟩ := r
  simp only at hconnected ⊢
  -- A session that does not start has flagged its slot, so the next tick takes it off the screen.
  have hsteady : Steady True c u := by
    refine ⟨.reconnected haimed hconnected hactive, fun j => ?_⟩
    by_cases hj : j = target
    · subst hj
      exact hconnected.good
    · exact ⟨tidySlot_onlySlot (hothers j hj) hconnected.toOnlySlot hj, fun ha =>
        absurd (ha.symm.trans (hconnected.activeIndex.trans hactive)) hj⟩
  cases started with
  | true => exact hsteady
  | false =>
    refine Ends.storeThen fun v hv => ?_
    have hlater := hsteady.meanwhile hv
    have hfailed : Steady True c (v.startFailed target) :=
      hlater.display ⟨rfl⟩ hlater.deferred hlater.screens hlater.watched
    exact stopMediaUnlessConnected_ends hfailed

/-- The screen goes to a slot whose session was stopped. -/
theorem switchScreen_ends (h : Unwatched m c s) (hactive : s.app.activeIndex = old)
    (hoff : (s.slot target).rdp = none) :
    Ends (do
        Prog.act fun answer w => ((), w.switchToConnect target answer)
        if old = target then pure () else backgroundSlot old
        let started ← Prog.act fun answer w => w.slotConnect target false answer
        if started then pure ()
        else
          Prog.store fun w => w.startFailed target
          Prog.store LoopState.stopMediaUnlessConnected) (fun _ t => Steady True c t) s := by
  refine Ends.actThen fun t ht answer => ?_
  have hopening := switchToConnect_opening (h.meanwhile ht) ((ht.slot target).rdp.trans hoff) answer
  rw [ht.app.ui.activeIndex, hactive] at hopening
  split
  · rename_i hsame
    exact connectScreen_ends hopening.toAimed hopening.active fun j hj =>
      hopening.others j (hsame ▸ hj)
  · rename_i hne
    refine Ends.andThen (backgroundSlot_ends hopening.leaving
      (by rw [hopening.active]; exact Ne.symm hne) hopening.interactive) fun _ u hu => ?_
    refine connectScreen_ends (hopening.toAimed.beside hu.1)
      (hu.1.ui.activeIndex.trans hopening.active) fun j _ => ?_
    by_cases hj : j = old
    · subst hj
      exact hu.2
    · exact tidySlot_beside (hopening.others j hj) hu.1 hj

theorem drainConnect_ends (request : Option (ProfileRequest × Bool)) (h : AtRest s) :
    Ends (drainConnect request) (fun _ t => AtRest t) s := by
  cases request with
  | none => exact h
  | some request =>
    obtain ⟨r, requiresSave⟩ := request
    refine Ends.loadThen fun t ht => ?_
    split
    · exact h.meanwhile ht
    refine Ends.storeThen fun u hu => ?_
    have hsteady := h.meanwhile (ht.trans hu)
    have hasked : AtRest (u.onApp fun a =>
        { a with hubConnectTarget := if a.hubVisible then some r.slot else none }) :=
      hsteady.display ⟨rfl⟩ hsteady.deferred hsteady.screens hsteady.watched
    have hrest : ∀ v, AtRest v → Ends (do
        let old ← Prog.load fun w => w.app.activeIndex
        Prog.store fun w => w.stopSlot r.slot
        if r.endpointChanged then forgetRefresh r.slot else pure ()
        Prog.act fun answer w => ((), w.switchToConnect r.slot answer)
        if old = r.slot then pure () else backgroundSlot old
        let started ← Prog.act fun answer w => w.slotConnect r.slot false answer
        if started then pure ()
        else
          Prog.store fun w => w.startFailed r.slot
          Prog.store LoopState.stopMediaUnlessConnected) (fun _ t => AtRest t) v := by
      intro v hv
      refine Ends.loadThen fun w hw => Ends.storeThen fun x hx => ?_
      have hstopped := stopSlot_stopped x r.slot
      have hvacant := (hv.meanwhile (hw.trans hx)).unwatched.stopped hstopped
      have hold : (x.stopSlot r.slot).app.activeIndex = w.app.activeIndex :=
        hstopped.activeIndex.trans hx.app.ui.activeIndex
      cases r.endpointChanged with
      | true =>
        refine Ends.storeThen fun y hy => ?_
        refine switchScreen_ends ((hvacant.meanwhile hy).noted fun _ => ⟨_, _, _, rfl⟩)
          (hy.app.ui.activeIndex.trans hold) ?_
        rw [LoopState.modifySlot_same]
        exact (hy.slot r.slot).rdp.trans hstopped.ended.rdp
      | false => exact switchScreen_ends hvacant hold hstopped.ended.rdp
    cases requiresSave with
    | true =>
      exact Ends.andThen (reconfigureCapture_ends r.reconfigure hasked) fun _ v hv => hrest v hv
    | false => exact hrest _ hasked

end Connect

/-! ## One iteration -/

theorem hubActions_ends (requests : HubRequests) (h : AtRest s) :
    Ends (hubActions scan requests) (fun _ t => AtRest t) s :=
  Ends.andThen (drainNavigation_ends requests h) fun _ _ ht =>
    Ends.andThen (drainCaptureSave_ends _ ht) fun _ _ hu =>
      Ends.andThen (drainSave_ends _ hu) fun _ _ hv =>
        Ends.andThen (drainDelete_ends _ hv) fun _ _ hw => drainConnect_ends _ hw

theorem iterate_ends (input : Iteration) (h : AtRest s) :
    Ends (iterate scan input) (fun _ t => AtRest t) s :=
  Ends.andThen (handleEvents_ends input.events h) fun _ _ ht =>
    Ends.andThen (switchTick_ends ht) fun _ _ hu =>
      Ends.andThen (observedTick_ends hu) fun _ _ hv =>
        Ends.andThen (transitionTick_ends hv) fun _ _ hw =>
          Ends.andThen (drawCanvas_ends _ hw) fun _ _ hx =>
            Ends.andThen (hubActions_ends _ hx) fun _ _ hy => drawCanvas_ends _ hy

end Lgnome.Foreground
