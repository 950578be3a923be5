import Lgnome.Foreground.Handover
import Lgnome.Input.MixerOverlay
import Lgnome.Transition.Undisturbed

/-!
# The input beside the screen

What is held is followed through the handles of the slots and the session that input is
attached to, and the overlay through the buttons of the record. A slot that is stopped,
connected, switched to or given up does the same to them as it does to the application of
the SDL thread.
-/
namespace Lgnome.Input

open Lgnome.Native (SlotIndex Session App)
open Lgnome.Foreground (LoopState Answer Sdl)
open Lgnome.Transition.Prog (Comes)

/-! ## The SDL thread -/

/-- The input follows the handles of the application. -/
structure Follows (app : InputApp) (w : LoopState) : Prop where
  rdp : ∀ j, (w.slot j).rdp = app.rdp j
  activeIndex : w.app.activeIndex = app.activeIndex
  session : w.app.inputSession = app.input.session
  nextSession : w.nextSession = app.nextSession

variable {app : InputApp} {w : LoopState} {i target : SlotIndex} {Q : Answer → Prop}

/-- A callback changes no handle. -/
theorem Follows.served {b : App} (h : Follows app w) (hb : Foreground.Served i w.app b) :
    Follows app { w with app := b } where
  rdp j := by
    rw [← h.rdp j]
    by_cases hj : j = i
    · subst hj
      exact hb.slot.rdp
    · exact congrArg Native.Slot.rdp (hb.others j hj)
  activeIndex := hb.ui.activeIndex.trans h.activeIndex
  session := hb.ui.inputSession.trans h.session
  nextSession := h.nextSession

theorem stopSlot_follows (h : Follows app w) (i : SlotIndex) :
    Follows (app.stopSlot i) (w.stopSlot i) := by
  have hstopped := Foreground.stopSlot_stopped w i
  have hinput := hstopped.input
  rw [h.activeIndex, h.session] at hinput
  refine ⟨fun j => ?_, hstopped.ui.activeIndex.trans h.activeIndex, hinput.trans ?_,
    hstopped.nextSession.trans h.nextSession⟩
  · show _ = if j = i then none else app.rdp j
    split
    · subst j
      exact hstopped.ended.rdp
    · rename_i hj
      rw [hstopped.slots j hj, h.rdp j]
  · show _ = (if i = app.activeIndex then _ else app.input).session
    by_cases hactive : i = app.activeIndex
    · rw [if_pos hactive, if_pos hactive.symm]
    · rw [if_neg hactive, if_neg fun hsame => hactive hsame.symm]

theorem slotConnect_follows (h : Follows app w) (i : SlotIndex) (arm : Bool) (answer : Answer) :
    Follows (app.slotConnect i (w.slotConnect i arm answer).1) (w.slotConnect i arm answer).2 := by
  have hrenewed := Foreground.renewSlot_renewed w i arm answer
  have hactive : (w.renewSlot i arm answer).app.activeIndex = app.activeIndex :=
    hrenewed.ui.activeIndex.trans h.activeIndex
  have hinput := hrenewed.input
  rw [h.activeIndex, h.session] at hinput
  unfold LoopState.slotConnect
  dsimp only
  generalize w.renewSlot i arm answer = u at hrenewed hactive hinput ⊢
  cases answer.starts.failure with
  | none =>
    refine ⟨fun j => ?_, hactive, ?_, ?_⟩
    · show (u.slot j).rdp =
        if j = i then some app.nextSession else if j = i then none else app.rdp j
      split
      · subst j
        rw [hrenewed.rdp, h.nextSession]
      · rename_i hj
        rw [hrenewed.slots j hj, h.rdp j]
    · show (if u.app.activeIndex = i then (u.slot i).rdp else u.app.inputSession) =
        (if i = app.activeIndex then { active := false, session := some app.nextSession }
        else (app.stopSlot i).input).session
      rw [hactive]
      by_cases hsame : i = app.activeIndex
      · rw [if_pos hsame, if_pos hsame.symm, hrenewed.rdp, h.nextSession]
      · have hother : ¬app.activeIndex = i := fun heq => hsame heq.symm
        rw [if_neg hsame, if_neg hother, hinput, if_neg hother]
        show _ = (if i = app.activeIndex then _ else app.input).session
        rw [if_neg hsame]
    · show u.nextSession + 1 = app.nextSession + 1
      rw [hrenewed.nextSession, h.nextSession]
  | some state =>
    have hstopped : Follows (app.stopSlot i) (u.modifySlot i fun s => { s with rdp := none }) := by
      refine ⟨fun j => ?_, hactive, hinput.trans ?_, hrenewed.nextSession.trans h.nextSession⟩
      · show _ = if j = i then none else app.rdp j
        split
        · subst j
          rw [LoopState.modifySlot_same]
        · rename_i hj
          rw [LoopState.modifySlot_other _ _ hj, hrenewed.slots j hj, h.rdp j]
      · show _ = (if i = app.activeIndex then _ else app.input).session
        by_cases hsame : i = app.activeIndex
        · rw [if_pos hsame, if_pos hsame.symm]
        · rw [if_neg hsame, if_neg fun heq => hsame heq.symm]
    exact hstopped.served (Foreground.served_recordState _ i state)

theorem reconnectSlot_follows (h : Follows app w) (i : SlotIndex) (arm : Bool) (answer : Answer) :
    Follows (app.slotConnect i (w.reconnectSlot i arm answer).1)
      (w.reconnectSlot i arm answer).2 := by
  have hconnect := slotConnect_follows h i arm answer
  unfold LoopState.reconnectSlot
  dsimp only
  generalize w.slotConnect i arm answer = connected at hconnect ⊢
  obtain ⟨ok, u⟩ := connected
  cases ok with
  | true => exact hconnect
  | false => exact hconnect.served (Foreground.served_reportTerminal _ i .networkError)

theorem Follows.modifySlot (h : Follows app w) (i : SlotIndex) {f : Native.Slot → Native.Slot}
    (hrdp : (f (w.slot i)).rdp = (w.slot i).rdp) : Follows app (w.modifySlot i f) where
  rdp j := by
    rw [← h.rdp j]
    by_cases hj : j = i
    · subst hj
      rw [LoopState.modifySlot_same, hrdp]
    · rw [LoopState.modifySlot_other _ _ hj]
  activeIndex := h.activeIndex
  session := h.session
  nextSession := h.nextSession

theorem suppress_follows (h : Follows app w) (i : SlotIndex) : Follows app (w.suppress i) := by
  have htold : Follows app (w.setSuppressOutput i false) :=
    ⟨h.rdp, h.activeIndex, h.session, h.nextSession⟩
  exact htold.modifySlot i rfl

theorem awaitSnapshot_follows (h : Follows app w) (i : SlotIndex) :
    Comes Q (Foreground.awaitSnapshot i) (fun _ t => Follows app t) w := by
  refine Comes.loadThen ?_
  split
  · exact Comes.store (h.modifySlot i rfl)
  · exact Comes.store (suppress_follows h i)

theorem backgroundSlot_follows (h : Follows app w) (i : SlotIndex) :
    Comes Q (Foreground.backgroundSlot i)
      (fun _ t => ∃ reconnect, Follows (app.backgroundSlot i reconnect) t) w := by
  have hstays : Follows (app.backgroundSlot i none) w := by
    cases hrdp : app.rdp i <;> simpa [InputApp.backgroundSlot, hrdp] using h
  refine Comes.loadThen ?_
  split
  · exact ⟨none, hstays⟩
  rename_i hthere
  refine Comes.loadThen ?_
  split
  · refine Comes.actThen fun answer _ => ?_
    have hconnect := reconnectSlot_follows h i true answer
    generalize w.reconnectSlot i true answer = reconnected at hconnect ⊢
    obtain ⟨ok, u⟩ := reconnected
    have hgoes : app.backgroundSlot i (some ok) = app.slotConnect i ok := by
      have hsession : (app.rdp i).isSome := by
        rw [← h.rdp i]
        simp only [Bool.or_eq_true, not_or, Option.isNone_iff_eq_none] at hthere
        exact Option.isSome_iff_ne_none.mpr hthere.1
      obtain ⟨session, hsession⟩ := Option.isSome_iff_exists.mp hsession
      simp only [InputApp.backgroundSlot, hsession]
    rw [← hgoes] at hconnect
    dsimp only
    split
    · exact (awaitSnapshot_follows hconnect i).mono fun _ t ht => ⟨some ok, ht⟩
    · exact ⟨some ok, hconnect⟩
  · refine Comes.store ⟨none, ?_⟩
    have hsilenced := suppress_follows h i
    cases hrdp : app.rdp i <;> simpa [InputApp.backgroundSlot, hrdp] using hsilenced

variable {scan : Native.Scanner}

theorem resumeOutput_follows (h : Follows app w) (hrdp : (w.slot target).rdp.isSome) :
    Comes Q (Foreground.resumeOutput scan target) (fun _ t =>
      ∃ fresh : Option Bool, Follows (fresh.elim app (app.slotConnect target)) t) w := by
  have hresumed : Follows app (w.modifySlot target fun s => { s with suppressed := false }) :=
    h.modifySlot target rfl
  have hthere : ((w.modifySlot target fun s => { s with suppressed := false }).slot
      target).rdp.isSome := by
    rw [LoopState.modifySlot_same]
    exact hrdp
  refine Comes.storeThen ?_
  generalize (w.modifySlot target fun s => { s with suppressed := false }) = u at hresumed hthere ⊢
  have hreplayed : Comes Q (Foreground.snapshotReplay scan target)
      (fun _ t => Follows app t) u := by
    refine Comes.actThen fun answer _ => Comes.load ?_
    have hmoved : Foreground.Moved
        (u.app.modifySlot target fun s => { s with snapshot := {}, snapshotIdrReady := false })
        (u.app.snapshotReplay scan target answer.now (u.meanwhile answer.replay)).1 :=
      Foreground.moved_snapshotReplay answer.now answer.replay hthere
    have htaken : Follows app (u.modifySlot target fun s =>
        { s with snapshot := {}, snapshotIdrReady := false }) := hresumed.modifySlot target rfl
    refine ⟨fun j => ?_, hmoved.ui.activeIndex.trans htaken.activeIndex,
      hmoved.ui.inputSession.trans htaken.session, htaken.nextSession⟩
    exact (hmoved.slots j).rdp.trans (htaken.rdp j)
  have htold : ∀ v : LoopState, Follows app v → Follows app (v.setSuppressOutput target true) :=
    fun v hv => ⟨hv.rdp, hv.activeIndex, hv.session, hv.nextSession⟩
  refine hreplayed.andThen fun shown v hv => ?_
  split
  · exact Comes.store ⟨none, htold v hv⟩
  refine Comes.loadThen ?_
  split
  · exact ⟨none, hv⟩
  refine Comes.loadThen ?_
  split
  · exact Comes.actThen fun answer _ => ⟨some _, reconnectSlot_follows hv target false answer⟩
  · exact Comes.store ⟨none, htold v hv⟩

theorem handOver_follows (h : Follows app w) (target : SlotIndex) :
    Follows (app.retarget target) (w.handOver target).2 := by
  have hslots : ∀ j, ((w.handOver target).2.slot j).rdp = (w.slot j).rdp := by
    intro j
    show (((w.pauseCapture.app.publishOwner target).sessions j)).rdp = _
    have hpromoted : ∀ a : App, (a.promoteHubReturn target).sessions = a.sessions := by
      intro a
      unfold App.promoteHubReturn
      split
      · rfl
      · split_ifs <;> rfl
    unfold App.publishOwner
    dsimp only
    rw [hpromoted]
    split
    · by_cases hj : j = target
      · subst hj
        rw [App.modifySlot_same]
        rfl
      · rw [App.modifySlot_other _ _ _ hj]
        rfl
    · rfl
  refine ⟨fun j => (hslots j).trans (h.rdp j), rfl, ?_, h.nextSession⟩
  exact (hslots target).trans (h.rdp target)

theorem backgroundSlot_other {j : SlotIndex} (hj : j ≠ i) (reconnect : Option Bool) :
    (app.backgroundSlot i reconnect).rdp j = app.rdp j := by
  unfold InputApp.backgroundSlot
  split
  · unfold InputApp.slotConnect InputApp.stopSlot
    dsimp only
    split <;> simp [hj]
  · rfl

/-- The input goes where the screen goes. -/
theorem completeSessionSwitch_follows (h : Follows app w) : Comes Q
    (Foreground.completeSessionSwitch scan target) (fun ok t =>
      if ok then ∃ background fresh,
        Follows (app.completeSessionSwitch target background fresh).1 t
      else Follows app t) w := by
  refine Comes.loadThen ?_
  split
  · exact h
  rename_i hlive
  have hthere : (app.rdp target).isSome := by
    rw [← h.rdp target]
    simp only [Bool.not_eq_true', Bool.not_eq_false, Bool.and_eq_true] at hlive
    exact hlive.1
  refine Comes.loadThen ?_
  split
  · rename_i hsame
    refine ⟨none, none, ?_⟩
    rw [InputApp.completeSessionSwitch, if_pos (h.activeIndex.symm.trans hsame)]
    exact h
  rename_i hother
  rw [h.activeIndex] at hother ⊢
  refine Comes.actThen fun answer _ => Comes.loadThen (Comes.actThen fun _ _ => ?_)
  have hflushed : Follows app.flushHeldInputs.1 ((w.hideMixerOverlay answer).onApp fun a =>
      { a with pendingSwitchTarget := none }) :=
    ⟨h.rdp, h.activeIndex, h.session, h.nextSession⟩
  have hhanded := handOver_follows hflushed target
  dsimp only
  generalize ((w.hideMixerOverlay answer).onApp fun a => { a with pendingSwitchTarget := none }) = u
    at hhanded ⊢
  refine (backgroundSlot_follows hhanded app.activeIndex).andThen fun _ x hx => Comes.loadThen ?_
  obtain ⟨background, hx⟩ := hx
  have hends : ∀ fresh : Option Bool, (app.completeSessionSwitch target background fresh).1 =
      fresh.elim
        ((app.flushHeldInputs.1.retarget target).backgroundSlot app.activeIndex background)
        (((app.flushHeldInputs.1.retarget target).backgroundSlot app.activeIndex
          background).slotConnect target) := by
    intro fresh
    rw [InputApp.completeSessionSwitch, if_neg hother]
    cases fresh with
    | none => rfl
    | some started => rfl
  have hwatched : ∀ (y : LoopState) (fresh : Option Bool) (baseline deadline : UInt32),
      Follows (app.completeSessionSwitch target background fresh).1 y →
      Follows (app.completeSessionSwitch target background fresh).1 (y.onApp fun a =>
        { a with
          switchBaselineFrames := baseline
          switchDeadlineTicks := deadline
          switchReconnectUsed := false }) :=
    fun y fresh baseline deadline hy => ⟨hy.rdp, hy.activeIndex, hy.session, hy.nextSession⟩
  split
  · have hsession : (x.slot target).rdp.isSome := by
      rw [hx.rdp target, backgroundSlot_other (Ne.symm hother)]
      exact hthere
    refine (resumeOutput_follows hx hsession).andThen fun _ y hy => ?_
    obtain ⟨fresh, hy⟩ := hy
    refine Comes.actThen fun answer _ => ⟨background, fresh, hwatched y fresh _ _ ?_⟩
    rw [hends]
    exact hy
  · refine Comes.actThen fun answer _ => ⟨background, none, hwatched x none _ _ ?_⟩
    rw [hends]
    exact hx

theorem leaveScreen_follows (h : Follows app w) :
    Comes Q (Foreground.leaveScreen app.activeIndex)
      (fun _ t => Follows app.failActiveSlot.1 t) w := by
  have hreleased : Follows app.stopStreamingInput.1 w :=
    ⟨h.rdp, h.activeIndex, h.session, h.nextSession⟩
  have hstopped := stopSlot_follows hreleased app.activeIndex
  exact Comes.store ⟨hstopped.rdp, hstopped.activeIndex, hstopped.session, hstopped.nextSession⟩

theorem findSurvivor_same (js : List SlotIndex) (found : Option SlotIndex) :
    Comes Q (Foreground.findSurvivor i js found) (fun _ t => t = w) w := by
  induction js generalizing found with
  | nil => rfl
  | cons j rest ih => exact Comes.loadThen (ih _)

/-- The failed slot is stopped, on screen with the input or behind a switch. -/
def GivenUp (app : InputApp) (i : SlotIndex) (w : LoopState) : Prop :=
  Follows (app.stopSlot i) w ∨ (app.activeIndex = i ∧ Follows app.failActiveSlot.1 w) ∨
    ∃ j background fresh,
      Follows ((app.completeSessionSwitch j background fresh).1.stopSlot i) w

theorem GivenUp.unseen {w' : LoopState} (h : GivenUp app i w)
    (hsame : ∀ {app}, Follows app w → Follows app w') : GivenUp app i w' := by
  rcases h with h | ⟨hactive, h⟩ | ⟨j, background, fresh, h⟩
  · exact .inl (hsame h)
  · exact .inr (.inl ⟨hactive, hsame h⟩)
  · exact .inr (.inr ⟨j, background, fresh, hsame h⟩)

theorem drainActive_follows (h : Follows app w) (hactive : app.activeIndex = i) :
    Comes Q (Foreground.drainActive scan i) (fun _ t => GivenUp app i t) w := by
  subst hactive
  refine (findSurvivor_same Foreground.slots none).andThen fun survivor u hu => Comes.loadThen ?_
  subst hu
  cases survivor with
  | none => exact (leaveScreen_follows h).mono fun _ t ht => .inr (.inl ⟨rfl, ht⟩)
  | some j =>
    dsimp only
    split
    · refine (completeSessionSwitch_follows h).andThen fun ok v hv => ?_
      cases ok with
      | true =>
        obtain ⟨background, fresh, hv⟩ := hv
        exact Comes.store (.inr (.inr ⟨j, background, fresh, stopSlot_follows hv _⟩))
      | false => exact (leaveScreen_follows hv).mono fun _ t ht => .inr (.inl ⟨rfl, ht⟩)
    · exact Comes.store (.inl (stopSlot_follows h _))

/-- The supervisor gives up a slot that failed, and leaves another alone. -/
theorem drainSlot_follows (h : Follows app w) : Comes Q (Foreground.drainSlot scan i)
    (fun _ t => if (w.slot i).sessionFailed then GivenUp app i t else Follows app t) w := by
  have hmedia : ∀ {app : InputApp} {v : LoopState}, Follows app v →
      Follows app v.stopMediaUnlessConnected := by
    intro app v hv
    unfold LoopState.stopMediaUnlessConnected
    split <;> exact ⟨hv.rdp, hv.activeIndex, hv.session, hv.nextSession⟩
  refine Comes.loadThen ?_
  split
  · refine Comes.storeThen ?_
    have hforgot : Follows app (w.onApp fun a => { a with
        hubConnectTarget := if a.hubConnectTarget = some i then none else a.hubConnectTarget }) :=
      ⟨h.rdp, h.activeIndex, h.session, h.nextSession⟩
    generalize (w.onApp fun a => { a with
      hubConnectTarget := if a.hubConnectTarget = some i then none else a.hubConnectTarget }) = u
      at hforgot ⊢
    refine Comes.loadThen ?_
    split
    · rename_i hactive
      have hactive := hforgot.activeIndex.symm.trans (of_decide_eq_true hactive)
      refine (drainActive_follows hforgot hactive).andThen fun _ t ht => Comes.store ?_
      exact ht.unseen hmedia
    · exact Comes.storeThen (Comes.store (.inl (hmedia (stopSlot_follows hforgot i))))
  · exact h

/-! ## The overlay -/

/-- The overlay and the input have one record of the buttons, and an armed input is attached. -/
structure Records (app : InputApp) (s : Mixer) : Prop where
  heldMouse : s.heldMouse = app.heldMouse
  inputActive : s.inputActive = app.input.active
  attached : app.input.active → app.input.session.isSome

/-- The buttons among what is sent. -/
def sentButtons (sent : List InputStroke) : List (NativeInputButton × Bool) :=
  sent.filterMap fun stroke =>
    match stroke.item with
    | .button b => some (b, stroke.down)
    | .key .. => none

/-- What the overlay says of them. -/
def SentButton.edge (sent : SentButton) : NativeInputButton × Bool := (sent.button, sent.down)

variable {s : Mixer}

theorem send_recorded (h : Records app s) (b : NativeInputButton) (down pressedOpen : Bool) :
    (s.send ⟨b, down, pressedOpen⟩).map SentButton.edge =
      sentButtons (app.send (.button b) down) := by
  unfold Mixer.send InputApp.send InputApp.ready sentButtons
  rw [h.inputActive]
  cases hactive : app.input.active with
  | false => rfl
  | true =>
    obtain ⟨session, hsession⟩ := Option.isSome_iff_exists.mp (h.attached hactive)
    rw [hsession]
    rfl

theorem sentButtons_append (sent more : List InputStroke) :
    sentButtons (sent ++ more) = sentButtons sent ++ sentButtons more := List.filterMap_append

theorem released_recorded (h : Records app s) (bs : List NativeInputButton) :
    ((bs.filter s.heldMouse).flatMap fun n =>
        s.send ⟨n, false, s.devices.pressedOpen n.sdl⟩).map SentButton.edge =
      sentButtons (((bs.map HeldInput.button).filter app.held).flatMap
        fun i => app.send i false) := by
  induction bs with
  | nil => rfl
  | cons b rest ih =>
    have hheld : app.held (.button b) = s.heldMouse b := by rw [h.heldMouse]; rfl
    rw [List.map_cons, List.filter_cons, List.filter_cons, hheld]
    split
    · rw [List.flatMap_cons, List.flatMap_cons, List.map_append, sentButtons_append,
        send_recorded h, ih]
    · exact ih

/-- No key is a button. -/
theorem sentButtons_keys (keys : List HeldInput) (hkeys : ∀ i ∈ keys, ∃ c e, i = .key c e) :
    sentButtons (keys.flatMap fun i => app.send i false) = [] := by
  refine List.filterMap_eq_nil_iff.mpr fun stroke hmem => ?_
  obtain ⟨i, hi, hsent⟩ := List.mem_flatMap.mp hmem
  obtain ⟨c, e, rfl⟩ := hkeys i hi
  obtain ⟨session, -, rfl⟩ := List.mem_map.mp hsent
  rfl

theorem flushHeldInputs_recorded (h : Records app s) :
    Records app.flushHeldInputs.1 s.flushHeldInputs.1 ∧
      s.flushHeldInputs.2.map SentButton.edge = sentButtons app.flushHeldInputs.2 := by
  refine ⟨⟨rfl, h.inputActive, h.attached⟩, ?_⟩
  refine (released_recorded h Mixer.recordOrder).trans ?_
  have hsplit : allInputs = Mixer.recordOrder.map HeldInput.button ++
      [false, true].flatMap fun extended =>
        (List.range 256).map fun scancode => .key (UInt8.ofNat scancode) extended := rfl
  have hkeys : sentButtons ((([false, true].flatMap fun extended =>
      (List.range 256).map fun scancode =>
        HeldInput.key (UInt8.ofNat scancode) extended).filter app.held).flatMap
          fun i => app.send i false) = [] := by
    refine sentButtons_keys _ fun i hi => ?_
    obtain ⟨extended, -, hi⟩ := List.mem_flatMap.mp (List.mem_of_mem_filter hi)
    obtain ⟨scancode, -, rfl⟩ := List.mem_map.mp hi
    exact ⟨_, _, rfl⟩
  show _ = sentButtons ((allInputs.filter app.held).flatMap fun i => app.send i false)
  rw [hsplit, List.filter_append, List.flatMap_append, sentButtons_append, hkeys, List.append_nil]

theorem pointerButton_recorded (h : Records app s) {b : SdlButton} {n : NativeInputButton}
    (hb : nativeButtonFromSdl b = some n) (down pressedOpen : Bool) :
    Records (app.pointerButton n down).1 (s.pointerButton b down pressedOpen).1 ∧
      (s.pointerButton b down pressedOpen).2.map SentButton.edge =
        sentButtons (app.pointerButton n down).2 := by
  unfold Mixer.pointerButton InputApp.pointerButton InputApp.trackButton
  rw [hb]
  refine ⟨⟨?_, h.inputActive, h.attached⟩, send_recorded h n down pressedOpen⟩
  show (fun m => if m = n then down else s.heldMouse m) = _
  rw [h.heldMouse]

theorem stopStreamingInput_recorded (h : Records app s) (reads : Nat → Bool) :
    Records app.stopStreamingInput.1 (s.stopStreamingInput reads).1 ∧
      (s.stopStreamingInput reads).2.map SentButton.edge =
        sentButtons app.stopStreamingInput.2 := by
  have hflushed := flushHeldInputs_recorded h
  exact ⟨⟨hflushed.1.heldMouse, rfl, nofun⟩, hflushed.2⟩

/-- A connect arms no input, and the record stays. -/
theorem slotConnect_idle (hidle : app.input.active = false) (i : SlotIndex) (started : Bool) :
    (app.slotConnect i started).input.active = false ∧
      (app.slotConnect i started).heldMouse = app.heldMouse := by
  have hstopped : (app.stopSlot i).input.active = false := by
    show (if i = app.activeIndex then _ else app.input).active = false
    split
    · rfl
    · exact hidle
  unfold InputApp.slotConnect
  cases started with
  | false => exact ⟨hstopped, rfl⟩
  | true =>
    refine ⟨?_, rfl⟩
    show (if i = app.activeIndex then _ else (app.stopSlot i).input).active = false
    split
    · rfl
    · exact hstopped

/-- The overlay's switch of sessions is the input's. -/
theorem completeSessionSwitch_recorded (h : Records app s) (hother : app.activeIndex ≠ target)
    (background fresh : Option Bool) :
    Records (app.completeSessionSwitch target background fresh).1 s.completeSessionSwitch.1 ∧
      s.completeSessionSwitch.2.map SentButton.edge =
        sentButtons (app.completeSessionSwitch target background fresh).2 := by
  have hhidden : Records app s.hide := by
    have hclosed : Records app s.closed := by
      unfold Mixer.closed Mixer.evdevInputStart
      split_ifs <;> exact ⟨h.heldMouse, h.inputActive, h.attached⟩
    unfold Mixer.hide
    split_ifs
    · exact ⟨h.heldMouse, h.inputActive, h.attached⟩
    · exact hclosed
    · exact h
  have hflushed := flushHeldInputs_recorded hhidden
  have hdemoted : ((app.flushHeldInputs.1.retarget target).backgroundSlot app.activeIndex
      background).input.active = false ∧ ((app.flushHeldInputs.1.retarget target).backgroundSlot
        app.activeIndex background).heldMouse = app.flushHeldInputs.1.heldMouse := by
    unfold InputApp.backgroundSlot
    split
    · exact slotConnect_idle rfl _ _
    · exact ⟨rfl, rfl⟩
  have hswitched : (app.completeSessionSwitch target background fresh).1.input.active = false ∧
      (app.completeSessionSwitch target background fresh).1.heldMouse =
        app.flushHeldInputs.1.heldMouse := by
    rw [InputApp.completeSessionSwitch, if_neg hother]
    cases fresh with
    | none => exact hdemoted
    | some started =>
      obtain ⟨hidle, hrecord⟩ := slotConnect_idle hdemoted.1 target started
      exact ⟨hidle, hrecord.trans hdemoted.2⟩
  refine ⟨⟨hflushed.1.heldMouse.trans hswitched.2.symm, hswitched.1.symm, fun hactive => ?_⟩, ?_⟩
  · rw [hswitched.1] at hactive
    cases hactive
  · rw [InputApp.completeSessionSwitch, if_neg hother]
    exact hflushed.2

end Lgnome.Input
