import Lgnome.Foreground.Moved

/-!
# What holds between two iterations

Every slot is tidy: its flags agree with each other and with the last command to
its server. The slot on screen is neither silenced nor filling a cache. Input,
capture and ducking follow it.
-/
namespace Lgnome.Foreground

open Lgnome.Native Lgnome.Native.App
open Lgnome.Transition (Prog Contract)

/-! ## Slots -/

/-- The flags of a slot agree. `sent` is the last command, `wiped` whether a cache was ever wiped
while it was public. -/
structure Tidy (s : Slot) (sent wiped : Bool) : Prop where
  pending : s.snapshotPending → s.suppressed = false
  armed : s.snapshot.armed → s.snapshotPending ∨ s.suppressed ∨ s.sessionFailed
  ready : s.snapshotIdrReady → wiped ∨ s.snapshot.ready
  commanded : s.rdp.isSome → s.sessionFailed ∨ s.suppressed = sent
  offline : s.rdp = none → s.suppressed = false ∧ s.snapshotPending = false

/-- The slot on screen. -/
structure OnScreen (s : Slot) : Prop where
  suppressed : s.suppressed = false
  pending : s.snapshotPending = false
  armed : s.snapshot.armed → s.sessionFailed

/-- A slot about to leave the screen. Its server may have been silenced already. -/
structure Leaving (s : Slot) (sent wiped : Bool) : Prop where
  pending : s.snapshotPending = false
  armed : s.snapshot.armed → s.suppressed ∨ s.sessionFailed
  ready : s.snapshotIdrReady → wiped ∨ s.snapshot.ready
  commanded : s.rdp.isSome → s.suppressed → s.sessionFailed ∨ sent = true
  offline : s.rdp = none → s.suppressed = false

/-- A slot whose session was just started, with its cache armed or not. -/
structure Fresh (s : Slot) (sent : Bool) : Prop where
  rdp : s.rdp.isSome
  pending : s.snapshotPending = false
  suppressed : s.suppressed = false
  ready : s.snapshotIdrReady → s.snapshot.ready
  sent : sent = false

/-- A slot without a session. -/
structure Ended (s : Slot) : Prop where
  rdp : s.rdp = none
  pending : s.snapshotPending = false
  suppressed : s.suppressed = false
  idrReady : s.snapshotIdrReady = false
  armed : s.snapshot.armed → s.sessionFailed

section Slots

variable {s t : Slot} {sent wiped wiped' : Bool}

/-- Workers publish only what is ready. -/
theorem SlotServed.stillReady (hm : SlotServed s t)
    (h : s.snapshotIdrReady → wiped ∨ s.snapshot.ready) (hr : t.snapshotIdrReady) :
    wiped ∨ t.snapshot.ready := by
  cases wiped with
  | true => exact .inl rfl
  | false => exact .inr (hm.ready (fun hidr => (h hidr).resolve_left Bool.false_ne_true) hr)

theorem Tidy.served (h : Tidy s sent wiped) (hm : SlotServed s t) : Tidy t sent wiped where
  pending hp := hm.suppressed.trans (h.pending (hm.snapshotPending ▸ hp))
  armed ha := by
    rw [hm.snapshotPending, hm.suppressed]
    rcases h.armed (hm.armed ha) with hp | hs | hf
    · exact .inl hp
    · exact .inr (.inl hs)
    · exact .inr (.inr (hm.failed hf))
  ready := hm.stillReady h.ready
  commanded hr := by
    rw [hm.suppressed]
    exact (h.commanded (hm.rdp ▸ hr)).imp_left hm.failed
  offline hr := by
    rw [hm.suppressed, hm.snapshotPending]
    exact h.offline (hm.rdp ▸ hr)

theorem Tidy.moved (h : Tidy s sent wiped) (hm : SlotMoved s t) : Tidy t sent wiped :=
  h.served hm.toSlotServed

theorem Tidy.wipe (h : Tidy s sent wiped) (hw : wiped → wiped') : Tidy s sent wiped' :=
  { h with ready := fun hr => (h.ready hr).imp_left hw }

theorem OnScreen.served (h : OnScreen s) (hm : SlotServed s t) : OnScreen t where
  suppressed := hm.suppressed.trans h.suppressed
  pending := hm.snapshotPending.trans h.pending
  armed ha := hm.failed (h.armed (hm.armed ha))

theorem OnScreen.moved (h : OnScreen s) (hm : SlotMoved s t) : OnScreen t :=
  h.served hm.toSlotServed

theorem Leaving.moved (h : Leaving s sent wiped) (hm : SlotMoved s t) : Leaving t sent wiped where
  pending := hm.snapshotPending.trans h.pending
  armed ha := by
    rw [hm.suppressed]
    exact (h.armed (hm.armed ha)).imp_right hm.failed
  ready := hm.stillReady h.ready
  commanded hr hs := (h.commanded (hm.rdp ▸ hr) (hm.suppressed ▸ hs)).imp_left hm.failed
  offline hr := hm.suppressed.trans (h.offline (hm.rdp ▸ hr))

theorem Fresh.moved (h : Fresh s sent) (hm : SlotMoved s t) : Fresh t sent where
  rdp := by rw [hm.rdp]; exact h.rdp
  pending := hm.snapshotPending.trans h.pending
  suppressed := hm.suppressed.trans h.suppressed
  ready := hm.ready h.ready
  sent := h.sent

theorem Ended.moved (h : Ended s) (hm : SlotMoved s t) : Ended t := by
  rw [hm.offline h.rdp]
  exact h

theorem Tidy.leaving (h : Tidy s sent wiped) (hs : OnScreen s) : Leaving s sent wiped where
  pending := hs.pending
  armed ha := .inr (hs.armed ha)
  ready := h.ready
  commanded _ hsuppressed := by
    rw [hs.suppressed] at hsuppressed
    cases hsuppressed
  offline _ := hs.suppressed

theorem Ended.tidy (h : Ended s) : Tidy s sent wiped where
  pending _ := h.suppressed
  armed ha := .inr (.inr (h.armed ha))
  ready hr := by
    rw [h.idrReady] at hr
    cases hr
  commanded hr := by
    rw [h.rdp] at hr
    cases hr
  offline _ := ⟨h.suppressed, h.pending⟩

theorem Ended.onScreen (h : Ended s) : OnScreen s := ⟨h.suppressed, h.pending, h.armed⟩

theorem Fresh.tidy (h : Fresh s sent) (harmed : s.snapshot.armed = false) : Tidy s sent wiped where
  pending _ := h.suppressed
  armed ha := by
    rw [harmed] at ha
    cases ha
  ready hr := .inr (h.ready hr)
  commanded _ := .inr (h.suppressed.trans h.sent.symm)
  offline hr := by
    have hrdp := h.rdp
    rw [hr] at hrdp
    cases hrdp

theorem Fresh.onScreen (h : Fresh s sent) (harmed : s.snapshot.armed = false) : OnScreen s where
  suppressed := h.suppressed
  pending := h.pending
  armed ha := by
    rw [harmed] at ha
    cases ha

end Slots

/-! ## The application -/

/-- The slot is tidy, and fit to be seen if it is on screen. -/
structure Good (w : LoopState) (i : SlotIndex) : Prop where
  tidy : Tidy (w.slot i) (w.sentSuppress i) w.wipedReady
  onScreen : w.app.activeIndex = i → OnScreen (w.slot i)

/-- Media is open only beside a session, or one whose end is still to be drained. -/
def MediaHeld (w : LoopState) : Prop :=
  w.app.media → ∃ i, (w.slot i).rdp.isSome ∨ (w.slot i).sessionFailed

/-- Every slot has a session of its own, and the next one is another. -/
structure Handles (w : LoopState) : Prop where
  known : ∀ i session, (w.slot i).rdp = some session → session < w.nextSession
  distinct : ∀ i j session, (w.slot i).rdp = some session → (w.slot j).rdp = some session → i = j

/-- The capture manager serves the slot on screen. -/
def CaptureFollows (w : LoopState) : Prop :=
  ∀ foreground, w.app.captureForeground = some foreground → foreground = some w.app.activeIndex

/-- What is shown is a session, or one that has failed. -/
def Watched (a : App) (stranded : Bool) : Prop :=
  a.streamingVisible → stranded ∨ a.activeSlot.rdp.isSome ∨ a.activeSlot.sessionFailed

/-- What a supervisor tick has to leave: the slots that had failed without a session or a flag,
a session on screen, and no media without any session. -/
structure Supervised.Ok (tick : Supervised) (stranded : Bool) : Prop where
  drained : ∀ i, tick.failedBefore i →
    (tick.after.sessions i).rdp = none ∧ (tick.after.sessions i).sessionFailed = false
  watched : Watched tick.after stranded
  media : (∀ i, (tick.after.sessions i).rdp = none) → tick.after.media = false

/-- Ducking and the capture follow the slot on screen, whatever becomes of its session. Of media
it speaks if `m`, of the capture if `c`. -/
structure Aimed (m c : Prop) (w : LoopState) : Prop where
  interactive : w.app.interactiveUi
  duck : w.app.duckForeground = w.app.activeIndex
  deferred : w.app.pendingSwitchTarget ≠ some w.app.activeIndex
  screens : w.app.streamingVisible → w.app.hubVisible = false
  supervised : ∀ tick ∈ w.supervised, tick.Ok w.stranded
  handles : Handles w
  media : m → MediaHeld w
  capture : c → CaptureFollows w

/-- The session on screen has the input, and is there to be seen. -/
structure Routed (m c : Prop) (w : LoopState) : Prop extends Aimed m c w where
  input : w.app.inputSession = w.app.activeSlot.rdp
  watched : Watched w.app w.stranded

/-- The invariant of the SDL thread. -/
structure Steady (m c : Prop) (w : LoopState) : Prop extends Routed m c w where
  good : ∀ i, Good w i

/-- What holds between two iterations. -/
abbrev AtRest : LoopState → Prop := Steady True True

section Stability

variable {s t : LoopState} {m c : Prop} {i : SlotIndex}

theorem Good.meanwhile (h : Good s i) (hm : Meanwhile s t) : Good t i where
  tidy := by
    rw [hm.sentSuppress, hm.wipedReady]
    exact h.tidy.moved (hm.slot i)
  onScreen ha := (h.onScreen (hm.app.ui.activeIndex ▸ ha)).moved (hm.slot i)

theorem MediaHeld.meanwhile (h : MediaHeld s) (hm : Meanwhile s t) : MediaHeld t := by
  intro hmedia
  rcases hm.app.media hmedia with hmedia | ⟨i, hi⟩
  · obtain ⟨i, hi⟩ := h hmedia
    exact ⟨i, hi.imp (fun hr => by rw [(hm.slot i).rdp]; exact hr) (hm.slot i).failed⟩
  · refine ⟨i, .inl ?_⟩
    rw [(hm.slot i).rdp]
    exact hi

/-- The same handles in the same slots. -/
theorem Handles.kept (h : Handles s) (hnext : t.nextSession = s.nextSession)
    (hrdp : ∀ i, (t.slot i).rdp = (s.slot i).rdp) : Handles t where
  known i session hi := by
    rw [hnext]
    exact h.known i session (by rw [← hrdp]; exact hi)
  distinct i j session hi hj := h.distinct i j session (by rw [← hrdp]; exact hi)
    (by rw [← hrdp]; exact hj)

theorem Handles.meanwhile (h : Handles s) (hm : Meanwhile s t) : Handles t :=
  h.kept hm.nextSession fun i => (hm.slot i).rdp

theorem CaptureFollows.meanwhile (h : CaptureFollows s) (hm : Meanwhile s t) :
    CaptureFollows t := by
  intro foreground hf
  rw [hm.app.ui.activeIndex]
  exact h foreground (hm.app.ui.captureForeground ▸ hf)

theorem Watched.moved {a b : App} {stranded : Bool} (h : Watched a stranded) (hm : Moved a b) :
    Watched b stranded := by
  intro hv
  have hslot := hm.slots a.activeIndex
  unfold activeSlot
  rw [hm.ui.activeIndex, hslot.rdp]
  exact (h (hm.ui.streamingVisible ▸ hv)).imp_right (.imp_right hslot.failed)

theorem Aimed.meanwhile (h : Aimed m c s) (hm : Meanwhile s t) : Aimed m c t where
  interactive := by rw [hm.app.ui.interactiveUi]; exact h.interactive
  duck := by rw [hm.app.ui.duckForeground, hm.app.ui.activeIndex]; exact h.duck
  deferred := by rw [hm.app.ui.pendingSwitchTarget, hm.app.ui.activeIndex]; exact h.deferred
  screens hv := by
    rw [hm.app.ui.hubVisible]
    exact h.screens (hm.app.ui.streamingVisible ▸ hv)
  supervised := by rw [hm.supervised, hm.stranded]; exact h.supervised
  handles := h.handles.meanwhile hm
  media hmedia := (h.media hmedia).meanwhile hm
  capture hcapture := (h.capture hcapture).meanwhile hm

theorem Routed.meanwhile (h : Routed m c s) (hm : Meanwhile s t) : Routed m c t where
  toAimed := h.toAimed.meanwhile hm
  input := by
    unfold activeSlot
    rw [hm.app.ui.inputSession, hm.app.ui.activeIndex, (hm.app.slots _).rdp]
    exact h.input
  watched := by rw [hm.stranded]; exact h.watched.moved hm.app

theorem Steady.meanwhile (h : Steady m c s) (hm : Meanwhile s t) : Steady m c t :=
  ⟨h.toRouted.meanwhile hm, fun i => (h.good i).meanwhile hm⟩

end Stability

/-- The SDL thread relies on the workers' callbacks and is at rest between iterations. -/
def contract : Contract Party LoopState :=
  meanwhile AtRest fun _ _ hm h => h.meanwhile hm

/-- A state of the SDL thread from which a program of its ends with `post`. -/
abbrev Ends {α : Type} (q : Sdl α) (post : α → LoopState → Prop) (s : LoopState) : Prop :=
  contract.Safe .sdl q post s

section Rules

variable {α β : Type} {s : LoopState} {post : α → LoopState → Prop} {last : β → LoopState → Prop}

theorem Ends.pure {a : α} (h : post a s) : Ends (pure a) post s := h

theorem Ends.store {f : LoopState → LoopState} {post : Unit → LoopState → Prop}
    (h : ∀ t, Meanwhile s t → post () (f t)) : Ends (Prog.store f) post s :=
  Contract.Safe.store fun t hrely _ => ⟨trivial, fun hne => absurd rfl hne, h t (hrely rfl)⟩

theorem Ends.load {f : LoopState → α} (h : ∀ t, Meanwhile s t → post (f t) t) :
    Ends (Prog.load f) post s :=
  Contract.Safe.load fun t hrely _ => h t (hrely rfl)

theorem Ends.act {f : Answer → LoopState → α × LoopState}
    (h : ∀ t, Meanwhile s t → ∀ answer, post (f answer t).1 (f answer t).2) :
    Ends (Prog.act f) post s :=
  Contract.Safe.act fun t hrely _ answer =>
    ⟨trivial, fun hne => absurd rfl hne, h t (hrely rfl) answer⟩

/-- One program after another. -/
theorem Ends.andThen {q : Sdl α} {next : α → Sdl β} (h : Ends q post s)
    (hnext : ∀ a t, post a t → Ends (next a) last t) : Ends (q >>= next) last s :=
  Contract.Safe.seq h hnext

theorem Ends.loadThen {f : LoopState → α} {next : α → Sdl β}
    (h : ∀ t, Meanwhile s t → Ends (next (f t)) last t) : Ends (Prog.load f >>= next) last s :=
  Contract.Safe.bind (Ends.load h)

theorem Ends.storeThen {f : LoopState → LoopState} {next : Unit → Sdl β}
    (h : ∀ t, Meanwhile s t → Ends (next ()) last (f t)) : Ends (Prog.store f >>= next) last s := by
  have hstored : Ends (Prog.store f) (fun u t => Ends (next u) last t) s := Ends.store h
  exact Contract.Safe.bind hstored

theorem Ends.actThen {f : Answer → LoopState → α × LoopState} {next : α → Sdl β}
    (h : ∀ t, Meanwhile s t → ∀ answer, Ends (next (f answer t).1) last (f answer t).2) :
    Ends (Prog.act f >>= next) last s :=
  Contract.Safe.bind (Ends.act h)

/-- A loop whose body keeps an assertion keeps it. -/
theorem Ends.forSlots {body : SlotIndex → Sdl Unit} {I : LoopState → Prop}
    (hbody : ∀ i t, I t → Ends (body i) (fun _ => I) t) (h : I s) (list : List SlotIndex) :
    Ends (forSlots body list) (fun _ => I) s := by
  induction list generalizing s with
  | nil => exact h
  | cons i rest ih => exact Ends.andThen (hbody i s h) fun _ _ ht => ih ht

end Rules

end Lgnome.Foreground
