import Lgnome.Foreground.Requests
import Lgnome.Native.Annexb

/-!
# Every run of the loop

Each iteration leads from rest to rest, whatever the workers do in between. At
rest the flags of the slots agree unless a public cache was wiped, and everything
follows the slot on screen unless that slot was stranded.
-/
namespace Lgnome.Foreground

open Lgnome.Native Lgnome.Native.App
open Lgnome.Transition (Prog Machine Config Turn parties Contract)

variable {scan : Scanner}

/-! ## Rest -/

theorem atRest_started (initialHubSlot : SlotIndex) (snapshotForce manager : Bool) :
    AtRest (started initialHubSlot snapshotForce manager) where
  interactive := rfl
  duck := rfl
  deferred := fun hnone => nomatch hnone
  screens := fun hv => nomatch hv
  supervised := fun _ htick => nomatch htick
  handles := ⟨(fun _ _ hrdp => nomatch hrdp), fun _ _ _ hrdp => nomatch hrdp⟩
  media := fun _ hopen => nomatch hopen
  capture _ foreground hmanaged := by
    cases manager with
    | false => exact nomatch hmanaged
    | true => exact (Option.some.inj hmanaged).symm
  input := rfl
  watched := fun hv => nomatch hv
  good i :=
    { tidy := ⟨(fun hp => nomatch hp), (fun ha => nomatch ha), (fun hr => nomatch hr),
        (fun hr => nomatch hr), fun _ => ⟨rfl, rfl⟩⟩
      onScreen := fun _ => ⟨rfl, rfl, fun ha => nomatch ha⟩ }

/-- A callback keeps what the SDL thread relies on. -/
theorem callBack_safe (i : SlotIndex) (callback : Callback) (s : LoopState) :
    contract.Safe (.worker i) (perform scan (.worker i) callback)
      (fun _ => contract.rest (.worker i)) s :=
  Contract.Safe.store fun t _ _ =>
    ⟨trivial, fun _ => Meanwhile.callBack scan t i callback, fun hsdl => nomatch hsdl⟩

variable {initialHubSlot : SlotIndex} {snapshotForce manager : Bool}
  {tr : List (Turn Party Answer Duty × Unit)} {s : Config Party Answer LoopState}

/-- Between two iterations of any run the SDL thread is at rest. -/
theorem atRest_run (h : (sdlLoop scan initialHubSlot snapshotForce manager).Run tr s)
    (hrest : s.running .sdl = none) : AtRest s.shared := by
  have hkept := Contract.kept_run (C := contract) trivial
    (fun _ _ => atRest_started initialHubSlot snapshotForce manager) (fun p c t _ ht => by
      cases p with
      | sdl => exact (iterate_ends c (ht rfl)).mono fun _ _ hu _ => hu
      | worker i => exact callBack_safe i c t) h
  have hstanding := hkept.standing .sdl
  rw [hrest] at hstanding
  exact hstanding rfl

/-! ## The flags of the slots -/

/-- What the flags of the slots, their caches and the last commands say of each other. -/
structure SwitchState (w : LoopState) : Prop where
  unsuppressed : w.app.activeSlot.suppressed = false
  unawaited : w.app.activeSlot.snapshotPending = false
  unarmed : w.app.activeSlot.snapshot.armed → w.app.activeSlot.sessionFailed
  pending : ∀ i, (w.slot i).snapshotPending → (w.slot i).suppressed = false
  armed : ∀ i, (w.slot i).snapshot.armed →
    (w.slot i).snapshotPending ∨ (w.slot i).suppressed ∨ (w.slot i).sessionFailed
  ready : ∀ i, (w.slot i).snapshotIdrReady → (w.slot i).snapshot.ready
  commanded : ∀ i, (w.slot i).rdp.isSome → (w.slot i).sessionFailed = false →
    (w.slot i).suppressed = w.sentSuppress i
  allowed : w.app.activeSlot.rdp.isSome → w.app.activeSlot.sessionFailed = false →
    w.sentSuppress w.app.activeIndex = false

/-- In every run that wipes no cache whose `snapshot_idr_ready` is set, the flags agree between
any two iterations. -/
theorem switchState_run (h : (sdlLoop scan initialHubSlot snapshotForce manager).Run tr s)
    (hrest : s.running .sdl = none) (hwiped : s.shared.wipedReady = false) :
    SwitchState s.shared := by
  have hatRest := atRest_run h hrest
  have htidy := fun i => (hatRest.good i).tidy
  have hseen := (hatRest.good s.shared.app.activeIndex).onScreen rfl
  have hcommanded : ∀ i, (s.shared.slot i).rdp.isSome → (s.shared.slot i).sessionFailed = false →
      (s.shared.slot i).suppressed = s.shared.sentSuppress i := fun i hrdp hf =>
    ((htidy i).commanded hrdp).resolve_left (Bool.eq_false_iff.mp hf)
  refine ⟨hseen.suppressed, hseen.pending, hseen.armed, fun i => (htidy i).pending,
    fun i => (htidy i).armed, fun i hr => ((htidy i).ready hr).resolve_left ?_, hcommanded,
    fun hrdp hf => (hcommanded _ hrdp hf).symm.trans hseen.suppressed⟩
  rw [hwiped]
  exact Bool.false_ne_true

/-- An iteration, with what the platform answers to its steps. -/
def iteration (input : Iteration) (answers : List Answer) : List (Turn Party Answer Duty) :=
  .call .sdl input :: answers.map (.step .sdl)

/-- A callback from its begin to its end. -/
def report (i : SlotIndex) (callback : Callback) : List (Turn Party Answer Duty) :=
  [.call (.worker i) callback, .step (.worker i) {}, .step (.worker i) {}]

/-- The HUB asks for the connect of a slot. -/
def connects (i : SlotIndex) : HubRequests := { connect := some ({ slot := i }, false) }

/-- The green slot connects and its stream is shown. -/
def shownTurns : List (Turn Party Answer Duty) :=
  iteration { requests := connects .green } (List.replicate 23 {}) ++
    report .green (.state .active) ++ iteration {} (List.replicate 19 {})

/-- The watchdog sees no frame and reconnects the green slot. With the yellow button that slot
goes into the background and fills a cache. -/
def awaitedTurns : List (Turn Party Answer Duty) :=
  shownTurns ++ report .green (.videoAu .h264 idrUnit { result := .needKeyframe }) ++
    iteration {} (List.replicate 21 {}) ++ iteration {} (List.replicate 25 { now := 3000 }) ++
    report .green (.state .active) ++
    iteration { events := [.colourKey .yellow] } (List.replicate 29 { now := 3000 })

/-- A slot in the background whose cache is awaited is not suppressed. -/
theorem switchState_awaited : ∃ w : LoopState, SwitchState w ∧
    (w.slot .green).snapshotPending = true ∧ (w.slot .green).snapshot.armed = true := by
  have hrun := Machine.run_of_exec (M := sdlLoop videoScanAu .green false true) awaitedTurns
    (by decide +kernel)
  exact ⟨_, switchState_run hrun (Option.isNone_iff_eq_none.mp (by decide +kernel))
    (by decide +kernel), by decide +kernel, by decide +kernel⟩

/-- The deadline of the cache has passed, and its seed comes between the tick's look at
`snapshot_idr_ready` and the reset. -/
def wipedTurns : List (Turn Party Answer Duty) :=
  awaitedTurns ++ report .green (.state .active) ++
    iteration {} (List.replicate 20 { now := 3000 }) ++
    iteration {} (List.replicate 3 { now := 6000 }) ++
    report .green (.videoAu .h264 idrUnit {}) ++ List.replicate 21 (.step .sdl { now := 6000 })

/-- The reset leaves `snapshot_idr_ready` set over an empty cache. -/
theorem switchState_wiped : ∃ (tr : List (Turn Party Answer Duty × Unit))
    (s : Config Party Answer LoopState), (sdlLoop videoScanAu .green false true).Run tr s ∧
      s.running .sdl = none ∧ s.shared.app.running = true ∧ ¬SwitchState s.shared := by
  have hrun := Machine.run_of_exec (M := sdlLoop videoScanAu .green false true) wipedTurns
    (by decide +kernel)
  refine ⟨_, _, hrun, Option.isNone_iff_eq_none.mp (by decide +kernel), by decide +kernel,
    fun hstate => ?_⟩
  exact absurd hstate.ready (by decide +kernel)

/-! ## The slot on screen -/

/-- Input, capture and ducking follow the slot on screen, and every supervisor tick left its
slots drained, a session on screen and no media without a session. -/
structure ForegroundRouting (w : LoopState) : Prop where
  input : w.app.inputSession = w.app.activeSlot.rdp
  foreground : ∀ i, i ≠ w.app.activeIndex → w.app.inputSession.isSome →
    w.app.inputSession ≠ (w.slot i).rdp
  capture : ∀ foreground, w.app.captureForeground = some foreground →
    foreground = some w.app.activeIndex
  duck : w.app.duckForeground = w.app.activeIndex
  deferred : w.app.pendingSwitchTarget ≠ some w.app.activeIndex
  screens : ¬(w.app.streamingVisible ∧ w.app.hubVisible)
  drained : ∀ tick ∈ w.supervised, ∀ i, tick.failedBefore i →
    (tick.after.sessions i).rdp = none ∧ (tick.after.sessions i).sessionFailed = false
  watched : ∀ tick ∈ w.supervised, tick.after.streamingVisible →
    tick.after.activeSlot.rdp.isSome ∨ tick.after.activeSlot.sessionFailed
  media : ∀ tick ∈ w.supervised, (∀ i, (tick.after.sessions i).rdp = none) →
    tick.after.media = false

/-- In every run that strands no slot that is shown, the routing holds between any two
iterations. -/
theorem foregroundRouting_run (h : (sdlLoop scan initialHubSlot snapshotForce manager).Run tr s)
    (hrest : s.running .sdl = none) (hstranded : s.shared.stranded = false) :
    ForegroundRouting s.shared := by
  have hatRest := atRest_run h hrest
  refine ⟨hatRest.input, fun i hi hsome heq => hi ?_, hatRest.capture trivial, hatRest.duck,
    hatRest.deferred, fun hboth => ?_, fun tick ht => (hatRest.supervised tick ht).drained,
    fun tick ht hv => ((hatRest.supervised tick ht).watched hv).resolve_left ?_,
    fun tick ht => (hatRest.supervised tick ht).media⟩
  · obtain ⟨session, hsession⟩ := Option.isSome_iff_exists.mp hsome
    exact hatRest.handles.distinct i _ session (heq.symm.trans hsession)
      (hatRest.input.symm.trans hsession)
  · rw [hatRest.screens hboth.1] at hboth
    exact nomatch hboth.2
  · rw [hstranded]
    exact Bool.false_ne_true

/-- The green stream is shown with sound, and its session fails. -/
def failedTurns : List (Turn Party Answer Duty) :=
  shownTurns ++ report .green (.audioFormat true true) ++ iteration {} (List.replicate 16 {}) ++
    report .green (.state .networkError) ++ iteration {} (List.replicate 25 {})

/-- Along that run one tick left the green session on screen with media open. The tick behind
the failure found the flag, and left neither session nor media. -/
theorem foregroundRouting_shown : ∃ (tr : List (Turn Party Answer Duty × Unit))
    (s : Config Party Answer LoopState) (shown failed : Supervised),
    (sdlLoop videoScanAu .green false true).Run tr s ∧ s.running .sdl = none ∧
      ForegroundRouting s.shared ∧ shown ∈ s.shared.supervised ∧ failed ∈ s.shared.supervised ∧
      shown.after.streamingVisible = true ∧ shown.after.media = true ∧
      (shown.after.activeSlot.rdp.isSome ∨ shown.after.activeSlot.sessionFailed) ∧
      failed.failedBefore .green = true ∧ (failed.after.sessions .green).rdp = none ∧
      failed.after.media = false := by
  obtain ⟨tr, s, hrun, hrest, hstranded, ⟨shown, hshown, hvisible, hopen⟩, failed, hfailed, hflag,
      hnone⟩ : ∃ tr s, (sdlLoop videoScanAu .green false true).Run tr s ∧
        s.running .sdl = none ∧ s.shared.stranded = false ∧
        (∃ tick ∈ s.shared.supervised, tick.after.streamingVisible = true ∧
          tick.after.media = true) ∧
        ∃ tick ∈ s.shared.supervised, tick.failedBefore .green = true ∧
          ∀ i, (tick.after.sessions i).rdp = none :=
    ⟨_, _, Machine.run_of_exec failedTurns (by decide +kernel),
      Option.isNone_iff_eq_none.mp (by decide +kernel), by decide +kernel, by decide +kernel,
      by decide +kernel⟩
  have hrouting := foregroundRouting_run hrun hrest hstranded
  exact ⟨tr, s, shown, failed, hrun, hrest, hrouting, hshown, hfailed, hvisible, hopen,
    hrouting.watched shown hshown hvisible, hflag, (hrouting.drained failed hfailed .green hflag).1,
    hrouting.media failed hfailed hnone⟩

/-- The yellow slot is connected as well and takes the screen. From the HUB over it, where its form
is open, the switch back to green has to wait. The form is saved, green's session fails, and the
tick that gives up the switch shows the yellow stream again before the save is taken. -/
def strandedTurns : List (Turn Party Answer Duty) :=
  shownTurns ++
    iteration { events := [.colourKey .yellow], requests := connects .yellow }
      (List.replicate 34 {}) ++
    report .yellow (.state .active) ++ iteration {} (List.replicate 19 {}) ++
    iteration { events := [.confirmKey] } (List.replicate 17 {}) ++
    iteration { events := [.colourKey .green] } (List.replicate 39 {}) ++
    report .green (.state .networkError) ++
    iteration { requests := { save := some { slot := .yellow } } } (List.replicate 37 {}) ++
    iteration {} (List.replicate 16 {})

/-- The next supervisor tick finds a shown slot that has neither a session nor a failure. -/
theorem foregroundRouting_stranded : ∃ (tr : List (Turn Party Answer Duty × Unit))
    (s : Config Party Answer LoopState), (sdlLoop videoScanAu .green false true).Run tr s ∧
      s.running .sdl = none ∧ s.shared.app.running = true ∧ ¬ForegroundRouting s.shared := by
  have hrun := Machine.run_of_exec (M := sdlLoop videoScanAu .green false true) strandedTurns
    (by decide +kernel)
  refine ⟨_, _, hrun, Option.isNone_iff_eq_none.mp (by decide +kernel), by decide +kernel,
    fun hrouting => ?_⟩
  exact absurd hrouting.watched (by decide +kernel)

end Lgnome.Foreground
