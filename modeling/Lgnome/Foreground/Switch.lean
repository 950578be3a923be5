import Lgnome.Foreground.State

/-!
# Switching the screen between sessions

`native_switch.c`, `native_switch_handoff.c` and `native_switch_recovery.c`: the
hand-over of the screen, what becomes of the slot that leaves it, and the tick
that completes deferred switches and watches for keyframes. The test build that
never reconnects is left out.
-/
namespace Lgnome.Foreground

open Lgnome.Native
open Lgnome.Transition (Prog)

/-- A program of the SDL thread. -/
abbrev Sdl := Prog Answer LoopState

def keyframeTimeoutMs : UInt32 := 2000
def pendingSwitchTimeoutMs : UInt32 := 8000

/-- `SDL_TICKS_PASSED`. -/
def ticksPassed (now deadline : UInt32) : Bool := (deadline - now).toInt32 ≤ 0

/-! ## The slot that leaves the screen -/

/-- After a hidden reconnect the tick suppresses once the cache has its seed; without a cache
the server is silenced at once. -/
def awaitSnapshot (i : SlotIndex) : Sdl Unit := do
  let armed ← Prog.load fun w => (w.slot i).snapshot.armed
  if armed then
    Prog.store fun w => w.modifySlot i fun s =>
      { s with snapshotPending := true, snapshotDeadlineTicks := 0 }
  else Prog.store fun w => w.suppress i

/-- `native_background_slot`. -/
def backgroundSlot (i : SlotIndex) : Sdl Unit := do
  let away ← Prog.load fun w => (w.slot i).rdp.isNone || (w.slot i).suppressed
  if away then pure ()
  else
    let snapshotWanted ← Prog.load fun w =>
      ((w.slot i).refreshIneffective || w.app.snapshotForce) && (w.slot i).currentState = .active
    if snapshotWanted then
      let started ← Prog.act fun answer w => w.reconnectSlot i true answer
      if started then awaitSnapshot i else pure ()
    else Prog.store fun w => w.suppress i

variable (scan : Scanner)

/-- `native_snapshot_replay`. -/
def snapshotReplay (target : SlotIndex) : Sdl Bool := do
  let replay ← Prog.act fun answer w =>
    let r := w.app.snapshotReplay scan target answer.now (w.meanwhile answer.replay)
    (r.2, w.onApp fun _ => r.1)
  Prog.load fun w => w.app.replayResult target replay

/-! ## The hand-over -/

/-- What `native_complete_session_switch` does from the pause of the capture to the new input
session. True when the target's cache was still awaited. -/
def LoopState.handOver (w : LoopState) (target : SlotIndex) : Bool × LoopState :=
  let snapshotPending := (w.slot target).snapshotPending
  let w := (w.pauseCapture.onApp (·.publishOwner target)).duckRetarget
  (snapshotPending, w.onApp fun a => { a with inputSession := (w.slot target).rdp })

/-- Output of a slot that was suppressed is resumed: from its cache, by a reconnect where a
refresh is known to do nothing, or by a refresh. -/
def resumeOutput (target : SlotIndex) : Sdl Unit := do
  Prog.store fun w => w.modifySlot target fun s => { s with suppressed := false }
  let replayed ← snapshotReplay scan target
  if replayed then Prog.store fun w => w.setSuppressOutput target true
  else
    let failed ← Prog.load fun w => (w.slot target).sessionFailed
    if failed then pure ()
    else
      let refreshIneffective ← Prog.load fun w => (w.slot target).refreshIneffective
      if refreshIneffective then
        let _started ← Prog.act fun answer w => w.reconnectSlot target false answer
        pure ()
      else Prog.store fun w => w.setSuppressOutput target true

/-- `native_switch_watchdog_start`, with the baseline that was taken before the requests. -/
def startWatchdog (baseline : UInt32) (timeoutMs : UInt32) : Sdl Unit :=
  Prog.act fun answer w => ((), w.onApp fun a =>
    { a with
      switchBaselineFrames := baseline
      switchDeadlineTicks := answer.now + timeoutMs
      switchReconnectUsed := false })

/-- `native_complete_session_switch`. -/
def completeSessionSwitch (target : SlotIndex) : Sdl Bool := do
  let live ← Prog.load fun w => (w.slot target).rdp.isSome && !(w.slot target).sessionFailed
  if !live then pure false
  else
    let old ← Prog.load fun w => w.app.activeIndex
    if old = target then pure true
    else
      Prog.act fun answer w =>
        ((), (w.hideMixerOverlay answer).onApp fun a => { a with pendingSwitchTarget := none })
      let baseline ← Prog.load fun w => (w.slot target).videoOkFrames
      let snapshotPending ← Prog.act fun _ w => w.handOver target
      backgroundSlot old
      let suppressed ← Prog.load fun w => (w.slot target).suppressed
      if !snapshotPending && suppressed then resumeOutput scan target else pure ()
      startWatchdog baseline keyframeTimeoutMs
      pure true

/-- Under the lock of `native_prepare_pending_switch`; whether the cache is armed. -/
def LoopState.armCache (w : LoopState) (i : SlotIndex) (answer : Answer) : Bool × LoopState :=
  (answer.allocates,
    { w.onApp (·.armSnapshot i answer.allocates) with
      wipedReady := w.wipedReady || (w.slot i).snapshotIdrReady })

/-- What `native_prepare_pending_switch` ends with: the tick suppresses once the cache has its
seed. Without a reconnect the server is asked for one. -/
def awaitSeed (target : SlotIndex) (reconnected : Bool) : Sdl Unit :=
  Prog.store fun w =>
    let w := w.modifySlot target fun s =>
      { s with snapshotPending := true, snapshotDeadlineTicks := 0, suppressed := false }
    if reconnected then w else w.setSuppressOutput target true

/-- Without a cache the press is answered by the switch of old. -/
def switchAtOnce (target : SlotIndex) : Sdl Unit := do
  Prog.store fun w => w.onApp fun a => { a with pendingSwitchTarget := none }
  let _switched ← completeSessionSwitch scan target
  pure ()

/-- `native_prepare_pending_switch`. -/
def preparePendingSwitch (target : SlotIndex) : Sdl Unit := do
  let filling ← Prog.load fun w => (w.slot target).snapshotPending
  if filling then pure ()
  else
    let reconnect ← Prog.load fun w => (w.slot target).refreshIneffective || w.app.snapshotForce
    if reconnect then
      let started ← Prog.act fun answer w =>
        (w.modifySlot target fun s => { s with snapshotRetryUsed := true }).reconnectSlot target
          true answer
      if started then
        let armed ← Prog.load fun w => (w.slot target).snapshot.armed
        if armed then awaitSeed target true else switchAtOnce scan target
      else pure ()
    else
      Prog.store fun w => w.modifySlot target fun s => { s with snapshotIdrReady := false }
      let armed ← Prog.act fun answer w => w.armCache target answer
      if armed then awaitSeed target false else switchAtOnce scan target

/-! ## The tick -/

/-- The stream has been quiet for long enough. -/
def streamQuiet (i : SlotIndex) : Sdl Bool :=
  Prog.act fun answer w => (App.snapshotQuietMs ≤ answer.now - (w.slot i).snapshotLastAuMs, w)

/-- The awaited cache is published, or void. -/
def silenceFilled (i : SlotIndex) (idrReady : Bool) : Sdl Unit := do
  Prog.store fun w => (w.suppress i).modifySlot i fun s => { s with snapshotPending := false }
  let pending ← Prog.load fun w => !idrReady && w.app.pendingSwitchTarget = some i
  if pending then switchAtOnce scan i else pure ()

/-- Under the lock of the deadline branch. -/
def LoopState.wipeCache (w : LoopState) (i : SlotIndex) : LoopState :=
  { w.onApp (·.resetSnapshot i) with
    wipedReady := w.wipedReady || (w.slot i).snapshotIdrReady }

/-- The deadline of an awaited cache. A deferred switch retries once, by a hidden reconnect. -/
def snapshotOverdue (i : SlotIndex) : Sdl Unit := do
  let retries ← Prog.load fun w =>
    w.app.pendingSwitchTarget = some i && !(w.slot i).snapshotRetryUsed &&
      !(w.slot i).videoViaBitmap
  if retries then
    Prog.store fun w => w.modifySlot i fun s =>
      { s with refreshIneffective := true, snapshotPending := false }
    preparePendingSwitch scan i
  else
    Prog.store fun w => w.wipeCache i
    Prog.store fun w => (w.suppress i).modifySlot i fun s => { s with snapshotPending := false }
    let pending ← Prog.load fun w => decide (w.app.pendingSwitchTarget = some i)
    if pending then switchAtOnce scan i else pure ()

/-- One slot of the snapshot loop of `native_switch_tick`. -/
def tickSnapshot (i : SlotIndex) : Sdl Unit := do
  let awaited ← Prog.load fun w =>
    (w.slot i).snapshotPending && !w.isActive i && (w.slot i).rdp.isSome &&
      (w.slot i).currentState = .active
  if awaited then
    let idrReady ← Prog.load fun w => (w.slot i).snapshotIdrReady
    let voided ← Prog.load fun w => !idrReady && !(w.slot i).snapshot.armed
    if idrReady || voided then silenceFilled scan i idrReady
    else
      let unarmed ← Prog.load fun w => decide ((w.slot i).snapshotDeadlineTicks = 0)
      if unarmed then
        Prog.act fun answer w => ((), w.modifySlot i fun s =>
          { s with snapshotDeadlineTicks := answer.now + keyframeTimeoutMs })
      else
        let overdue ← Prog.act fun answer w =>
          (ticksPassed answer.now (w.slot i).snapshotDeadlineTicks, w)
        if overdue then snapshotOverdue scan i else pure ()
  else pure ()

/-- The cache is filled, the server silenced and the stream quiet. -/
def readyToComplete (target : SlotIndex) : Sdl Bool := do
  let filled ← Prog.load fun w =>
    !(w.slot target).snapshotPending && (w.slot target).suppressed &&
      (w.slot target).snapshotIdrReady
  if filled then streamQuiet target else pure false

/-- The deferred switch of `native_switch_tick`. -/
def tickDeferred : Sdl Unit := do
  let deferred ← Prog.load fun w => w.app.pendingSwitchTarget
  match deferred with
  | none => pure ()
  | some target =>
    let gone ← Prog.load fun w => (w.slot target).rdp.isNone || (w.slot target).sessionFailed
    if gone then Prog.store fun w => w.onApp fun a => { a with pendingSwitchTarget := none }
    else
      let ready ← readyToComplete target
      if ready then switchAtOnce scan target
      else
        let overdue ← Prog.act fun answer w =>
          (ticksPassed answer.now w.app.pendingSwitchDeadlineTicks, w)
        if overdue then switchAtOnce scan target else pure ()

/-- The worker-side refresh request of `native_switch_tick`. -/
def tickRefresh : Sdl Unit := do
  let needed ← Prog.act fun _ w =>
    (w.app.videoRefreshNeeded, w.onApp fun a => { a with videoRefreshNeeded := false })
  let refreshes ← Prog.load fun w =>
    needed && w.app.activeSlot.rdp.isSome && w.app.activeSlot.currentState = .active
  if refreshes then
    let baseline ← Prog.load fun w => w.app.activeSlot.videoOkFrames
    startWatchdog baseline keyframeTimeoutMs
  else pure ()

/-- The watchdog has waited for long enough: once per switch the active slot reconnects. -/
def watchdogOverdue : Sdl Unit := do
  let reconnects ← Prog.load fun w =>
    !w.app.switchReconnectUsed && w.app.activeSlot.rdp.isSome &&
      w.app.activeSlot.currentState = .active
  if reconnects then
    let active ← Prog.load fun w => w.app.activeIndex
    Prog.store fun w => w.modifySlot active fun s => { s with refreshIneffective := true }
    let baseline ← Prog.load fun w => w.app.activeSlot.videoOkFrames
    startWatchdog baseline (2 * keyframeTimeoutMs)
    let _started ← Prog.act fun answer w =>
      (w.onApp fun a => { a with switchReconnectUsed := true }).reconnectSlot active false answer
    pure ()
  else Prog.store fun w => w.onApp fun a => { a with switchDeadlineTicks := 0 }

/-- The keyframe watchdog of `native_switch_tick`. -/
def tickWatchdog : Sdl Unit := do
  let watching ← Prog.load fun w => decide (w.app.switchDeadlineTicks ≠ 0)
  if watching then
    let decoded ← Prog.load fun w =>
      decide (w.app.activeSlot.videoOkFrames ≠ w.app.switchBaselineFrames)
    if decoded then Prog.store fun w => w.onApp fun a => { a with switchDeadlineTicks := 0 }
    else
      let connecting ← Prog.load fun w => w.app.activeSlot.isStillConnecting
      if connecting then
        Prog.act fun answer w => ((), w.onApp fun a =>
          { a with switchDeadlineTicks := answer.now + keyframeTimeoutMs })
      else
        let overdue ← Prog.act fun answer w =>
          (ticksPassed answer.now w.app.switchDeadlineTicks, w)
        if overdue then watchdogOverdue else pure ()
  else pure ()

/-- The slots in the order in which every loop takes them. -/
def slots : List SlotIndex := [.red, .green, .yellow, .blue]

/-- A loop over the slots. -/
def forSlots (body : SlotIndex → Sdl Unit) : List SlotIndex → Sdl Unit
  | [] => pure ()
  | i :: rest => do
    body i
    forSlots body rest

/-- `native_switch_tick`. -/
def switchTick : Sdl Unit := do
  forSlots (tickSnapshot scan) slots
  tickDeferred scan
  tickRefresh
  tickWatchdog

end Lgnome.Foreground
