import Lgnome.Foreground.Switch

/-!
# The SDL loop

One iteration handles the events, ticks the switch, drains the failed slots,
enters the stream that is ready, draws, and takes the HUB's requests.
-/
namespace Lgnome.Foreground

open Lgnome.Native
open Lgnome.Transition (Prog Machine Config Turn parties)

variable (scan : Scanner)

/-! ## Navigation -/

/-- `native_show_hub`. -/
def showHub : Sdl Unit :=
  Prog.store fun w =>
    if !w.app.streamingVisible || w.app.mixerOverlayVisible then w
    else w.onApp fun a =>
      { a with
        pendingSwitchTarget := none
        streamingVisible := false
        hubVisible := true
        hubReturnSlot := some a.activeIndex
        hubConnectTarget := none }

/-- Under the lock of `native_show_slot_configurator`, with the pause before and the retargeting
behind it. -/
def LoopState.showForm (w : LoopState) (target : SlotIndex) (answer : Answer) : LoopState :=
  (w.pauseCapture.onApp fun a =>
    { captureHubReturn a answer.hasFrame with rgba := none, activeIndex := target }).duckRetarget

/-- `native_show_slot_configurator`. -/
def showSlotConfigurator (target : SlotIndex) : Sdl Unit := do
  Prog.store fun w => w.onApp fun a =>
    { a with pendingSwitchTarget := none, hubConnectTarget := none }
  let old ← Prog.load fun w => w.app.activeIndex
  if old = target then Prog.store fun w => w.onApp fun a => { a with streamingVisible := false }
  else
    Prog.act fun answer w => ((), w.showForm target answer)
    backgroundSlot old
    Prog.store fun w => w.onApp fun a =>
      { a with
        inputSession := (w.slot target).rdp
        switchDeadlineTicks := 0
        streamingVisible := false }

/-- Whether the target can take the screen at once. -/
def readyNow (target : SlotIndex) : Sdl Bool := do
  let viaBitmap ← Prog.load fun w => (w.slot target).videoViaBitmap
  if viaBitmap then pure true
  else
    let filling ← Prog.load fun w => (w.slot target).snapshotPending
    if filling then pure false
    else
      let suppressed ← Prog.load fun w => (w.slot target).suppressed
      if suppressed then
        let idrReady ← Prog.load fun w => (w.slot target).snapshotIdrReady
        if idrReady then streamQuiet target else pure false
      else pure true

/-- A switch that has to wait for its target. -/
def deferSwitch (target : SlotIndex) : Sdl Unit := do
  Prog.act fun answer w => ((), (w.onApp fun a =>
    { a with
      pendingSwitchTarget := some target
      pendingSwitchDeadlineTicks := answer.now + pendingSwitchTimeoutMs }).modifySlot target
        fun s => { s with snapshotRetryUsed := false })
  let cached ← Prog.load fun w => (w.slot target).suppressed && (w.slot target).snapshotIdrReady
  if cached then pure () else preparePendingSwitch scan target

/-- What a press asks of a slot whose stream can be shown. -/
inductive Press
  | mixer
  | preparing
  | switch

def LoopState.press (w : LoopState) (target : SlotIndex) : Press :=
  if w.isActive target && w.app.streamingVisible then .mixer
  else if w.app.pendingSwitchTarget = some target then .preparing
  else .switch

/-- `native_request_session_switch`. -/
def requestSessionSwitch (target : SlotIndex) : Sdl Unit := do
  let overlay ← Prog.load fun w => w.app.mixerOverlayVisible
  if overlay then
    Prog.act fun answer w => ((), if w.isActive target then w.hideMixerOverlay answer else w)
  else
    let stays ← Prog.load fun w => w.isActive target && w.app.pendingSwitchTarget.isSome
    if stays then Prog.store fun w => w.onApp fun a => { a with pendingSwitchTarget := none }
    else
      let live ← Prog.load fun w => (w.slot target).isLiveStreamTarget
      if live then
        Prog.store fun w => w.onApp fun a =>
          { a with hubVisible := false, hubConnectTarget := none }
        let press ← Prog.load fun w => w.press target
        match press with
        | .mixer => Prog.act fun answer w => ((), w.showMixerOverlay answer)
        | .preparing => pure ()
        | .switch =>
          let ready ← readyNow target
          if ready then switchAtOnce scan target else deferSwitch scan target
      else
        let connecting ← Prog.load fun w => (w.slot target).rdp.isSome
        if connecting then pure () else showSlotConfigurator target

/-- The neighbours on the ring, the nearest first. -/
def ring (active : SlotIndex) (up : Bool) : List SlotIndex :=
  [1, 2, 3].map fun step =>
    ⟨(if up then active.val + step else active.val + 4 - step) % 4, Nat.mod_lt _ (Nat.succ_pos 3)⟩

/-- The first neighbour that can take the screen. -/
def ringSearch : List SlotIndex → Sdl Unit
  | [] => pure ()
  | candidate :: rest => do
    let live ← Prog.load fun w => (w.slot candidate).isLiveStreamTarget
    if live then requestSessionSwitch scan candidate else ringSearch rest

/-- `native_ring_switch`. -/
def ringSwitch (up : Bool) : Sdl Unit := do
  let active ← Prog.load fun w => w.app.activeIndex
  ringSearch scan (ring active up)

/-- What the SDL thread takes from its event queues. -/
inductive SdlEvent
  | colourKey (target : SlotIndex)
  | channelKey (up : Bool)
  | confirmKey
  | mixerShow
  | mixerHide
  | duckToggle
  | quit
  deriving DecidableEq

def handleEvent : SdlEvent → Sdl Unit
  | .colourKey target => requestSessionSwitch scan target
  | .channelKey up => ringSwitch scan up
  | .confirmKey => showHub
  | .mixerShow => Prog.act fun answer w =>
    ((), if w.app.streamingVisible then w.showMixerOverlay answer else w)
  | .mixerHide => Prog.act fun answer w => ((), w.hideMixerOverlay answer)
  | .duckToggle => Prog.store LoopState.duckRetarget
  | .quit => Prog.store fun w => w.onApp fun a => { a with running := false }

def handleEvents : List SdlEvent → Sdl Unit
  | [] => pure ()
  | event :: rest => do
    handleEvent scan event
    handleEvents rest

/-! ## Failed slots -/

/-- The last other slot with a live stream. -/
def findSurvivor (i : SlotIndex) : List SlotIndex → Option SlotIndex → Sdl (Option SlotIndex)
  | [], survivor => pure survivor
  | j :: rest, survivor => do
    let live ← Prog.load fun w =>
      j ≠ i && (w.slot j).isLiveStreamTarget && (w.slot j).currentState = .active
    findSurvivor i rest (if live then some j else survivor)

/-- Back to the pre-connect UI. -/
def leaveScreen (i : SlotIndex) : Sdl Unit :=
  Prog.store fun w => (w.stopSlot i).onApp fun a =>
    { a with switchDeadlineTicks := 0, streamingVisible := false, mixerOverlayVisible := false }

/-- The failed slot is the one on screen. -/
def drainActive (i : SlotIndex) : Sdl Unit := do
  let survivor ← findSurvivor i slots none
  let watched ← Prog.load fun w => w.app.streamingVisible
  match survivor with
  | none => leaveScreen i
  | some j =>
    if watched then
      let switched ← completeSessionSwitch scan j
      if switched then Prog.store fun w => w.stopSlot i else leaveScreen i
    else Prog.store fun w => w.stopSlot i

/-- One slot of `native_session_supervisor_tick`. -/
def drainSlot (i : SlotIndex) : Sdl Unit := do
  let failed ← Prog.load fun w => (w.slot i).sessionFailed
  if failed then
    Prog.store fun w => w.onApp fun a =>
      { a with
        hubConnectTarget := if a.hubConnectTarget = some i then none else a.hubConnectTarget }
    let active ← Prog.load fun w => w.isActive i
    if active then drainActive scan i else Prog.store fun w => w.stopSlot i
    Prog.store LoopState.stopMediaUnlessConnected
  else pure ()

/-- `native_session_supervisor_tick`. -/
def superviseSessions : Sdl Unit := forSlots (drainSlot scan) slots

/-- The flags in front of a tick and the application behind it, for an observer of the loop. -/
def observed (tick : Sdl Unit) : Sdl Unit := do
  let failedBefore ← Prog.load fun w => fun i => (w.slot i).sessionFailed
  tick
  Prog.store fun w =>
    { w with supervised := w.supervised ++ [{ failedBefore, after := w.app }] }

/-! ## Entering the stream -/

/-- A suppress that is still queued from before is taken back. -/
def LoopState.enterStream (w : LoopState) : LoopState :=
  let i := w.app.activeIndex
  let w :=
    if (w.slot i).suppressed then
      (w.modifySlot i fun s => { s with suppressed := false }).setSuppressOutput i true
    else w
  w.onApp fun a =>
    { a with
      streamingVisible := true
      hubVisible := false
      hubConnectTarget :=
        if a.hubConnectTarget = some a.activeIndex then none else a.hubConnectTarget }

/-- `native_streaming_transition_tick`. -/
def transitionTick : Sdl Unit := do
  let ready ← Prog.load fun w =>
    w.app.activeSlot.rdp.isSome && w.app.activeSlot.currentState = .active &&
      !w.app.streamingVisible && w.app.pendingSwitchTarget.isNone &&
      (!w.app.hubVisible || w.app.hubConnectTarget = some w.app.activeIndex)
  if ready then
    let resumes ← Prog.load fun w => w.app.activeSlot.suppressed
    let baseline ← Prog.load fun w => w.app.activeSlot.videoOkFrames
    Prog.store LoopState.enterStream
    if resumes then startWatchdog baseline keyframeTimeoutMs else pure ()
  else pure ()

/-! ## Requests of the HUB -/

/-- A save of the capture settings, or one that comes with a profile. -/
structure Reconfigure where
  devicesChanged : Bool := false
  /-- There is a manager for the changed devices. -/
  managed : Bool := true
  /-- The camera mode of a slot's connection is no longer the one configured. -/
  modeChanged : SlotIndex → Bool := fun _ => false

/-- One slot of `native_reconfigure_capture_redirect`. -/
def reconfigureSlot (r : Reconfigure) (i : SlotIndex) : Sdl Unit := do
  let stale ← Prog.load fun w => (w.slot i).rdp.isSome && r.modeChanged i
  if stale then
    let background ← Prog.load fun w => !w.isActive i
    let started ← Prog.act fun answer w => w.reconnectSlot i background answer
    if started && background then awaitSnapshot i else pure ()
  else pure ()

/-- A manager that comes up starts paused. -/
def LoopState.startManager (w : LoopState) (r : Reconfigure) : LoopState :=
  if r.devicesChanged && r.managed && w.app.captureForeground.isNone then
    w.onApp fun a => { a with captureForeground := some none }
  else w

/-- `native_reconfigure_capture_redirect`. -/
def reconfigureCapture (r : Reconfigure) : Sdl Unit := do
  let managed ← Prog.act fun _ w =>
    (!r.devicesChanged || (w.startManager r).app.captureForeground.isSome, w.startManager r)
  if managed then
    forSlots (reconfigureSlot r) slots
    Prog.store LoopState.followActiveSlot
  else pure ()

/-- A profile action, with what the UI and the storage make of it. -/
structure ProfileRequest where
  slot : SlotIndex
  /-- The values are valid and could be persisted. -/
  saves : Bool := true
  connectionChanged : Bool := true
  endpointChanged : Bool := true
  reconfigure : Reconfigure := {}

/-- What the HUB asks for in one iteration. -/
structure HubRequests where
  close : Bool := false
  activate : Option SlotIndex := none
  captureSave : Option Reconfigure := none
  save : Option ProfileRequest := none
  delete : Option ProfileRequest := none
  connect : Option (ProfileRequest × Bool) := none

/-- A session is stopped for good. The slot on screen is stranded if its stream is shown. -/
def LoopState.dropSession (w : LoopState) (i : SlotIndex) : LoopState :=
  { w.stopSlot i with stranded := w.stranded || (w.app.streamingVisible && w.isActive i) }

/-- The first slot of a list with a property that is looked at slot by slot. -/
def findSlot (test : LoopState → SlotIndex → Bool) : List SlotIndex → Sdl (Option SlotIndex)
  | [] => pure none
  | i :: rest => do
    let found ← Prog.load fun w => test w i
    if found then pure (some i) else findSlot test rest

/-- Where BACK leads: to the slot the HUB was opened on, to an active one, or to one that fills
its cache. -/
def returnSlot : Sdl (Option SlotIndex) := do
  let opened ← Prog.load fun w => w.app.hubReturnSlot.filter fun i => (w.slot i).isLiveStreamTarget
  match opened with
  | some i => pure (some i)
  | none =>
    let active ← findSlot (fun w i =>
      (w.slot i).isLiveStreamTarget && (w.slot i).currentState = .active) slots
    match active with
    | some i => pure (some i)
    | none =>
      findSlot (fun w i => (w.slot i).isLiveStreamTarget && (w.slot i).snapshotPending) slots

/-- `native_hub_actions_drain_navigation`. -/
def drainNavigation (requests : HubRequests) : Sdl Unit := do
  if requests.close then
    let hubVisible ← Prog.load fun w => w.app.hubVisible
    if hubVisible then
      let back ← returnSlot
      match back with
      | some i => requestSessionSwitch scan i
      | none => pure ()
    else pure ()
  else
    match requests.activate with
    | some i => requestSessionSwitch scan i
    | none => pure ()

/-- `native_capture_mode_save_is_connecting`, slot by slot. -/
def modeSaveConnecting (r : Reconfigure) : Sdl Bool := do
  let connecting ← findSlot (fun w i => (w.slot i).isStillConnecting && r.modeChanged i) slots
  pure connecting.isSome

def drainCaptureSave : Option Reconfigure → Sdl Unit
  | none => pure ()
  | some r => do
    let connecting ← modeSaveConnecting r
    if connecting then pure () else reconfigureCapture r

/-- The saved values become the slot's. -/
def forgetRefresh (i : SlotIndex) : Sdl Unit :=
  Prog.store fun w => w.modifySlot i fun s => { s with refreshIneffective := false }

def drainSave : Option ProfileRequest → Sdl Unit
  | none => pure ()
  | some r => do
    let connecting ← Prog.load fun w => r.connectionChanged && (w.slot r.slot).isStillConnecting
    if connecting || !r.saves then pure ()
    else
      reconfigureCapture r.reconfigure
      let stops ← Prog.load fun w => (w.slot r.slot).rdp.isSome && r.connectionChanged
      if stops then
        Prog.store fun w => w.dropSession r.slot
        Prog.store LoopState.stopMediaUnlessConnected
      else pure ()
      let offline ← Prog.load fun w => (w.slot r.slot).rdp.isNone && r.endpointChanged
      if offline then forgetRefresh r.slot else pure ()

def drainDelete : Option ProfileRequest → Sdl Unit
  | none => pure ()
  | some r => do
    let connecting ← Prog.load fun w => (w.slot r.slot).isStillConnecting
    if connecting || !r.saves then pure ()
    else
      Prog.store fun w => w.dropSession r.slot
      forgetRefresh r.slot
      reconfigureCapture r.reconfigure
      Prog.store LoopState.duckRetarget
      Prog.store LoopState.stopMediaUnlessConnected

/-- What an explicit connect does from the stop of its slot to the retargeting. The server of the
slot that leaves the screen is silenced ahead of the hand-over. -/
def LoopState.switchToConnect (w : LoopState) (target : SlotIndex) (answer : Answer) : LoopState :=
  let old := w.app.activeIndex
  let w :=
    if old ≠ target && (w.slot old).rdp.isSome && !(w.slot old).suppressed then
      w.setSuppressOutput old false
    else w
  let w := w.pauseCapture.onApp fun a =>
    let a := if a.hubVisible then captureHubReturn a answer.hasFrame else a
    { a with
      pendingSwitchTarget := none
      switchDeadlineTicks := 0
      rgba := none
      activeIndex := target
      videoRefreshNeeded := false }
  w.duckRetarget

/-- The HUB is not left for a session that does not start. -/
def LoopState.startFailed (w : LoopState) (i : SlotIndex) : LoopState :=
  w.onApp fun a =>
    { a with
      hubConnectTarget := if a.hubConnectTarget = some i then none else a.hubConnectTarget }

/-- `native_hub_actions_drain_connect`; the flag is whether the request saves its profile. -/
def drainConnect : Option (ProfileRequest × Bool) → Sdl Unit
  | none => pure ()
  | some (r, requiresSave) => do
    let connecting ← Prog.load fun w => (w.slot r.slot).isStillConnecting
    if connecting || !r.saves then pure ()
    else
      Prog.store fun w => w.onApp fun a =>
        { a with hubConnectTarget := if a.hubVisible then some r.slot else none }
      if requiresSave then reconfigureCapture r.reconfigure else pure ()
      let old ← Prog.load fun w => w.app.activeIndex
      Prog.store fun w => w.stopSlot r.slot
      if r.endpointChanged then forgetRefresh r.slot else pure ()
      Prog.act fun answer w => ((), w.switchToConnect r.slot answer)
      if old = r.slot then pure () else backgroundSlot old
      let started ← Prog.act fun answer w => w.slotConnect r.slot false answer
      if started then pure ()
      else
        Prog.store fun w => w.startFailed r.slot
        Prog.store LoopState.stopMediaUnlessConnected

/-- `native_hub_actions_tick`. -/
def hubActions (requests : HubRequests) : Sdl Unit := do
  drainNavigation scan requests
  drainCaptureSave requests.captureSave
  drainSave requests.save
  drainDelete requests.delete
  drainConnect requests.connect

/-! ## The loop -/

/-- A canvas that cannot be drawn ends its slot's session. -/
def drawCanvas : Option SlotIndex → Sdl Unit
  | none => pure ()
  | some failed => Prog.store fun w => w.onApp (·.reportTerminal failed .decoderError)

/-- What reaches the SDL thread in one iteration. -/
structure Iteration where
  events : List SdlEvent := []
  requests : HubRequests := {}
  undrawn : Option SlotIndex := none
  undrawnBehindHub : Option SlotIndex := none

/-- The body of the loop of `native_run_app_loop`. -/
def iterate (input : Iteration) : Sdl Unit := do
  handleEvents scan input.events
  switchTick scan
  observed (superviseSessions scan)
  transitionTick
  drawCanvas input.undrawn
  hubActions scan input.requests
  drawCanvas input.undrawnBehindHub

/-- The SDL thread and the worker of each slot. -/
inductive Party
  | sdl
  | worker (i : SlotIndex)
  deriving DecidableEq

/-- What a party is called to do: an iteration, or a callback. -/
def Duty : Party → Type
  | .sdl => Iteration
  | .worker _ => Callback

def perform : (p : Party) → Duty p → Prog Answer LoopState Unit
  | .sdl, input => iterate scan input
  | .worker i, callback => Prog.store fun w => w.callBack scan i callback

/-- The state in which `native_run_app_loop` enters its loop. -/
def started (initialHubSlot : SlotIndex) (snapshotForce manager : Bool) : LoopState where
  app :=
    { activeIndex := initialHubSlot
      duckForeground := initialHubSlot
      captureForeground := if manager then some (some initialHubSlot) else none
      snapshotForce }

/-- Every interleaving of the loop's iterations with the workers' callbacks. -/
def sdlLoop (initialHubSlot : SlotIndex) (snapshotForce manager : Bool) :
    Machine (Config Party Answer LoopState) (Turn Party Answer Duty) Unit :=
  parties (started initialHubSlot snapshotForce manager) (perform scan)

end Lgnome.Foreground
