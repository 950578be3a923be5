import Lgnome.Mixing.App

/-!
# The hub's requests and the switch between slots

`native_hub_actions_profiles.c` and `native_hub_actions_connect.c`, the handoff
and navigation of `native_switch_*.c`, the supervisor's drain, and the start and
end of `main.c`. One operation is one request, one tick's branch or one worker event.
-/
namespace Lgnome.Mixing

open Lgnome.Settings
open Lgnome.Native (RdpState)

/-! ## Requests -/

/-- What `native_preconnect_ui_get_capture_values` writes. -/
structure CaptureValues where
  cameraEnabled : Bool
  cameraDeviceId : List UInt8
  cameraWidth : Nat
  cameraHeight : Nat
  cameraFps : Nat
  audioInputEnabled : Bool
  audioInputDeviceId : List UInt8
  audioInputGainDb : Int

/-- What `native_preconnect_ui_take_connect` hands out, with the drawer's values when they
are valid. -/
structure ConnectRequest where
  slot : SlotIndex
  host : List UInt8
  username : List UInt8
  password : List UInt8
  domain : List UInt8
  port : Nat
  fps : Nat
  audioCodec : AudioCodec
  requiresSave : Bool
  edited : Option NativeSessionConfig

/-- `native_preconnect_ui_get_capture_values` -/
def captureCandidate (settings : NativeSettings) (v : CaptureValues) : NativeSettings :=
  { settings with
    cameraEnabled := v.cameraEnabled
    cameraDeviceId := v.cameraDeviceId
    cameraWidth := v.cameraWidth
    cameraHeight := v.cameraHeight
    cameraFps := v.cameraFps
    audioInputEnabled := v.audioInputEnabled
    audioInputDeviceId := v.audioInputDeviceId
    audioInputGainDb := v.audioInputGainDb }

/-- `native_settings_recompute_capture_gates` -/
def recomputeCaptureGates (settings : NativeSettings) : NativeSettings :=
  { settings with
    cameraEnabled :=
      (List.finRange maxSessions).any fun i => (settings.sessions i).cameraRedirect
    audioInputEnabled :=
      (List.finRange maxSessions).any fun i => (settings.sessions i).audioInputRedirect }

/-- `native_session_endpoint_changed` -/
def sessionEndpointChanged (before after : NativeSessionConfig) : Bool :=
  before.host ≠ after.host || before.port ≠ after.port

/-- `native_session_connection_config_changed` -/
def sessionConnectionConfigChanged (before after : NativeSessionConfig) : Bool :=
  sessionEndpointChanged before after || before.username ≠ after.username ||
    before.password ≠ after.password || before.domain ≠ after.domain ||
    before.fps ≠ after.fps || before.desktopWidth ≠ after.desktopWidth ||
    before.desktopHeight ≠ after.desktopHeight ||
    before.desktopScaleFactor ≠ after.desktopScaleFactor ||
    before.cameraRedirect ≠ after.cameraRedirect ||
    before.audioInputRedirect ≠ after.audioInputRedirect

/-- `native_session_config_validate_connect` -/
def validateConnect (session : NativeSessionConfig) : Bool :=
  !session.host.isEmpty && !session.username.isEmpty && !session.password.isEmpty &&
    session.port ≠ 0 && session.fps ≠ 0

namespace ConnectRequest

/-- Whether `copy_config_string` takes each of the four texts. -/
def fits (r : ConnectRequest) : Bool :=
  r.host.length < stringMax && r.username.length < stringMax &&
    r.password.length < stringMax && r.domain.length < stringMax

/-- The candidate of `native_hub_actions_drain_connect`. -/
def candidate (r : ConnectRequest) (settings : NativeSettings) : NativeSettings :=
  let session := settings.sessions r.slot
  let session := { session with
    host := r.host
    username := r.username
    password := r.password
    domain := r.domain }
  let session :=
    match r.edited with
    | none => session
    | some edited =>
      { session with
        name := edited.name
        desktopWidth := edited.desktopWidth
        desktopHeight := edited.desktopHeight
        desktopScaleFactor := edited.desktopScaleFactor
        cameraRedirect := edited.cameraRedirect
        audioInputRedirect := edited.audioInputRedirect }
  let session := { session with port := r.port, fps := r.fps }
  recomputeCaptureGates { settings.setSession r.slot session with audioCodec := r.audioCodec }

end ConnectRequest

/-- The candidate of a profile save: the drawer's values with the mix that is there. -/
def profileCandidate (settings : NativeSettings) (slot : SlotIndex) (edited : NativeSessionConfig)
    (audioCodec : AudioCodec) : NativeSettings :=
  recomputeCaptureGates { settings.setSession slot edited with audioCodec := audioCodec }

/-- The candidate of a deletion. -/
def deletedCandidate (settings : NativeSettings) (slot : SlotIndex) : NativeSettings :=
  recomputeCaptureGates (settings.setSession slot sessionConfigDefaults)

namespace App

/-- `native_capture_mode_save_is_connecting` -/
def captureModeSaveIsConnecting (a : App) (candidate : NativeSettings) : Bool :=
  (List.finRange maxSessions).any fun i =>
    let slot := a.sessions i
    slot.config.cameraRedirect && slot.isStillConnecting && slot.captureModeChanged candidate

/-- The capture save of `native_hub_actions_drain_profiles`. -/
def captureSave (a : App) (v : CaptureValues) (answers : Answers) : App :=
  let candidate := captureCandidate a.settings v
  if a.captureModeSaveIsConnecting candidate then a
  else
    match a.save candidate answers.disk with
    | (a, true) => (a.withSettings candidate).reconfigureCaptureRedirect answers
    | (a, false) => a

/-- What a saved profile does to its slot: never a live session of the old endpoint, and the
name alone while the session stays. -/
def settleProfile (a : App) (slot : SlotIndex) (edited : NativeSessionConfig)
    (connectionChanged endpointChanged : Bool) : App :=
  let a := if (a.sessions slot).rdp && connectionChanged then a.stopSlot slot else a
  if (a.sessions slot).rdp then
    a.modifySlot slot fun s => { s with config := { s.config with name := edited.name } }
  else
    a.modifySlot slot fun s =>
      { s with
        config := edited
        refreshIneffective := !endpointChanged && s.refreshIneffective }

/-- The profile save of `native_hub_actions_drain_profiles`. -/
def profileSave (a : App) (slot : SlotIndex) (edited : Option NativeSessionConfig)
    (audioCodec : AudioCodec) (answers : Answers) : App :=
  match edited with
  | none => a
  | some edited =>
    let present := a.settings.sessions slot
    let edited := { edited with
      duckMask := present.duckMask
      mixerGainDb := present.mixerGainDb
      mixerMuted := present.mixerMuted
      mixerSolo := present.mixerSolo }
    let candidate := profileCandidate a.settings slot edited audioCodec
    let connectionChanged := sessionConnectionConfigChanged (a.sessions slot).config edited
    if connectionChanged && (a.sessions slot).isStillConnecting then a
    else
      match a.save candidate answers.disk with
      | (a, false) => a
      | (a, true) =>
        let endpointChanged := sessionEndpointChanged (a.sessions slot).config edited
        let a := (a.withSettings candidate).reconfigureCaptureRedirect answers
        a.settleProfile slot edited connectionChanged endpointChanged

/-- The mirrors and the pipeline forget a deleted slot's mix. -/
def forgetMix (a : App) (slot : SlotIndex) : App :=
  let mixer := { a.mixer with
    duckMask := Function.update a.mixer.duckMask slot 0
    muteMask := withoutBit a.mixer.muteMask slot
    soloMask := withoutBit a.mixer.soloMask slot }
  let a := publishEffectiveSoloMask { a with desk := { a.desk with mixer := mixer } }
  let mixer := { a.mixer with gainDb := Function.update a.mixer.gainDb slot 0 }
  let pipeline := (a.pipeline.setSourceMuted slot false).setSourceGain slot (gainDbToQ15 0)
  duckRetarget { a with desk := { a.desk with mixer := mixer }, pipeline := pipeline }

/-- The profile deletion of `native_hub_actions_drain_profiles`. -/
def profileDelete (a : App) (slot : SlotIndex) (answers : Answers) : App :=
  let candidate := deletedCandidate a.settings slot
  if (a.sessions slot).isStillConnecting then a
  else
    match a.save candidate answers.disk with
    | (a, false) => a
    | (a, true) =>
      let a := (a.stopSlot slot).withSettings candidate
      let a := a.modifySlot slot fun s =>
        { s with refreshIneffective := false, config := sessionConfigDefaults }
      (a.reconfigureCaptureRedirect answers).forgetMix slot

/-- The part of `native_hub_actions_drain_connect` behind its save: the requested slot takes
over the screen and connects. -/
def connectReady (a : App) (slot : SlotIndex) (answers : Answers) : App :=
  let session := a.settings.sessions slot
  let old := a.mixer.activeIndex
  let a := a.stopSlot slot
  let a := a.modifySlot slot fun s =>
    { s with
      config := session
      refreshIneffective := !sessionEndpointChanged s.config session && s.refreshIneffective }
  let a := a.activate slot
  let a := if old ≠ slot then a.backgroundSlot old answers.background else a
  (a.slotConnect slot answers.foreground.starts).1

/-- `native_hub_actions_drain_connect` -/
def connect (a : App) (r : ConnectRequest) (answers : Answers) : App :=
  let candidate := r.candidate a.settings
  if (a.sessions r.slot).isStillConnecting || !r.fits then a
  else if !validateConnect (candidate.sessions r.slot) then a
  else if r.requiresSave then
    match a.save candidate answers.disk with
    | (a, true) =>
      ((a.withSettings candidate).reconfigureCaptureRedirect answers).connectReady r.slot answers
    | (a, false) => a
  else a.connectReady r.slot answers

/-! ## Switches -/

/-- What becomes of a suppressed slot that comes to the screen. A replay that fails, behind units
that it has shown or at once, may have taken the slot down. -/
def resumeSlot (a : App) (target : SlotIndex) (answers : Answers) : App :=
  let a := a.modifySlot target fun s => { s with suppressed := false }
  let a := if answers.replay.failed then a.reportTerminal target .decoderError else a
  if answers.replay.shown || (a.sessions target).sessionFailed then a
  else if (a.sessions target).refreshIneffective then
    (a.reconnect target answers.foreground.starts).1
  else a

/-- `native_complete_session_switch` -/
def completeSessionSwitch (a : App) (target : SlotIndex) (answers : Answers) : App × Bool :=
  let old := a.mixer.activeIndex
  let slot := a.sessions target
  if !slot.rdp || slot.sessionFailed then (a, false)
  else if old = target then (a, true)
  else
    let a := a.flushSettings answers.disk
    let a := a.modifySlot target fun s => { s with snapshotPending := false }
    let a := a.activate target
    let a := a.backgroundSlot old answers.background
    if !slot.snapshotPending && (a.sessions target).suppressed then
      (a.resumeSlot target answers, true)
    else (a, true)

/-- `native_show_slot_configurator` -/
def showSlotConfigurator (a : App) (target : SlotIndex) (answers : Answers) : App :=
  let old := a.mixer.activeIndex
  if old ≠ target then (a.activate target).backgroundSlot old answers.background else a

/-- `native_prepare_pending_switch` -/
def preparePendingSwitch (a : App) (target : SlotIndex) (answers : Answers) : App :=
  let slot := a.sessions target
  if slot.snapshotPending then a
  else
    let (a, started) :=
      if slot.refreshIneffective || a.snapshotForce then
        a.reconnect target answers.foreground.starts
      else (a, true)
    if !started then a
    else if !answers.foreground.armed then (a.completeSessionSwitch target answers).1
    else a.modifySlot target fun s => { s with snapshotPending := true, suppressed := false }

/-- The snapshot branch of `native_switch_tick`. -/
def settleSnapshot (a : App) (i : SlotIndex) : App :=
  let slot := a.sessions i
  if !slot.snapshotPending || i = a.mixer.activeIndex then a
  else if !slot.rdp || slot.currentState ≠ .active then a
  else a.modifySlot i fun s => { s with suppressed := true, snapshotPending := false }

/-- No keyframe came for a deferred switch. -/
def retrySnapshot (a : App) (i : SlotIndex) (answers : Answers) : App :=
  let a := a.modifySlot i fun s => { s with refreshIneffective := true, snapshotPending := false }
  a.preparePendingSwitch i answers

/-- The watchdog of `native_switch_tick`. -/
def watchdogReconnect (a : App) (answers : Answers) : App :=
  let i := a.mixer.activeIndex
  let slot := a.sessions i
  if slot.rdp && slot.currentState = .active then
    let a := a.modifySlot i fun s => { s with refreshIneffective := true }
    (a.reconnect i answers.foreground.starts).1
  else a

/-- The save of `native_streaming_transition_tick` with the resume before it. -/
def enterStreaming (a : App) (disk : List Candidate) : App :=
  let i := a.mixer.activeIndex
  let slot := a.sessions i
  if slot.rdp && slot.currentState = .active then
    let a := a.modifySlot i fun s => { s with suppressed := false }
    (a.save a.settings disk).1
  else a

/-- The last slot that can take over from a failed one. -/
def survivor (a : App) (i : SlotIndex) : Option SlotIndex :=
  (List.finRange maxSessions).foldl (fun found j =>
    if j ≠ i ∧ (a.sessions j).isLiveStreamTarget ∧ (a.sessions j).currentState = .active then
      some j
    else found) none

/-- One slot of `native_session_supervisor_tick`. -/
def superviseSlot (a : App) (i : SlotIndex) (answers : Answers) : App :=
  if !(a.sessions i).sessionFailed then a
  else if i = a.mixer.activeIndex then
    match a.survivor i with
    | none => (a.stopSlot i).flushSettings answers.disk
    | some j =>
      if answers.streamingVisible then
        match a.completeSessionSwitch j answers with
        | (a, true) => a.stopSlot i
        | (a, false) => (a.stopSlot i).flushSettings answers.disk
      else a.stopSlot i
  else a.stopSlot i

/-! ## Start and end -/

/-- The application of `main.c` with its mirrors, its pipeline and the hub's first slot. What
the loader takes fits the mirrors' `int8_t` and `uint8_t`. -/
def start (settings : NativeSettings) (pipelineStarts cameraPreview snapshotForce : Bool)
    (hubSlot : SlotIndex) : App :=
  let desk : MixerApp := { mixer := .zero, settings := settings }
  let desk := desk.start
  let fresh : AudioPipeline :=
    if pipelineStarts && !cameraPreview then some .initial else none
  let pipeline := (List.finRange maxSessions).foldl (fun (p : AudioPipeline) slot =>
    (p.setSourceGain slot (gainDbToQ15 (desk.mixer.gainDb slot))).setSourceMuted slot
      (settings.sessions slot).mixerMuted) fresh
  let a : App := {
    desk := desk
    sessions := fun slot => { config := settings.sessions slot }
    snapshotForce := snapshotForce
    cameraPreview := cameraPreview
    pipeline := pipeline }
  a.publishEffectiveSoloMask.duckRetarget.activate hubSlot

/-- The end of `main.c`. -/
def shutdown (a : App) (disk : List Candidate) : App :=
  let a := a.flushSettings disk
  let a := (List.finRange maxSessions).foldl stopSlot a
  { a with pipeline := none }

end App

/-! ## One operation after another -/

inductive Operation where
  | setDb (slot : SlotIndex) (gainDb : Int)
  | adjust (slot : SlotIndex) (deltaSteps : Int)
  | toggleDuck (slot : SlotIndex)
  | toggleMute (slot : SlotIndex)
  | toggleSolo (slot : SlotIndex)
  | flush (disk : List Candidate)
  | captureSave (values : CaptureValues) (answers : Answers)
  | profileSave (slot : SlotIndex) (edited : Option NativeSessionConfig) (codec : AudioCodec)
      (answers : Answers)
  | profileDelete (slot : SlotIndex) (answers : Answers)
  | connect (request : ConnectRequest) (answers : Answers)
  | switchTo (target : SlotIndex) (answers : Answers)
  | configurator (target : SlotIndex) (answers : Answers)
  | prepare (target : SlotIndex) (answers : Answers)
  | settle (slot : SlotIndex)
  | retry (slot : SlotIndex) (answers : Answers)
  | watchdog (answers : Answers)
  | enterStreaming (disk : List Candidate)
  | record (slot : SlotIndex) (state : RdpState)
  | supervise (slot : SlotIndex) (answers : Answers)
  | shutdown (disk : List Candidate)

namespace App

def perform (a : App) : Operation → App
  | .setDb slot gainDb => a.setDb slot gainDb
  | .adjust slot deltaSteps => a.adjust slot deltaSteps
  | .toggleDuck slot => a.toggleDuck slot
  | .toggleMute slot => a.toggleMute slot
  | .toggleSolo slot => a.toggleSolo slot
  | .flush disk => a.flushSettings disk
  | .captureSave values answers => a.captureSave values answers
  | .profileSave slot edited codec answers => a.profileSave slot edited codec answers
  | .profileDelete slot answers => a.profileDelete slot answers
  | .connect request answers => a.connect request answers
  | .switchTo target answers => (a.completeSessionSwitch target answers).1
  | .configurator target answers => a.showSlotConfigurator target answers
  | .prepare target answers => a.preparePendingSwitch target answers
  | .settle slot => a.settleSnapshot slot
  | .retry slot answers => a.retrySnapshot slot answers
  | .watchdog answers => a.watchdogReconnect answers
  | .enterStreaming disk => a.enterStreaming disk
  | .record slot state => a.recordState slot state
  | .supervise slot answers => a.superviseSlot slot answers
  | .shutdown disk => a.shutdown disk

/-- The operations one after another. -/
def run (a : App) (operations : List Operation) : App := operations.foldl perform a

end App

end Lgnome.Mixing
