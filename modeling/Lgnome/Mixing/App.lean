import Lgnome.Mixing.Pipeline
import Lgnome.Native.App
import Lgnome.Settings.Storage

/-!
# Operations that carry the mix

The mix of a slot lives in the settings model, in the application's own copy, in
the audio pipeline and in the file. Here are the operations that write one of
them: the overlay's edits, the saves, the profile drawer, and whatever starts,
stops or demotes a session. What a worker, the file system or the snapshot cache
answers is an argument.
-/
namespace Lgnome.Mixing

open Lgnome.Settings
open Lgnome.Native (RdpState StartResult)

/-! ## State -/

/-- A `NativeSessionSlot` as these operations see it; a session is there or not. -/
structure SessionSlot where
  rdp : Bool := false
  currentState : RdpState := .idle
  terminalState : RdpState := .idle
  sessionFailed : Bool := false
  config : NativeSessionConfig
  cameraWidth : Nat := 0
  cameraHeight : Nat := 0
  cameraFps : Nat := 0
  suppressed : Bool := false
  refreshIneffective : Bool := false
  snapshotPending : Bool := false

/-- `written` are the settings whose file was last renamed into place, `saved` says that
some save has succeeded. -/
structure App where
  desk : MixerApp
  dirty : Bool := false
  sessions : SlotIndex → SessionSlot
  running : Bool := true
  snapshotForce : Bool := false
  cameraPreview : Bool := false
  pipeline : AudioPipeline
  written : Option NativeSettings := none
  saved : Bool := false

/-- How a connect ends, and whether its snapshot was armed. -/
structure Connected where
  starts : StartResult
  armed : Bool
  deriving DecidableEq, Repr

/-- What a replay of the cache showed, and whether the decoder failed at it. -/
structure ReplayEnd where
  shown : Bool := false
  failed : Bool := false
  deriving DecidableEq, Repr

/-- What the surroundings answer during one operation. -/
structure Answers where
  disk : List Candidate := []
  captureDisabled : Bool := false
  recaptured : SlotIndex → Connected := fun _ => ⟨.started, true⟩
  background : Connected := ⟨.started, true⟩
  foreground : Connected := ⟨.started, true⟩
  replay : ReplayEnd := {}
  streamingVisible : Bool := false

/-- `native_session_is_still_connecting` -/
def SessionSlot.isStillConnecting (s : SessionSlot) : Bool := s.rdp && s.currentState ≠ .active

/-- `native_slot_is_live_stream_target` -/
def SessionSlot.isLiveStreamTarget (s : SessionSlot) : Bool :=
  s.rdp && !s.sessionFailed && (s.currentState = .active || s.snapshotPending)

/-- `capture_mode_changed` -/
def SessionSlot.captureModeChanged (s : SessionSlot) (settings : NativeSettings) : Bool :=
  s.cameraWidth ≠ settings.cameraWidth || s.cameraHeight ≠ settings.cameraHeight ||
    s.cameraFps ≠ settings.cameraFps

namespace App

abbrev mixer (a : App) : Mixer := a.desk.mixer

abbrev settings (a : App) : NativeSettings := a.desk.settings

def withSettings (a : App) (settings : NativeSettings) : App :=
  { a with desk := { a.desk with settings := settings } }

def modifySlot (a : App) (i : SlotIndex) (f : SessionSlot → SessionSlot) : App :=
  { a with sessions := Function.update a.sessions i (f (a.sessions i)) }

/-! ## Publications -/

def connectedMask (a : App) : Nat := maskOf fun slot => (a.sessions slot).rdp

/-- `native_publish_effective_solo_mask` -/
def publishEffectiveSoloMask (a : App) : App :=
  { a with pipeline := a.pipeline.setSoloMask (a.mixer.soloMask &&& a.connectedMask) }

/-- `native_duck_retarget` -/
def duckRetarget (a : App) : App :=
  let fg := a.mixer.activeIndex
  { a with pipeline := a.pipeline.setDuckForeground fg (withoutBit (a.mixer.duckMask fg) fg) }

/-- A store to `active_index` with the retarget that follows it. -/
def activate (a : App) (slot : SlotIndex) : App :=
  let mixer := { a.mixer with activeIndex := slot }
  duckRetarget { a with desk := { a.desk with mixer := mixer } }

/-! ## Sessions -/

/-- `native_slot_report_terminal`, with the interactive UI. -/
def reportTerminal (a : App) (i : SlotIndex) (state : RdpState) : App :=
  if (a.sessions i).terminalState ≠ .idle then a
  else
    let a := a.modifySlot i fun s => { s with terminalState := state }
    if a.mixer.activeIndex = i ∧ state.isNativeRuntimeFailure then { a with running := false }
    else a.modifySlot i fun s => { s with sessionFailed := true }

/-- `native_slot_record_state` -/
def recordState (a : App) (i : SlotIndex) (state : RdpState) : App :=
  if (a.sessions i).sessionFailed ∨ (a.sessions i).terminalState ≠ .idle then a
  else
    let a := a.modifySlot i fun s => { s with currentState := state }
    if state.isTerminalError ∨ state = .disconnected ∨ state = .stopped then
      a.reportTerminal i state
    else a

/-- `native_stop_slot` -/
def stopSlot (a : App) (i : SlotIndex) : App :=
  let a := a.modifySlot i fun s => { s with rdp := false }
  let a := a.publishEffectiveSoloMask
  a.modifySlot i fun s =>
    { s with
      snapshotPending := false
      suppressed := false
      currentState := .idle
      sessionFailed := false }

/-- `native_slot_connect`; a session that does not start has reported that itself. -/
def slotConnect (a : App) (i : SlotIndex) (starts : StartResult) : App × Bool :=
  let a := a.stopSlot i
  let a := a.modifySlot i fun s =>
    { s with
      terminalState := .idle
      cameraWidth := a.settings.cameraWidth
      cameraHeight := a.settings.cameraHeight
      cameraFps := a.settings.cameraFps }
  match starts.failure with
  | none => ((a.modifySlot i fun s => { s with rdp := true }).publishEffectiveSoloMask, true)
  | some state => (a.recordState i state, false)

/-- A connect whose failure goes to the failure drain. -/
def reconnect (a : App) (i : SlotIndex) (starts : StartResult) : App × Bool :=
  match a.slotConnect i starts with
  | (a, true) => (a, true)
  | (a, false) => (a.reportTerminal i .networkError, false)

/-- A hidden reconnect waits for its cache, or is silenced when it has none. -/
def reconnectHidden (a : App) (i : SlotIndex) (answer : Connected) : App :=
  match a.reconnect i answer.starts with
  | (a, true) =>
    if answer.armed then a.modifySlot i fun s => { s with snapshotPending := true }
    else a.modifySlot i fun s => { s with suppressed := true }
  | (a, false) => a

/-- `native_background_slot` -/
def backgroundSlot (a : App) (i : SlotIndex) (answer : Connected) : App :=
  let slot := a.sessions i
  if !slot.rdp || slot.suppressed then a
  else if (slot.refreshIneffective || a.snapshotForce) && slot.currentState = .active then
    a.reconnectHidden i answer
  else a.modifySlot i fun s => { s with suppressed := true }

/-- The loop over the slots in `native_reconfigure_capture_redirect`. -/
def recapture (a : App) (i : SlotIndex) (answer : Connected) : App :=
  let slot := a.sessions i
  if slot.rdp && slot.config.cameraRedirect && slot.captureModeChanged a.settings then
    if i = a.mixer.activeIndex then (a.reconnect i answer.starts).1
    else a.reconnectHidden i answer
  else a

/-- `native_reconfigure_capture_redirect` -/
def reconfigureCaptureRedirect (a : App) (answers : Answers) : App :=
  if a.cameraPreview || answers.captureDisabled then a
  else (List.finRange maxSessions).foldl (fun a i => a.recapture i (answers.recaptured i)) a

/-! ## The overlay -/

/-- `native_config_save_persisted`, with what it leaves in the file. -/
def save (a : App) (candidate : NativeSettings) (disk : List Candidate) : App × Bool :=
  let result := (savePersisted candidate disk).1
  let a := { a with
    written := if result.renamed then some candidate else a.written
    saved := a.saved || result.ok }
  (a, result.ok)

/-- `native_mixer_overlay_flush_settings` -/
def flushSettings (a : App) (disk : List Candidate) : App :=
  if a.dirty then
    let (a, ok) := a.save a.settings disk
    { a with dirty := !ok }
  else a

/-- `native_mixer_overlay_set_db` -/
def setDb (a : App) (slot : SlotIndex) (gainDb : Int) : App :=
  if clampGain gainDb ≠ a.mixer.gainDb slot then
    { a with
      desk := a.desk.setDb slot gainDb
      dirty := true
      pipeline := a.pipeline.setSourceGain slot (gainDbToQ15 (clampGain gainDb)) }
  else a

/-- `native_mixer_overlay_adjust` on a slot's fader. -/
def adjust (a : App) (slot : SlotIndex) (deltaSteps : Int) : App :=
  a.setDb slot (a.mixer.gainDb slot + deltaSteps)

/-- `native_mixer_overlay_toggle_duck` -/
def toggleDuck (a : App) (slot : SlotIndex) : App :=
  if slot = a.mixer.activeIndex then a
  else duckRetarget { a with desk := a.desk.toggleDuck slot, dirty := true }

/-- `native_mixer_overlay_toggle_mute` -/
def toggleMute (a : App) (slot : SlotIndex) : App :=
  let desk := a.desk.toggleMute slot
  { a with
    desk := desk
    dirty := true
    pipeline := a.pipeline.setSourceMuted slot (bitSet desk.mixer.muteMask slot) }

/-- `native_mixer_overlay_toggle_solo` -/
def toggleSolo (a : App) (slot : SlotIndex) : App :=
  publishEffectiveSoloMask { a with desk := a.desk.toggleSolo slot, dirty := true }

end App

end Lgnome.Mixing
