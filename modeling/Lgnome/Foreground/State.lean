import Lgnome.Native.Replay
import Lgnome.Native.Bitmap
import Lgnome.Transition.Parties

/-!
# The SDL thread and the four workers

The SDL thread moves the screen, the input and the decoder between the slots,
while the workers of the connected slots call back. A step is one access to what
the threads share, together with the SDL thread's own fields around it. Stopping
and starting a slot is one step: its worker is joined before anything changes,
and no other worker looks at the slot.
-/
namespace Lgnome.Foreground

open Lgnome.Native
open Lgnome.Transition (Prog)

/-- What a supervisor tick found and what it left. -/
structure Supervised where
  failedBefore : SlotIndex → Bool
  after : App

/-- The application with the commands sent to the servers. -/
structure LoopState where
  app : App := {}
  /-- The last display command on the slot's connection was to suppress. -/
  sentSuppress : SlotIndex → Bool := fun _ => false
  nextSession : Session := 0
  /-- A cache was wiped while `snapshot_idr_ready` said that it is ready. -/
  wipedReady : Bool := false
  /-- The slot on screen lost its session to a profile action while its stream was shown. -/
  stranded : Bool := false
  supervised : List Supervised := []

/-- What the platform answers at one step. -/
structure Answer where
  now : UInt32 := 0
  allocates : Bool := true
  starts : StartResult := .started
  /-- No pointer button is down that the mixer overlay has to wait for. -/
  buttonsUp : Bool := true
  mixerAvailable : Bool := true
  /-- The canvas has been drawn on. -/
  hasFrame : Bool := true
  replay : List ReplayEnv := []
  deriving DecidableEq

namespace LoopState

variable (w : LoopState)

def slot (i : SlotIndex) : Slot := w.app.sessions i

def onApp (f : App → App) : LoopState := { w with app := f w.app }

def modifySlot (i : SlotIndex) (f : Slot → Slot) : LoopState := w.onApp (·.modifySlot i f)

@[simp] theorem modifySlot_same (i : SlotIndex) (f : Slot → Slot) :
    (w.modifySlot i f).slot i = f (w.slot i) := App.modifySlot_same ..

@[simp] theorem modifySlot_other {i j : SlotIndex} (f : Slot → Slot) (h : j ≠ i) :
    (w.modifySlot i f).slot j = w.slot j := App.modifySlot_other _ _ _ h

def isActive (i : SlotIndex) : Bool := w.app.activeIndex = i

/-- `rdp_set_suppress_output`. -/
def setSuppressOutput (i : SlotIndex) (allowDisplay : Bool) : LoopState :=
  { w with sentSuppress := Function.update w.sentSuppress i !allowDisplay }

@[simp] theorem setSuppressOutput_slot (i j : SlotIndex) (allowDisplay : Bool) :
    (w.setSuppressOutput i allowDisplay).slot j = w.slot j := rfl

@[simp] theorem setSuppressOutput_same (i : SlotIndex) (allowDisplay : Bool) :
    (w.setSuppressOutput i allowDisplay).sentSuppress i = !allowDisplay := Function.update_self ..

/-- The server is silenced and the slot marked. -/
def suppress (i : SlotIndex) : LoopState :=
  (w.setSuppressOutput i false).modifySlot i fun s => { s with suppressed := true }

/-! ## Sessions -/

/-- `native_stop_slot`. -/
def stopSlot (i : SlotIndex) : LoopState :=
  let inputSession := if w.app.activeIndex = i then none else w.app.inputSession
  w.onApp fun a => { a.disconnect i with inputSession }

/-- `native_slot_connect` up to the start of the worker. -/
def renewSlot (i : SlotIndex) (armSnapshot : Bool) (answer : Answer) : LoopState :=
  (w.stopSlot i).onApp fun a =>
    { a.reconnect i w.nextSession (if armSnapshot then some answer.allocates else none) with
      decoderKeyframePending := if a.activeIndex = i then false else a.decoderKeyframePending }

/-- The worker has started. A new session counts as told to display. -/
def attachSession (i : SlotIndex) : LoopState :=
  { w.onApp fun a =>
      { a with inputSession := if a.activeIndex = i then (w.slot i).rdp else a.inputSession } with
    sentSuppress := Function.update w.sentSuppress i false
    nextSession := w.nextSession + 1 }

/-- `native_slot_connect`. A session that does not start has reported that itself. -/
def slotConnect (i : SlotIndex) (armSnapshot : Bool) (answer : Answer) : Bool × LoopState :=
  let w := w.renewSlot i armSnapshot answer
  match answer.starts.failure with
  | none => (true, w.attachSession i)
  | some state =>
    (false, (w.modifySlot i fun s => { s with rdp := none }).onApp (·.recordState i state))

/-- `native_slot_connect` with a report of a start that fails, as its callers but the HUB's
connect make it. -/
def reconnectSlot (i : SlotIndex) (armSnapshot : Bool) (answer : Answer) : Bool × LoopState :=
  let r := w.slotConnect i armSnapshot answer
  if r.1 then r else (false, r.2.onApp (·.reportTerminal i .networkError))

/-- `native_stop_media`. -/
def stopMedia : LoopState := w.onApp (·.stopMedia)

/-- The check that follows every stop of a session for good. -/
def stopMediaUnlessConnected : LoopState := if w.app.anySlotConnected then w else w.stopMedia

/-! ## Foreground -/

/-- `native_capture_redirect_set_foreground_slot`, which needs a manager. -/
def setForegroundSlot (foreground : Option SlotIndex) : LoopState :=
  w.onApp fun a => { a with captureForeground := a.captureForeground.map fun _ => foreground }

/-- `native_capture_pause_for_active_slot_change`. -/
def pauseCapture : LoopState := w.setForegroundSlot none

/-- `native_capture_follow_active_slot`. -/
def followActiveSlot : LoopState := w.setForegroundSlot (some w.app.activeIndex)

/-- `native_duck_retarget`. -/
def duckRetarget : LoopState :=
  (w.onApp fun a => { a with duckForeground := a.activeIndex }).followActiveSlot

/-- `native_mixer_overlay_hide`, which waits for a pointer button that is down. -/
def hideMixerOverlay (answer : Answer) : LoopState :=
  w.onApp fun a => { a with mixerOverlayVisible := a.mixerOverlayVisible && !answer.buttonsUp }

/-- `native_mixer_overlay_show`, which a canvas on screen prevents. -/
def showMixerOverlay (answer : Answer) : LoopState :=
  if w.app.rgba.isSome || !answer.mixerAvailable then w
  else w.onApp fun a => { a with mixerOverlayVisible := true }

/-- `native_capture_hub_return_rgba_locked`: the canvas of the session that BACK returns to. -/
def captureHubReturn (a : App) (hasFrame : Bool) : App :=
  if !a.hubVisible || a.hubReturnRgba.isSome then a
  else
    match a.hubReturnSlot with
    | none => a
    | some i =>
      if a.rgbaOwnerMatches i (a.sessions i).connectEpoch && hasFrame then
        { a with hubReturnRgba := a.rgba, rgba := none }
      else a

end LoopState

/-! ## Workers -/

/-- What the worker of a slot reports. -/
inductive Callback
  | videoAu (codec : VideoCodec) (au : AccessUnit) (env : FeedEnv)
  | unsupportedVideo
  | bitmap (empty : Bool) (env : BitmapEnv)
  | audioFormat (mediaOpens audioOpens : Bool)
  | state (state : RdpState)
  | desktopSize (width height : UInt16)

variable (scan : Scanner)

/-- A callback of the slot's worker. -/
def Callback.apply (a : App) (i : SlotIndex) : Callback → App
  | .videoAu codec au env => (a.ingestAu scan i codec au env).1
  | .unsupportedVideo => a.reportTerminal i .protocolError
  | .bitmap empty env => (a.bitmapUpdate i empty env).1
  | .audioFormat mediaOpens audioOpens => a.openAudioTrack mediaOpens audioOpens
  | .state reported => a.recordState i reported
  | .desktopSize width height =>
    a.modifySlot i fun s => { s with desktopWidth := width, desktopHeight := height }

/-- A slot without a session has no worker that could call back. -/
def LoopState.callBack (w : LoopState) (i : SlotIndex) (c : Callback) : LoopState :=
  if (w.slot i).rdp.isSome then w.onApp fun a => c.apply scan a i else w

/-- The slot of a callback that takes no video lock. -/
def hasWorker (w : LoopState) : UnlockedCallback → Bool
  | .state i _ => (w.slot i).rdp.isSome
  | .desktopSize i _ _ => (w.slot i).rdp.isSome
  | .stop => true

/-- Only workers that exist call back in the middle of a replay. -/
def LoopState.meanwhile (w : LoopState) (envs : List ReplayEnv) : List ReplayEnv :=
  envs.map fun env => { env with meanwhile := env.meanwhile.filter (hasWorker w) }

end Lgnome.Foreground
