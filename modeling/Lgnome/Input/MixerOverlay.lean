import Lgnome.Input.PointerDevices
import Lgnome.Transition.Machine

/-!
# The mixer overlay and the pointer

While the overlay is up the pointer is the system's: the grab is dropped, SDL's
events go to the overlay and nothing goes to the session. The overlay keeps a
mask of the buttons that are down and hides when it is empty. The devices and
the user's hand on them stand beside the application, so that the two can be
compared. They come and go at any time, and over a stream the reader follows.
-/
namespace Lgnome.Input

open Lgnome.Transition

/-- A pointer button as the session gets it. The mark says that the press it
belongs to was made while the overlay was up. -/
structure SentButton where
  button : NativeInputButton
  down : Bool
  pressedOpen : Bool
  deriving DecidableEq, Repr

/-- An edge of a grabbed mouse that was not drained yet, with the same mark. -/
structure QueuedButton where
  button : SdlButton
  down : Bool
  pressedOpen : Bool
  deriving DecidableEq, Repr

/-- The overlay's part of the application, and the devices. -/
structure Mixer where
  streamingVisible : Bool
  visible : Bool
  dragging : Bool
  dismissButton : Option SdlButton
  dismissPending : Bool
  pointerButtons : Buttons
  sdlButtons : Buttons
  heldMouse : NativeInputButton → Bool
  hubOpenButtonHeld : Bool
  inputActive : Bool
  /-- The reader was started, and its thread has not given up. -/
  started : Bool
  running : Bool
  queue : List QueuedButton
  resetPending : Bool
  /-- The next start of the reader works. -/
  starts : Bool
  devices : PointerDevices

/-- Where a press meets the panel. -/
inductive PressTarget
  | outside
  | body
  | control
  | fader
  deriving DecidableEq, Repr

/-- What an opening meets: whether there is a panel to draw, and the devices
that `EVIOCGKEY` answers for. -/
structure Opening where
  available : Bool
  reads : Nat → Bool

namespace Mixer

/-- A stream on the screen, and nothing plugged in yet. -/
def start : Mixer where
  streamingVisible := true
  visible := false
  dragging := false
  dismissButton := none
  dismissPending := false
  pointerButtons := .empty
  sdlButtons := .empty
  heldMouse _ := false
  hubOpenButtonHeld := false
  inputActive := true
  started := true
  running := true
  queue := []
  resetPending := false
  starts := true
  devices := []

def setDevice (s : Mixer) (i : Nat) (d : PointerDevice) : Mixer :=
  { s with devices := s.devices.set i d }

/-- `native_evdev_input_mouse_active`. -/
def mouseActive (s : Mixer) : Bool := s.devices.grabbed

/-- `native_evdev_input_start`: every mouse that can be grabbed is. -/
def evdevInputStart (s : Mixer) : Mixer :=
  if s.started then s
  else if s.starts then
    { s with
      started := true
      running := true
      queue := []
      resetPending := false
      devices := s.devices.map .grab }
  else s

def lowered (s : Mixer) : Mixer :=
  { s with
    visible := false
    dragging := false
    dismissButton := none
    dismissPending := false
    pointerButtons := .empty
    sdlButtons := .empty }

/-- The overlay is down, and over a stream the pointer is grabbed again. -/
def closed (s : Mixer) : Mixer :=
  if s.streamingVisible then s.lowered.evdevInputStart else s.lowered

/-- `native_mixer_overlay_hide`. A close waits for every button the overlay knows of. -/
def hide (s : Mixer) : Mixer :=
  if s.visible then
    if s.dismissButton ≠ none ∨ s.pointerButtons.isEmpty = false then
      { s with dismissPending := true }
    else s.closed
  else s

/-- The three buttons of the held record, in the order of its places. -/
def recordOrder : List NativeInputButton := [.left, .right, .middle]

def send (s : Mixer) (edge : SentButton) : List SentButton := if s.inputActive then [edge] else []

/-- `native_flush_held_inputs`, as far as buttons go. -/
def flushHeldInputs (s : Mixer) : Mixer × List SentButton :=
  ({ s with heldMouse := fun _ => false },
    (recordOrder.filter s.heldMouse).flatMap fun n =>
      s.send ⟨n, false, s.devices.pressedOpen n.sdl⟩)

/-- `native_stop_streaming_input`: with a mouse grabbed, the overlay's mask
becomes what the kernel says is down on the mice it answers for. -/
def stopStreamingInput (s : Mixer) (reads : Nat → Bool) : Mixer × List SentButton :=
  let flushed := s.flushHeldInputs
  ({ flushed.1 with
      inputActive := false
      hubOpenButtonHeld := false
      pointerButtons :=
        if s.visible && s.mouseActive then s.devices.kernelButtons reads else s.pointerButtons
      started := false
      running := false
      queue := []
      resetPending := false
      devices := s.devices.map .ungrab },
    flushed.2)

/-- What the held record says is down. -/
def recorded (s : Mixer) : Buttons := fun b => (nativeButtonFromSdl b).any s.heldMouse

/-- `native_mixer_overlay_show`. Without a panel to draw, nothing opens. -/
def showOverlay (s : Mixer) (opening : Opening) : Mixer × List SentButton :=
  if opening.available then
    { s with
      visible := true
      dragging := false
      dismissButton := none
      dismissPending := false
      pointerButtons := s.recorded
      sdlButtons := .empty }.stopStreamingInput opening.reads
  else (s, [])

/-- `native_show_hub`. No overlay is up, so no mask is asked of the kernel. -/
def showHub (s : Mixer) : Mixer × List SentButton :=
  if s.streamingVisible && !s.visible then
    let stopped := s.stopStreamingInput fun _ => true
    ({ stopped.1 with streamingVisible := false }, stopped.2)
  else (s, [])

/-- The end of `native_streaming_transition_tick`, back from the HUB. -/
def enterStreaming (s : Mixer) : Mixer := { s.evdevInputStart with streamingVisible := true }

/-- Both ends of the button arm without the overlay: sent and recorded. -/
def pointerButton (s : Mixer) (b : SdlButton) (down pressedOpen : Bool) :
    Mixer × List SentButton :=
  match nativeButtonFromSdl b with
  | some n =>
    ({ s with heldMouse := fun m => if m = n then down else s.heldMouse m },
      s.send ⟨n, down, pressedOpen⟩)
  | none => (s, [])

/-- The release of the button that opens the HUB, if its press was seen. -/
def hubButtonUp (s : Mixer) : Mixer × List SentButton :=
  let released := { s with hubOpenButtonHeld := false }
  if s.hubOpenButtonHeld then released.showHub else (released, [])

/-- A pending close completes when no button is left in the mask. -/
def completePending (s : Mixer) : Mixer :=
  if s.dismissPending ∧ s.pointerButtons.isEmpty then { s with dismissPending := false }.hide
  else s

/-- The dismissing button is up: from here on the close is pending. -/
def dismissReleased (s : Mixer) (released : Buttons) : Mixer :=
  match s.dismissButton with
  | some b =>
    if released b then { s with dismissButton := none, dismissPending := true } else s
  | none => s

/-- `SDL_MOUSEMOTION` with the buttons that SDL has down. A fader that follows
the pointer changes nothing here. -/
def motion (s : Mixer) (state : Buttons) : Mixer :=
  if s.visible then
    let released := s.sdlButtons.diff state
    ({ s with
        dragging := s.dragging && state .left
        sdlButtons := state
        pointerButtons := s.pointerButtons.diff released }.dismissReleased released).completePending
  else s

/-- `SDL_MOUSEBUTTONUP` over the overlay. -/
def overlayUp (s : Mixer) (b : SdlButton) : Mixer :=
  ({ s with
      sdlButtons := s.sdlButtons.erase b
      pointerButtons := s.pointerButtons.erase b
      dragging := s.dragging && b != SdlButton.left }.dismissReleased
        (Buttons.empty.insert b)).completePending

/-- `SDL_MOUSEBUTTONDOWN` over the overlay. An extra button or a press outside
closes it on its release, an extra one not in the middle of a drag. -/
def overlayDown (s : Mixer) (b : SdlButton) (target : PressTarget) : Mixer :=
  let s := { s with
    sdlButtons := s.sdlButtons.insert b
    pointerButtons := s.pointerButtons.insert b }
  if b = .x1 ∨ b = .x2 then
    if s.dismissButton = none ∧ s.dragging = false then { s with dismissButton := some b } else s
  else
    match target with
    | .outside =>
      { s with
        dismissButton := if s.dismissButton = none then some b else s.dismissButton
        dragging := false }
    | .body | .control => s
    | .fader => if b = .left then { s with dragging := true } else s

/-- The SDL button arm of a press. A grabbed mouse is read elsewhere. The second
extra button opens the overlay. -/
def sdlDown (s : Mixer) (b : SdlButton) (target : PressTarget) (opening : Opening) :
    Mixer × List SentButton :=
  if s.visible then (s.overlayDown b target, [])
  else if s.mouseActive then (s, [])
  else if b = .x1 then ({ s with hubOpenButtonHeld := true }, [])
  else if b = .x2 then s.showOverlay opening
  else s.pointerButton b true false

/-- The SDL button arm of a release. The first extra button opens the HUB. -/
def sdlUp (s : Mixer) (b : SdlButton) (pressedOpen : Bool) : Mixer × List SentButton :=
  if s.visible then (s.overlayUp b, [])
  else if s.mouseActive then (s, [])
  else if b = .x1 then s.hubButtonUp
  else s.pointerButton b false pressedOpen

/-- One edge in `native_drain_evdev_mouse`. The rest of the batch is dropped
with the grab when the overlay or the HUB opens. The mouse's further buttons do
what one of the two extra buttons does. -/
def drainEdge (s : Mixer) (edge : QueuedButton) (opening : Opening) : Mixer × List SentButton :=
  if edge.button = .x1 then
    if edge.down then ({ s with hubOpenButtonHeld := true }, []) else s.hubButtonUp
  else if edge.button = .x2 then
    if edge.down then
      if s.visible then (s.hide, [])
      else if s.streamingVisible then s.showOverlay opening
      else (s, [])
    else (s, [])
  else s.pointerButton edge.button edge.down edge.pressedOpen

/-- The reset arm of `native_drain_evdev_input`. -/
def takeReset (s : Mixer) : Mixer × List SentButton :=
  ({ s.flushHeldInputs.1 with
      resetPending := false
      hubOpenButtonHeld := false },
    s.flushHeldInputs.2)

/-- `native_present_mixer_overlay_frame` when the panel has been left alone. -/
def overlayFrame (s : Mixer) (passed : Bool) : Mixer :=
  if s.visible ∧ s.dragging = false ∧ s.dismissButton = none ∧ passed then s.hide else s

/-- `native_complete_session_switch`: what is held is released at the old session. -/
def completeSessionSwitch (s : Mixer) : Mixer × List SentButton :=
  ({ s.hide.flushHeldInputs.1 with inputActive := false }, s.hide.flushHeldInputs.2)

end Mixer

/-- What happens to the overlay: the hands and the events they cause, keys,
timeouts, frames, requests to open and to close, the HUB, and the devices. -/
inductive MixerAction
  /-- A button goes down on a device. -/
  | press (device : Nat) (button : SdlButton) (target : PressTarget) (opening : Opening)
  /-- A button goes up on a device. -/
  | release (device : Nat) (button : SdlButton)
  /-- SDL loses an edge of a button that it reports as down. -/
  | lost (device : Nat) (button : SdlButton)
  | motion (state : Buttons)
  | drain (opening : Opening)
  /-- A key over the overlay, one that closes it or not. -/
  | key (closes : Bool)
  | frame (passed : Bool)
  /-- A software frame takes the screen. -/
  | rgbaFrame
  /-- A key, or a change of the system volume. -/
  | showOverlay (opening : Opening)
  | completeSessionSwitch
  /-- A key opens the HUB, or the form of another slot. -/
  | showHub
  | enterStreaming
  | evdevReset
  /-- The tick that arms the input of a focused stream. -/
  | arm
  | plug (isMouse : Bool)
  | unplug (device : Nat)
  /-- Another program takes a device, or leaves it. -/
  | busy (device : Nat) (busy : Bool)
  /-- The reader looks for new devices. -/
  | scan
  /-- The reader drops a device it cannot read. -/
  | removeDevice (device : Nat)
  /-- The queue is full. -/
  | overflow
  /-- The reader gives all devices back and ends. -/
  | giveUp
  | starts (works : Bool)

namespace Mixer

/-- What a full queue and the loss of a device leave. -/
def resetQueue (s : Mixer) : Mixer := { s with queue := [], resetPending := true }

/-- Behind a reset nothing is pushed before it is taken. -/
def enqueue (s : Mixer) (edge : QueuedButton) : Mixer :=
  if s.resetPending then s else { s with queue := s.queue ++ [edge] }

/-- A press on a device: the reader's if it has the device, and else SDL's, for
which it is one if no other device of the pointer has the button down. Outside of
the stream nobody here hears of it. -/
def pressOn (s : Mixer) (i : Nat) (d : PointerDevice) (b : SdlButton) (target : PressTarget)
    (opening : Opening) : Mixer × List SentButton :=
  let pressed := s.setDevice i (d.press b s.visible)
  if d.grabbed then (pressed.enqueue ⟨b, true, false⟩, [])
  else if s.streamingVisible && !s.devices.onPointer b then pressed.sdlDown b target opening
  else (pressed, [])

def releaseOn (s : Mixer) (i : Nat) (d : PointerDevice) (b : SdlButton) :
    Mixer × List SentButton :=
  let released := s.setDevice i (d.release b)
  if d.grabbed then (released.enqueue ⟨b, false, d.pressedOpen b⟩, [])
  else if s.streamingVisible && !released.devices.onPointer b then
    released.sdlUp b (d.pressedOpen b)
  else (released, [])

/-- One step. A button that is down on a device cannot be pressed there. The
motion state is what the pointer has down, or at least all of it that SDL was told
about. A device that the compositor has is let go of before it is pulled out. -/
def step (s : Mixer) : MixerAction → Option (Mixer × List SentButton)
  | .press i b target opening =>
    match s.devices[i]? with
    | some d => if d.present && !d.down b then some (s.pressOn i d b target opening) else none
    | none => none
  | .release i b =>
    match s.devices[i]? with
    | some d => if d.down b then some (s.releaseOn i d b) else none
    | none => none
  | .lost i b =>
    match s.devices[i]? with
    | some d =>
      if s.visible && d.present && s.sdlButtons b then
        some (s.setDevice i (if d.down b then d.release b else d.press b true), [])
      else none
    | none => none
  | .motion state =>
    if state.subset s.devices.onPointer &&
        (s.sdlButtons.inter s.devices.onPointer).subset state then
      some (s.motion state, [])
    else none
  | .drain opening =>
    match s.queue with
    | edge :: queue =>
      if s.streamingVisible then some ({ s with queue }.drainEdge edge opening) else none
    | [] => none
  | .key closes => some (if closes then s.hide else s, [])
  | .frame passed => some (s.overlayFrame passed, [])
  | .rgbaFrame => some ({ s with dragging := s.dragging && !s.visible }.hide, [])
  | .showOverlay opening =>
    if s.visible || !s.streamingVisible then none else some (s.showOverlay opening)
  | .completeSessionSwitch => some s.completeSessionSwitch
  | .showHub => some s.showHub
  | .enterStreaming => if s.streamingVisible then none else some (s.enterStreaming, [])
  | .evdevReset => if s.resetPending && s.streamingVisible then some s.takeReset else none
  | .arm => some ({ s with inputActive := s.streamingVisible && !s.visible }, [])
  | .plug isMouse => some ({ s with devices := s.devices ++ [.new isMouse] }, [])
  | .unplug i =>
    match s.devices[i]? with
    | some d =>
      if d.grabbed || d.down.isEmpty then some (s.setDevice i d.pullOut, []) else none
    | none => none
  | .busy i busy =>
    match s.devices[i]? with
    | some d => some (s.setDevice i { d with busy }, [])
    | none => none
  | .scan => if s.running then some ({ s with devices := s.devices.map .grab }, []) else none
  | .removeDevice i =>
    match s.devices[i]? with
    | some d =>
      if s.running && d.grabbed then some ((s.setDevice i d.ungrab).resetQueue, []) else none
    | none => none
  | .overflow => if s.running then some (s.resetQueue, []) else none
  | .giveUp =>
    if s.running then
      some ({ s.resetQueue with running := false, devices := s.devices.map .ungrab }, [])
    else none
  | .starts works => some ({ s with starts := works }, [])

end Mixer

/-- The overlay over a focused stream. -/
def mixerOverlay : Machine Mixer MixerAction (List SentButton) where
  init := .start
  step := Mixer.step

end Lgnome.Input
