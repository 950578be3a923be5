import Lgnome.Native.App
import Lgnome.Transition.Strokes
import Mathlib.Data.UInt

/-!
# Held input

The SDL thread sends the buttons and keys of one user to whichever session its input
is attached to, and keeps a record of what is down so that the releases can be sent
before the input goes elsewhere. A send goes out while the input is active and
attached; the routines here are all that touch the record or the attachment.
-/
namespace Lgnome.Input

open Lgnome.Native Lgnome.Transition

inductive NativeInputButton
  | left
  | right
  | middle
  deriving DecidableEq, Repr

/-- What the record has a place for. -/
inductive HeldInput
  | button (button : NativeInputButton)
  | key (scancode : UInt8) (extended : Bool)
  deriving DecidableEq, Repr

structure NativeInput where
  active : Bool
  session : Option Session
  deriving DecidableEq, Repr

/-- The input side of the application. Handles from `nextSession` on were not given out. -/
structure InputApp where
  rdp : SlotIndex → Option Session
  activeIndex : SlotIndex
  streamingVisible : Bool
  /-- Streaming was entered in this turn of the loop, whose hub actions still follow. -/
  entered : Bool
  input : NativeInput
  heldMouse : NativeInputButton → Bool
  heldKeys : UInt8 → Bool → Bool
  nextSession : Session

abbrev InputStroke := Stroke Session HeldInput

/-- The order in which a flush goes over the record. -/
def allInputs : List HeldInput :=
  [.button .left, .button .right, .button .middle] ++
    [false, true].flatMap fun extended =>
      (List.range 256).map fun scancode => .key (UInt8.ofNat scancode) extended

theorem mem_allInputs (i : HeldInput) : i ∈ allInputs := by
  cases i with
  | button b => cases b <;> simp [allInputs]
  | key scancode extended =>
    have hkey : ∃ n ∈ List.range 256, UInt8.ofNat n = scancode :=
      ⟨scancode.toNat, List.mem_range.mpr scancode.toNat_lt, UInt8.ofNat_toNat⟩
    obtain ⟨n, hn, rfl⟩ := hkey
    refine List.mem_append_right _ (List.mem_flatMap.mpr ⟨extended, by cases extended <;> simp, ?_⟩)
    exact List.mem_map.mpr ⟨n, hn, rfl⟩

namespace InputApp

def new : InputApp where
  rdp _ := none
  activeIndex := .green
  streamingVisible := false
  entered := false
  input := { active := false, session := none }
  heldMouse _ := false
  heldKeys _ _ := false
  nextSession := 0

def held (app : InputApp) : HeldInput → Bool
  | .button b => app.heldMouse b
  | .key scancode extended => app.heldKeys scancode extended

/-- The session that a send reaches, by `native_input_ready`. -/
def ready (app : InputApp) : Option Session :=
  if app.input.active then app.input.session else none

/-- Nothing is sent by an input that is not ready. -/
def send (app : InputApp) (i : HeldInput) (down : Bool) : List InputStroke :=
  app.ready.toList.map fun session => ⟨session, i, down⟩

def trackButton (app : InputApp) (button : NativeInputButton) (down : Bool) : InputApp :=
  { app with heldMouse := fun b => if b = button then down else app.heldMouse b }

def trackKey (app : InputApp) (scancode : UInt8) (extended down : Bool) : InputApp :=
  { app with
    heldKeys := fun s e => if s = scancode ∧ e = extended then down else app.heldKeys s e }

/-- The button arm of `native_drain_evdev_mouse` and of `native_handle_sdl_event`. The
record does not ask whether the event was sent. -/
def pointerButton (app : InputApp) (button : NativeInputButton) (down : Bool) :
    InputApp × List InputStroke :=
  (app.trackButton button down, app.send (.button button) down)

/-- The end of `native_drain_evdev_keyboard`. Only what was sent is recorded. -/
def key (app : InputApp) (scancode : UInt8) (extended down : Bool) :
    InputApp × List InputStroke :=
  let sent := app.send (.key scancode extended) down
  (if sent.isEmpty then app else app.trackKey scancode extended down, sent)

/-- `native_flush_held_inputs`: every recorded input is forgotten and a release sent. -/
def flushHeldInputs (app : InputApp) : InputApp × List InputStroke :=
  ({ app with
      heldMouse := fun _ => false
      heldKeys := fun _ _ => false },
    (allInputs.filter app.held).flatMap fun i => app.send i false)

def setActive (app : InputApp) (active : Bool) : InputApp :=
  { app with input := { app.input with active } }

def stopStreamingInput (app : InputApp) : InputApp × List InputStroke :=
  (app.flushHeldInputs.1.setActive false, app.flushHeldInputs.2)

/-- `native_stop_slot`: the active slot's input is detached from the handle that is freed. -/
def stopSlot (app : InputApp) (index : SlotIndex) : InputApp :=
  { app with
    rdp := fun j => if j = index then none else app.rdp j
    input := if index = app.activeIndex then { active := false, session := none } else app.input }

/-- `native_slot_connect`. The worker may fail to start. -/
def slotConnect (app : InputApp) (index : SlotIndex) (started : Bool) : InputApp :=
  let stopped := app.stopSlot index
  if started then
    { stopped with
      rdp := fun j => if j = index then some app.nextSession else stopped.rdp j
      nextSession := app.nextSession + 1
      input :=
        if index = app.activeIndex then { active := false, session := some app.nextSession }
        else stopped.input }
  else stopped

/-- `native_background_slot`: a session that is to be cached is connected again. -/
def backgroundSlot (app : InputApp) (index : SlotIndex) (reconnect : Option Bool) : InputApp :=
  match app.rdp index, reconnect with
  | some _, some started => app.slotConnect index started
  | _, _ => app

/-- Input drives the target's session from here on. It is armed by a later tick. -/
def retarget (app : InputApp) (target : SlotIndex) : InputApp :=
  { app with
    activeIndex := target
    input := { active := false, session := app.rdp target } }

/-- `native_complete_session_switch` to a slot with a session. Where the target's stream
cannot be resumed its session is connected again. -/
def completeSessionSwitch (app : InputApp) (target : SlotIndex) (background : Option Bool)
    (fresh : Option Bool) : InputApp × List InputStroke :=
  if app.activeIndex = target then (app, [])
  else
    let demoted :=
      (app.flushHeldInputs.1.retarget target).backgroundSlot app.activeIndex background
    (match fresh with
      | none => demoted
      | some started => demoted.slotConnect target started, app.flushHeldInputs.2)

def hideStreaming (app : InputApp) : InputApp := { app with streamingVisible := false }

def select (app : InputApp) (index : SlotIndex) : InputApp := { app with activeIndex := index }

/-- `native_show_hub`. -/
def showHub (app : InputApp) : InputApp × List InputStroke :=
  (app.stopStreamingInput.1.hideStreaming, app.stopStreamingInput.2)

/-- `native_show_slot_configurator`. -/
def showSlotConfigurator (app : InputApp) (target : SlotIndex) (background : Option Bool) :
    InputApp × List InputStroke :=
  if app.activeIndex = target then (app.hideStreaming, [])
  else
    let demoted :=
      (app.stopStreamingInput.1.select target).backgroundSlot app.activeIndex background
    ((demoted.retarget target).hideStreaming, app.stopStreamingInput.2)

/-- `native_streaming_transition_tick`: the input is armed by the state of the active
slot, and behind that streaming may be entered. -/
def streamingTransitionTick (app : InputApp) (wanted enters : Bool) : InputApp :=
  let connected := (app.rdp app.activeIndex).isSome
  let armed := app.setActive (app.streamingVisible && connected && wanted)
  if connected && !app.streamingVisible && enters then
    { armed with streamingVisible := true, entered := true }
  else { armed with entered := false }

/-- The supervisor's end of an active session that nothing else takes the screen from. -/
def failActiveSlot (app : InputApp) : InputApp × List InputStroke :=
  ((app.stopStreamingInput.1.stopSlot app.activeIndex).hideStreaming, app.stopStreamingInput.2)

/-- The connect of `native_hub_actions_drain_connect`. -/
def hubConnect (app : InputApp) (requested : SlotIndex) (background : Option Bool)
    (started : Bool) : InputApp :=
  let selected := (app.stopSlot requested).select requested
  let demoted :=
    if app.activeIndex = requested then selected
    else selected.backgroundSlot app.activeIndex background
  demoted.slotConnect requested started

end InputApp

end Lgnome.Input
