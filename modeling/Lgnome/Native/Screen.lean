import Lgnome.Native.Bitmap
import Lgnome.Native.Replay
import Lgnome.Native.Surface

/-!
# The canvas on screen and the frozen one

`native_rgba_owner.c` and everything that goes through it: bitmap updates, access
units that close the canvas, the switches between slots, the HUB, and the drawing
of a frame. The application keeps the owners of the two surfaces, the screen the
surfaces themselves, with a log of what was done to them.
-/
namespace Lgnome.Native

open Lgnome.Transition

/-- The generation whose first frame retires the frozen surface. -/
structure Replacement where
  slot : SlotIndex
  epoch : UInt32
  baselineFrames : UInt32
  deriving DecidableEq, Repr

/-- What was done to the surfaces. -/
inductive CanvasNote where
  | opened
  | resized
  /-- By the slot and connection of the callback, on a surface of the size. -/
  | painted (owner : RgbaOwner) (width height : UInt16) (u : BitmapRect)
  | closed
  | froze
  | promoted
  /-- The frozen surface was closed. -/
  | released
  deriving DecidableEq, Repr

structure Screen where
  app : App := {}
  canvas : Option Surface := none
  frozen : Option Surface := none
  replacement : Option Replacement := none
  log : List CanvasNote := []

/-- What the platform answers while one bitmap update is painted. -/
structure PaintEnv where
  seenMs : UInt32 := 0
  fedMs : UInt32 := 0
  allocates : Bool := true
  deriving DecidableEq, Repr

/-- `native_rgba_surface_render`, which changes no pixels. -/
inductive RenderResult where
  | ok
  | retry
  | failed
  deriving DecidableEq, Repr

/-- The connection that a slot has now. -/
def App.rgbaOwnerOf (a : App) (i : SlotIndex) : RgbaOwner :=
  { owner := i, epoch := (a.sessions i).connectEpoch }

namespace Screen

def note (s : Screen) (x : CanvasNote) : Screen := { s with log := s.log ++ [x] }

/-- A change of the application that does not touch the surfaces. -/
def onApp (s : Screen) (f : App → App) : Screen := { s with app := f s.app }

/-- `native_close_rgba_locked`. -/
def closeRgba (s : Screen) : Screen :=
  { s with app := { s.app with rgba := none }, canvas := none }.note .closed

/-- `native_close_hub_return_rgba_locked`. -/
def closeHubReturn (s : Screen) : Screen :=
  { s with app := { s.app with hubReturnRgba := none }, frozen := none, replacement := none }.note
    .released

/-- `native_capture_hub_return_rgba_locked`: the frame of the session that BACK returns to. -/
def captureHubReturn (s : Screen) : Screen :=
  if !s.app.hubVisible || s.frozen.isSome then s
  else
    match s.app.hubReturnSlot, s.canvas with
    | some i, some c =>
      if s.app.rgbaOwnerMatches i (s.app.sessions i).connectEpoch && c.hasFrame then
        { s with
          app := { s.app with rgba := none, hubReturnRgba := s.app.rgba }
          canvas := none
          frozen := some c
          replacement := none }.note .froze
      else s
    | _, _ => s

/-- `native_arm_hub_return_replacement_locked`. -/
def armReplacement (s : Screen) (r : Replacement) : Screen :=
  if s.frozen.isNone then s else { s with replacement := some r }

/-- `native_promote_hub_return_rgba_locked`, where the owner matches. -/
def promoteHubReturn (s : Screen) : Screen :=
  let s := s.closeRgba
  { s with
    app := { s.app with rgba := s.app.hubReturnRgba, hubReturnRgba := none }
    canvas := s.frozen
    frozen := none
    replacement := none }.note .promoted

section Bitmap

variable (s : Screen) (i : SlotIndex)

/-- Dirty rectangles must not inherit another connection's pixels. -/
def dropForeignCanvas : Screen :=
  if s.app.rgba.isSome && !s.app.rgbaOwnerMatches i (s.app.sessions i).connectEpoch then s.closeRgba
  else s

/-- A canvas of the desktop's size, zeroed if it was not there or had another size. -/
def prepareCanvas (allocates : Bool) : Screen :=
  let slot := s.app.sessions i
  match s.canvas with
  | none =>
    match Surface.open slot.desktopWidth slot.desktopHeight allocates with
    | none => s
    | some c =>
      { s with app := { s.app with rgba := some (s.app.rgbaOwnerOf i) }, canvas := some c }.note
        .opened
  | some c =>
    if c.width = slot.desktopWidth ∧ c.height = slot.desktopHeight then s
    else
      match c.resize slot.desktopWidth slot.desktopHeight allocates with
      | (c, .ok) => { s with canvas := some c }.note .resized
      | _ => s.closeRgba

/-- `native_rgba_surface_apply` on the canvas, and what follows from its result. -/
def draw (u : BitmapRect) : Screen × BitmapOutcome :=
  match s.canvas with
  | none => (s.onApp (·.reportTerminal i .decoderError), .presented false)
  | some c =>
    match c.apply u with
    | (c', .ok) =>
      ({ s with canvas := some c' }.note (.painted (s.app.rgbaOwnerOf i) c.width c.height u)
        |>.onApp (·.modifySlot i fun s => { s with videoOkFrames := s.videoOkFrames + 1 }),
        .presented true)
    | _ => (s.onApp (·.reportTerminal i .decoderError), .presented false)

/-- `on_bitmap_update`. -/
def bitmapUpdate (u : BitmapRect) (env : PaintEnv) : Screen × BitmapOutcome :=
  let recent := s.app.recentVideo i env.seenMs
  if s.app.activeIndex ≠ i ∨ ((s.app.sessions i).snapshot.armed ∧ recent) then
    (s.onApp (·.modifySlot i fun slot => { slot with videoViaBitmap := !recent }), .background)
  else
    let s := s.onApp (·.modifySlot i fun slot => { slot with videoViaBitmap := true })
    if u.rgba.isEmpty || u.width = 0 || u.height = 0 then
      (s.onApp (·.reportTerminal i .decoderError), .empty)
    else
      let s := s.dropForeignCanvas i
      match s.app.yieldDecoder i env.fedMs with
      | (a, some outcome) => ({ s with app := a }, outcome)
      | (a, none) => ({ s with app := a }.prepareCanvas i env.allocates).draw i u

end Bitmap

section Navigation

variable (s : Screen)

/-- Units only ever close the canvas. -/
def follow (a : App) : Screen :=
  if a.rgba.isNone && s.canvas.isSome then { s with app := a, canvas := none }.note .closed
  else { s with app := a }

/-- The canvas gives way to the target's, which may be the frozen one. -/
def handOver (target : SlotIndex) : Screen :=
  let slot := s.app.sessions target
  match s.app.hubReturnRgba with
  | none => s.closeRgba
  | some o =>
    if o.owner = target then
      if o.epoch = slot.connectEpoch then s.promoteHubReturn
      else
        -- The return slot reconnected while hidden: its frozen pixels are a fallback.
        s.closeRgba.armReplacement
          { slot := target, epoch := slot.connectEpoch, baselineFrames := slot.videoOkFrames }
    else s.closeRgba.closeHubReturn

/-- A hidden reconnect sends its next seed straight to the decoder. -/
def dropPending (target : SlotIndex) : Screen :=
  s.onApp fun a =>
    if (a.sessions target).snapshotPending then
      a.modifySlot target fun slot =>
        { slot with
          snapshotPending := false, snapshot := slot.snapshot.reset, snapshotIdrReady := false }
    else a

/-- Under the lock of `native_complete_session_switch`. -/
def publishOwner (target : SlotIndex) : Screen :=
  ((s.dropPending target).handOver target).onApp fun a =>
    { a with activeIndex := target, videoRefreshNeeded := false }

/-- Under the lock of `native_show_slot_configurator`. -/
def showConfigurator (target : SlotIndex) : Screen :=
  s.captureHubReturn.closeRgba.onApp fun a => { a with activeIndex := target }

/-- Under the lock of an explicit connect, whose slot is stopped and not yet started again. -/
def switchToConnect (target : SlotIndex) : Screen :=
  let s := if s.app.hubVisible then s.captureHubReturn else s
  let slot := s.app.sessions target
  let s := s.armReplacement
    { slot := target, epoch := slot.connectEpoch + 1, baselineFrames := slot.videoOkFrames }
  s.closeRgba.onApp fun a => { a with activeIndex := target, videoRefreshNeeded := false }

/-- `native_slot_connect`; `none` when the session does not start, whose report is an unlocked
callback. -/
def slotConnect (i : SlotIndex) (session : Option Session) (armed : Option Bool) : Screen :=
  let slot := s.app.sessions i
  let s :=
    if s.replacement.any (·.slot = i) then
      s.armReplacement
        { slot := i, epoch := slot.connectEpoch + 1, baselineFrames := slot.videoOkFrames }
    else s
  s.onApp fun a => (a.reconnect i 0 armed).modifySlot i fun slot => { slot with rdp := session }

/-- `native_stop_media`. -/
def stopMedia : Screen :=
  ({ s with app := s.app.stopMedia, canvas := none, frozen := none, replacement := none }.note
    .closed).note .released

/-- The active slot's canvas is its present connection's, with a frame in it. -/
def rgbaReady : Bool :=
  s.app.rgbaOwnerMatches s.app.activeIndex s.app.activeSlot.connectEpoch && s.canvas.any (·.hasFrame)

def h264Ready : Bool :=
  s.app.video.any fun d => d.owner = s.app.activeIndex && d.epoch = s.app.activeSlot.connectEpoch

/-- The new generation has a frame to show in place of the frozen one. -/
def replacementReady : Bool :=
  s.frozen.isSome && s.replacement.any (fun r =>
      r.slot = s.app.activeIndex && r.epoch = s.app.activeSlot.connectEpoch &&
        s.app.activeSlot.videoOkFrames ≠ r.baselineFrames) &&
    s.app.activeSlot.currentState = .active && (s.rgbaReady || s.h264Ready)

/-- The surface to draw. -/
def drawnSurface : Option Surface :=
  if s.frozen.isSome && !s.replacementReady then s.frozen
  else if s.rgbaReady then s.canvas
  else none

/-- `native_draw_rgba_frame`. -/
def drawRgbaFrame (rendered : RenderResult) : Screen :=
  let drawingReturn := s.frozen.isSome && !s.replacementReady
  let drawn := s.drawnSurface.any (·.hasFrame)
  if drawn && rendered = .failed then
    let failedSlot :=
      if drawingReturn then (s.app.hubReturnRgba.map (·.owner)).getD s.app.activeIndex
      else s.app.activeIndex
    let s :=
      if drawingReturn || (s.replacementReady && s.h264Ready) then s.closeHubReturn else s
    s.onApp (·.reportTerminal failedSlot .decoderError)
  else if s.replacementReady && (s.h264Ready || (drawn && rendered = .ok)) then s.closeHubReturn
  else s

end Navigation

end Screen

inductive ScreenAction where
  | bitmap (i : SlotIndex) (u : BitmapRect) (env : PaintEnv)
  | videoAu (i : SlotIndex) (codec : VideoCodec) (au : AccessUnit) (env : FeedEnv)
  | replay (target : SlotIndex) (now : UInt32) (envs : List ReplayEnv)
  | unlocked (callback : UnlockedCallback)
  | audioFormat (mediaOpens audioOpens : Bool)
  | arm (i : SlotIndex) (allocates : Bool)
  | reset (i : SlotIndex)
  | pending (i : SlotIndex) (filling : Bool)
  | stop (i : SlotIndex)
  | connect (i : SlotIndex) (session : Option Session) (armed : Option Bool)
  /-- The HUB comes on screen, or leaves it. -/
  | hub (shown : Bool)
  | publish (target : SlotIndex)
  | configure (target : SlotIndex)
  | connectFromUi (target : SlotIndex)
  | stopMedia
  | draw (rendered : RenderResult)
  | select (target : SlotIndex)
  deriving DecidableEq

namespace Screen

/-- When a step can be taken: only a running worker calls back, and the UI moves
between slots as their state allows. -/
def enabled (s : Screen) : ScreenAction → Bool
  | .bitmap i _ _ => (s.app.sessions i).rdp.isSome
  | .videoAu i _ _ _ => (s.app.sessions i).rdp.isSome
  | .replay target _ _ => s.app.activeIndex = target && (s.app.sessions target).rdp.isSome
  | .publish target =>
    s.app.activeIndex ≠ target && (s.app.sessions target).rdp.isSome &&
      !(s.app.sessions target).sessionFailed
  | .configure target => s.app.activeIndex ≠ target && (s.app.sessions target).rdp.isNone
  | .connectFromUi target => (s.app.sessions target).rdp.isNone
  | .select _ => !s.app.anySlotConnected
  | _ => true

variable (scan : Scanner)

/-- What a step does. -/
def next (s : Screen) : ScreenAction → Screen
  | .bitmap i u env => (s.bitmapUpdate i u env).1
  | .videoAu i codec au env => s.follow (s.app.ingestAu scan i codec au env).1
  | .replay target now envs => s.follow (s.app.snapshotReplay scan target now envs).1
  | .unlocked callback => s.onApp (·.unlocked callback)
  | .audioFormat mediaOpens audioOpens => s.onApp (·.openAudioTrack mediaOpens audioOpens)
  | .arm i allocates => s.onApp (·.armSnapshot i allocates)
  | .reset i => s.onApp (·.resetSnapshot i)
  | .pending i filling => s.onApp (·.modifySlot i fun slot => { slot with snapshotPending := filling })
  | .stop i => s.onApp (·.disconnect i)
  | .connect i session armed => s.slotConnect i session armed
  | .hub true => s.onApp fun a => { a with hubVisible := true, hubReturnSlot := some a.activeIndex }
  | .hub false => s.onApp fun a => { a with hubVisible := false }
  | .publish target => s.publishOwner target
  | .configure target => s.showConfigurator target
  | .connectFromUi target => s.switchToConnect target
  | .stopMedia => s.stopMedia
  | .draw rendered => s.drawRgbaFrame rendered
  | .select target => s.onApp fun a => { a with activeIndex := target }

end Screen

/-- Every order of the workers' callbacks and the UI thread. -/
def screenMachine (scan : Scanner) : Machine Screen ScreenAction Unit where
  init := {}
  step s action := if s.enabled action then some (s.next scan action, ()) else none

end Lgnome.Native
