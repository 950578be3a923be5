import Lgnome.Bytes.Fixed
import Lgnome.Transition.Machine

/-!
# The graphics pipeline of a worker

EGFX callbacks fill queues behind a lock while a frame is processed, and the
worker drains them between frames. The run loop, the reactivation and the retry
after a handoff are steps of the same worker. Log lines and the counters that
only they use are left out.
-/
namespace Lgnome.Graphics

open Lgnome.Transition

def rdpVideoCodecH264 : UInt32 := 0
def rdpVideoCodecH265 : UInt32 := 1

structure NativeVideoUnit where
  codec : UInt32
  data : Bytes
  deriving DecidableEq, Repr

structure NativeBitmapUnit where
  surfaceId : UInt16
  left : UInt32
  top : UInt32
  width : UInt32
  height : UInt32
  stride : UInt32
  data : Bytes
  deriving DecidableEq, Repr

structure NativeGfxState where
  pendingVideo : List NativeVideoUnit := []
  pendingBitmap : List NativeBitmapUnit := []
  unsupportedGraphics : Option String := none
  graphicsWidth : UInt32 := 0
  graphicsHeight : UInt32 := 0
  graphicsSizePending : Bool := false
  surfaceOrigins : UInt16 → Option (UInt32 × UInt32) := fun _ => none

structure NativeGfxHandler where
  hevcCapable : Bool
  hevcNegotiated : Bool := false
  undecodableSinceRender : UInt32 := 0
  deriving DecidableEq, Repr

def maxUndecodableUpdates : UInt32 := 32

/-- `BitmapUpdate`; `codecId` is the codec's name as a message prints it. -/
structure BitmapUpdate where
  surfaceId : UInt16
  left : UInt16
  top : UInt16
  codecId : String
  width : UInt16
  height : UInt16
  data : Bytes
  deriving DecidableEq, Repr

/-- What `on_unhandled_pdu` tells apart. -/
inductive UnhandledPdu where
  | avc444
  | wireToSurface
  | other
  deriving DecidableEq, Repr

/-- The callbacks of `GraphicsPipelineHandler` that change anything. -/
inductive GfxCallback where
  | capabilitiesConfirmed (frdp1Hevc : Bool)
  | resetGraphics (width height : UInt32)
  | surfaceMapped (surfaceId : UInt16) (originX originY : UInt32)
  | surfaceDeleted (surfaceId : UInt16)
  | bitmapUpdated (update : BitmapUpdate)
  | avc420Frame (nal : Bytes)
  | hevcFrame (nal : Bytes)
  | unhandledPdu (pdu : UnhandledPdu)
  deriving DecidableEq, Repr

/-- What an observer of the worker sees: resets and units as they arrive, the sizes told
and the units delivered, and the turns of the session. -/
inductive GfxEvent where
  | reset (width height : UInt32)
  | bitmapQueued (unit : NativeBitmapUnit)
  | videoQueued (unit : NativeVideoUnit)
  | activated (width height : UInt16)
  | retried
  | desktopSize (width height : UInt16)
  | bitmapUpdate (unit : NativeBitmapUnit)
  | videoAu (codec : UInt32) (data : Bytes) (pts90k : UInt64)
  /-- A slow-path rectangle, which passes the queues by. -/
  | slowpathBitmap (unit : NativeBitmapUnit)
  deriving DecidableEq, Repr

/-- The handler's side: its own fields and the shared queues. -/
structure GfxSide where
  handler : NativeGfxHandler
  shared : NativeGfxState := {}

namespace GfxSide

/-- `mark_unsupported_graphics`: the first detail stays. -/
def markUnsupported (g : GfxSide) (detail : String) : GfxSide :=
  { g with shared := { g.shared with
      unsupportedGraphics := g.shared.unsupportedGraphics.or (some detail) } }

/-- `note_rendered_update`. -/
def noteRendered (g : GfxSide) : GfxSide :=
  { g with handler := { g.handler with undecodableSinceRender := 0 } }

/-- `saturating_add(1)`. -/
def saturatingSucc (n : UInt32) : UInt32 := if n = 0xFFFFFFFF then n else n + 1

/-- `note_undecodable_update`. -/
def noteUndecodable (g : GfxSide) : GfxSide :=
  let g := { g with handler := { g.handler with
    undecodableSinceRender := saturatingSucc g.handler.undecodableSinceRender } }
  if maxUndecodableUpdates ≤ g.handler.undecodableSinceRender then
    g.markUnsupported "server sent only EGFX updates this client cannot decode"
  else g

/-- `on_reset_graphics`: a size that is not the known one is to be told. -/
def onResetGraphics (g : GfxSide) (width height : UInt32) : GfxSide × List GfxEvent :=
  let sizeChanged := width ≠ g.shared.graphicsWidth ∨ height ≠ g.shared.graphicsHeight
  ({ handler := { g.handler with undecodableSinceRender := 0 }
     shared := { g.shared with
      pendingVideo := []
      pendingBitmap := []
      surfaceOrigins := fun _ => none
      graphicsWidth := if sizeChanged then width else g.shared.graphicsWidth
      graphicsHeight := if sizeChanged then height else g.shared.graphicsHeight
      graphicsSizePending := if sizeChanged then true else g.shared.graphicsSizePending } },
    [.reset width height])

/-- The unit `on_bitmap_updated` queues, on the desktop and not on its surface. -/
def bitmapUnit (g : GfxSide) (update : BitmapUpdate) : NativeBitmapUnit :=
  let origin := (g.shared.surfaceOrigins update.surfaceId).getD (0, 0)
  { surfaceId := update.surfaceId
    left := update.left.toUInt32 + origin.1
    top := update.top.toUInt32 + origin.2
    width := update.width.toUInt32
    height := update.height.toUInt32
    stride := update.width.toUInt32 * 4
    data := update.data }

def onBitmapUpdated (g : GfxSide) (update : BitmapUpdate) : GfxSide × List GfxEvent :=
  let expected := update.width.toNat * 4 * update.height.toNat
  if update.data = [] ∨ update.width = 0 ∨ update.height = 0 then
    (g.markUnsupported s!"server produced empty bitmap update ({update.codecId})", [])
  else if update.data.length < expected then
    (g.markUnsupported
      s!"server produced short bitmap update ({update.codecId}, {update.data.length} < {expected})", [])
  else
    let unit := g.bitmapUnit update
    ({ g with shared := { g.shared with pendingBitmap := g.shared.pendingBitmap ++ [unit] }
      : GfxSide }.noteRendered, [.bitmapQueued unit])

/-- An access unit for the decoder, unless it is empty. -/
def queueVideo (g : GfxSide) (codec : UInt32) (nal : Bytes) : GfxSide × List GfxEvent :=
  if nal = [] then (g, [])
  else
    let unit := { codec, data := nal }
    ({ g with shared := { g.shared with pendingVideo := g.shared.pendingVideo ++ [unit] }
      : GfxSide }.noteRendered, [.videoQueued unit])

def onHevcFrame (g : GfxSide) (nal : Bytes) : GfxSide × List GfxEvent :=
  if g.handler.hevcNegotiated then g.queueVideo rdpVideoCodecH265 nal
  else (g.markUnsupported "server sent HEVC without negotiating it", [])

def onUnhandledPdu (g : GfxSide) : UnhandledPdu → GfxSide
  | .avc444 => g.markUnsupported "server produced unsupported AVC444 EGFX PDU"
  | .wireToSurface => g.noteUndecodable
  | .other => g

def call (g : GfxSide) : GfxCallback → GfxSide × List GfxEvent
  | .capabilitiesConfirmed frdp1Hevc =>
    ({ g with handler := { g.handler with hevcNegotiated := g.handler.hevcCapable && frdp1Hevc } }, [])
  | .resetGraphics width height => g.onResetGraphics width height
  | .surfaceMapped surfaceId originX originY =>
    ({ g with shared := { g.shared with
        surfaceOrigins := fun id =>
          if id = surfaceId then some (originX, originY) else g.shared.surfaceOrigins id } }, [])
  | .surfaceDeleted surfaceId =>
    ({ g with shared := { g.shared with
        surfaceOrigins := fun id =>
          if id = surfaceId then none else g.shared.surfaceOrigins id } }, [])
  | .bitmapUpdated update => g.onBitmapUpdated update
  | .avc420Frame nal => g.queueVideo rdpVideoCodecH264 nal
  | .hevcFrame nal => g.onHevcFrame nal
  | .unhandledPdu pdu => (g.onUnhandledPdu pdu, [])

def calls (g : GfxSide) : List GfxCallback → GfxSide × List GfxEvent
  | [] => (g, [])
  | c :: cs =>
    let first := g.call c
    let rest := first.1.calls cs
    (rest.1, first.2 ++ rest.2)

end GfxSide

/-- `NativeConfig` as far as the pipeline reads it. -/
structure GfxConfig where
  fps : UInt16 := 30
  enableHevc : Bool := false
  deriving DecidableEq, Repr

/-- Where the worker is. A session that failed may allow another attempt. -/
inductive SessionPhase where
  | connecting
  | active
  | failed (retryHandoff : Bool)
  deriving DecidableEq, Repr

/-- `NativeWorker` as far as the pipeline uses it. -/
structure GfxWorker where
  gfx : GfxSide
  nextPts90k : UInt64 := 0
  framePtsStep : UInt64
  attempt : Nat := 1
  phase : SessionPhase := .connecting

def maxSessionAttempts : Nat := 3

def maxCanvasBytes : Nat := 64 * 1024 * 1024

/-- `validate_canvas`. -/
def validCanvas (width height : UInt16) : Bool :=
  width ≠ 0 && height ≠ 0 && width.toNat * height.toNat * 4 ≤ maxCanvasBytes

/-- How a Deactivate-All went on. -/
inductive Reactivation where
  /-- The sequence, or the buffer for the new canvas, failed. -/
  | failed (retryHandoff : Bool)
  /-- Finalized, with an unusable channel chunk size. -/
  | unusable (width height : UInt16)
  /-- Finalized, and the last output was written or not. -/
  | finalized (width height : UInt16) (written : Bool)
  deriving DecidableEq, Repr

/-- How the processing of a frame ended. -/
inductive FrameEnd where
  | processFailed
  | terminated (retryHandoff : Bool)
  | done (reactivation : Option Reactivation)
  deriving DecidableEq, Repr

inductive GfxAction where
  | connectFailed (retryHandoff : Bool)
  | activate (width height : UInt16)
  | poll
  | frame (callbacks : List GfxCallback) (slowpath : List NativeBitmapUnit) (frameEnd : FrameEnd)
  | ioFailed
  | retry
  deriving DecidableEq, Repr

namespace GfxWorker

/-- `width.min(u16::MAX) as u16`. -/
def clampU16 (n : UInt32) : UInt16 := if n ≤ 0xFFFF then n.toUInt16 else 0xFFFF

def fail (w : GfxWorker) (retryHandoff : Bool) : GfxWorker :=
  { w with phase := .failed retryHandoff }

/-- The last loop of `drain_gfx`, one timestamp after the other. -/
def sendVideo (step pts : UInt64) : List NativeVideoUnit → UInt64 × List GfxEvent
  | [] => (pts, [])
  | unit :: units =>
    let rest := sendVideo step (pts + max step 1) units
    (rest.1, .videoAu unit.codec unit.data pts :: rest.2)

/-- The size that `drain_gfx` finds pending. -/
def sizeEvents (shared : NativeGfxState) : List GfxEvent :=
  if shared.graphicsSizePending then
    [.desktopSize (clampU16 shared.graphicsWidth) (clampU16 shared.graphicsHeight)]
  else []

/-- `drain_gfx`: the queues are taken whole, then the size is told, then the bitmaps go
out, then the video. What the server should not have sent ends the session instead. -/
def drainGfx (w : GfxWorker) : GfxWorker × List GfxEvent :=
  let shared := w.gfx.shared
  let taken : NativeGfxState :=
    { shared with
      pendingVideo := [], pendingBitmap := [], unsupportedGraphics := none
      graphicsSizePending := false }
  let w' := { w with gfx := { w.gfx with shared := taken } }
  if shared.unsupportedGraphics.isSome then (w'.fail false, [])
  else
    let sent := sendVideo w.framePtsStep w.nextPts90k shared.pendingVideo
    ({ w' with nextPts90k := sent.1 },
      sizeEvents shared ++ (shared.pendingBitmap.map .bitmapUpdate ++ sent.2))

/-- `drive_reactivation`, from its Finalized branch on. -/
def driveReactivation (w : GfxWorker) : Reactivation → GfxWorker × List GfxEvent
  | .failed retryHandoff => (w.fail retryHandoff, [])
  | .unusable width height =>
    if validCanvas width height then
      ({ w with gfx := { w.gfx with shared := { w.gfx.shared with
          graphicsWidth := 0, graphicsHeight := 0 } } : GfxWorker }.fail false, [])
    else (w.fail false, [])
  | .finalized width height written =>
    if validCanvas width height then
      let w := { w with gfx := { w.gfx with shared := { w.gfx.shared with
        graphicsWidth := 0, graphicsHeight := 0 } } }
      (if written then w else w.fail false, [.activated width height, .desktopSize width height])
    else (w.fail false, [])

/-- Whatever follows the outputs of a frame: the drain, and the reactivation behind it. -/
def finishFrame (w : GfxWorker) (reactivation : Option Reactivation) : GfxWorker × List GfxEvent :=
  let drained := w.drainGfx
  match drained.1.phase, reactivation with
  | .active, some r =>
    let driven := drained.1.driveReactivation r
    (driven.1, drained.2 ++ driven.2)
  | _, _ => drained

/-- One frame of the inner loop of `run_active`. -/
def frame (w : GfxWorker) (callbacks : List GfxCallback) (slowpath : List NativeBitmapUnit) :
    FrameEnd → GfxWorker × List GfxEvent
  | .processFailed =>
    let called := w.gfx.calls callbacks
    ({ w with gfx := called.1 : GfxWorker }.fail false, called.2)
  | .terminated retryHandoff =>
    let called := w.gfx.calls callbacks
    ({ w with gfx := called.1 : GfxWorker }.fail retryHandoff,
      called.2 ++ slowpath.map .slowpathBitmap)
  | .done reactivation =>
    let called := w.gfx.calls callbacks
    let finished := { w with gfx := called.1 : GfxWorker }.finishFrame reactivation
    (finished.1, called.2 ++ (slowpath.map .slowpathBitmap ++ finished.2))

/-- `reset_session_state`, and the fresh handler of the next connector. -/
def resetSessionState (w : GfxWorker) : GfxWorker :=
  { w with
    gfx := { handler := { hevcCapable := w.gfx.handler.hevcCapable } }
    nextPts90k := 0
    attempt := w.attempt + 1
    phase := .connecting }

def step (w : GfxWorker) : GfxAction → Option (GfxWorker × List GfxEvent)
  | .connectFailed retryHandoff =>
    if w.phase = .connecting then some (w.fail retryHandoff, []) else none
  | .activate width height =>
    if w.phase = .connecting then
      if validCanvas width height then
        some ({ w with phase := .active }, [.activated width height, .desktopSize width height])
      else some (w.fail false, [])
    else none
  | .poll => if w.phase = .active then some w.drainGfx else none
  | .frame callbacks slowpath frameEnd =>
    if w.phase = .active then some (w.frame callbacks slowpath frameEnd) else none
  | .ioFailed => if w.phase = .active then some (w.fail false, []) else none
  | .retry =>
    if w.phase = .failed true ∧ w.attempt < maxSessionAttempts then
      some (w.resetSessionState, [.retried])
    else none

end GfxWorker

/-- `90_000 / fps`. -/
def ptsStep (config : GfxConfig) : UInt64 := 90000 / (max config.fps 1).toUInt64

def gfxMachine (config : GfxConfig) : Machine GfxWorker GfxAction (List GfxEvent) where
  init := {
    gfx := { handler := { hevcCapable := config.enableHevc } }
    framePtsStep := ptsStep config }
  step := GfxWorker.step

end Lgnome.Graphics
