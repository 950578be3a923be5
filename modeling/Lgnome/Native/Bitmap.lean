import Lgnome.Native.Video

/-!
# The other users of the screen

`on_bitmap_update` of `native_rdp_video.c`, the audio track that reloads the
pipeline under a decoder, and the end of the shared media. Pixels are left to
the canvas itself.
-/
namespace Lgnome.Native

def videoPathHoldMs : UInt32 := 1500

/-- What the platform answers while one bitmap update is taken in. -/
structure BitmapEnv where
  seenMs : UInt32 := 0
  fedMs : UInt32 := 0
  /-- `native_rgba_surface_open`. -/
  opens : Bool := true
  /-- The canvas has the size of the desktop, or could be resized to it. -/
  fits : Bool := true
  /-- `native_rgba_surface_apply`. -/
  applies : Bool := true
  deriving DecidableEq, Repr

/-- What became of one bitmap update. -/
inductive BitmapOutcome where
  | background
  | empty
  /-- Hardware video of the same connection is live. -/
  | heldBack
  | pathBlocked
  | presented (applied : Bool)
  deriving DecidableEq, Repr

namespace App

/-- Access units of this connection have arrived of late. -/
def recentVideo (a : App) (i : SlotIndex) (now : UInt32) : Bool :=
  let slot := a.sessions i
  slot.videoSeen && slot.videoEpoch = slot.connectEpoch && now - slot.videoLastAuMs < videoPathHoldMs

/-- Dirty rectangles must not inherit another connection's pixels. -/
def dropForeignCanvas (a : App) (i : SlotIndex) : App :=
  if a.rgba.isSome && !a.rgbaOwnerMatches i (a.sessions i).connectEpoch then { a with rgba := none }
  else a

/-- The decoder gives way to the canvas, unless it is this connection's and was fed of late. -/
def yieldDecoder (a : App) (i : SlotIndex) (now : UInt32) : App × Option BitmapOutcome :=
  match a.video with
  | none => (a, none)
  | some d =>
    let sameOwner := d.owner = i && d.epoch = (a.sessions i).connectEpoch
    if sameOwner && a.videoFeedStarted && now - a.videoLastFeedMs < videoPathHoldMs then
      (a.modifySlot i fun s => { s with videoViaBitmap := false }, some .heldBack)
    else
      let a := { a with video := none, decoderKeyframePending := false }
      if sameOwner then
        match a.noteGraphicsPathSwitch i with
        | (a, true) => (a, some .pathBlocked)
        | (a, false) => (a, none)
      else (a, none)

/-- A canvas for this connection, of the size of its desktop. -/
def openCanvas (a : App) (i : SlotIndex) (env : BitmapEnv) : App :=
  if a.rgba.isNone then
    if env.opens then
      { a with rgba := some { owner := i, epoch := (a.sessions i).connectEpoch } }
    else a
  else if env.fits then a
  else { a with rgba := none }

/-- The update is drawn, or there was no canvas to draw it on. -/
def drawBitmap (a : App) (i : SlotIndex) (env : BitmapEnv) : App × BitmapOutcome :=
  if a.rgba.isSome && env.applies then
    (a.modifySlot i fun s => { s with videoOkFrames := s.videoOkFrames + 1 }, .presented true)
  else (a.reportTerminal i .decoderError, .presented false)

/-- `on_bitmap_update`; `empty` is an update without data or area. -/
def bitmapUpdate (a : App) (i : SlotIndex) (empty : Bool) (env : BitmapEnv) : App × BitmapOutcome :=
  let recent := a.recentVideo i env.seenMs
  if a.activeIndex ≠ i ∨ ((a.sessions i).snapshot.armed ∧ recent) then
    (a.modifySlot i fun s => { s with videoViaBitmap := !recent }, .background)
  else
    let a := a.modifySlot i fun s => { s with videoViaBitmap := true }
    if empty then (a.reportTerminal i .decoderError, .empty)
    else
      match (a.dropForeignCanvas i).yieldDecoder i env.fedMs with
      | (a, some outcome) => (a, outcome)
      | (a, none) => (a.openCanvas i env).drawBitmap i env

/-- `on_audio_format`, where the first working format opens the shared track. That
reloads the pipeline under a live decoder, which is closed. -/
def openAudioTrack (a : App) (mediaOpens audioOpens : Bool) : App :=
  if a.audio then a
  else
    let a := { a with media := a.media || mediaOpens }
    if a.media && audioOpens then
      if a.video.isSome then
        { a with
          audio := true, video := none, decoderKeyframePending := false, videoRefreshNeeded := true }
      else { a with audio := true }
    else a

/-- `native_stop_media`. -/
def stopMedia (a : App) : App :=
  { a with rgba := none, hubReturnRgba := none, audio := false, video := none, media := false }

end App

end Lgnome.Native
