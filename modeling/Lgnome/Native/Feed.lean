import Lgnome.Native.Bitmap
import Lgnome.Native.Replay

/-!
# The decoder behind the feed

`video_ndl.c`: the open track with what it keeps to itself, and the backend with
what it has been given since its last load. One step takes in one unit; a replay
keeps the video lock and goes on unit by unit.
-/
namespace Lgnome.Native

open Lgnome.Transition

/-- `BackendNdlResult`, as far as the feed tells the results apart. -/
inductive BackendResult where
  | ok
  | needKeyframe
  | notReady
  | failed
  deriving DecidableEq, Repr

/-- The result of `native_media_ndl_configure_video`. -/
inductive OpenResult where
  | ok
  | unsupported
  | failed
  deriving DecidableEq, Repr

/-- What memory and backend answer while one unit is fed. -/
structure FeedAnswers where
  reserves : Bool := true
  opens : OpenResult := .ok
  backend : BackendResult := .ok
  deriving DecidableEq, Repr

/-- `NativeVideo` apart from its fixed fields. -/
structure NativeVideo where
  videoOpened : Bool := false
  terminalError : Bool := false
  deriving DecidableEq, Repr

/-- The track, and whether the backend has had no keyframe since it was loaded. -/
structure Track where
  video : NativeVideo := {}
  fresh : Bool := true
  deriving DecidableEq, Repr

def maxAuBytes : Nat := 32 * 1024 * 1024

/-- Whose units: a slot, its connection, its codec. -/
structure Stream where
  owner : SlotIndex
  epoch : UInt32
  codec : VideoCodec
  deriving DecidableEq, Repr

/-- A unit that the backend has accepted. -/
structure Accepted where
  stream : Stream
  seed : Bool
  deriving DecidableEq, Repr

def Decoder.stream (d : Decoder) : Stream := { owner := d.owner, epoch := d.epoch, codec := d.codec }

namespace Track

def fail (t : Track) : Track := { t with video := { t.video with terminalError := true } }

/-- The end of `native_video_feed_backend`, with the stream open. -/
def feedOpened (t : Track) (decoderSeed : Bool) : BackendResult → Track × VideoResult
  | .ok => ({ t with fresh := t.fresh && !decoderSeed }, .ok)
  | .needKeyframe => (t, .needKeyframe)
  | .notReady => (t, .dropped)
  | .failed => (t.fail, .error)

/-- `native_video_feed_backend`: the stream is opened, and the backend loaded, by the first seed. -/
def feedBackend (t : Track) (decoderSeed : Bool) (answers : FeedAnswers) : Track × VideoResult :=
  if t.video.videoOpened then t.feedOpened decoderSeed answers.backend
  else if !decoderSeed then (t, .needKeyframe)
  else
    match answers.opens with
    | .unsupported => (t.fail, .unsupported)
    | .failed => (t.fail, .error)
    | .ok =>
      ({ video := { t.video with videoOpened := true }, fresh := true } : Track).feedOpened
        decoderSeed answers.backend

/-- `native_video_feed`, which scans the unit again. -/
def feed (t : Track) (info : AuInfo) (data : Bytes) (answers : FeedAnswers) : Track × VideoResult :=
  if data = [] then (t, .error)
  else if t.video.terminalError then (t, .error)
  else if maxAuBytes < data.length then (t.fail, .error)
  else if !info.valid || !answers.reserves then (t.fail, .error)
  else t.feedBackend info.canSeedDecoder answers

/-- The backend has had a keyframe since it was loaded, and may get more. -/
def live (t : Track) : Bool := t.video.videoOpened && !t.video.terminalError && !t.fresh

end Track

/-- What one unit came to. -/
structure Fed where
  app : App
  track : Track
  outcome : Ingest
  accepted : Option Accepted

/-- A backend that was just loaded accepts no unit before it has accepted a keyframe. -/
def Fed.admissible (r : Fed) : Bool := !(r.accepted.isSome && r.track.fresh)

namespace App

variable (scan : Scanner)

def stream (a : App) (i : SlotIndex) : Stream where
  owner := i
  epoch := (a.sessions i).connectEpoch
  codec := (a.sessions i).videoCodec

/-- The end of `native_video_ingest_au_locked`, with the open decoder's own answer. -/
def feedTrack (a : App) (t : Track) (i : SlotIndex) (au : AccessUnit) (info : AuInfo)
    (env : FeedEnv) (answers : FeedAnswers) : Fed :=
  let r := t.feed info au.data answers
  { app := a.feedDecoder i { env with result := r.2 }
    track := r.1
    outcome := .fed au r.2
    accepted := if r.2 = .ok then some { stream := a.stream i, seed := info.canSeedDecoder } else none }

/-- `presentAu` down to the backend: the track of a decoder that was closed on the way
is a new one. -/
def presentFed (a : App) (t : Track) (i : SlotIndex) (au : AccessUnit) (info : AuInfo)
    (env : FeedEnv) (answers : FeedAnswers) : Fed :=
  match a.yieldCanvas i with
  | (a, true) => { app := a, track := t, outcome := .pathBlocked, accepted := none }
  | (a, false) =>
    match a.claimDecoder i (info.valid && info.canSeedDecoder) with
    | (a, some shown) => { app := a, track := t, outcome := .waitsKeyframe shown, accepted := none }
    | (a, none) =>
      let t := if (a.dropResized i).video.isSome then t else {}
      let a := (a.dropResized i).openDecoder i env
      if a.video.isSome then a.feedTrack t i au info env answers
      else
        { app := a.reportTerminal i .decoderError, track := t, outcome := .noDecoder
          accepted := none }

/-- `native_video_ingest_au_locked` down to the backend. -/
def ingestFed (a : App) (t : Track) (i : SlotIndex) (au : AccessUnit) (env : FeedEnv)
    (answers : FeedAnswers) : Fed :=
  let info := scan (a.sessions i).videoCodec au.data
  let b := a.noteVideoStream i info.valid env.seenMs
  if (b.sessions i).snapshot.armed ∨ b.activeIndex ≠ i ∨ au.data.isEmpty then
    let r := a.ingestAuLocked scan i au env
    { app := r.1, track := t, outcome := r.2, accepted := none }
  else b.presentFed t i au info env answers

/-- A unit of this slot would go to the decoder, or wait in front of it. -/
def reachesDecoder (a : App) (i : SlotIndex) (au : AccessUnit) : Bool :=
  !(a.sessions i).snapshot.armed && a.activeIndex = i && !au.data.isEmpty &&
    !(a.rgbaOwnerMatches i (a.sessions i).connectEpoch && 4 ≤ (a.sessions i).graphicsPathSwitches)

/-- The open decoder is another stream's, and fits this slot's as it is. -/
def takesOver (a : App) (i : SlotIndex) : Bool :=
  match a.video with
  | none => false
  | some d => !a.ownsDecoder i d && a.sameSize i d && (a.sessions i).videoCodec = d.codec

end App

/-- The application down to the backend. A replay that has the lock has units left. -/
structure FeedState where
  app : App := {}
  track : Track := {}
  replaying : Option (SlotIndex × List AccessUnit) := none

inductive FeedAction where
  | videoAu (i : SlotIndex) (codec : VideoCodec) (au : AccessUnit) (env : FeedEnv)
      (answers : FeedAnswers)
  | replay (target : SlotIndex) (now : UInt32)
  /-- One round of the replay loop. -/
  | replayUnit (env : FeedEnv) (answers : FeedAnswers) (meanwhile : List UnlockedCallback)
  | bitmap (i : SlotIndex) (empty : Bool) (env : BitmapEnv)
  | audioFormat (mediaOpens audioOpens : Bool)
  | stopMedia
  /-- The platform loads the pipeline again underneath. -/
  | reload
  | unlocked (callback : UnlockedCallback)
  | arm (i : SlotIndex) (allocates : Bool)
  | reset (i : SlotIndex)
  | pending (i : SlotIndex) (filling : Bool)
  | stop (i : SlotIndex)
  | connect (i : SlotIndex) (session : Session) (armed : Option Bool)
  | publish (target : SlotIndex)
  | select (target : SlotIndex)
  deriving DecidableEq

/-- A unit on its way in, with the application it finds. -/
structure Incoming where
  app : App
  slot : SlotIndex
  au : AccessUnit
  env : FeedEnv
  answers : FeedAnswers
  meanwhile : List UnlockedCallback

namespace FeedState

/-- The unit that an action takes in, once its codec is noted. A replay keeps the lock. -/
def incoming (s : FeedState) : FeedAction → Option Incoming
  | .videoAu i codec au env answers =>
    if s.replaying.isSome then none
    else
      some { app := s.app.changeCodec i codec env.allocates, slot := i, au, env, answers
             meanwhile := [] }
  | .replayUnit env answers meanwhile =>
    match s.replaying with
    | some (target, au :: _) => some { app := s.app, slot := target, au, env, answers, meanwhile }
    | _ => none
  | _ => none

/-- What is left of a replay behind one of its units. -/
def replayRest (s : FeedState) (a : App) : Option (SlotIndex × List AccessUnit) :=
  match s.replaying with
  | some (target, _ :: rest) =>
    if !a.running || (a.sessions target).sessionFailed || rest.isEmpty then none
    else some (target, rest)
  | _ => none

/-- The locked part of `native_snapshot_replay` up to its loop. -/
def startReplay (s : FeedState) (target : SlotIndex) (now : UInt32) : FeedState :=
  let slot := s.app.sessions target
  let app := s.app.modifySlot target fun slot => { slot with snapshot := {}, snapshotIdrReady := false }
  if slot.snapshot.ready && App.snapshotQuietMs ≤ now - slot.snapshotLastAuMs &&
      !slot.snapshot.entries.isEmpty then
    { s with app, replaying := some (target, slot.snapshot.entries) }
  else { s with app }

/-- A step with the lock free, other than the taking in of a unit. -/
def lockedApp (a : App) : FeedAction → Option App
  | .bitmap i empty env => some (a.bitmapUpdate i empty env).1
  | .audioFormat mediaOpens audioOpens => some (a.openAudioTrack mediaOpens audioOpens)
  | .stopMedia => some a.stopMedia
  | .arm i allocates => some (a.armSnapshot i allocates)
  | .reset i => some (a.resetSnapshot i)
  | .pending i filling => some (a.modifySlot i fun slot => { slot with snapshotPending := filling })
  | .stop i => some (a.disconnect i)
  | .connect i session armed => some (a.reconnect i session armed)
  | .publish target => some (a.publishOwner target)
  | .select target => some { a with rgba := none, activeIndex := target }
  | _ => none

end FeedState

variable (scan : Scanner)

/-- One step, with the unit that the backend accepted in it. -/
def feedStep (s : FeedState) (action : FeedAction) : Option (FeedState × Option Accepted) :=
  match s.incoming action with
  | some u =>
    let r := u.app.ingestFed scan s.track u.slot u.au u.env u.answers
    let app := u.meanwhile.foldl App.unlocked r.app
    if r.admissible then some ({ app, track := r.track, replaying := s.replayRest app }, r.accepted)
    else none
  | none =>
    match action with
    | .unlocked callback => some ({ s with app := s.app.unlocked callback }, none)
    | .reload => some ({ s with track := { s.track with fresh := true } }, none)
    | .replay target now =>
      if s.replaying.isSome ∨ s.app.activeIndex ≠ target ∨ (s.app.sessions target).rdp = none then none
      else some (s.startReplay target now, none)
    | locked =>
      if s.replaying.isSome then none
      else (FeedState.lockedApp s.app locked).map fun app => ({ s with app }, none)

/-- Every order of the workers' units, the UI thread and the platform. -/
def feedMachine : Machine FeedState FeedAction (Option Accepted) where
  init := {}
  step := feedStep scan

end Lgnome.Native
