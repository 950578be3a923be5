import Lgnome.Native.AvcConvert
import Lgnome.Native.Feed

/-!
# The media adapters

`media_ndl.c`, `video_ndl.c` and `audio_ndl.c` with the sections of the
application that call them. The backend belongs to the platform: what it is asked
is recorded, and each of its answers is an input. A section that opens, feeds or
closes a decoder holds the video lock and is one step here. The audio engine's
feed holds the other lock only; it touches no track.
-/
namespace Lgnome.Ndl

open Lgnome.Native Lgnome.Transition

/-- `BackendNdlResult`. -/
inductive BackendNdlResult where
  | ok
  | needKeyframe
  | notReady
  | overflow
  | unsupported
  | unavailable
  | invalidArgument
  | error
  deriving DecidableEq, Repr

/-- `BackendNdlVideoInfo`. -/
structure VideoInfo where
  codec : VideoCodec := .h264
  width : UInt16 := 0
  height : UInt16 := 0
  deriving DecidableEq, Repr

/-- `BackendNdlAudioInfo`, whose codec is always PCM. -/
structure AudioInfo where
  sampleRateHz : UInt32 := 0
  channels : UInt16 := 0
  deriving DecidableEq, Repr

/-- The two arguments of `backend_ndl_set_media`. -/
structure Tracks where
  video : Option VideoInfo := none
  audio : Option AudioInfo := none
  deriving DecidableEq, Repr

/-- What the backend is asked, with what it answers. A unit is recorded with the track that
its decoder opens. -/
inductive Call where
  | opened
  | closed
  | setMedia (asked : Tracks) (answer : BackendNdlResult)
  | feedVideo (track : VideoInfo) (bytes : Bytes) (keyframe : Bool) (answer : BackendNdlResult)
  | feedAudio (pcm : Bytes) (answer : BackendNdlResult)
  deriving DecidableEq, Repr

/-- `NativeMedia` with its backend. -/
structure NativeMedia where
  hasVideo : Bool := false
  video : VideoInfo := {}
  hasAudio : Bool := false
  audio : AudioInfo := {}
  deriving DecidableEq, Repr

/-- What `native_media_ndl_apply_tracks` asks for. -/
def NativeMedia.tracks (m : NativeMedia) : Tracks where
  video := if m.hasVideo then some m.video else none
  audio := if m.hasAudio then some m.audio else none

/-- `NativeVideo`; its buffer is as long as its capacity. -/
structure NativeVideo extends Native.NativeVideo where
  width : UInt16
  height : UInt16
  fps : UInt16
  codec : VideoCodec
  annexb : Bytes := []
  deriving DecidableEq, Repr

/-- What `native_video_open_stream` asks for. -/
def NativeVideo.info (v : NativeVideo) : VideoInfo where
  codec := if v.codec = .h265 then .h265 else .h264
  width := v.width
  height := v.height

def NativeVideo.fail (v : NativeVideo) : NativeVideo := { v with terminalError := true }

/-- `NativeAudio`. -/
structure NativeAudio where
  audioOpened : Bool := false
  disabled : Bool := false
  deriving DecidableEq, Repr

inductive NativeAudioResult where
  | ok
  | error
  deriving DecidableEq, Repr

/-- The application's three pointers, and every call to the backend so far. -/
structure State where
  media : Option NativeMedia := none
  video : Option NativeVideo := none
  audio : Option NativeAudio := none
  calls : List Call := []
  deriving DecidableEq, Repr

/-- What memory and backend answer while one unit is fed. `memory` is what `realloc`
finds behind the bytes it keeps; without it, it fails. -/
structure UnitAnswers where
  memory : Option Bytes := some []
  configured : BackendNdlResult := .ok
  fed : BackendNdlResult := .ok
  deriving DecidableEq, Repr

/-- What memory, mixer and backend answer while tracks are opened. -/
structure OpenAnswers where
  mediaOpens : Bool := true
  pipelineReady : Bool := true
  allocates : Bool := true
  configured : BackendNdlResult := .ok
  cleared : BackendNdlResult := .ok
  deriving DecidableEq, Repr

def rdpAudioCodecOpus : UInt32 := 1
def rdpAudioCodecPcmS16le : UInt32 := 2
def pipelineSampleRate : UInt32 := 48000
def pipelineChannels : UInt16 := 2

/-- The one audio track that the application opens. -/
def mixedPcm : AudioInfo where
  sampleRateHz := pipelineSampleRate
  channels := pipelineChannels

namespace State

/-! ## `media_ndl.c` -/

/-- The tracks are changed, and put back when the backend refuses them. What the
source saves is what the change touches. -/
def retrack (change : NativeMedia → NativeMedia) (s : State) (answer : BackendNdlResult) :
    State × BackendNdlResult :=
  match s.media with
  | none => (s, .invalidArgument)
  | some saved =>
    ({ s with
        media := some (if answer = .ok then change saved else saved)
        calls := s.calls ++ [.setMedia (change saved).tracks answer] }, answer)

/-- `native_media_ndl_configure_video`. -/
def configureVideo (info : VideoInfo) : State → BackendNdlResult → State × BackendNdlResult :=
  retrack fun m => { m with hasVideo := true, video := info }

/-- `native_media_ndl_configure_audio`. -/
def configureAudio (info : AudioInfo) : State → BackendNdlResult → State × BackendNdlResult :=
  retrack fun m => { m with hasAudio := true, audio := info }

/-- `native_media_ndl_clear_video`. -/
def clearVideo : State → BackendNdlResult → State × BackendNdlResult :=
  retrack fun m => { m with hasVideo := false, video := {} }

/-- `native_media_ndl_clear_audio`. -/
def clearAudio : State → BackendNdlResult → State × BackendNdlResult :=
  retrack fun m => { m with hasAudio := false, audio := {} }

/-- `native_ensure_media_locked` around `native_media_open`. -/
def ensureMedia (s : State) (opens : Bool) : State :=
  if s.media.isSome then s
  else if opens then { s with media := some {}, calls := s.calls ++ [.opened] }
  else s

/-- `native_media_close`. -/
def mediaClose (s : State) : State :=
  match s.media with
  | none => s
  | some _ => { s with media := none, calls := s.calls ++ [.closed] }

/-! ## `video_ndl.c` -/

/-- `native_video_open`. -/
def videoOpen (s : State) (width height fps : UInt16) (codec : VideoCodec) (allocates : Bool) :
    Option NativeVideo :=
  if width = 0 ∨ height = 0 then none
  else if s.media.isNone then none
  else if allocates then some { width, height, fps := if fps = 0 then 60 else fps, codec }
  else none

/-- `native_video_close`, whose caller forgets the track. -/
def videoClose (s : State) (answer : BackendNdlResult) : State :=
  match s.video with
  | none => s
  | some v => { (if v.videoOpened then (s.clearVideo answer).1 else s) with video := none }

/-- `native_video_open_stream`. -/
def openStream (s : State) (v : NativeVideo) (answer : BackendNdlResult) :
    State × NativeVideo × VideoResult :=
  let r := s.configureVideo v.info answer
  match r.2 with
  | .ok => (r.1, { v with videoOpened := true }, .ok)
  | .unsupported => (r.1, v.fail, .unsupported)
  | _ => (r.1, v.fail, .error)

/-- The end of `native_video_feed_backend`, with the stream open. -/
def feedOpened (s : State) (v : NativeVideo) (annexbLen : Nat) (keyframe : Bool)
    (answer : BackendNdlResult) : State × VideoResult :=
  let bytes := v.annexb.take annexbLen
  let s : State := { s with calls := s.calls ++ [.feedVideo v.info bytes keyframe answer] }
  match answer with
  | .ok => ({ s with video := some v }, .ok)
  | .needKeyframe => ({ s with video := some v }, .needKeyframe)
  | .notReady => ({ s with video := some v }, .dropped)
  | _ => ({ s with video := some v.fail }, .error)

/-- `native_video_feed_backend`. -/
def feedBackend (s : State) (v : NativeVideo) (annexbLen : Nat) (decoderSeed : Bool)
    (answers : UnitAnswers) : State × VideoResult :=
  if v.videoOpened then s.feedOpened v annexbLen decoderSeed answers.fed
  else if !decoderSeed then ({ s with video := some v }, .needKeyframe)
  else
    match s.openStream v answers.configured with
    | (s, v, .ok) => s.feedOpened v annexbLen decoderSeed answers.fed
    | (s, v, result) => ({ s with video := some v }, result)

end State

namespace NativeVideo

/-- `native_video_reserve_annexb`. -/
def reserveAnnexb (v : NativeVideo) (needed : Nat) (memory : Option Bytes) : Option NativeVideo :=
  if needed ≤ v.annexb.length then some v
  else
    memory.map fun found =>
      { v with
        annexb := v.annexb ++
          (found ++ List.replicate needed 0).take (needed - v.annexb.length) }

/-- A unit in the buffer: its length and whether a decoder can start from it. -/
structure Ready where
  annexbLen : Nat
  decoderSeed : Bool
  deriving DecidableEq, Repr

/-- The unit is copied as it is. -/
def copyUnit (v : NativeVideo) (data : Bytes) (decoderSeed : Bool) (memory : Option Bytes) :
    Option (NativeVideo × Option Ready) :=
  match v.reserveAnnexb data.length memory with
  | none => some (v, none)
  | some v =>
    (storeAt v.annexb 0 data).map fun annexb =>
      ({ v with annexb }, some ⟨data.length, decoderSeed⟩)

/-- A unit with its NAL units behind their lengths is converted. -/
def convertUnit (sizeMax : Nat) (v : NativeVideo) (data : Bytes) (scan : AvcScan)
    (memory : Option Bytes) : Option (NativeVideo × Option Ready) :=
  if maxAuBytes < scan.outLen then some (v, none)
  else
    match v.reserveAnnexb scan.outLen memory with
    | none => some (v, none)
    | some v =>
      (avcToAnnexb sizeMax data v.annexb v.annexb.length).map fun done =>
        ({ v with annexb := done.out },
          if done.result = .ok then some ⟨done.outLen, scan.info.canSeedDecoder⟩ else none)

/-- `native_video_feed` from the scan of the unit to the call of the backend: the
buffer, and the unit in it unless it is refused. `none` is an access outside a buffer. -/
def normalize (sizeMax : Nat) (v : NativeVideo) (data : Bytes) (memory : Option Bytes) :
    Option (NativeVideo × Option Ready) :=
  match v.codec with
  | .h265 =>
    let info := hevcScanAnnexb data
    if info.valid then v.copyUnit data info.canSeedDecoder memory else some (v, none)
  | .h264 =>
    let scan := avcAnnexbSize sizeMax data
    if scan.result = .ok then v.convertUnit sizeMax data scan memory
    else
      match nativeH264ScanAnnexb data with
      | some info => v.copyUnit data info.canSeedDecoder memory
      | none => some (v, none)

end NativeVideo

namespace State

/-- `native_video_feed`. -/
def videoFeed (sizeMax : Nat) (s : State) (v : NativeVideo) (data : Bytes) (answers : UnitAnswers) :
    Option (State × VideoResult) :=
  if data = [] then some (s, .error)
  else if v.terminalError then some (s, .error)
  else if maxAuBytes < data.length then some ({ s with video := some v.fail }, .error)
  else
    (v.normalize sizeMax data answers.memory).map fun r =>
      match r.2 with
      | none => ({ s with video := some r.1.fail }, .error)
      | some ready => s.feedBackend r.1 ready.annexbLen ready.decoderSeed answers

/-! ## `audio_ndl.c` -/

variable (supported : UInt32 → Bool)

/-- `native_audio_open`. -/
def audioOpen (s : State) (codec sampleRate : UInt32) (channels : UInt16) (answers : OpenAnswers) :
    State × Option NativeAudio :=
  if sampleRate = 0 ∨ channels = 0 then (s, none)
  else if s.media.isNone then (s, none)
  else if codec = rdpAudioCodecOpus then (s, none)
  else if codec ≠ rdpAudioCodecPcmS16le then (s, none)
  else if !supported sampleRate then (s, none)
  else if 2 < channels then (s, none)
  else if !answers.allocates then (s, none)
  else
    let r := s.configureAudio { sampleRateHz := sampleRate, channels } answers.configured
    if r.2 = .ok then (r.1, some { audioOpened := true }) else (r.1, none)

/-- `native_audio_feed`. -/
def audioFeed (s : State) (a : NativeAudio) (data : Bytes) (answer : BackendNdlResult) :
    State × NativeAudioResult :=
  if !a.audioOpened ∨ data = [] then (s, .error)
  else if a.disabled then (s, .ok)
  else
    let s : State := { s with calls := s.calls ++ [.feedAudio data answer] }
    match answer with
    | .ok => (s, .ok)
    | .notReady => (s, .ok)
    | .overflow => (s, .ok)
    | _ => (s, .error)

/-- `native_audio_close`, whose caller forgets the track. -/
def audioClose (s : State) (answer : BackendNdlResult) : State :=
  match s.audio with
  | none => s
  | some a => { (if a.audioOpened then (s.clearAudio answer).1 else s) with audio := none }

/-! ## The callers -/

/-- The end of `native_open_speculative_audio_locked` and the middle of `on_audio_format`. -/
def openMixed (s : State) (answers : OpenAnswers) : State :=
  let r := s.audioOpen supported rdpAudioCodecPcmS16le pipelineSampleRate pipelineChannels answers
  { r.1 with audio := r.2 }

/-- `native_open_speculative_audio_locked`. -/
def openSpeculativeAudio (s : State) (answers : OpenAnswers) : State :=
  if s.media.isNone ∨ !answers.pipelineReady then s
  else if s.audio.isSome then s
  else s.openMixed supported answers

/-- `native_video_ingest_au_locked` without a decoder: audio is attached before video. -/
def attachAudio (s : State) (answers : OpenAnswers) : State :=
  if s.video.isSome then s
  else (s.ensureMedia answers.mediaOpens).openSpeculativeAudio supported answers

/-- The locked end of `on_audio_format`: a track that comes late costs the video track. -/
def audioFormat (s : State) (answers : OpenAnswers) : State :=
  if s.audio.isSome then s
  else
    let s := s.ensureMedia answers.mediaOpens
    let s := if s.media.isSome then s.openMixed supported answers else s
    if s.audio.isSome then s.videoClose answers.cleared else s

/-- `native_audio_pipeline_feed_cb`: a track that fails is muted, not closed. -/
def audioPipelineFeedCb (s : State) (samples : Bytes) (answer : BackendNdlResult) : State :=
  match s.audio with
  | none => s
  | some a =>
    match s.audioFeed a samples answer with
    | (s, .ok) => s
    | (s, .error) => { s with audio := some { a with disabled := true } }

/-- `native_stop_media`, as far as it is about media: tracks first. -/
def stopMedia (s : State) (audioCleared videoCleared : BackendNdlResult) : State :=
  ((s.audioClose audioCleared).videoClose videoCleared).mediaClose

end State

/-- A call of the application into the adapters. -/
inductive Action where
  | attachAudio (answers : OpenAnswers)
  | openVideo (width height fps : UInt16) (codec : VideoCodec) (allocates : Bool)
  | feedVideo (data : Bytes) (answers : UnitAnswers)
  | closeVideo (answer : BackendNdlResult)
  | audioFormat (answers : OpenAnswers)
  | feedAudio (samples : Bytes) (answer : BackendNdlResult)
  | stopMedia (audioCleared videoCleared : BackendNdlResult)
  deriving DecidableEq, Repr

/-- One call. It is refused when a buffer is left. -/
def step (sizeMax : Nat) (supported : UInt32 → Bool) (s : State) : Action → Option State
  | .attachAudio answers => some (s.attachAudio supported answers)
  | .openVideo width height fps codec allocates =>
    if s.video.isSome then some s
    else some { s with video := s.videoOpen width height fps codec allocates }
  | .feedVideo data answers =>
    match s.video with
    | none => some s
    | some v => (s.videoFeed sizeMax v data answers).map Prod.fst
  | .closeVideo answer => some (s.videoClose answer)
  | .audioFormat answers => some (s.audioFormat supported answers)
  | .feedAudio samples answer => some (s.audioPipelineFeedCb samples answer)
  | .stopMedia audioCleared videoCleared => some (s.stopMedia audioCleared videoCleared)

/-- The calls of the video path, the audio callbacks, the audio engine and the UI
thread, in any order. `supported` is `backend_ndl_pcm_sample_rate_supported`. -/
def adapters (sizeMax : Nat) (supported : UInt32 → Bool) : Machine State Action Unit where
  init := {}
  step s action := (step sizeMax supported s action).map fun s => (s, ())

end Lgnome.Ndl
