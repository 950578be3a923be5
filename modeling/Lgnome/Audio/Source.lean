import Lgnome.Audio.Jitter
import Lgnome.Transition.Parties

/-!
# The playout ring of an audio source

One RDP worker pushes frames into a ring and changes its format; the render
thread takes frames out. The two share atomics and no lock, so every access to
one of them is a step of its own. Fields are grouped by the only thread that
writes them. Each side carries a ledger of what it has done, which no step of
the code reads.
-/
namespace Lgnome.Audio

open Lgnome.Transition (Prog)
open Jitter (NativeAudioJitterController NativeAudioJitterUpdate)

/-- A stereo frame as it lies in the ring. -/
abbrev Frame := Int16 × Int16

def pipelineCapacityFrames : Nat := 65536
def pipelineChannels : UInt16 := 2
def pipelineSampleRate : UInt32 := 48000
def targetInitialMs : UInt32 := 60
def targetMinMs : UInt32 := 40
def targetMaxMs : UInt32 := 260
def targetHeadroomMs : UInt32 := 20
def staleBurstMs : UInt32 := 100
def hardTrimErrorMs : UInt32 := 80
def hardTrimKeepMs : UInt32 := 20
def fadeFrames : Nat := 240

/-- A frame the producer published: under which rate, after how many changes of the format. -/
structure Stored where
  rate : UInt32
  generation : Nat
  frame : Frame

/-- How far a call that sets the format has come with its stores. -/
inductive Phase
  | idle
  | rateStored
  | resetStored
  deriving DecidableEq

/-- A push on an open source that has returned. -/
structure Push where
  frames : List Frame
  dropped : Nat

/-- The producer's ledger. Positions count frames from the start and do not wrap. -/
structure Sent where
  stored : List Stored := []
  resetAt : Nat := 0
  talkspurtAt : Nat := 0
  formatBoundaries : List Nat := [0]
  talkspurtBoundaries : List Nat := [0]
  formatCount : Nat := 0
  inForce : UInt32 := pipelineSampleRate
  phase : Phase := .idle
  pushes : List Push := []

/-- Why the consumer moved its cursor over frames without converting them. -/
inductive Reason
  | trim
  | format
  | talkspurt
  deriving DecidableEq

/-- What the consumer did with the frames, and the envelope it gave each output frame as a
numerator over `fadeFrames`. -/
inductive Event
  | played (start : Nat) (rate : UInt32) (generation : Nat) (frames : List Frame)
  | skipped (why : Reason) (start upto : Nat)
  | output (numerator : Nat)

/-- The consumer's ledger. -/
structure Taken where
  readAt : Nat := 0
  log : List Event := []
  seenCount : Nat := 0
  appliedCount : Nat := 0
  torn : Bool := false
  wrapped : Bool := false

/-- What only the RDP worker writes. The jitter controller is its own altogether; the call that
opens the source sets it up. -/
structure Producer where
  ring : Nat → Frame := fun _ => (0, 0)
  writeCursor : UInt32 := 0
  resetCursor : UInt32 := 0
  formatGeneration : UInt32 := 0
  pendingSampleRate : UInt32 := pipelineSampleRate
  pendingChannels : UInt32 := pipelineChannels.toUInt32
  opened : Bool := false
  talkspurtCursor : UInt32 := 0
  talkspurtGeneration : UInt32 := 0
  lastPushMs : UInt32 := 0
  producerSampleRate : UInt32 := pipelineSampleRate
  producerChannels : UInt16 := pipelineChannels
  jitter : NativeAudioJitterController := .reset 0 0
  sent : Sent := {}

/-- What only the render thread writes. `converter` is the rate the converter is set up with. -/
structure Consumer where
  readCursor : UInt32 := 0
  appliedGeneration : UInt32 := 0
  seenTalkspurtGeneration : UInt32 := 0
  sampleRate : UInt32 := pipelineSampleRate
  channels : UInt16 := pipelineChannels
  converter : Option UInt32 := none
  live : Bool := false
  rebuffering : Bool := true
  trimAfterFade : Bool := false
  fadeOutRemaining : Nat := 0
  fadeInRemaining : Nat := 0
  underruns : UInt32 := 0
  taken : Taken := {}

structure Source where
  producer : Producer := {}
  consumer : Consumer := {}
  trimRequested : Bool := false
  targetDelayMs : UInt32 := targetInitialMs

/-- What a step learns from outside: the clock and the converter. -/
structure Answer where
  nowMs : UInt32 := 0
  consumed : Nat := 0
  produced : Nat := 0
  success : Bool := true

/-! ## Both sides -/

def clampU32 (value low high : UInt32) : UInt32 :=
  if value < low then low else if high < value then high else value

namespace Source

variable (s : Source)

def storeTarget (targetMs : UInt32) : Source := { s with targetDelayMs := targetMs }

/-- The exchange that ends the loop of `source_raise_target`. -/
def raiseTarget (desiredMs : UInt32) : Source :=
  let desired := clampU32 desiredMs targetMinMs targetMaxMs
  if s.targetDelayMs < desired then s.storeTarget desired else s

def decayTarget (expected targetMs : UInt32) : Source :=
  if s.targetDelayMs = expected then s.storeTarget targetMs else s

def storeTrimRequested (requested : Bool) : Source := { s with trimRequested := requested }

/-! ## Stores of the producer -/

def setProducerFormat (sampleRate : UInt32) (channels : UInt16) : Source :=
  { s with producer := { s.producer with
      producerSampleRate := sampleRate
      producerChannels := channels } }

def resetJitter (nowMs underruns : UInt32) : Source :=
  { s with producer := { s.producer with jitter := .reset nowMs.toNat underruns.toNat } }

/-- An update of the jitter controller for a block that is pushed. -/
def updateJitter (call : Jitter.Call) : NativeAudioJitterUpdate × Source :=
  let (update, jitter) := s.producer.jitter.update call
  (update, { s with producer := { s.producer with jitter } })

/-- `native_audio_jitter_mark_discontinuity`. -/
def markDiscontinuity : Source :=
  { s with producer := { s.producer with
      jitter := { s.producer.jitter with haveArrival := false } } }

def storePendingSampleRate (sampleRate : UInt32) : Source :=
  { s with producer := { s.producer with
      pendingSampleRate := sampleRate
      sent := { s.producer.sent with phase := .rateStored } } }

def storePendingChannels (channels : UInt32) : Source :=
  { s with producer := { s.producer with pendingChannels := channels } }

def storeResetCursor (phase : Phase) (boundary : UInt32) : Source :=
  { s with producer := { s.producer with
      resetCursor := boundary
      sent := { s.producer.sent with
        phase
        resetAt := s.producer.sent.stored.length
        formatBoundaries := s.producer.sent.stored.length :: s.producer.sent.formatBoundaries } } }

def bumpFormatGeneration : Source :=
  { s with producer := { s.producer with
      formatGeneration := s.producer.formatGeneration + 1
      sent := { s.producer.sent with
        phase := .idle
        inForce := s.producer.pendingSampleRate
        formatCount := s.producer.sent.formatCount + 1 } } }

def storeOpen (opened : Bool) : Source := { s with producer := { s.producer with opened } }

def storeTalkspurtCursor (boundary : UInt32) : Source :=
  { s with producer := { s.producer with
      talkspurtCursor := boundary
      sent := { s.producer.sent with
        talkspurtAt := s.producer.sent.stored.length
        talkspurtBoundaries :=
          s.producer.sent.stored.length :: s.producer.sent.talkspurtBoundaries } } }

def bumpTalkspurtGeneration : Source :=
  { s with producer := { s.producer with
      talkspurtGeneration := s.producer.talkspurtGeneration + 1 } }

def writeRing (pos : Nat) (frame : Frame) : Source :=
  { s with producer := { s.producer with ring := Function.update s.producer.ring pos frame } }

/-- The frames a store of the write cursor publishes, as the ledger has them. -/
def stamp (frames : List Frame) : List Stored :=
  frames.map fun frame =>
    { rate := s.producer.producerSampleRate, generation := s.producer.sent.formatCount, frame }

def storeWriteCursor (write : UInt32) (frames : List Frame) : Source :=
  { s with producer := { s.producer with
      writeCursor := write
      sent := { s.producer.sent with stored := s.producer.sent.stored ++ s.stamp frames } } }

def storeLastPush (nowMs : UInt32) : Source :=
  { s with producer := { s.producer with lastPushMs := nowMs } }

def notePush (frames : List Frame) (dropped : Nat) : Source :=
  { s with producer := { s.producer with
      sent := { s.producer.sent with
        pushes := s.producer.sent.pushes ++ [{ frames, dropped }] } } }

/-! ## Steps of the consumer -/

/-- Moving the read cursor, with what the ledger says of the frames in between. -/
def storeReadCursor (read : UInt32) (event : Nat → Nat → Event) : Source :=
  let start := s.consumer.taken.readAt
  let upto := start + (read - s.consumer.readCursor).toNat
  { s with consumer := { s.consumer with
      readCursor := read
      taken := { s.consumer.taken with
        readAt := upto
        log := s.consumer.taken.log ++ [event start upto] } } }

/-- The generation reads as applied although the format has changed since. -/
def missedChange : Bool :=
  s.producer.formatGeneration == s.consumer.appliedGeneration &&
    s.producer.sent.formatCount != s.consumer.taken.appliedCount

def loadFormatGeneration : Source :=
  { s with consumer := { s.consumer with
      taken := { s.consumer.taken with
        seenCount := s.producer.sent.formatCount
        wrapped := s.consumer.taken.wrapped || s.missedChange } } }

def takePendingSampleRate : Source :=
  { s with consumer := { s.consumer with sampleRate := s.producer.pendingSampleRate } }

def takePendingChannels : Source :=
  { s with consumer := { s.consumer with channels := s.producer.pendingChannels.toUInt16 } }

/-- The rate that was loaded is that of a call whose reset cursor is not stored yet, and frames of
the rate before it lie behind the reset cursor that is loaded now. -/
def tornPair : Bool :=
  s.producer.sent.phase == .rateStored &&
    s.producer.sent.formatCount == s.consumer.taken.seenCount &&
    s.consumer.sampleRate != s.producer.sent.inForce &&
    max s.consumer.taken.readAt s.producer.sent.resetAt != s.producer.sent.stored.length

def loadResetCursor : Source :=
  { s with consumer := { s.consumer with
      taken := { s.consumer.taken with torn := s.consumer.taken.torn || s.tornPair } } }

/-- The end of `source_apply_generation`; the converter is set up anew. -/
def applyGeneration (generation : UInt32) (success : Bool) : Source :=
  { s with consumer := { s.consumer with
      appliedGeneration := generation
      live := false
      rebuffering := true
      trimAfterFade := false
      fadeOutRemaining := 0
      fadeInRemaining := 0
      converter := if success then some s.consumer.sampleRate else none
      taken := { s.consumer.taken with appliedCount := s.consumer.taken.seenCount } } }

def applyTalkspurt (generation : UInt32) : Source :=
  { s with consumer := { s.consumer with
      seenTalkspurtGeneration := generation
      live := false
      rebuffering := true
      trimAfterFade := false
      fadeOutRemaining := 0
      fadeInRemaining := 0 } }

def startFadeIn : Source :=
  { s with consumer := { s.consumer with fadeInRemaining := fadeFrames } }

def goLive : Source :=
  { s with consumer := { s.consumer with
      rebuffering := false
      live := true
      fadeInRemaining := fadeFrames } }

def markUnavailable : Source :=
  { s with consumer := { s.consumer with
      live := false
      rebuffering := true } }

def startFadeOut : Source :=
  { s with consumer := { s.consumer with
      trimAfterFade := true
      fadeOutRemaining := fadeFrames
      fadeInRemaining := 0 } }

def finishTrim : Source :=
  { s with consumer := { s.consumer with
      trimAfterFade := false
      fadeInRemaining := fadeFrames } }

def bumpUnderruns : Source :=
  { s with consumer := { s.consumer with underruns := s.consumer.underruns + 1 } }

def rebuffer : Source :=
  { s with consumer := { s.consumer with
      live := false
      rebuffering := true
      trimAfterFade := false
      fadeOutRemaining := 0
      fadeInRemaining := 0 } }

/-- The envelope of one output frame. -/
def fadeFrame : Source :=
  if 0 < s.consumer.fadeOutRemaining then
    { s with consumer := { s.consumer with
        fadeOutRemaining := s.consumer.fadeOutRemaining - 1
        taken := { s.consumer.taken with
          log := s.consumer.taken.log ++ [.output s.consumer.fadeOutRemaining] } } }
  else if 0 < s.consumer.fadeInRemaining then
    { s with consumer := { s.consumer with
        fadeInRemaining := s.consumer.fadeInRemaining - 1
        taken := { s.consumer.taken with
          log := s.consumer.taken.log ++
            [.output (fadeFrames - s.consumer.fadeInRemaining + 1)] } } }
  else
    { s with consumer := { s.consumer with
        taken := { s.consumer.taken with
          log := s.consumer.taken.log ++ [.output fadeFrames] } } }

def applyDiscontinuityEnvelope : Nat → Source → Source
  | 0, s => s
  | n + 1, s => applyDiscontinuityEnvelope n s.fadeFrame

end Source

/-! ## The producer's calls -/

section Producer

open Lgnome.Transition.Prog

def setSourceFormat (sampleRate : UInt32) (channels : UInt16) : Prog Answer Source Bool :=
  if sampleRate < 8000 ∨ 192000 < sampleRate ∨ channels = 0 ∨ pipelineChannels < channels then
    pure false
  else do
    store fun s => s.setProducerFormat sampleRate channels
    let underruns ← load fun s => s.consumer.underruns
    let nowMs ← ask fun a => a.nowMs
    store fun s => s.resetJitter nowMs underruns
    store fun s => s.storeTarget targetInitialMs
    let boundary ← load fun s => s.producer.writeCursor
    store fun s => s.storePendingSampleRate sampleRate
    store fun s => s.storePendingChannels channels.toUInt32
    store fun s => s.storeResetCursor .resetStored boundary
    store fun s => s.bumpFormatGeneration
    store fun s => s.storeOpen true
    pure true

def closeSource : Prog Answer Source Unit := do
  store fun s => s.storeOpen false
  let boundary ← load fun s => s.producer.writeCursor
  store fun s => s.storeResetCursor .idle boundary
  store fun s => s.bumpFormatGeneration
  store fun s => s.markDiscontinuity

def adjustTarget (target : UInt32) (update : NativeAudioJitterUpdate) :
    Prog Answer Source Unit :=
  match update.targetAction with
  | .unchanged => pure ()
  | .set => store fun s => s.storeTarget (UInt32.ofNat update.targetDelayMs)
  | .raise => store fun s => s.raiseTarget (UInt32.ofNat update.targetDelayMs)
  | .decay => store fun s => s.decayTarget target (UInt32.ofNat update.targetDelayMs)

/-- What the jitter controller is asked about a block. -/
def jitterCall (frames : Nat) (sampleRate timestampMs nowMs underruns target : UInt32) :
    Jitter.Call where
  frames
  sampleRate := sampleRate.toNat
  timestampMs := timestampMs.toNat
  nowMs := nowMs.toNat
  underruns := underruns.toNat
  currentTargetMs := target.toNat

def updateArrivalController (frames : Nat) (timestampMs nowMs writeBoundary : UInt32) :
    Prog Answer Source Unit := do
  let target ← load fun s => s.targetDelayMs
  let underruns ← load fun s => s.consumer.underruns
  let update ← act fun _ s => s.updateJitter
    (jitterCall frames s.producer.producerSampleRate timestampMs nowMs underruns target)
  adjustTarget target update
  when (update.talkspurt = true) do
    store fun s => s.storeTalkspurtCursor writeBoundary
    store fun s => s.bumpTalkspurtGeneration

/-- The frame `i` of the caller's samples; mono is doubled. -/
def inputFrame (channels : UInt16) (samples : Nat → Int16) (i : Nat) : Frame :=
  if channels = pipelineChannels then (samples (2 * i), samples (2 * i + 1))
  else (samples i, samples i)

def inputFrames (channels : UInt16) (samples : Nat → Int16) (frames : Nat) : List Frame :=
  (List.range frames).map (inputFrame channels samples)

/-- Copies frames into the ring from the cursor on. -/
def copyFrames : List Frame → UInt32 → Prog Answer Source Unit
  | [], _ => pure ()
  | frame :: rest, pos => do
    store fun s => s.writeRing (pos.toNat % pipelineCapacityFrames) frame
    copyFrames rest (pos + 1)

/-- The second half of a push: the copy and what it publishes. -/
def publish (write nowMs : UInt32) (input : List Frame) (toWrite : Nat) :
    Prog Answer Source Nat := do
  let dropped := input.length - toWrite
  when (0 < dropped) (store fun s => s.storeTrimRequested true)
  copyFrames (input.take toWrite) write
  when (0 < toWrite) do
    store fun s => s.storeWriteCursor (write + UInt32.ofNat toWrite) (input.take toWrite)
    store fun s => s.storeLastPush nowMs
  pure dropped

def freeFrames (used : UInt32) : Nat :=
  if used.toNat < pipelineCapacityFrames then pipelineCapacityFrames - used.toNat else 0

def pushOpen (channels : UInt16) (samples : Nat → Int16) (frames : Nat) (timestampMs : UInt32) :
    Prog Answer Source Nat := do
  let nowMs ← ask fun a => a.nowMs
  let write ← load fun s => s.producer.writeCursor
  updateArrivalController frames timestampMs nowMs write
  let readAt ← load fun s => s.consumer.readCursor
  publish write nowMs (inputFrames channels samples frames) (min frames (freeFrames (write - readAt)))

def push (samples : Nat → Int16) (frames : Nat) (timestampMs : UInt32) :
    Prog Answer Source Nat :=
  if frames = 0 then pure 0
  else do
    let source ← load fun s => s.producer
    if source.opened = false ∨ source.producerSampleRate = 0 ∨ source.producerChannels = 0 then
      pure 0
    else pushOpen source.producerChannels samples frames timestampMs

end Producer

end Lgnome.Audio
