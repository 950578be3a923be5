import Lgnome.Audio.Source

/-!
# Reading an audio source

The render thread's side: it applies a change of the format or a new talkspurt,
trims a backlog, and converts what the ring holds. `sourceRead` is the callback
the mixer calls for every block.
-/
namespace Lgnome.Audio

open Lgnome.Transition (Prog Machine parties)
open Lgnome.Transition.Prog

def sourceAvailableFrames : Prog Answer Source Nat := do
  let readCursor ← load fun s => s.consumer.readCursor
  let write ← load fun s => s.producer.writeCursor
  pure (min (write - readCursor).toNat pipelineCapacityFrames)

def sourceQueueMs : Prog Answer Source UInt32 := do
  let rate ← load fun s => s.producer.pendingSampleRate
  if rate = 0 then pure 0
  else do
    let available ← sourceAvailableFrames
    pure (UInt32.ofNat (available * 1000 / rate.toNat))

def sourceAdvanceReadCursor (why : Reason) (boundary : UInt32) : Prog Answer Source Unit := do
  let readCursor ← load fun s => s.consumer.readCursor
  when ((boundary - readCursor).toNat ≤ pipelineCapacityFrames)
    (store fun s => s.storeReadCursor boundary (.skipped why))

/-- What follows once the generation has turned out to be a new one. -/
def sourceTakeGeneration (generation : UInt32) : Prog Answer Source Bool := do
  store fun s => s.takePendingSampleRate
  store fun s => s.takePendingChannels
  let boundary ← act fun _ s => (s.producer.resetCursor, s.loadResetCursor)
  sourceAdvanceReadCursor .format boundary
  let success ← ask fun a => a.success
  store fun s => s.applyGeneration generation success
  pure true

def sourceApplyGeneration : Prog Answer Source Bool := do
  let generation ← act fun _ s => (s.producer.formatGeneration, s.loadFormatGeneration)
  let applied ← load fun s => s.consumer.appliedGeneration
  if generation = applied then pure false
  else sourceTakeGeneration generation

def sourceApplyTalkspurt : Prog Answer Source Bool := do
  let generation ← load fun s => s.producer.talkspurtGeneration
  let seen ← load fun s => s.consumer.seenTalkspurtGeneration
  if generation = seen then pure false
  else do
    let boundary ← load fun s => s.producer.talkspurtCursor
    sourceAdvanceReadCursor .talkspurt boundary
    store fun s => s.applyTalkspurt generation
    pure true

def keepFrames (targetMs sampleRate : UInt32) : UInt32 :=
  UInt32.ofNat (min ((targetMs + hardTrimKeepMs).toNat * sampleRate.toNat / 1000) (4294967295))

def sourceTrimToTarget : Prog Answer Source Nat := do
  let write ← load fun s => s.producer.writeCursor
  let readCursor ← load fun s => s.consumer.readCursor
  let targetMs ← load fun s => s.targetDelayMs
  let sampleRate ← load fun s => s.consumer.sampleRate
  let available := write - readCursor
  let keep := keepFrames targetMs sampleRate
  if available ≤ keep then do
    store fun s => s.storeTrimRequested false
    pure 0
  else do
    let dropped := available - keep
    store fun s => s.storeReadCursor (readCursor + dropped) (.skipped .trim)
    store fun s => s.storeTrimRequested false
    pure dropped.toNat

/-- The queued time, the target, and whether a trim is due. -/
structure Backlog where
  queueMs : UInt32
  targetMs : UInt32
  trimDue : Bool

def measureBacklog : Prog Answer Source Backlog := do
  let queueMs ← sourceQueueMs
  let targetMs ← load fun s => s.targetDelayMs
  let trimMarginMs := if hardTrimErrorMs < targetMs then targetMs else hardTrimErrorMs
  let trimRequested ← load fun s => s.trimRequested
  pure {
    queueMs
    targetMs
    trimDue := trimRequested || decide (targetMs + trimMarginMs < queueMs) }

/-- A source that is still filling drops its backlog without a fade-out. -/
def trimWhileRebuffering (backlog : Backlog) : Prog Answer Source Backlog := do
  let rebuffering ← load fun s => s.consumer.rebuffering
  if rebuffering = true ∧ backlog.trimDue = true then do
    let dropped ← sourceTrimToTarget
    when (0 < dropped) (store fun s => s.startFadeIn)
    measureBacklog
  else pure backlog

def leaveRebuffering (nowMs : UInt32) (backlog : Backlog) : Prog Answer Source Unit := do
  let rebuffering ← load fun s => s.consumer.rebuffering
  when (rebuffering = true) do
    let lastPush ← load fun s => s.producer.lastPushMs
    when (backlog.targetMs ≤ backlog.queueMs ∨
        (0 < backlog.queueMs ∧ staleBurstMs ≤ nowMs - lastPush))
      (store fun s => s.goLive)

/-- Whether the source is live, and whether a trim is still due. -/
def sourcePreparePlayout (nowMs : UInt32) : Prog Answer Source (Bool × Bool) := do
  let measured ← measureBacklog
  let backlog ← trimWhileRebuffering measured
  leaveRebuffering nowMs backlog
  let live ← load fun s => s.consumer.live
  pure (live, backlog.trimDue)

def sourcePrepareLiveRead (trimRequested : Bool) : Prog Answer Source Unit :=
  store fun s =>
    if s.consumer.trimAfterFade = false ∧ s.consumer.fadeOutRemaining = 0 ∧
        trimRequested = true then s.startFadeOut
    else s

/-- The converter reads its input frame by frame. -/
def readFrames : Nat → Nat → Prog Answer Source (List Frame)
  | 0, _ => pure []
  | n + 1, pos => do
    let frame ← load fun s => s.producer.ring pos
    let rest ← readFrames n (pos + 1)
    pure (frame :: rest)

/-- What the ledger says of converted frames. -/
def playedEvent (consumer : Consumer) (frames : List Frame) (start _upto : Nat) : Event :=
  .played start (consumer.converter.getD 0) consumer.taken.appliedCount frames

def finishConversion (readCursor : UInt32) (input : List Frame) (frames made : Nat)
    (success : Bool) : Prog Answer Source (Nat ⊕ Nat × Bool) := do
  when (0 < input.length) (store fun s =>
    s.storeReadCursor (readCursor + UInt32.ofNat input.length) (playedEvent s.consumer input))
  if success = false ∨ (input.length = 0 ∧ made = 0) then pure (.inr (frames + made, false))
  else pure (.inl (frames + made))

/-- One call of the converter on the frames that lie in one piece. -/
def convertQueued (write : UInt32) (frames produced : Nat) :
    Prog Answer Source (Nat ⊕ Nat × Bool) := do
  let readCursor ← load fun s => s.consumer.readCursor
  let available := write - readCursor
  if available = 0 then pure (.inr (produced, false))
  else do
    let ringPos := readCursor.toNat % pipelineCapacityFrames
    let contiguous := min (pipelineCapacityFrames - ringPos) available.toNat
    let answer ← ask fun a => a
    let input ← readFrames (min answer.consumed contiguous) ringPos
    finishConversion readCursor input produced (min answer.produced (frames - produced))
      answer.success

/-- A round of the loop in `source_convert_frames`: how much it has produced, or what it ends
with and whether a discontinuity was applied. -/
def convertRound (frames produced : Nat) : Prog Answer Source (Nat ⊕ Nat × Bool) := do
  let converter ← load fun s => s.consumer.converter
  if produced < frames ∧ converter.isSome = true then do
    let write ← load fun s => s.producer.writeCursor
    let formatChanged ← sourceApplyGeneration
    let talkspurtChanged ← sourceApplyTalkspurt
    if formatChanged = true ∨ talkspurtChanged = true then pure (.inr (produced, true))
    else convertQueued write frames produced
  else pure (.inr (produced, false))

def sourceConvertFrames (frames : Nat) : Prog Answer Source (Nat × Bool) :=
  iterate (convertRound frames) 0

/-- The trim that waited for the fade-out to end. -/
def trimAfterFade : Prog Answer Source Unit := do
  let due ← load fun s => s.consumer.trimAfterFade && s.consumer.fadeOutRemaining == 0
  when (due = true) do
    let _ ← sourceTrimToTarget
    store fun s => s.finishTrim

/-- A round of the loop in `source_render_live`: the offset and whether an underrun was met. -/
def renderRound (frames : Nat) (progress : Nat × Bool) : Prog Answer Source ((Nat × Bool) ⊕ Bool) :=
  if progress.1 < frames then do
    trimAfterFade
    let fadeOut ← load fun s => s.consumer.fadeOutRemaining
    let left := frames - progress.1
    let segment := if 0 < fadeOut ∧ fadeOut < left then fadeOut else left
    let converted ← sourceConvertFrames segment
    let gainFrames := if converted.2 = true then left else segment
    store fun s => s.applyDiscontinuityEnvelope gainFrames
    pure (.inl (progress.1 + gainFrames,
      progress.2 || (!converted.2 && decide (converted.1 < segment))))
  else pure (.inr progress.2)

def sourceRenderLive (frames : Nat) : Prog Answer Source Bool :=
  iterate (renderRound frames) (0, false)

def sourceHandleUnderrun : Prog Answer Source Unit := do
  store fun s => s.bumpUnderruns
  let target ← load fun s => s.targetDelayMs
  store fun s => s.raiseTarget (target + targetHeadroomMs)
  store fun s => s.rebuffer

def sourceRenderSilence (frames : Nat) : Prog Answer Source Unit :=
  store fun s => s.applyDiscontinuityEnvelope frames

def sourceReadPrepared (frames : Nat) (prepared : Bool × Bool) : Prog Answer Source Unit :=
  if prepared.1 = true then do
    sourcePrepareLiveRead prepared.2
    let underrun ← sourceRenderLive frames
    when (underrun = true) sourceHandleUnderrun
  else sourceRenderSilence frames

def sourceRead (frames : Nat) : Prog Answer Source Unit :=
  if frames = 0 then pure ()
  else do
    let _ ← sourceApplyGeneration
    let _ ← sourceApplyTalkspurt
    let nowMs ← ask fun a => a.nowMs
    let opened ← load fun s => s.producer.opened
    let converter ← load fun s => s.consumer.converter
    if opened = false ∨ converter.isSome = false then do
      store fun s => s.markUnavailable
      sourceRenderSilence frames
    else do
      let prepared ← sourcePreparePlayout nowMs
      sourceReadPrepared frames prepared

/-! ## The two threads -/

inductive Thread
  | producer
  | consumer
  deriving DecidableEq

inductive ProducerCall
  | setSourceFormat (sampleRate : UInt32) (channels : UInt16)
  | close
  | push (samples : Nat → Int16) (frames : Nat) (timestampMs : UInt32)

/-- The reads of the mixer, by their number of frames. -/
def Call : Thread → Type
  | .producer => ProducerCall
  | .consumer => Nat

/-- A call of the producer. What a push on an open source returns goes into the ledger. -/
def ProducerCall.program : ProducerCall → Prog Answer Source Unit
  | .setSourceFormat sampleRate channels => do
    let _ ← Audio.setSourceFormat sampleRate channels
    pure ()
  | .close => closeSource
  | .push samples frames timestampMs => do
    let source ← load fun s => s.producer
    let dropped ← Audio.push samples frames timestampMs
    when (source.opened = true) (store fun s =>
      s.notePush (inputFrames source.producerChannels samples frames) dropped)

def program : (thread : Thread) → Call thread → Prog Answer Source Unit
  | .producer, call => ProducerCall.program call
  | .consumer, frames => sourceRead frames

/-- The two threads on a source that was just initialized. -/
def pipeline : Machine (Lgnome.Transition.Config Thread Answer Source)
    (Lgnome.Transition.Turn Thread Answer Call) Unit :=
  parties {} program

end Lgnome.Audio
