import Lgnome.Transition.Ring

/-!
# The jitter controller of the playout delay

How late each block of audio came, against its own length or its timestamp, is kept in
buckets of 5 ms: the newest samples in a ring, their numbers in a histogram. The delay
follows the worst lateness at once and falls back step by step, never below what the blocks
and the 95th percentile need. Times are milliseconds of a 32-bit clock.
-/
namespace Lgnome.Audio.Jitter

open Lgnome.Transition (Ring)

def windowMs : Nat := 10000
def targetDecayMs : Nat := 5000
def targetDecayStepMs : Nat := 10
def longGapMs : Nat := 500
def targetInitialMs : Nat := 60
def targetMinMs : Nat := 40
def targetMaxMs : Nat := 260
def targetHeadroomMs : Nat := 20
def bucketMs : Nat := 5
def buckets : Nat := 31
def sampleSlots : Nat := 2048

/-- `uint32_t` arithmetic. -/
def u32 (n : Nat) : Nat := n % 2 ^ 32

def u32Sub (a b : Nat) : Nat := (a + 2 ^ 32 - b) % 2 ^ 32

def clampU32 (value low high : Nat) : Nat :=
  if value < low then low else if high < value then high else value

structure NativeAudioJitterSample where
  arrivalMs : Nat
  bucket : Nat
  deriving DecidableEq, Repr

/-- `NativeAudioJitterController`. The ring empties the slots that the code leaves stale and
never reads again. -/
structure NativeAudioJitterController where
  haveArrival : Bool := false
  lastArrivalMs : Nat := 0
  lastTimestampMs : Nat := 0
  lastTargetChangeMs : Nat
  seenUnderruns : Nat
  samples : Ring NativeAudioJitterSample sampleSlots := .empty
  histogram : List Nat := List.replicate buckets 0

inductive NativeAudioJitterTargetAction
  | unchanged
  | set
  | raise
  | decay
  deriving DecidableEq, Repr

structure NativeAudioJitterUpdate where
  jitterP95Ms : Nat
  targetDelayMs : Nat
  targetAction : NativeAudioJitterTargetAction := .unchanged
  talkspurt : Bool := false
  deriving DecidableEq, Repr

/-- The arguments of one update. -/
structure Call where
  frames : Nat
  sampleRate : Nat
  timestampMs : Nat
  nowMs : Nat
  underruns : Nat
  currentTargetMs : Nat
  deriving DecidableEq, Repr

namespace NativeAudioJitterController

/-- `native_audio_jitter_reset`. -/
def reset (nowMs underruns : Nat) : NativeAudioJitterController where
  lastTargetChangeMs := nowMs
  seenUnderruns := underruns

def samplesClear (c : NativeAudioJitterController) : NativeAudioJitterController :=
  { c with histogram := List.replicate buckets 0, samples := .empty }

def removeOldest (c : NativeAudioJitterController) : NativeAudioJitterController :=
  match c.samples.peek with
  | none => c
  | some sample =>
    { c with
      histogram := if sample.bucket < buckets ∧ 0 < c.histogram.getD sample.bucket 0 then
          c.histogram.modify sample.bucket (· - 1)
        else c.histogram
      samples := c.samples.pop }

/-- The loop of `jitter_expire`. A pass removes a sample, so there are at most as many passes
as samples. -/
def expireLoop (nowMs : Nat) : Nat → NativeAudioJitterController → NativeAudioJitterController
  | 0, c => c
  | fuel + 1, c =>
    match c.samples.peek with
    | none => c
    | some sample =>
      if u32Sub nowMs sample.arrivalMs ≤ windowMs then c
      else expireLoop nowMs fuel c.removeOldest

def expire (c : NativeAudioJitterController) (nowMs : Nat) : NativeAudioJitterController :=
  expireLoop nowMs c.samples.count c

/-- The loop of `jitter_p95`, from `bucket` on. -/
def p95Loop (threshold seen bucket : Nat) : List Nat → Nat
  | [] => (buckets - 1) * bucketMs
  | n :: rest =>
    if threshold ≤ seen + n then bucket * bucketMs
    else p95Loop threshold (seen + n) (bucket + 1) rest

def p95 (c : NativeAudioJitterController) : Nat :=
  if c.samples.count = 0 then 0
  else p95Loop ((c.samples.count * 95 + 99) / 100) 0 0 c.histogram

/-- The bucket of a variation; the last one takes all that are larger. -/
def bucketOf (variationMs : Nat) : Nat :=
  if buckets ≤ variationMs / bucketMs then buckets - 1 else variationMs / bucketMs

/-- `jitter_add` before it reads the percentile; the counters are 16 bits wide. -/
def add (c : NativeAudioJitterController) (nowMs variationMs : Nat) :
    NativeAudioJitterController :=
  let c := c.expire nowMs
  let c := if c.samples.count = sampleSlots then c.removeOldest else c
  let bucket := bucketOf variationMs
  { c with
    samples := c.samples.push ⟨nowMs, bucket⟩
    histogram := c.histogram.modify bucket fun n => (n + 1) % 2 ^ 16 }

end NativeAudioJitterController

open NativeAudioJitterController

namespace Call

/-- How long the frames of a block play, at least 1 ms. -/
def durationMs (call : Call) : Nat :=
  let duration := if call.sampleRate = 0 then 0 else
    u32 ((call.frames * 1000 % 2 ^ 64 + call.sampleRate / 2) % 2 ^ 64 / call.sampleRate)
  if duration = 0 then 1 else duration

/-- What a block of so many milliseconds needs. -/
def targetFor (ms : Nat) : Nat :=
  clampU32 (u32 (ms + targetHeadroomMs)) targetMinMs targetMaxMs

/-- When the block was due after the one before. -/
def expectedMs (call : Call) (c : NativeAudioJitterController) : Nat :=
  if call.timestampMs ≠ 0 ∧ c.lastTimestampMs ≠ 0 then
    let timestampDelta := u32Sub call.timestampMs c.lastTimestampMs
    if timestampDelta ≠ 0 ∧ timestampDelta ≤ longGapMs then timestampDelta else call.durationMs
  else call.durationMs

def arrivalDelta (call : Call) (c : NativeAudioJitterController) : Nat :=
  u32Sub call.nowMs c.lastArrivalMs

def variationMs (call : Call) (c : NativeAudioJitterController) : Nat :=
  if call.expectedMs c < call.arrivalDelta c then call.arrivalDelta c - call.expectedMs c
  else call.expectedMs c - call.arrivalDelta c

/-- The target for the longer of the block and the distance to the one before. -/
def cadenceTarget (call : Call) (c : NativeAudioJitterController) : Nat :=
  if call.durationMs < call.expectedMs c then targetFor (call.expectedMs c)
  else targetFor call.durationMs

/-- The target for the lateness of this block, no less than the cadence target. -/
def peakTarget (call : Call) (c : NativeAudioJitterController) : Nat :=
  let peak := targetFor (call.variationMs c)
  if peak < call.cadenceTarget c then call.cadenceTarget c else peak

end Call

namespace NativeAudioJitterController

/-- The first block after a reset. -/
def updateFirst (c : NativeAudioJitterController) (call : Call) :
    NativeAudioJitterUpdate × NativeAudioJitterController :=
  let target := Call.targetFor call.durationMs
  (if call.currentTargetMs < target then ⟨c.p95, target, .raise, false⟩
    else ⟨c.p95, call.currentTargetMs, .unchanged, false⟩,
   { c with
     haveArrival := true
     lastArrivalMs := call.nowMs
     lastTimestampMs := call.timestampMs
     lastTargetChangeMs := call.nowMs })

/-- A block after a long gap starts a talkspurt. -/
def updateTalkspurt (c : NativeAudioJitterController) (call : Call) :
    NativeAudioJitterUpdate × NativeAudioJitterController :=
  let target := Call.targetFor call.durationMs
  (⟨0, if targetInitialMs < target then target else targetInitialMs, .set, true⟩,
   { c.samplesClear with
     lastArrivalMs := call.nowMs
     lastTimestampMs := call.timestampMs
     lastTargetChangeMs := call.nowMs })

/-- The target after a sample was added; `changedMs` is the last change or underrun. -/
def retarget (call : Call) (p95 cadenceTarget peakTarget changedMs : Nat) :
    NativeAudioJitterUpdate :=
  if call.currentTargetMs < peakTarget then ⟨p95, peakTarget, .raise, false⟩
  else
    let calculated := clampU32 (p95 + targetHeadroomMs) cadenceTarget targetMaxMs
    if calculated < call.currentTargetMs ∧ targetDecayMs ≤ u32Sub call.nowMs changedMs then
      let reduced :=
        if targetDecayStepMs < call.currentTargetMs then call.currentTargetMs - targetDecayStepMs
        else targetMinMs
      ⟨p95, if reduced < calculated then calculated else reduced, .decay, false⟩
    else ⟨p95, call.currentTargetMs, .unchanged, false⟩

/-- The last change of the target, which an underrun counts as. -/
def changedMs (c : NativeAudioJitterController) (call : Call) : Nat :=
  if call.underruns = c.seenUnderruns then c.lastTargetChangeMs else call.nowMs

/-- A block within the gap: its variation becomes a sample. -/
def updateSample (c : NativeAudioJitterController) (call : Call) :
    NativeAudioJitterUpdate × NativeAudioJitterController :=
  let added := c.add call.nowMs (call.variationMs c)
  let update := retarget call added.p95 (call.cadenceTarget c) (call.peakTarget c)
    (added.changedMs call)
  (update,
   { added with
     seenUnderruns := call.underruns
     lastArrivalMs := call.nowMs
     lastTimestampMs := call.timestampMs
     lastTargetChangeMs :=
       if update.targetAction = .unchanged then added.changedMs call else call.nowMs })

/-- `native_audio_jitter_update`. -/
def update (c : NativeAudioJitterController) (call : Call) :
    NativeAudioJitterUpdate × NativeAudioJitterController :=
  if !c.haveArrival then c.updateFirst call
  else if longGapMs < call.arrivalDelta c then c.updateTalkspurt call
  else c.updateSample call

/-- Whether an update adds a sample. -/
def records (c : NativeAudioJitterController) (call : Call) : Bool :=
  c.haveArrival && decide (call.arrivalDelta c ≤ longGapMs)

end NativeAudioJitterController

/-! ## Runs of updates -/

/-- An update of a run, at its time on a clock that does not wrap. -/
structure Entry where
  timeMs : Nat
  call : Call
  before : NativeAudioJitterController
  update : NativeAudioJitterUpdate
  after : NativeAudioJitterController

/-- A call at a time; the code is given the time in 32 bits. -/
def Call.atTime (call : Call) (timeMs : Nat) : Call := { call with nowMs := u32 timeMs }

/-- One update of a run. -/
def NativeAudioJitterController.entry (c : NativeAudioJitterController) (timeMs : Nat)
    (call : Call) : Entry :=
  let (update, after) := c.update (call.atTime timeMs)
  ⟨timeMs, call.atTime timeMs, c, update, after⟩

/-- The updates of a run from a controller, in order. -/
def run (c : NativeAudioJitterController) : List (Nat × Call) → List Entry
  | [] => []
  | (timeMs, call) :: rest => c.entry timeMs call :: run (c.entry timeMs call).after rest

end Lgnome.Audio.Jitter
