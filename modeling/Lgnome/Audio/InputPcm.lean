import Mathlib.Algebra.Group.Nat.Defs
import Lgnome.Transition.While

/-!
# The microphone resampler

Captured S16 frames of one or two channels become 44.1 kHz stereo frames, which leave in
packets of a fixed number of frames. The phase, the frame before and the packet under way
are kept from call to call. The gain factor comes from the C library's `powf` and `lroundf`.
-/
namespace Lgnome.Audio.InputPcm

open Lgnome.Transition (While)

def wireRate : Nat := 44100

structure Frame where
  left : Int16
  right : Int16
  deriving DecidableEq, Repr, Inhabited

/-- `NativeAudioInputPcmImpl`. `packets` are the calls of the packet callback, and
`packetSamples` the first `packet_frames` frames of the packet buffer. -/
structure NativeAudioInputPcmImpl where
  inputRate : Nat
  inputChannels : Nat
  framesPerPacket : Nat
  gainQ15 : Int32
  packets : List (List Frame) := []
  packetSamples : List Frame := []
  inputIndex : Nat := 0
  nextOutputNumerator : Nat := 0
  previousLeft : Int16 := 0
  previousRight : Int16 := 0
  havePrevious : Bool := false
  deriving DecidableEq

/-- `uint64_t` arithmetic. -/
def u64 (n : Nat) : Nat := n % 2 ^ 64

def u64Sub (a b : Nat) : Nat := (a + 2 ^ 64 - b) % 2 ^ 64

def clampS16 (sample : Int) : Int16 :=
  if 32767 < sample then 32767
  else if sample < -32768 then -32768
  else Int16.ofInt sample

/-- The `int64_t` product with its rounding, before the division. -/
def scaledSample (gainQ15 : Int32) (sample : Int16) : Int :=
  let scaled := sample.toInt * gainQ15.toInt
  if 0 ≤ scaled then scaled + 16384 else scaled - 16384

def applyGain (gainQ15 : Int32) (sample : Int16) : Int16 :=
  clampS16 ((scaledSample gainQ15 sample).tdiv 32768)

def emitFrame (impl : NativeAudioInputPcmImpl) (left right : Int16) : NativeAudioInputPcmImpl :=
  let packetSamples :=
    impl.packetSamples ++ [⟨applyGain impl.gainQ15 left, applyGain impl.gainQ15 right⟩]
  if packetSamples.length = impl.framesPerPacket then
    { impl with packets := impl.packets ++ [packetSamples], packetSamples := [] }
  else
    { impl with packetSamples := packetSamples }

/-- `native_audio_input_pcm_init`; `powf` gives the rounded Q15 factor of a gain in dB, and
the allocations may fail. -/
def init (powf : Int16 → Int32) (inputRate inputChannels framesPerPacket : Nat) (gainDb : Int16)
    (allocated : Bool) : Option NativeAudioInputPcmImpl :=
  if inputRate < 8000 ∨ 192000 < inputRate ∨ (inputChannels ≠ 1 ∧ inputChannels ≠ 2) ∨
      framesPerPacket = 0 ∨ 4096 < framesPerPacket ∨ gainDb < -12 ∨ 18 < gainDb then none
  else if !allocated then none
  else some { inputRate, inputChannels, framesPerPacket, gainQ15 := powf gainDb }

/-- The distance from the frame before to the next output, in units of an input frame over
44100, before its clamp. -/
def fractionOf (impl : NativeAudioInputPcmImpl) : Nat :=
  let previousNumerator := u64 (u64Sub impl.inputIndex 1 * wireRate)
  u64Sub impl.nextOutputNumerator previousNumerator

/-- The `int64_t` sum of the two weighted samples. -/
def weighted (previous sample : Int16) (fraction : Nat) : Int :=
  let inverse := wireRate - fraction
  previous.toInt * (inverse : Int) + sample.toInt * (fraction : Int)

/-- One channel of an output frame, with its casts to `int32_t` and to `int16_t`. -/
def interpolate (previous sample : Int16) (fraction : Nat) : Int16 :=
  (Int32.ofInt ((weighted previous sample fraction).tdiv wireRate)).toInt16

/-- `out_left` and `out_right`, between the frame before and `frame`. -/
def outFrame (impl : NativeAudioInputPcmImpl) (frame : Frame) : Frame :=
  if 0 < impl.inputIndex then
    let fraction := min (fractionOf impl) wireRate
    ⟨interpolate impl.previousLeft frame.left fraction,
      interpolate impl.previousRight frame.right fraction⟩
  else frame

/-- The loop that emits the output frames up to the current input frame. -/
def emitLoop (frame : Frame) (currentNumerator : Nat) : While NativeAudioInputPcmImpl where
  test impl := decide (impl.nextOutputNumerator ≤ currentNumerator)
  body impl :=
    let out := outFrame impl frame
    let emitted := emitFrame impl out.left out.right
    { emitted with nextOutputNumerator := u64 (impl.nextOutputNumerator + impl.inputRate) }

/-- The first frame is its own predecessor. -/
def withPrevious (impl : NativeAudioInputPcmImpl) (frame : Frame) : NativeAudioInputPcmImpl :=
  if impl.havePrevious then impl
  else { impl with previousLeft := frame.left, previousRight := frame.right, havePrevious := true }

/-- One pass of the loop over the input. The inner loop's test depends on a 64-bit counter
alone, so a loop that is still running after `2 ^ 64` passes does not end: `none`. -/
def pushFrame (impl : NativeAudioInputPcmImpl) (frame : Frame) : Option NativeAudioInputPcmImpl :=
  let currentNumerator := u64 (impl.inputIndex * wireRate)
  ((emitLoop frame currentNumerator).run (2 ^ 64) (withPrevious impl frame)).map fun impl =>
    { impl with
      previousLeft := frame.left, previousRight := frame.right
      inputIndex := u64 (impl.inputIndex + 1) }

/-- The input frame that a pass reads, `none` past the end of the buffer. -/
def readFrame (inputChannels : Nat) (samples : List Int16) (frame : Nat) : Option Frame :=
  match samples[frame * inputChannels]? with
  | none => none
  | some left =>
    if inputChannels = 1 then some ⟨left, left⟩
    else (samples[frame * inputChannels + 1]?).map fun right => ⟨left, right⟩

def pushFrames (impl : NativeAudioInputPcmImpl) (samples : List Int16) (frames : Nat) :
    Option NativeAudioInputPcmImpl :=
  (List.range frames).foldlM (fun impl frame => do
    pushFrame impl (← readFrame impl.inputChannels samples frame)) impl

/-- `native_audio_input_pcm_push`: what it returns, and the converter it leaves. The
converter is `none` before `init` and behind `destroy`, the samples where they are `NULL`. -/
def push (pcm : Option NativeAudioInputPcmImpl) (samples : Option (List Int16)) (frames : Nat) :
    Option (Bool × Option NativeAudioInputPcmImpl) :=
  match pcm, samples with
  | none, _ => some (false, none)
  | some impl, none => some (frames == 0, some impl)
  | some impl, some samples => (pushFrames impl samples frames).map fun impl => (true, some impl)

/-- One push after the other, each with a buffer of whole frames: whether all returned
`true`, and the converter they leave. -/
def pushAll (inputChannels : Nat) (pcm : Option NativeAudioInputPcmImpl) :
    List (List Int16) → Option (Bool × Option NativeAudioInputPcmImpl)
  | [] => some (true, pcm)
  | samples :: rest => do
    let (ok, pcm) ← push pcm (some samples) (samples.length / inputChannels)
    let (all, pcm) ← pushAll inputChannels pcm rest
    return (ok && all, pcm)

/-- All frames emitted so far. -/
def NativeAudioInputPcmImpl.emitted (impl : NativeAudioInputPcmImpl) : List Frame :=
  impl.packets.flatten ++ impl.packetSamples

end Lgnome.Audio.InputPcm
