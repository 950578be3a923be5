import Lgnome.Native.H264Scan
import Lgnome.Transition.Machine
import Lgnome.Transition.Ring

/-!
# The camera's H.264 stream

`camera_h264_stream.c`: captured buffers go in, sendable packets come out. The stream
keeps the parameter sets it saw last, gates pictures until a seed is queued and counts
the buffers that it had to swallow. A buffer of the FIFO that is not there is the
cleared slot; log lines are left out.
-/
namespace Lgnome.Capture

open Lgnome.Native
open Lgnome.Transition

/-- `NATIVE_CAMERA_H264_FIFO_AUS`. -/
abbrev cameraH264FifoAus : Nat := 8

/-- `NATIVE_CAMERA_H264_FIFO_BYTES`. -/
abbrev cameraH264FifoBytes : Nat := 8 * 1024 * 1024

/-- `NATIVE_CAMERA_H264_WAIT_AUS`. -/
abbrev cameraH264WaitAus : Nat := 8

/-- `NATIVE_CAMERA_H264_MAX_AU_BYTES`. -/
abbrev cameraH264MaxAuBytes : Nat := 4 * 1024 * 1024

/-- `V4L2_BUF_FLAG_ERROR`. -/
def v4l2BufFlagError : UInt32 := 0x40

/-- A captured buffer as the stream reads it. One that is not there has no data. -/
structure NativeCameraFrame where
  data : Bytes
  timestampUs : UInt64 := 0
  sequence : UInt32 := 0
  flags : UInt32 := 0
  deriving DecidableEq, Repr

/-- A queued access unit, and the packet that a peek shows of it. -/
structure NativeCameraOwnedAu where
  data : Bytes
  timestampUs : UInt64
  sequence : UInt32
  isIdr : Bool
  deriving DecidableEq, Repr

structure NativeCameraH264Stream where
  sps : Option Bytes := none
  pps : Option Bytes := none
  fifo : Ring NativeCameraOwnedAu cameraH264FifoAus := .empty
  bytes : Nat := 0
  waitingAus : Nat := 0
  lastSequence : UInt32 := 0
  haveSequence : Bool := false
  seeded : Bool := false
  deriving DecidableEq, Repr

inductive NativeCameraH264IngestResult
  | waiting
  | queued
  | sampleError
  | recover
  deriving DecidableEq, Repr

/-- Which of the allocations of one ingest succeed. -/
structure Allocations where
  sps : Bool := true
  pps : Bool := true
  au : Bool := true
  deriving DecidableEq, Repr

/-- `camera_parameter_set_copy`. -/
def cameraParameterSetCopy (nal : Bytes) (allocated : Bool) : Option Bytes :=
  if nal.length = 0 ∨ cameraH264MaxAuBytes - startCode.length < nal.length then none
  else if allocated then some (startCode ++ nal)
  else none

/-- The length of a set that may be missing. -/
def setLength (set : Option Bytes) : Nat := (set.map List.length).getD 0

namespace NativeCameraH264Stream

/-- `native_camera_h264_stream_reset`. -/
def reset (_stream : NativeCameraH264Stream) : NativeCameraH264Stream := {}

/-- `camera_stream_recover`. -/
def recover (stream : NativeCameraH264Stream) :
    NativeCameraH264Stream × NativeCameraH264IngestResult :=
  (stream.reset, .recover)

/-- `camera_stream_wait`. -/
def wait (stream : NativeCameraH264Stream) :
    NativeCameraH264Stream × NativeCameraH264IngestResult :=
  if cameraH264WaitAus ≤ stream.waitingAus + 1 then
    ({ stream with waitingAus := 0 }, .sampleError)
  else ({ stream with waitingAus := stream.waitingAus + 1 }, .waiting)

/-- `camera_stream_cache_parameter_sets`. A set that the buffer does not bring stays. -/
def cacheParameterSets (stream : NativeCameraH264Stream) (info : NativeH264Info)
    (memory : Allocations) : Option NativeCameraH264Stream :=
  let newSps := if info.hasSps then cameraParameterSetCopy info.sps memory.sps else none
  let newPps := if info.hasPps then cameraParameterSetCopy info.pps memory.pps else none
  if info.hasSps ∧ newSps = none then none
  else if info.hasPps ∧ newPps = none then none
  else
    let finalSps := newSps <|> stream.sps
    let finalPps := newPps <|> stream.pps
    if cameraH264MaxAuBytes < setLength finalSps ∨
        cameraH264MaxAuBytes - setLength finalSps < setLength finalPps then none
    else some { stream with sps := finalSps, pps := finalPps }

/-- The bytes in front of a queued buffer: both sets, for an IDR that does not seed a
decoder by itself. -/
def seedBytes (stream : NativeCameraH264Stream) (info : NativeH264Info) : Option Bytes :=
  if info.hasIdr ∧ ¬info.canSeedDecoder then
    match stream.sps, stream.pps with
    | some sps, some pps => some (sps ++ pps)
    | _, _ => none
  else some []

/-- `camera_stream_queue`; `none` is a failure. -/
def queue (stream : NativeCameraH264Stream) (frame : NativeCameraFrame) (info : NativeH264Info)
    (memory : Allocations) : Option NativeCameraH264Stream :=
  match stream.seedBytes info with
  | none => none
  | some seed =>
    if cameraH264MaxAuBytes < seed.length ∨
        cameraH264MaxAuBytes - seed.length < frame.data.length then none
    else
      let outputLen := seed.length + frame.data.length
      if cameraH264FifoAus ≤ stream.fifo.count ∨
          cameraH264FifoBytes - stream.bytes < outputLen then none
      else if ¬memory.au then none
      else
        let queued : NativeCameraOwnedAu := {
          data := seed ++ frame.data
          timestampUs := frame.timestampUs
          sequence := frame.sequence
          isIdr := info.hasIdr }
        some { stream with
          fifo := stream.fifo.push queued
          bytes := stream.bytes + outputLen }

/-- The gap check: a dropped buffer closes the gate and primes the wait counter. -/
def checkSequence (stream : NativeCameraH264Stream) (sequence : UInt32) :
    NativeCameraH264Stream :=
  let stream :=
    if stream.haveSequence ∧ sequence ≠ stream.lastSequence + 1 then
      { stream with seeded := false, waitingAus := cameraH264WaitAus - 1 }
    else stream
  { stream with lastSequence := sequence, haveSequence := true }

/-- The part of an ingest behind the scan and the caching of the sets. -/
def route (stream : NativeCameraH264Stream) (frame : NativeCameraFrame) (info : NativeH264Info)
    (memory : Allocations) : NativeCameraH264Stream × NativeCameraH264IngestResult :=
  if ¬info.hasVcl then stream.wait
  else if ¬stream.seeded ∧ ¬info.hasIdr then stream.wait
  else if info.hasIdr ∧ ¬info.canSeedDecoder ∧ (stream.sps = none ∨ stream.pps = none) then
    stream.wait
  else
    match stream.queue frame info memory with
    | none => stream.recover
    | some stream =>
      ({ stream with
        seeded := if info.hasIdr then true else stream.seeded
        waitingAus := 0 }, .queued)

/-- `native_camera_h264_stream_ingest`. -/
def ingest (stream : NativeCameraH264Stream) (frame : NativeCameraFrame)
    (memory : Allocations) : NativeCameraH264Stream × NativeCameraH264IngestResult :=
  if frame.data.length = 0 ∨ cameraH264MaxAuBytes < frame.data.length then stream.recover
  else if frame.flags &&& v4l2BufFlagError ≠ 0 then stream.recover
  else
    let stream := stream.checkSequence frame.sequence
    match nativeH264ScanAnnexb frame.data with
    | none => stream.recover
    | some info =>
      if ¬info.startsWithAnnexbStartCode then stream.recover
      else
        match stream.cacheParameterSets info memory with
        | none => stream.recover
        | some stream => stream.route frame info memory

/-- `native_camera_h264_stream_peek`. -/
def peek (stream : NativeCameraH264Stream) : Option NativeCameraOwnedAu := stream.fifo.peek

/-- `native_camera_h264_stream_pop`. -/
def pop (stream : NativeCameraH264Stream) : NativeCameraH264Stream :=
  if stream.fifo.count = 0 then stream
  else
    let headLen := (stream.peek.map fun head => head.data.length).getD 0
    { stream with
      fifo := stream.fifo.pop
      bytes := stream.bytes - headLen }

end NativeCameraH264Stream

/-! ## The stream as its worker calls it -/

inductive StreamCall
  | ingest (frame : NativeCameraFrame) (memory : Allocations)
  | pop
  | reset
  deriving DecidableEq, Repr

/-- What a call gives back: the result of an ingest, or the packet that left. -/
inductive StreamReply
  | ingested (result : NativeCameraH264IngestResult)
  | popped (packet : Option NativeCameraOwnedAu)
  | done
  deriving DecidableEq, Repr

/-- The stream from its creation on, under any order of calls. -/
def cameraH264Stream : Machine NativeCameraH264Stream StreamCall StreamReply where
  init := {}
  step stream call :=
    match call with
    | .ingest frame memory =>
      let (stream, result) := stream.ingest frame memory
      some (stream, .ingested result)
    | .pop => some (stream.pop, .popped stream.peek)
    | .reset => some (stream.reset, .done)

end Lgnome.Capture
