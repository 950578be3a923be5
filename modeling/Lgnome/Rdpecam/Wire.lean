import Lgnome.Bytes.Fixed

/-!
# RDPECAM messages on the wire

Identifiers and encoders of the camera redirection channel. A `DvcMessage` is
its bytes; the two channel texts are written out as the bytes they encode to.
-/
namespace Lgnome.Rdpecam

def protocolVersion : UInt8 := 2

def msgSuccess : UInt8 := 1
def msgError : UInt8 := 2
def msgSelectVersionRequest : UInt8 := 3
def msgSelectVersionResponse : UInt8 := 4
def msgDeviceAdded : UInt8 := 5
def msgDeviceRemoved : UInt8 := 6
def msgActivateDevice : UInt8 := 7
def msgDeactivateDevice : UInt8 := 8
def msgStreamListRequest : UInt8 := 9
def msgStreamListResponse : UInt8 := 10
def msgMediaTypeListRequest : UInt8 := 11
def msgMediaTypeListResponse : UInt8 := 12
def msgCurrentMediaTypeRequest : UInt8 := 13
def msgCurrentMediaTypeResponse : UInt8 := 14
def msgStartStreams : UInt8 := 15
def msgStopStreams : UInt8 := 16
def msgSampleRequest : UInt8 := 17
def msgSampleResponse : UInt8 := 18
def msgSampleError : UInt8 := 19
def msgPropertyListRequest : UInt8 := 20
def msgPropertyListResponse : UInt8 := 21

def errorUnexpected : UInt32 := 1
def errorInvalidMessage : UInt32 := 2
def errorNotInitialized : UInt32 := 3
def errorInvalidRequest : UInt32 := 4
def errorInvalidStream : UInt32 := 5
def errorInvalidMediaType : UInt32 := 6

def maxPendingSampleRequests : Nat := 8

/-- The `DEVICE_DISPLAY_NAME` "lgnome Camera", every character below 128. -/
def deviceDisplayName : Bytes :=
  [0x6c, 0x67, 0x6e, 0x6f, 0x6d, 0x65, 0x20, 0x43, 0x61, 0x6d, 0x65, 0x72, 0x61]

/-- The `DEVICE_CHANNEL_NAME` "lgnome_Camera_0". -/
def deviceChannelName : Bytes :=
  [0x6c, 0x67, 0x6e, 0x6f, 0x6d, 0x65, 0x5f, 0x43, 0x61, 0x6d, 0x65, 0x72, 0x61, 0x5f, 0x30]

/-- One H.264 media type: size and rate, frame-rate and pixel-aspect
denominators of one, and the flag that decoding is required. -/
def mediaType (width height fps : UInt16) : Bytes :=
  [1] ++ leBytes32 width.toUInt32 ++ leBytes32 height.toUInt32 ++ leBytes32 fps.toUInt32 ++
    leBytes32 1 ++ leBytes32 1 ++ leBytes32 1 ++ [1]

def errorResponse (version : UInt8) (code : UInt32) : Bytes :=
  [version, msgError] ++ leBytes32 code

def sampleError (version : UInt8) (code : UInt32) : Bytes :=
  [version, msgSampleError, 0] ++ leBytes32 code

/-- The display name goes out as UTF-16LE, so every byte of it is followed by a zero. -/
def deviceAdded (version : UInt8) : Bytes :=
  [version, msgDeviceAdded] ++ deviceDisplayName.flatMap (fun unit => [unit, 0]) ++ [0, 0] ++
    deviceChannelName ++ [0]

def deviceRemoved (version : UInt8) : Bytes :=
  [version, msgDeviceRemoved] ++ deviceChannelName ++ [0]

/-- The message answers one sample request, with a frame or with an error. -/
def answersSample : Bytes → Bool
  | _ :: messageId :: _ => messageId == msgSampleResponse || messageId == msgSampleError
  | _ => false

/-- How many sample requests a list of messages answers. -/
def answeredSamples (messages : List Bytes) : Nat := messages.countP answersSample

@[simp] theorem answeredSamples_nil : answeredSamples [] = 0 := rfl

@[simp] theorem answeredSamples_cons (m : Bytes) (ms : List Bytes) :
    answeredSamples (m :: ms) = answeredSamples ms + if answersSample m then 1 else 0 :=
  List.countP_cons

@[simp] theorem answeredSamples_append (ms ms' : List Bytes) :
    answeredSamples (ms ++ ms') = answeredSamples ms + answeredSamples ms' :=
  List.countP_append

@[simp] theorem answeredSamples_replicate (n : Nat) (m : Bytes) :
    answeredSamples (List.replicate n m) = if answersSample m then n else 0 :=
  List.countP_replicate

@[simp] theorem answersSample_sampleError (version : UInt8) (code : UInt32) :
    answersSample (sampleError version code) = true := rfl

@[simp] theorem answersSample_errorResponse (version : UInt8) (code : UInt32) :
    answersSample (errorResponse version code) = false := rfl

@[simp] theorem answersSample_success (version : UInt8) :
    answersSample [version, msgSuccess] = false := rfl

@[simp] theorem answersSample_deviceAdded (version : UInt8) :
    answersSample (deviceAdded version) = false := rfl

@[simp] theorem answersSample_deviceRemoved (version : UInt8) :
    answersSample (deviceRemoved version) = false := rfl

/-- Stopping capture answers each pending request with an error and then succeeds. -/
theorem answeredSamples_stop (n : Nat) (version : UInt8) :
    answeredSamples (List.replicate n (sampleError version errorUnexpected) ++
      [[version, msgSuccess]]) = n := by
  simp

end Lgnome.Rdpecam
