import Lgnome.Bytes.Fixed
import Lgnome.Transition.Machine

/-!
# The audio-input channel

`rdpeai.rs`: one processor answers the PDUs of the microphone channel and keeps
the open stream in a bridge that the sender of captured audio shares. Closing an
open stream and opening a new one each take the next generation.
-/
namespace Lgnome.Rdpeai

open Lgnome.Transition

def sampleRate : Nat := 44100
def channels : Nat := 2
def bitsPerSample : Nat := 16
def versionMax : UInt32 := 2

def msgVersion : UInt8 := 1
def msgFormats : UInt8 := 2
def msgOpen : UInt8 := 3
def msgOpenReply : UInt8 := 4
def msgDataIncoming : UInt8 := 5
def msgData : UInt8 := 6
def msgFormatChange : UInt8 := 7

def waveFormatPcm : Nat := 1
def waveFormatExtensible : Nat := 0xfffe

/-- The state behind the bridge's lock. -/
structure AudioInputState where
  channelId : Option UInt32 := none
  version : UInt32 := versionMax
  isOpen : Bool := false
  generation : UInt64 := 0
  framesPerPacket : Nat := 0
  deriving DecidableEq, Repr

/-- The processor with its bridge. -/
structure AudioInputHandler where
  bridge : AudioInputState := {}
  offeredFormat : Bool := false
  deriving DecidableEq, Repr

inductive AudioCallback
  | start (generation : UInt64) (sampleRate channels frames : Nat)
  | stop (generation : UInt64)
  deriving DecidableEq, Repr

/-- What a call leaves: messages for the channel it came on, and callbacks. -/
structure Outcome where
  replies : List Bytes := []
  callbacks : List AudioCallback := []
  deriving DecidableEq, Repr

/-- `generation.wrapping_add(1).max(1)`. -/
def nextGeneration (generation : UInt64) : UInt64 := max (generation + 1) 1

/-- `AudioInputBridge::submit_pcm`. The packet size never overflows the product. -/
def AudioInputState.submitPcm (state : AudioInputState) (generation : UInt64) (data : Bytes) :
    Option (UInt32 × List Bytes) :=
  let expected := state.framesPerPacket * channels * (bitsPerSample / 8)
  if !state.isOpen || state.generation != generation || data.length != expected || expected == 0 then
    none
  else state.channelId.map fun channelId => (channelId, [[msgDataIncoming], msgData :: data])

def clientFormats : Bytes :=
  [msgFormats] ++ leBytes32 1 ++ leBytes32 27 ++ leBytes16 1 ++ leBytes16 2 ++ leBytes32 44100 ++
    leBytes32 176400 ++ leBytes16 4 ++ leBytes16 16 ++ leBytes16 0

/-- One `AUDIO_FORMAT` that is the client's own. -/
def isClientPcm (payload : Bytes) (offset : Nat) : Bool :=
  readLe16 payload offset == waveFormatPcm && readLe16 payload (offset + 2) == channels &&
    readLe32 payload (offset + 4) == sampleRate &&
    readLe32 payload (offset + 8) == sampleRate * channels * 2 &&
    readLe16 payload (offset + 12) == channels * 2 &&
    readLe16 payload (offset + 14) == bitsPerSample && readLe16 payload (offset + 16) == 0

/-- The loop of `server_offers_pcm` over the advertised formats. -/
def offersFrom (payload : Bytes) : Nat → Nat → Bool
  | 0, _ => false
  | count + 1, offset =>
    if payload.length < offset + 18 then false
    else
      let next := offset + 18 + readLe16 payload (offset + 16)
      if payload.length < next then false
      else isClientPcm payload offset || offersFrom payload count next

def serverOffersPcm (payload : Bytes) : Bool :=
  if payload.length < 9 || payload.head? != some msgFormats then false
  else
    let count := readLe32 payload 1
    if count = 0 ∨ 1000 < count then false else offersFrom payload count 9

/-- The subformat GUID of `KSDATAFORMAT_SUBTYPE_PCM`. -/
def pcmSubFormat : Bytes :=
  [1, 0, 0, 0, 0, 0, 0x10, 0, 0x80, 0, 0, 0xaa, 0, 0x38, 0x9b, 0x71]

def captureFormatValid (payload : Bytes) : Bool :=
  let formatTag := readLe16 payload 9
  let cbSize := readLe16 payload 25
  if formatTag = waveFormatPcm then cbSize == 0
  else if formatTag = waveFormatExtensible then
    decide (49 ≤ payload.length) && cbSize == 22 && readLe16 payload 27 == bitsPerSample &&
      readLe32 payload 29 == 3 && slice payload 33 49 == pcmSubFormat
  else false

/-- Whether an Open PDU asks for what the client captures. -/
def openValid (payload : Bytes) : Bool :=
  let frames := readLe32 payload 1
  readLe32 payload 5 == 0 && captureFormatValid payload && readLe16 payload 11 == channels &&
    readLe32 payload 13 == sampleRate && readLe16 payload 23 == bitsPerSample &&
    decide (1 ≤ frames) && decide (frames ≤ 4096)

namespace AudioInputHandler

/-- The stream that a valid Open PDU starts, in place of an open one. -/
def openStream (h : AudioInputHandler) (channelId : UInt32) (frames : Nat) :
    AudioInputHandler × List AudioCallback :=
  let generation := nextGeneration h.bridge.generation
  let stopped := if h.bridge.isOpen then [.stop h.bridge.generation] else []
  ({ h with bridge := { h.bridge with
      channelId := some channelId
      isOpen := true
      framesPerPacket := frames
      generation := generation } },
    stopped ++ [.start generation sampleRate channels frames])

def handleOpen (h : AudioInputHandler) (channelId : UInt32) (payload : Bytes) :
    AudioInputHandler × Outcome :=
  if h.offeredFormat && openValid payload then
    let opened := h.openStream channelId (readLe32 payload 1)
    (opened.1,
      { replies := [msgFormatChange :: leBytes32 0, msgOpenReply :: leBytes32 0]
        callbacks := opened.2 })
  else (h, { replies := [msgOpenReply :: leBytes32 0x80070057] })

def processPayload (h : AudioInputHandler) (channelId : UInt32) (payload : Bytes) :
    AudioInputHandler × Outcome :=
  match payload with
  | [] => (h, {})
  | messageId :: _ =>
    if messageId = msgVersion ∧ payload.length = 5 then
      let version := max (min (UInt32.ofNat (readLe32 payload 1)) versionMax) 1
      ({ h with bridge := { h.bridge with
          channelId := some channelId
          version := version } },
        { replies := [msgVersion :: leBytes32 version] })
    else if messageId = msgFormats ∧ serverOffersPcm payload then
      ({ h with offeredFormat := true }, { replies := [[msgDataIncoming], clientFormats] })
    else if messageId = msgOpen ∧ 27 ≤ payload.length then h.handleOpen channelId payload
    else if messageId = msgFormatChange ∧ payload.length = 5 then
      if readLe32 payload 1 = 0 ∧ h.offeredFormat then (h, { replies := [payload] }) else (h, {})
    else (h, {})

def stop (h : AudioInputHandler) : AudioInputHandler × Outcome :=
  if h.bridge.isOpen then
    ({ h with bridge := { h.bridge with
        isOpen := false
        framesPerPacket := 0
        generation := nextGeneration h.bridge.generation
        channelId := none } },
      { callbacks := [.stop h.bridge.generation] })
  else ({ h with bridge := { h.bridge with channelId := none } }, {})

def start (h : AudioInputHandler) (channelId : UInt32) : AudioInputHandler × Outcome :=
  ({ h with bridge := { h.bridge with channelId := some channelId } }, {})

/-- The channel id is not looked at. -/
def close (h : AudioInputHandler) (_channelId : UInt32) : AudioInputHandler × Outcome := h.stop

end AudioInputHandler

inductive AudioAction
  | start (channelId : UInt32)
  | process (channelId : UInt32) (payload : Bytes)
  | close (channelId : UInt32)
  | stop
  | submitPcm (generation : UInt64) (data : Bytes)
  deriving DecidableEq, Repr

/-- What a step shows: its outcome, or the packet a submission sends. -/
inductive AudioSeen
  | handled (outcome : Outcome)
  | submitted (packet : Option (UInt32 × List Bytes))
  deriving DecidableEq, Repr

namespace AudioInputHandler

def apply (h : AudioInputHandler) : AudioAction → AudioInputHandler × AudioSeen
  | .start channelId => ((h.start channelId).1, .handled (h.start channelId).2)
  | .process channelId payload =>
    ((h.processPayload channelId payload).1, .handled (h.processPayload channelId payload).2)
  | .close channelId => ((h.close channelId).1, .handled (h.close channelId).2)
  | .stop => (h.stop.1, .handled h.stop.2)
  | .submitPcm generation data => (h, .submitted (h.bridge.submitPcm generation data))

end AudioInputHandler

def AudioSeen.callbacks : AudioSeen → List AudioCallback
  | .handled outcome => outcome.callbacks
  | .submitted _ => []

/-- One processor over every incarnation of its channel. -/
def audioInput : Machine AudioInputHandler AudioAction AudioSeen where
  init := {}
  step h action := some (h.apply action)

/-- What one step can do to the stream. -/
inductive Applied (h : AudioInputHandler) : AudioAction → AudioInputHandler × AudioSeen → Prop
  | quiet {action : AudioAction} {h' : AudioInputHandler} {seen : AudioSeen}
      (hbridge : h'.bridge = h.bridge) (hcallbacks : seen.callbacks = []) :
      Applied h action (h', seen)
  | bound {action : AudioAction} (channelId version : UInt32) {seen : AudioSeen}
      (haction : action = .start channelId ∨
        ∃ payload, action = .process channelId payload ∧ payload.head? = some msgVersion)
      (hcallbacks : seen.callbacks = []) :
      Applied h action ({ h with bridge := { h.bridge with
        channelId := some channelId
        version := version } }, seen)
  | opened (channelId : UInt32) (payload : Bytes) {seen : AudioSeen}
      (hhead : payload.head? = some msgOpen) (hoffered : h.offeredFormat)
      (hvalid : openValid payload)
      (hcallbacks : seen.callbacks = (h.openStream channelId (readLe32 payload 1)).2) :
      Applied h (.process channelId payload) ((h.openStream channelId (readLe32 payload 1)).1, seen)
  | stopped {action : AudioAction} {seen : AudioSeen}
      (haction : action = .stop ∨ ∃ channelId, action = .close channelId)
      (hcallbacks : seen.callbacks = h.stop.2.callbacks) : Applied h action (h.stop.1, seen)

theorem apply_cases (h : AudioInputHandler) (action : AudioAction) :
    Applied h action (h.apply action) := by
  cases action with
  | start channelId => exact .bound channelId h.bridge.version (.inl rfl) rfl
  | close channelId => exact .stopped (.inr ⟨channelId, rfl⟩) rfl
  | stop => exact .stopped (.inl rfl) rfl
  | submitPcm generation data => exact .quiet rfl rfl
  | process channelId payload =>
    simp only [AudioInputHandler.apply, AudioInputHandler.processPayload]
    split
    · exact .quiet rfl rfl
    split
    · rename_i hversion
      exact .bound channelId _ (.inr ⟨_, rfl, by rw [hversion.1]; rfl⟩) rfl
    split
    · exact .quiet rfl rfl
    split
    · rename_i hopen
      unfold AudioInputHandler.handleOpen
      split
      · rename_i hgood
        obtain ⟨hoffered, hvalid⟩ := Bool.and_eq_true _ _ ▸ hgood
        exact .opened channelId _ (by rw [hopen.1]; rfl) hoffered hvalid rfl
      · exact .quiet rfl rfl
    split
    · split <;> exact .quiet rfl rfl
    · exact .quiet rfl rfl

/-- A valid Open PDU carries a packet size in range. -/
theorem openValid_frames {payload : Bytes} (h : openValid payload = true) :
    1 ≤ readLe32 payload 1 ∧ readLe32 payload 1 ≤ 4096 := by
  unfold openValid at h
  simp only [Bool.and_eq_true, decide_eq_true_eq] at h
  exact ⟨h.1.2, h.2⟩

end Lgnome.Rdpeai
