import Lgnome.Native.App
import Lgnome.Rdpeai.Stream

/-!
# The capture manager

`capture_slots.c`, `capture_redirect.c` and the two capture workers share one
lock. A function that holds it is the list of its small steps: at most one call
into the RDP client each, and the fields written around that call. What the
devices deliver is an input; device names and the gain stay outside. The code
tells sessions and streams apart by counters of 32 and 64 bits; how often they
were counted up is kept beside them and read by no step.
-/
namespace Lgnome.Capture

open Lgnome.Native (SlotIndex Session)

/-- `NativeCaptureSlot`. -/
structure CaptureSlot where
  session : Option Session := none
  cameraAllowed : Bool := false
  audioAllowed : Bool := false
  cameraStreaming : Bool := false
  cameraGeneration : Nat := 0
  cameraWidth : UInt16 := 0
  cameraHeight : UInt16 := 0
  cameraFps : UInt16 := 0
  cameraCredit : Nat := 0
  cameraAvailableRequested : Bool := false
  audioStreaming : Bool := false
  audioGeneration : UInt64 := 0
  audioFramesPerPacket : UInt32 := 0
  /-- Which one of its microphone's generations the session has given out. -/
  audioOpened : Nat := 0
  deriving DecidableEq, Repr

/-- `NativeCaptureRedirectConfig`. -/
structure CaptureConfig where
  cameraEnabled : Bool := false
  cameraWidth : UInt16 := 640
  cameraHeight : UInt16 := 480
  cameraFps : UInt16 := 15
  audioInputEnabled : Bool := false
  audioInputGainDb : Int := 0
  deriving DecidableEq, Repr

/-- `capture_config_valid`. -/
def CaptureConfig.valid (c : CaptureConfig) : Bool :=
  640 ≤ c.cameraWidth && c.cameraWidth ≤ 1920 && c.cameraWidth % 2 = 0 &&
    480 ≤ c.cameraHeight && c.cameraHeight ≤ 1080 && c.cameraHeight % 2 = 0 &&
    0 < c.cameraFps && c.cameraFps ≤ 30 && -12 ≤ c.audioInputGainDb && c.audioInputGainDb ≤ 18

/-- `NativeCaptureRedirectImpl` as far as the lock guards it. -/
@[ext] structure Redirect where
  slotGeneration : SlotIndex → UInt32 := fun _ => 0
  /-- How often a slot's generation was counted up. -/
  slotChanges : SlotIndex → Nat := fun _ => 0
  slots : SlotIndex → CaptureSlot := fun _ => {}
  foregroundSlot : Option SlotIndex := none
  cameraOwnerEpoch : UInt64 := 0
  cameraPhysicalAvailable : Bool := false
  cameraEnabled : Bool := false
  cameraWidth : UInt16 := 0
  cameraHeight : UInt16 := 0
  cameraFps : UInt16 := 0
  audioEnabled : Bool := false
  /-- The local `submission_failed` of `camera_submit_queued`. -/
  submissionFailed : Bool := false

/-- The stream a microphone packet is made for. -/
structure AudioTarget where
  session : Session
  stateGeneration : UInt32
  generation : UInt64
  framesPerPacket : UInt32
  deriving DecidableEq, Repr

/-- A target, and how far its two counters had come when it was collected. -/
structure Collected where
  target : AudioTarget
  changes : Nat
  opened : Nat
  deriving DecidableEq, Repr

/-- A call into the RDP client. -/
inductive RdpCall where
  | setCaptureActive (session : Session) (active : Bool)
  | setCameraAvailable (session : Session) (available : Bool)
  | submitCameraH264 (session : Session) (generation : Nat) (data : Bytes)
  | submitCameraError (session : Session) (generation : Nat)
  | submitAudioInputPcm (session : Session) (generation : UInt64) (data : Bytes)
  deriving DecidableEq, Repr

/-- The small steps of the functions that hold the lock. -/
inductive Micro where
  /-- With no generation given, the slot's own. -/
  | failCredit (i : SlotIndex) (generation : Option Nat)
  | closeGate (i : SlotIndex)
  | openGate (i : SlotIndex)
  | gateFollows (i : SlotIndex)
  | publishForeground (slot : Option SlotIndex)
  | publishSlot (i : SlotIndex) (session : Option Session) (cameraAllowed audioAllowed : Bool)
  | forgetAvailability (i : SlotIndex)
  | withdraw (i : SlotIndex)
  | advertise (i : SlotIndex)
  | setPhysical (available : Bool)
  | startCamera (i : SlotIndex) (generation : Nat) (width height fps : UInt16)
  | stopCamera (i : SlotIndex) (generation : Nat)
  | requestSample (i : SlotIndex) (generation : Nat)
  | startAudio (i : SlotIndex) (generation : UInt64) (framesPerPacket : UInt32) (opened : Nat)
  | stopAudio (i : SlotIndex) (generation : UInt64)
  | submitH264 (i : SlotIndex) (generation : Nat) (stateGeneration : UInt32) (ownerEpoch : UInt64)
      (packet : Option Bytes)
  | failRejected (i : SlotIndex) (generation : Nat)
  | submitPcm (i : SlotIndex) (collected : Collected) (data : Bytes)
  | applyConfig (config : CaptureConfig)
  | dropSession (i : SlotIndex)
  deriving DecidableEq

/-- The answer to this step is the `stop` flag. -/
def Micro.loadsStop : Micro → Bool
  | .setPhysical _ => true
  | _ => false

namespace Redirect

def modifySlot (r : Redirect) (i : SlotIndex) (f : CaptureSlot → CaptureSlot) : Redirect :=
  { r with slots := fun j => if j = i then f (r.slots i) else r.slots j }

section modifySlot

variable (r : Redirect) (i : SlotIndex) (f : CaptureSlot → CaptureSlot)

@[simp] theorem modifySlot_same : (r.modifySlot i f).slots i = f (r.slots i) := if_pos rfl

@[simp] theorem modifySlot_other {j : SlotIndex} (h : j ≠ i) :
    (r.modifySlot i f).slots j = r.slots j := if_neg h

@[simp] theorem modifySlot_foregroundSlot :
    (r.modifySlot i f).foregroundSlot = r.foregroundSlot := rfl

@[simp] theorem modifySlot_slotGeneration :
    (r.modifySlot i f).slotGeneration = r.slotGeneration := rfl

@[simp] theorem modifySlot_slotChanges : (r.modifySlot i f).slotChanges = r.slotChanges := rfl

end modifySlot

def isForeground (r : Redirect) (i : SlotIndex) : Bool := r.foregroundSlot = some i

/-- `camera_slot_eligible_locked`. -/
def cameraSlotEligible (r : Redirect) (i : SlotIndex) : Bool :=
  r.cameraEnabled && (r.slots i).session.isSome && (r.slots i).cameraAllowed

/-- `camera_stream_requested_locked`. -/
def cameraStreamRequested (r : Redirect) (i : SlotIndex) : Bool :=
  r.cameraSlotEligible i && r.isForeground i && (r.slots i).cameraStreaming &&
    (r.slots i).cameraWidth = r.cameraWidth && (r.slots i).cameraHeight = r.cameraHeight &&
    (r.slots i).cameraFps = r.cameraFps

/-- What `capture_update_camera_availability_locked` compares with the request. -/
def cameraAvailable (r : Redirect) (i : SlotIndex) : Bool :=
  r.cameraPhysicalAvailable && r.cameraSlotEligible i && r.isForeground i

/-- The slot owes an answer to the given stream. -/
def owesAnswer (r : Redirect) (i : SlotIndex) (generation : Nat) : Bool :=
  (r.slots i).cameraStreaming && (r.slots i).cameraGeneration = generation &&
    0 < (r.slots i).cameraCredit

/-- The guard of `camera_submit_queued` but for the packet. -/
def submitsQueued (r : Redirect) (i : SlotIndex) (generation : Nat) (stateGeneration : UInt32)
    (ownerEpoch : UInt64) : Bool :=
  r.cameraOwnerEpoch = ownerEpoch && r.slotGeneration i = stateGeneration &&
    r.cameraStreamRequested i && (r.slots i).cameraGeneration = generation &&
    0 < (r.slots i).cameraCredit

/-- `target_matches_locked`. -/
def targetMatches (r : Redirect) (i : SlotIndex) (target : AudioTarget) : Bool :=
  r.slotGeneration i = target.stateGeneration && (r.slots i).session = some target.session

/-- The guards of `audio_packet`. -/
def submitsPcm (r : Redirect) (i : SlotIndex) (target : AudioTarget) : Bool :=
  r.targetMatches i target && r.isForeground i && (r.slots i).audioStreaming &&
    (r.slots i).audioGeneration = target.generation

/-- One slot's part of `audio_collect_desired_locked`. -/
def audioDesired (r : Redirect) (i : SlotIndex) : Option Collected :=
  match (r.slots i).session with
  | none => none
  | some session =>
    if r.audioEnabled && (r.slots i).audioAllowed && r.isForeground i &&
        (r.slots i).audioStreaming && (r.slots i).audioFramesPerPacket ≠ 0 then
      some {
        target := {
          session
          stateGeneration := r.slotGeneration i
          generation := (r.slots i).audioGeneration
          framesPerPacket := (r.slots i).audioFramesPerPacket }
        changes := r.slotChanges i
        opened := (r.slots i).audioOpened }
    else none

/-- `rdp_submit_camera_error` of `capture_camera_fail_credit_locked`. -/
def failCreditCall (r : Redirect) (i : SlotIndex) (generation : Nat) : Option RdpCall :=
  if r.owesAnswer i generation then
    (r.slots i).session.map fun session => .submitCameraError session generation
  else none

/-- The call that a small step makes in this state. -/
def call (r : Redirect) : Micro → Option RdpCall
  | .failCredit i generation => r.failCreditCall i (generation.getD (r.slots i).cameraGeneration)
  | .closeGate i => (r.slots i).session.map fun session => .setCaptureActive session false
  | .openGate i => (r.slots i).session.map fun session => .setCaptureActive session true
  | .gateFollows i =>
    (r.slots i).session.map fun session => .setCaptureActive session (r.isForeground i)
  | .forgetAvailability i =>
    if (r.slots i).cameraAvailableRequested then
      (r.slots i).session.map fun session => .setCameraAvailable session false
    else none
  | .withdraw i =>
    if !(r.slots i).cameraAvailableRequested || r.cameraAvailable i then none
    else (r.slots i).session.map fun session => .setCameraAvailable session false
  | .advertise i =>
    if (r.slots i).cameraAvailableRequested || !r.cameraAvailable i then none
    else (r.slots i).session.map fun session => .setCameraAvailable session true
  | .submitH264 i generation stateGeneration ownerEpoch packet =>
    if r.submitsQueued i generation stateGeneration ownerEpoch then
      match (r.slots i).session, packet with
      | some session, some data => some (.submitCameraH264 session generation data)
      | _, _ => none
    else none
  | .failRejected i generation =>
    if r.submissionFailed then r.failCreditCall i generation else none
  | .submitPcm i collected data =>
    if r.submitsPcm i collected.target then
      some (.submitAudioInputPcm collected.target.session collected.target.generation data)
    else none
  | _ => none

/-- The credit goes once the error has entered the mailbox. -/
def failCredit (r : Redirect) (i : SlotIndex) (generation : Nat) (accepted : Bool) : Redirect :=
  if (r.failCreditCall i generation).isSome && accepted then
    r.modifySlot i fun s => { s with cameraCredit := 0 }
  else r

/-- What a small step leaves, given the answer to its call. For `setPhysical` the
answer is the `stop` flag it loads. -/
def exec (r : Redirect) (m : Micro) (answer : Bool) : Redirect :=
  match m with
  | .failCredit i generation =>
    r.failCredit i (generation.getD (r.slots i).cameraGeneration) answer
  | .closeGate _ => r
  | .openGate _ => r
  | .gateFollows _ => r
  | .publishForeground slot =>
    { r with foregroundSlot := slot, cameraOwnerEpoch := r.cameraOwnerEpoch + 1 }
  | .publishSlot i session cameraAllowed audioAllowed =>
    let sessionChanged := (r.slots i).session ≠ session
    let dropsCamera := sessionChanged ∨ cameraAllowed = false
    -- The worker may negotiate OPEN before the handle is known, so a first handle keeps it.
    let dropsAudio := audioAllowed = false ∨
      (sessionChanged ∧ ((r.slots i).session.isSome ∨ session = none))
    { r.modifySlot i fun s =>
        { s with
          cameraStreaming := if dropsCamera then false else s.cameraStreaming
          cameraCredit := if dropsCamera then 0 else s.cameraCredit
          audioStreaming := if dropsAudio then false else s.audioStreaming
          audioFramesPerPacket := if dropsAudio then 0 else s.audioFramesPerPacket
          session, cameraAllowed, audioAllowed } with
      slotGeneration := fun j =>
        if j = i ∧ sessionChanged then r.slotGeneration j + 1 else r.slotGeneration j
      slotChanges := fun j =>
        if j = i ∧ sessionChanged then r.slotChanges j + 1 else r.slotChanges j }
  | .forgetAvailability i =>
    r.modifySlot i fun s => { s with cameraAvailableRequested := false }
  | .withdraw i =>
    if !(r.slots i).cameraAvailableRequested || r.cameraAvailable i then r
    else r.modifySlot i fun s => { s with cameraAvailableRequested := false }
  | .advertise i =>
    if (r.slots i).cameraAvailableRequested || !r.cameraAvailable i then r
    else r.modifySlot i fun s => { s with cameraAvailableRequested := true }
  | .setPhysical available => { r with cameraPhysicalAvailable := available && !answer }
  | .startCamera i generation width height fps =>
    r.modifySlot i fun s =>
      { s with
        cameraStreaming := true, cameraGeneration := generation, cameraWidth := width
        cameraHeight := height, cameraFps := fps, cameraCredit := 0 }
  | .stopCamera i generation =>
    if (r.slots i).cameraGeneration = generation then
      r.modifySlot i fun s => { s with cameraStreaming := false, cameraCredit := 0 }
    else r
  | .requestSample i generation =>
    if (r.slots i).cameraStreaming ∧ (r.slots i).cameraGeneration = generation ∧
        (r.slots i).cameraCredit < 1 then
      r.modifySlot i fun s => { s with cameraCredit := s.cameraCredit + 1 }
    else r
  | .startAudio i generation framesPerPacket opened =>
    r.modifySlot i fun s =>
      { s with
        audioStreaming := true, audioGeneration := generation
        audioFramesPerPacket := framesPerPacket, audioOpened := opened }
  | .stopAudio i generation =>
    if (r.slots i).audioGeneration = generation then
      r.modifySlot i fun s => { s with audioStreaming := false, audioFramesPerPacket := 0 }
    else r
  | .submitH264 i generation stateGeneration ownerEpoch packet =>
    if (r.call (.submitH264 i generation stateGeneration ownerEpoch packet)).isSome then
      if answer then
        { r.modifySlot i fun s => { s with cameraCredit := s.cameraCredit - 1 } with
          submissionFailed := false }
      else { r with submissionFailed := true }
    else { r with submissionFailed := false }
  | .failRejected i generation =>
    if r.submissionFailed then r.failCredit i generation answer else r
  | .submitPcm _ _ _ => r
  | .applyConfig config =>
    { r with
      cameraEnabled := config.cameraEnabled
      cameraWidth := config.cameraWidth
      cameraHeight := config.cameraHeight
      cameraFps := config.cameraFps
      audioEnabled := config.audioInputEnabled
      slotGeneration := fun i => r.slotGeneration i + 1
      slotChanges := fun i => r.slotChanges i + 1 }
  | .dropSession i => r.modifySlot i fun s => { s with session := none }

/-- `for (int i = 0; i < NATIVE_CAPTURE_REDIRECT_MAX_SLOTS; i++)`. -/
def slotRange : List SlotIndex := List.finRange 4

/-- `capture_update_camera_availability_locked`: every removal before any addition. -/
def updateCameraAvailability : List Micro := slotRange.map .withdraw ++ slotRange.map .advertise

/-- What `native_capture_redirect_set_foreground_slot` does to a slot that is not the new one. -/
def closeOld (i : SlotIndex) : List Micro := [.failCredit i none, .closeGate i]

/-- `native_capture_redirect_set_foreground_slot`. -/
def setForegroundSlot (r : Redirect) (slot : Option SlotIndex) : List Micro :=
  if r.foregroundSlot = slot then []
  else
    (slotRange.filter fun i => slot ≠ some i).flatMap closeOld ++
      .publishForeground slot :: (slot.toList.map .openGate ++ updateCameraAvailability)

/-- What `native_capture_redirect_set_slot` does to the session it replaces. -/
def releaseSession (r : Redirect) (i : SlotIndex) (session : Option Session) : List Micro :=
  if (r.slots i).session.isSome ∧ (r.slots i).session ≠ session then
    [.failCredit i none, .closeGate i, .forgetAvailability i]
  else []

/-- `native_capture_redirect_set_slot`. -/
def setSlot (r : Redirect) (i : SlotIndex) (session : Option Session)
    (cameraAllowed audioAllowed : Bool) : List Micro :=
  r.releaseSession i session ++
    ((if (r.slots i).session ≠ session ∨ cameraAllowed = false then [.failCredit i none] else []) ++
      .publishSlot i session cameraAllowed audioAllowed :: .gateFollows i ::
        updateCameraAvailability)

/-- `native_capture_redirect_camera_start`. -/
def cameraStart (i : SlotIndex) (generation : Nat) (width height fps : UInt16) : List Micro :=
  [.failCredit i none, .startCamera i generation width height fps]

/-- `camera_set_physical_available_locked`. -/
def setPhysicalAvailable (available : Bool) : List Micro :=
  .setPhysical available :: updateCameraAvailability

/-- The locked head of a round of `capture_camera_worker_main`. -/
def cameraRound (left : Option (SlotIndex × Nat)) (available : Bool) : List Micro :=
  (left.toList.map fun target => .failCredit target.1 (some target.2)) ++
    setPhysicalAvailable available

/-- `camera_submit_queued`. -/
def cameraSubmitQueued (i : SlotIndex) (generation : Nat) (stateGeneration : UInt32)
    (ownerEpoch : UInt64) (packet : Option Bytes) : List Micro :=
  [.submitH264 i generation stateGeneration ownerEpoch packet, .failRejected i generation]

/-- One round of the loop of `native_capture_redirect_destroy`. -/
def destroySlot (r : Redirect) (i : SlotIndex) : List Micro :=
  (if (r.slots i).session.isSome then
    [.failCredit i none, .closeGate i, .forgetAvailability i]
  else []) ++ [.dropSession i]

/-- The locked part of `native_capture_redirect_destroy`. -/
def destroy (r : Redirect) : List Micro := slotRange.flatMap r.destroySlot

end Redirect

end Lgnome.Capture
