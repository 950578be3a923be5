import Lgnome.Rdpecam.Wire
import Lgnome.Transition.Machine

/-!
# The shared camera state

One mutex guards `CameraState`; each `…_locked` function below runs with it
held and each bridge method takes it once. The callback sink is a constant of
the bridge and does not appear; the callbacks a method makes after unlocking are
part of its result. Log lines are left out.
-/
namespace Lgnome.Rdpecam

structure DeviceInstance where
  token : Nat
  channelId : Nat
  deriving DecidableEq, Repr

inductive CameraLifecycle where
  | deactivated
  | activated
  | streaming
  deriving DecidableEq, Repr

namespace CameraLifecycle

def isActive (l : CameraLifecycle) : Bool := l != deactivated

def isStreaming (l : CameraLifecycle) : Bool := l == streaming

@[simp] theorem isActive_iff (l : CameraLifecycle) : l.isActive = true ↔ l ≠ deactivated := by
  cases l <;> simp [isActive]

@[simp] theorem isStreaming_iff (l : CameraLifecycle) : l.isStreaming = true ↔ l = streaming := by
  cases l <;> simp [isStreaming]

end CameraLifecycle

structure CameraState where
  width : UInt16 := 0
  height : UInt16 := 0
  fps : UInt16 := 0
  available : Bool := false
  advertised : Bool := false
  enumChannelId : Option Nat := none
  enumNegotiated : Bool := false
  version : UInt8 := protocolVersion
  nextDeviceToken : Nat := 0
  retiredThroughToken : Nat := 0
  deviceInstance : Option DeviceInstance := none
  activationRefs : Nat := 0
  lifecycle : CameraLifecycle := .deactivated
  generation : Nat := 0
  pendingRequests : Nat := 0
  creditNotified : Bool := false
  pendingCreditNotification : Option Nat := none
  sampleRequestsReceived : Nat := 0
  sampleResponsesSent : Nat := 0
  sampleErrorsSent : Nat := 0
  deriving DecidableEq, Repr

/-- `CameraBridge::new`. -/
def CameraState.new (width height fps : UInt16) : CameraState :=
  { width, height, fps }

/-- What the application is told through the callback sink. -/
inductive CameraCallback where
  | start (generation : Nat) (width height fps : UInt16)
  | stop (generation : Nat)
  | sampleRequest (generation : Nat)
  deriving DecidableEq, Repr

def saturatingAdd64 (a b : Nat) : Nat := min (a + b) (2 ^ 64 - 1)

/-- `generation.wrapping_add(1).max(1)`. -/
def nextGeneration (generation : Nat) : Nat := max ((generation + 1) % 2 ^ 64) 1

/-- A message batch and the channel it goes out on. -/
abbrev ChannelMessages := Nat × List Bytes

def armNextCredit (s : CameraState) : CameraState × Option Nat :=
  if s.lifecycle.isStreaming ∧ 0 < s.pendingRequests ∧ s.creditNotified = false then
    ({ s with creditNotified := true }, some s.generation)
  else (s, none)

structure StopTransition where
  pendingRequests : Nat
  callback : Option CameraCallback
  deriving DecidableEq, Repr

/-- Stops capture. The caller decides whether the accepted sample credits become
errors or are cancelled. -/
def stopCapture (s : CameraState) : CameraState × StopTransition :=
  let stopped := { s with
    pendingCreditNotification := none, pendingRequests := 0, creditNotified := false }
  if s.lifecycle.isStreaming then
    ({ stopped with lifecycle := .activated, generation := nextGeneration s.generation },
      ⟨s.pendingRequests, some (.stop s.generation)⟩)
  else (stopped, ⟨s.pendingRequests, none⟩)

def retireDevice (s : CameraState) : CameraState × Option CameraCallback :=
  let r := stopCapture s
  ({ r.1 with
      lifecycle := .deactivated
      activationRefs := 0
      deviceInstance := none
      retiredThroughToken := s.nextDeviceToken },
    r.2.callback)

def replaceDevice (s : CameraState) (inst : DeviceInstance) :
    CameraState × Option CameraCallback :=
  let r := stopCapture s
  ({ r.1 with
      lifecycle := .deactivated
      activationRefs := 0
      deviceInstance := some inst
      retiredThroughToken := match s.deviceInstance with
        | some previous => max s.retiredThroughToken previous.token
        | none => s.retiredThroughToken },
    r.2.callback)

/-- A processor created before this DeviceAdded belongs to an older
advertisement, even if the server reuses its numeric channel id. -/
def advertiseDevice (s : CameraState) : CameraState × Option ChannelMessages :=
  if s.available = false ∨ s.advertised = true ∨ s.enumNegotiated = false then (s, none)
  else
    match s.enumChannelId with
    | none => (s, none)
    | some channelId =>
      ({ s with retiredThroughToken := s.nextDeviceToken, advertised := true },
        some (channelId, [deviceAdded s.version]))

/-- The outcome of one call: the callbacks made and the messages returned. -/
structure CameraOutput where
  callbacks : List CameraCallback := []
  messages : List Bytes := []
  deriving DecidableEq, Repr

/-- Also the enumerator channel that a notification is addressed to. -/
def setAvailable (s : CameraState) (available : Bool) :
    CameraState × Option Nat × CameraOutput :=
  if s.available = available then (s, none, {})
  else if available then
    let r := advertiseDevice { s with available := true }
    (r.1, r.2.map Prod.fst, { messages := (r.2.map Prod.snd).getD [] })
  else
    let r := retireDevice { s with available := false, advertised := false }
    let notification := if s.advertised then s.enumChannelId else none
    (r.1, notification,
      { callbacks := r.2.toList,
        messages := if notification.isSome then [deviceRemoved s.version] else [] })

/-- `checked_add`: the last token is never handed out twice. -/
def allocateDeviceToken (s : CameraState) : CameraState × Option Nat :=
  if s.nextDeviceToken + 1 < 2 ^ 64 then
    ({ s with nextDeviceToken := s.nextDeviceToken + 1 }, some (s.nextDeviceToken + 1))
  else (s, none)

/-- The guard both submissions share: the generation streams, a request waits
and its credit has been handed out. -/
def acceptsAnswer (s : CameraState) (generation : Nat) : Bool :=
  s.lifecycle.isStreaming && s.generation == generation && s.pendingRequests != 0 &&
    s.creditNotified

/-- One answered request leaves the queue, and the next credit is armed but not
yet delivered. -/
def consumeRequest (s : CameraState) : CameraState :=
  let r := armNextCredit
    { s with pendingRequests := s.pendingRequests - 1, creditNotified := false }
  { r.1 with pendingCreditNotification := r.2 }

def submitError (s : CameraState) (generation : Nat) :
    CameraState × Option Nat × CameraOutput :=
  if acceptsAnswer s generation then
    match s.deviceInstance with
    | none => (s, none, {})
    | some inst =>
      (consumeRequest { s with sampleErrorsSent := saturatingAdd64 s.sampleErrorsSent 1 },
        some inst.channelId, { messages := [sampleError s.version errorUnexpected] })
  else (s, none, {})

def submitH264 (s : CameraState) (generation : Nat) (data : Bytes) :
    CameraState × Option Nat × CameraOutput :=
  if data = [] then submitError s generation
  else if acceptsAnswer s generation then
    match s.deviceInstance with
    | none => (s, none, {})
    | some inst =>
      (consumeRequest { s with sampleResponsesSent := saturatingAdd64 s.sampleResponsesSent 1 },
        some inst.channelId, { messages := [[s.version, msgSampleResponse, 0] ++ data] })
  else (s, none, {})

/-- Hands out the armed credit, after the preceding response has left. -/
def notifyNextCredit (s : CameraState) : CameraState × CameraOutput :=
  match s.pendingCreditNotification with
  | none => (s, {})
  | some generation =>
    ({ s with pendingCreditNotification := none }, { callbacks := [.sampleRequest generation] })

end Lgnome.Rdpecam
