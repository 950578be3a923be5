import Lgnome.Rdpecam.Bridge

/-!
# Device channels and the enumerator channel

A `CameraDevice` is the processor of one device channel: the token it was
created with and the channel it was last started on. Several of them can be
around at once, because the server may open a second channel before it closes
the first. The enumerator negotiates the version and announces the device.
-/
namespace Lgnome.Rdpecam

structure CameraDevice where
  token : Nat
  channelId : Option Nat := none
  deriving DecidableEq, Repr

structure CameraEnumerator where
  channelId : Option Nat := none
  deriving DecidableEq, Repr

structure RequestOutcome where
  messages : List Bytes := []
  callbacks : List CameraCallback := []
  deriving DecidableEq, Repr

namespace CameraDevice

def error (version : UInt8) (code : UInt32) : RequestOutcome :=
  { messages := [errorResponse version code] }

/-- ActivateDeviceRequest: one more reference, and none past `u32::MAX`. -/
def activate (s : CameraState) (version : UInt8) : CameraState × RequestOutcome :=
  if s.available = false ∨ s.advertised = false then (s, error version errorNotInitialized)
  else if s.activationRefs + 1 < 2 ^ 32 then
    ({ s with
        activationRefs := s.activationRefs + 1
        lifecycle := if s.lifecycle = .deactivated then .activated else s.lifecycle },
      { messages := [[version, msgSuccess]] })
  else (s, error version errorInvalidRequest)

/-- DeactivateDeviceRequest: only the last reference stops capture. -/
def deactivate (s : CameraState) (version : UInt8) : CameraState × RequestOutcome :=
  if s.activationRefs = 0 then (s, error version errorNotInitialized)
  else
    let released := { s with activationRefs := s.activationRefs - 1 }
    if released.activationRefs = 0 then
      let r := stopCapture released
      ({ r.1 with
          lifecycle := .deactivated
          sampleErrorsSent := saturatingAdd64 s.sampleErrorsSent r.2.pendingRequests },
        { messages := List.replicate r.2.pendingRequests (sampleError version errorUnexpected) ++
            [[version, msgSuccess]],
          callbacks := r.2.callback.toList })
    else (released, { messages := [[version, msgSuccess]] })

/-- StreamListRequest: one colour capture stream, selected and shareable. -/
def streamList (s : CameraState) (version : UInt8) : RequestOutcome :=
  if s.lifecycle.isActive then
    { messages := [[version, msgStreamListResponse, 1, 0, 1, 1, 1]] }
  else error version errorNotInitialized

/-- MediaTypeListRequest and CurrentMediaTypeRequest differ in the reply's identifier. -/
def mediaTypeReply (s : CameraState) (version reply : UInt8) (stream : Option UInt8) :
    RequestOutcome :=
  if s.lifecycle.isActive then
    if stream = some 0 then
      { messages := [[version, reply] ++ mediaType s.width s.height s.fps] }
    else error version errorInvalidStream
  else error version errorNotInitialized

/-- StartStreamsRequest: a new generation starts with no pending request. -/
def startStreams (s : CameraState) (version : UInt8) (payload : Bytes) :
    CameraState × RequestOutcome :=
  if s.lifecycle.isActive = false then (s, error version errorNotInitialized)
  else if payload.length ≠ 29 ∨ payload[2]? ≠ some 0 then
    (s, error version errorInvalidMediaType)
  else if payload.drop 3 ≠ mediaType s.width s.height s.fps then
    (s, error version errorInvalidMediaType)
  else if s.lifecycle.isStreaming then (s, error version errorInvalidRequest)
  else
    ({ s with
        lifecycle := .streaming
        generation := nextGeneration s.generation
        pendingRequests := 0
        creditNotified := false
        pendingCreditNotification := none },
      { messages := [[version, msgSuccess]],
        callbacks := [.start (nextGeneration s.generation) s.width s.height s.fps] })

/-- StopStreamsRequest: every accepted sample request is answered with an error. -/
def stopStreams (s : CameraState) (version : UInt8) : CameraState × RequestOutcome :=
  if s.lifecycle.isActive = false then (s, error version errorNotInitialized)
  else
    let r := stopCapture s
    ({ r.1 with sampleErrorsSent := saturatingAdd64 s.sampleErrorsSent r.2.pendingRequests },
      { messages := List.replicate r.2.pendingRequests (sampleError version errorUnexpected) ++
          [[version, msgSuccess]],
        callbacks := r.2.callback.toList })

/-- A sample request that is answered at once, with an error. -/
def refuseSample (s : CameraState) (version : UInt8) (code : UInt32) :
    CameraState × RequestOutcome :=
  ({ s with sampleErrorsSent := saturatingAdd64 s.sampleErrorsSent 1 },
    { messages := [sampleError version code] })

/-- SampleRequest: queued up to the limit, with the credit of the first one
handed out at once. -/
def sampleRequest (s : CameraState) (version : UInt8) (stream : Option UInt8) :
    CameraState × RequestOutcome :=
  let received :=
    { s with sampleRequestsReceived := saturatingAdd64 s.sampleRequestsReceived 1 }
  if s.lifecycle.isStreaming = false then refuseSample received version errorNotInitialized
  else if stream ≠ some 0 then refuseSample received version errorInvalidStream
  else if s.pendingRequests ≥ maxPendingSampleRequests then
    refuseSample received version errorInvalidRequest
  else
    let r := armNextCredit { received with pendingRequests := s.pendingRequests + 1 }
    (r.1, { callbacks := (r.2.map CameraCallback.sampleRequest).toList })

/-- PropertyListRequest: camera controls are not virtualised. -/
def propertyList (s : CameraState) (version : UInt8) : RequestOutcome :=
  if s.lifecycle.isActive then { messages := [[version, msgPropertyListResponse]] }
  else error version errorNotInitialized

/-- The `match message_id` of `process_request`. -/
def dispatch (s : CameraState) (version messageId : UInt8) (payload : Bytes) :
    CameraState × RequestOutcome :=
  if messageId = msgActivateDevice ∧ payload.length = 2 then activate s version
  else if messageId = msgDeactivateDevice ∧ payload.length = 2 then deactivate s version
  else if messageId = msgStreamListRequest ∧ payload.length = 2 then (s, streamList s version)
  else if messageId = msgMediaTypeListRequest ∧ payload.length = 3 then
    (s, mediaTypeReply s version msgMediaTypeListResponse payload[2]?)
  else if messageId = msgCurrentMediaTypeRequest ∧ payload.length = 3 then
    (s, mediaTypeReply s version msgCurrentMediaTypeResponse payload[2]?)
  else if messageId = msgStartStreams then startStreams s version payload
  else if messageId = msgStopStreams ∧ payload.length = 2 then stopStreams s version
  else if messageId = msgSampleRequest ∧ payload.length = 3 then
    sampleRequest s version payload[2]?
  else if messageId = msgPropertyListRequest ∧ payload.length = 2 then (s, propertyList s version)
  else (s, error version errorInvalidMessage)

/-- The processor is attached to the current device instance on this channel. -/
def isCurrent (d : CameraDevice) (s : CameraState) (channelId : Nat) : Bool :=
  d.channelId == some channelId && s.deviceInstance == some ⟨d.token, channelId⟩

def processRequest (d : CameraDevice) (s : CameraState) (channelId : Nat) (payload : Bytes) :
    CameraState × RequestOutcome :=
  if d.isCurrent s channelId then
    match payload with
    | version :: messageId :: _ =>
      if version ≠ s.version then (s, error s.version errorInvalidMessage)
      else dispatch s version messageId payload
    | _ => (s, error s.version errorInvalidMessage)
  else (s, {})

/-- A well-formed SampleRequest reaches the processor that is attached. -/
def receivesSample (d : CameraDevice) (s : CameraState) (channelId : Nat) (payload : Bytes) :
    Bool :=
  d.isCurrent s channelId &&
    match payload with
    | [version, messageId, _] => version == s.version && messageId == msgSampleRequest
    | _ => false

/-- `start` of a device channel. A retired or outdated processor only records
the channel; the current one may move to another channel. -/
def start (d : CameraDevice) (s : CameraState) (channelId : Nat) :
    CameraDevice × CameraState × CameraOutput :=
  let d' := { d with channelId := some channelId }
  let inst : DeviceInstance := ⟨d.token, channelId⟩
  let currentIsNewer := s.deviceInstance.any fun current => decide (current.token > d.token)
  if s.available = false ∨ s.advertised = false ∨ d.token ≤ s.retiredThroughToken ∨
      currentIsNewer then (d', s, {})
  else if s.deviceInstance = some inst then (d', s, {})
  else if s.deviceInstance.any fun current => current.token == d.token then
    (d', { s with deviceInstance := some inst }, {})
  else
    let r := replaceDevice s inst
    (d', r.1, { callbacks := r.2.toList })

def close (d : CameraDevice) (s : CameraState) (channelId : Nat) :
    CameraDevice × CameraState × CameraOutput :=
  if d.channelId ≠ some channelId then (d, s, {})
  else
    let d' := { d with channelId := none }
    if s.deviceInstance ≠ some ⟨d.token, channelId⟩ then (d', s, {})
    else
      let r := stopCapture s
      (d',
        { r.1 with
          lifecycle := .deactivated
          activationRefs := 0
          deviceInstance := none
          retiredThroughToken := max s.retiredThroughToken d.token },
        { callbacks := r.2.callback.toList })

/-- What a request can do to the shared state: nothing, or one of five
transitions of the current device. -/
inductive RequestStep (d : CameraDevice) (s : CameraState) (ch : Nat) (payload : Bytes) :
    CameraState × RequestOutcome → Prop
  | quiet {r : RequestOutcome} (hcalls : r.callbacks = [])
      (hanswers : answeredSamples r.messages = 0) (hreq : d.receivesSample s ch payload = false) :
      RequestStep d s ch payload (s, r)
  | activate (hcur : d.isCurrent s ch) (hreq : d.receivesSample s ch payload = false) :
      RequestStep d s ch payload (activate s s.version)
  | deactivate (hcur : d.isCurrent s ch) (hreq : d.receivesSample s ch payload = false)
      (hpayload : payload = [s.version, msgDeactivateDevice]) :
      RequestStep d s ch payload (deactivate s s.version)
  | startStreams (hcur : d.isCurrent s ch) (hreq : d.receivesSample s ch payload = false) :
      RequestStep d s ch payload (startStreams s s.version payload)
  | stopStreams (hcur : d.isCurrent s ch) (hreq : d.receivesSample s ch payload = false)
      (hpayload : payload = [s.version, msgStopStreams]) :
      RequestStep d s ch payload (stopStreams s s.version)
  | sampleRequest (hcur : d.isCurrent s ch) (hreq : d.receivesSample s ch payload = true) :
      RequestStep d s ch payload (sampleRequest s s.version payload[2]?)

theorem streamList_quiet (s : CameraState) (version : UInt8) :
    (streamList s version).callbacks = [] ∧ answeredSamples (streamList s version).messages = 0 := by
  unfold streamList
  split <;> exact ⟨rfl, rfl⟩

theorem mediaTypeReply_quiet (s : CameraState) (version reply : UInt8) (stream : Option UInt8)
    (hr : answersSample [version, reply] = false) :
    (mediaTypeReply s version reply stream).callbacks = [] ∧
      answeredSamples (mediaTypeReply s version reply stream).messages = 0 := by
  unfold mediaTypeReply
  repeat' split
  all_goals refine ⟨rfl, ?_⟩
  · simpa [answersSample] using hr
  · rfl
  · rfl

theorem propertyList_quiet (s : CameraState) (version : UInt8) :
    (propertyList s version).callbacks = [] ∧
      answeredSamples (propertyList s version).messages = 0 := by
  unfold propertyList
  split <;> exact ⟨rfl, rfl⟩

/-- The identifier and the length select the branch, so only a three-byte
SampleRequest counts as one. -/
theorem receivesSample_of_current {d : CameraDevice} {s : CameraState} {ch : Nat}
    {messageId : UInt8} {rest : Bytes} (hcur : d.isCurrent s ch) :
    d.receivesSample s ch (s.version :: messageId :: rest) =
      decide (messageId = msgSampleRequest ∧ rest.length = 1) := by
  match rest with
  | [] => simp [receivesSample]
  | [x] => simp [receivesSample, hcur, Bool.beq_eq_decide_eq]
  | x :: y :: rest => simp [receivesSample]

/-- The branch of each message the device knows. -/
theorem dispatch_cases {d : CameraDevice} {s : CameraState} {ch : Nat} {messageId : UInt8}
    {rest : Bytes} (hcur : d.isCurrent s ch) :
    RequestStep d s ch (s.version :: messageId :: rest)
      (dispatch s s.version messageId (s.version :: messageId :: rest)) := by
  have hreq := @receivesSample_of_current d s ch messageId rest hcur
  have hother : messageId ≠ msgSampleRequest →
      d.receivesSample s ch (s.version :: messageId :: rest) = false := by
    intro hne
    rw [hreq]
    simp [hne]
  unfold dispatch
  refine iteInduction (fun hm => ?_) fun _ => ?_
  · exact .activate hcur (hother (by rw [hm.1]; decide))
  refine iteInduction (fun hm => ?_) fun _ => ?_
  · obtain ⟨rfl, hl⟩ := hm
    exact .deactivate hcur (hother (by decide)) (by simpa using hl)
  refine iteInduction (fun hm => ?_) fun _ => ?_
  · have hq := streamList_quiet s s.version
    exact .quiet hq.1 hq.2 (hother (by rw [hm.1]; decide))
  refine iteInduction (fun hm => ?_) fun _ => ?_
  · have hq := mediaTypeReply_quiet s s.version msgMediaTypeListResponse
      (s.version :: messageId :: rest)[2]? rfl
    exact .quiet hq.1 hq.2 (hother (by rw [hm.1]; decide))
  refine iteInduction (fun hm => ?_) fun _ => ?_
  · have hq := mediaTypeReply_quiet s s.version msgCurrentMediaTypeResponse
      (s.version :: messageId :: rest)[2]? rfl
    exact .quiet hq.1 hq.2 (hother (by rw [hm.1]; decide))
  refine iteInduction (fun hm => ?_) fun _ => ?_
  · exact .startStreams hcur (hother (by rw [hm]; decide))
  refine iteInduction (fun hm => ?_) fun _ => ?_
  · obtain ⟨rfl, hl⟩ := hm
    exact .stopStreams hcur (hother (by decide)) (by simpa using hl)
  refine iteInduction (fun hm => ?_) fun hsample => ?_
  · exact .sampleRequest hcur (by rw [hreq]; simpa using hm)
  refine iteInduction (fun hm => ?_) fun _ => ?_
  · have hq := propertyList_quiet s s.version
    exact .quiet hq.1 hq.2 (hother (by rw [hm.1]; decide))
  · exact .quiet rfl rfl (by rw [hreq]; simpa using hsample)

theorem processRequest_cases (d : CameraDevice) (s : CameraState) (ch : Nat) (payload : Bytes) :
    RequestStep d s ch payload (d.processRequest s ch payload) := by
  unfold processRequest
  by_cases hcur : d.isCurrent s ch = true
  swap
  · rw [if_neg hcur]
    exact .quiet rfl rfl (by simp [receivesSample, hcur])
  rw [if_pos hcur]
  match payload with
  | [] => exact .quiet rfl rfl (by simp [receivesSample])
  | [x] => exact .quiet rfl rfl (by simp [receivesSample])
  | version :: messageId :: rest =>
    by_cases hv : version = s.version
    swap
    · simp only [if_pos hv]
      refine .quiet rfl rfl ?_
      match rest with
      | [] => simp [receivesSample]
      | [x] => simp [receivesSample, hv]
      | x :: y :: rest => simp [receivesSample]
    subst hv
    simp only [ne_eq, not_true_eq_false, if_false]
    exact dispatch_cases hcur

end CameraDevice

namespace CameraEnumerator

def start (_e : CameraEnumerator) (s : CameraState) (channelId : Nat) :
    CameraEnumerator × CameraState × CameraOutput :=
  let r := retireDevice { s with
    enumChannelId := some channelId, enumNegotiated := false, advertised := false }
  (⟨some channelId⟩, r.1,
    { callbacks := r.2.toList, messages := [[protocolVersion, msgSelectVersionRequest]] })

/-- Only a two-byte SelectVersionResponse of a known version is accepted. -/
def process (e : CameraEnumerator) (s : CameraState) (channelId : Nat) (payload : Bytes) :
    CameraState × CameraOutput :=
  if e.channelId ≠ some channelId then (s, {})
  else
    match payload with
    | [version, messageId] =>
      if messageId ≠ msgSelectVersionResponse ∨ version < 1 ∨ protocolVersion < version then
        (s, {})
      else if s.enumChannelId ≠ some channelId then (s, {})
      else
        let r := advertiseDevice { s with version, enumNegotiated := true }
        (r.1, { messages := (r.2.map Prod.snd).getD [] })
    | _ => (s, {})

def close (e : CameraEnumerator) (s : CameraState) (channelId : Nat) :
    CameraEnumerator × CameraState × CameraOutput :=
  if e.channelId ≠ some channelId then (e, s, {})
  else if s.enumChannelId ≠ some channelId then (⟨none⟩, s, {})
  else
    let r := retireDevice { s with
      enumChannelId := none, enumNegotiated := false, advertised := false }
    (⟨none⟩, r.1, { callbacks := r.2.toList })

end CameraEnumerator

end Lgnome.Rdpecam
