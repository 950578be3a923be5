import Lgnome.Rdpecam.Lifecycle

/-!
# No sample request is lost

A ledger beside the bridge counts the sample requests received by the attached
processor, the sample answers produced anywhere, and the requests cancelled
because their device went away. The books balance after every call.
-/
namespace Lgnome.Rdpecam

open Lgnome.Transition

structure SampleLedger where
  received : Nat := 0
  answered : Nat := 0
  cancelled : Nat := 0
  deriving DecidableEq, Repr

/-- One if the call brings a well-formed SampleRequest to the attached processor. -/
def receivedBy (s : CameraSystem) : CameraAction → Nat
  | .deviceProcess i ch payload =>
    if s.devices[i]?.any fun d => d.receivesSample s.bridge ch payload then 1 else 0
  | _ => 0

/-- The device instance was retired, closed or replaced by another one. -/
def deviceGone (s t : CameraState) : Bool :=
  s.deviceInstance.any fun d => t.deviceInstance.all fun d' => d'.token != d.token

def cancelledBetween (s t : CameraState) : Nat :=
  if deviceGone s t then s.pendingRequests else 0

def SampleLedger.record (l : SampleLedger) (s : CameraSystem) (a : CameraAction)
    (t : CameraSystem) (o : CameraOutput) : SampleLedger where
  received := l.received + receivedBy s a
  answered := l.answered + answeredSamples o.messages
  cancelled := l.cancelled + cancelledBetween s.bridge t.bridge

/-- The camera machine with its ledger of samples. -/
def accountedCamera (width height fps : UInt16) :
    Machine (CameraSystem × SampleLedger) CameraAction CameraOutput :=
  (cameraMachine width height fps).withGhost {} SampleLedger.record

/-- The books of one call: what was pending or came in is answered, still
pending, or cancelled with its device. -/
def Balanced (s t : CameraState) (received answered : Nat) : Prop :=
  s.pendingRequests + received = answered + t.pendingRequests + cancelledBetween s t

section Operations

variable {s t : CameraState}

theorem cancelledBetween_same (h : t.deviceInstance = s.deviceInstance) :
    cancelledBetween s t = 0 := by
  unfold cancelledBetween deviceGone
  rw [h]
  cases s.deviceInstance <;> simp

theorem Balanced.same {received answered : Nat} (hd : t.deviceInstance = s.deviceInstance)
    (hp : s.pendingRequests + received = answered + t.pendingRequests) :
    Balanced s t received answered := by
  unfold Balanced
  rw [cancelledBetween_same hd]
  omega

theorem Balanced.refl (s : CameraState) : Balanced s s 0 0 := .same rfl (by omega)

/-- A call that empties the queue and takes the device away cancels what was pending. -/
theorem Balanced.gone (h : s.WellFormed) (hp : t.pendingRequests = 0)
    (hd : ∀ d, s.deviceInstance = some d → deviceGone s t = true) : Balanced s t 0 0 := by
  unfold Balanced cancelledBetween
  cases hi : s.deviceInstance with
  | none =>
    have hz := (h.idle (by rw [h.absent hi]; decide)).1
    have hg : deviceGone s t = false := by simp [deviceGone, hi]
    rw [hg, hp, hz]
    rfl
  | some d =>
    rw [hd d hi, hp]
    simp

theorem stopCapture_pending (s : CameraState) :
    (stopCapture s).1.pendingRequests = 0 ∧
      (stopCapture s).2.pendingRequests = s.pendingRequests ∧
      (stopCapture s).1.deviceInstance = s.deviceInstance := by
  unfold stopCapture
  split <;> exact ⟨rfl, rfl, rfl⟩

theorem armNextCredit_pending (s : CameraState) :
    (armNextCredit s).1.pendingRequests = s.pendingRequests ∧
      (armNextCredit s).1.deviceInstance = s.deviceInstance := by
  unfold armNextCredit
  split <;> exact ⟨rfl, rfl⟩

theorem consumeRequest_pending (s : CameraState) :
    (consumeRequest s).pendingRequests = s.pendingRequests - 1 ∧
      (consumeRequest s).deviceInstance = s.deviceInstance :=
  armNextCredit_pending _

theorem retireDevice_balanced (h : s.WellFormed) {u : CameraState} :
    Balanced s (retireDevice u).1 0 0 := by
  refine .gone h ?_ ?_
  · exact (stopCapture_pending u).1
  · intro d hd
    simp [deviceGone, hd, retireDevice]

theorem advertiseDevice_pending (s : CameraState) :
    (advertiseDevice s).1.pendingRequests = s.pendingRequests ∧
      (advertiseDevice s).1.deviceInstance = s.deviceInstance ∧
      answeredSamples (((advertiseDevice s).2.map Prod.snd).getD []) = 0 := by
  unfold advertiseDevice
  split
  · exact ⟨rfl, rfl, rfl⟩
  · split <;> exact ⟨rfl, rfl, rfl⟩

theorem setAvailable_balanced (h : s.WellFormed) (b : Bool) :
    Balanced s (setAvailable s b).1 0 (answeredSamples (setAvailable s b).2.2.messages) := by
  unfold setAvailable
  split
  · exact .refl s
  split
  · obtain ⟨hp, hd, ha⟩ := advertiseDevice_pending { s with available := true }
    exact .same hd (by simp only [ha, hp]; omega)
  · have ha : ∀ c : Bool, answeredSamples (if c then [deviceRemoved s.version] else []) = 0 := by
      intro c
      cases c <;> rfl
    simp only [ha]
    exact retireDevice_balanced h

theorem submitError_balanced (s : CameraState) (g : Nat) :
    Balanced s (submitError s g).1 0 (answeredSamples (submitError s g).2.2.messages) := by
  unfold submitError
  split
  · rename_i ha
    have hpos := (acceptsAnswer_streaming ha).2.2.1
    split
    · exact .refl s
    · obtain ⟨hp, hd⟩ := consumeRequest_pending
        { s with sampleErrorsSent := saturatingAdd64 s.sampleErrorsSent 1 }
      exact .same hd (by simp only [hp, answeredSamples_cons]; simp; omega)
  · exact .refl s

theorem submitH264_balanced (s : CameraState) (g : Nat) (data : Bytes) :
    Balanced s (submitH264 s g data).1 0 (answeredSamples (submitH264 s g data).2.2.messages) := by
  unfold submitH264
  split
  · exact submitError_balanced s g
  split
  · rename_i ha
    have hpos := (acceptsAnswer_streaming ha).2.2.1
    split
    · exact .refl s
    · obtain ⟨hp, hd⟩ := consumeRequest_pending
        { s with sampleResponsesSent := saturatingAdd64 s.sampleResponsesSent 1 }
      exact .same hd (by
        simp only [hp, answeredSamples_cons, List.cons_append, answersSample]; simp; omega)
  · exact .refl s

theorem notifyNextCredit_balanced (s : CameraState) :
    Balanced s (notifyNextCredit s).1 0 (answeredSamples (notifyNextCredit s).2.messages) := by
  unfold notifyNextCredit
  split <;> exact .same rfl (by simp)

theorem activate_balanced (s : CameraState) (version : UInt8) :
    Balanced s (CameraDevice.activate s version).1 0
      (answeredSamples (CameraDevice.activate s version).2.messages) := by
  unfold CameraDevice.activate
  split
  · exact .refl s
  split
  · exact .same rfl (by simp)
  · exact .refl s

theorem deactivate_balanced (s : CameraState) (version : UInt8) :
    Balanced s (CameraDevice.deactivate s version).1 0
      (answeredSamples (CameraDevice.deactivate s version).2.messages) := by
  unfold CameraDevice.deactivate
  split
  · exact .refl s
  simp only
  split
  · obtain ⟨hp, hq, hd⟩ := stopCapture_pending { s with activationRefs := s.activationRefs - 1 }
    refine .same hd ?_
    simp only [answeredSamples_stop, hp, hq]
  · exact .same rfl (by simp)

theorem stopStreams_balanced (s : CameraState) (version : UInt8) :
    Balanced s (CameraDevice.stopStreams s version).1 0
      (answeredSamples (CameraDevice.stopStreams s version).2.messages) := by
  unfold CameraDevice.stopStreams
  split
  · exact .refl s
  · obtain ⟨hp, hq, hd⟩ := stopCapture_pending s
    refine .same hd ?_
    simp only [answeredSamples_stop, hp, hq]

/-- A new stream starts with an empty queue, and there was nothing to lose. -/
theorem startStreams_balanced (h : s.WellFormed) (version : UInt8) (payload : Bytes) :
    Balanced s (CameraDevice.startStreams s version payload).1 0
      (answeredSamples (CameraDevice.startStreams s version payload).2.messages) := by
  unfold CameraDevice.startStreams
  split
  · exact .refl s
  split
  · exact .refl s
  split
  · exact .refl s
  split
  · exact .refl s
  · rename_i hs
    have hz := (h.idle (by simpa using hs)).1
    exact .same rfl (by simp [hz])

/-- The request is refused with an error of its own or joins the queue. -/
theorem sampleRequest_balanced (s : CameraState) (version : UInt8) (stream : Option UInt8) :
    Balanced s (CameraDevice.sampleRequest s version stream).1 1
      (answeredSamples (CameraDevice.sampleRequest s version stream).2.messages) := by
  unfold CameraDevice.sampleRequest CameraDevice.refuseSample
  simp only
  split
  · exact .same rfl (by simp; omega)
  split
  · exact .same rfl (by simp; omega)
  split
  · exact .same rfl (by simp; omega)
  · obtain ⟨hp, hd⟩ := armNextCredit_pending
      { s with
        sampleRequestsReceived := saturatingAdd64 s.sampleRequestsReceived 1
        pendingRequests := s.pendingRequests + 1 }
    exact .same hd (by simp only [hp, answeredSamples_nil]; omega)

theorem processRequest_balanced (h : s.WellFormed) (d : CameraDevice) (ch : Nat)
    (payload : Bytes) :
    Balanced s (d.processRequest s ch payload).1
      (if d.receivesSample s ch payload then 1 else 0)
      (answeredSamples (d.processRequest s ch payload).2.messages) := by
  have hcases := CameraDevice.processRequest_cases d s ch payload
  revert hcases
  generalize d.processRequest s ch payload = r
  intro hcases
  cases hcases with
  | quiet _ hanswers hreq =>
    simp only [hanswers, hreq]
    exact .refl s
  | activate _ hreq =>
    simp only [hreq]
    exact activate_balanced s s.version
  | deactivate _ hreq =>
    simp only [hreq]
    exact deactivate_balanced s s.version
  | startStreams _ hreq =>
    simp only [hreq]
    exact startStreams_balanced h s.version payload
  | stopStreams _ hreq =>
    simp only [hreq]
    exact stopStreams_balanced s s.version
  | sampleRequest _ hreq =>
    simp only [hreq, if_true]
    exact sampleRequest_balanced s s.version _

theorem deviceStart_balanced (h : s.WellFormed) (d : CameraDevice) (ch : Nat) :
    Balanced s (d.start s ch).2.1 0 (answeredSamples (d.start s ch).2.2.messages) := by
  unfold CameraDevice.start
  simp only
  split
  · exact .refl s
  split
  · exact .refl s
  split
  · rename_i hsame
    -- the same processor on another channel keeps its device and its queue
    have hz : cancelledBetween s { s with deviceInstance := some ⟨d.token, ch⟩ } = 0 := by
      cases hi : s.deviceInstance with
      | none => simp [cancelledBetween, deviceGone, hi]
      | some c =>
        have hc : c.token = d.token := by simpa [hi] using hsame
        simp [cancelledBetween, deviceGone, hi, hc]
    unfold Balanced
    rw [hz]
    simp
  · rename_i hother
    refine .gone h (stopCapture_pending s).1 ?_
    intro c hc
    have hne : c.token ≠ d.token := by simpa [hc] using hother
    simp [deviceGone, hc, replaceDevice, Ne.symm hne]

theorem deviceClose_balanced (h : s.WellFormed) (d : CameraDevice) (ch : Nat) :
    Balanced s (d.close s ch).2.1 0 (answeredSamples (d.close s ch).2.2.messages) := by
  unfold CameraDevice.close
  split
  · exact .refl s
  simp only
  split
  · exact .refl s
  · exact .gone h (stopCapture_pending s).1 fun c hc => by simp [deviceGone, hc]

theorem enumeratorProcess_balanced (e : CameraEnumerator) (s : CameraState) (ch : Nat)
    (payload : Bytes) :
    Balanced s (e.process s ch payload).1 0
      (answeredSamples (e.process s ch payload).2.messages) := by
  unfold CameraEnumerator.process
  split
  · exact .refl s
  split
  · split
    · exact .refl s
    split
    · exact .refl s
    · rename_i version _ _ _
      obtain ⟨hp, hd, ha⟩ := advertiseDevice_pending { s with version, enumNegotiated := true }
      exact .same hd (by simp only [ha, hp]; omega)
  · exact .refl s

theorem enumeratorClose_balanced (h : s.WellFormed) (e : CameraEnumerator) (ch : Nat) :
    Balanced s (e.close s ch).2.1 0 (answeredSamples (e.close s ch).2.2.messages) := by
  unfold CameraEnumerator.close
  split
  · exact .refl s
  split
  · exact .refl s
  · exact retireDevice_balanced h

end Operations

section System

variable {width height fps : UInt16} {s t : CameraSystem} {a : CameraAction} {o : CameraOutput}

theorem step_balanced (h : s.WellFormed) (hstep : s.step a = some (t, o)) :
    Balanced s.bridge t.bridge (receivedBy s a) (answeredSamples o.messages) := by
  have hb := h.bridge
  cases camera_step_cases hstep with
  | setAvailable b => exact setAvailable_balanced hb b
  | newEnumerator => exact .refl _
  | enumeratorStart => exact retireDevice_balanced hb
  | enumeratorProcess => exact enumeratorProcess_balanced _ _ _ _
  | enumeratorClose => exact enumeratorClose_balanced hb _ _
  | createDevice =>
    refine .same ?_ ?_
    · unfold allocateDeviceToken
      split <;> rfl
    · unfold allocateDeviceToken
      split <;> simp [receivedBy]
  | deviceStart => exact deviceStart_balanced hb _ _
  | deviceProcess hd =>
    simp only [receivedBy, hd, Option.any_some]
    exact processRequest_balanced hb _ _ _
  | deviceClose => exact deviceClose_balanced hb _ _
  | submitH264 g data => exact submitH264_balanced _ _ _
  | submitError g => exact submitError_balanced _ _
  | notifyNextCredit => exact notifyNextCredit_balanced _

end System

section Stopping

variable {s : CameraState} {d : CameraDevice} {ch : Nat}

theorem processRequest_stopStreams (hcur : d.isCurrent s ch) :
    d.processRequest s ch [s.version, msgStopStreams] =
      CameraDevice.stopStreams s s.version := by
  simp [CameraDevice.processRequest, hcur, CameraDevice.dispatch, msgActivateDevice,
    msgDeactivateDevice, msgStreamListRequest, msgMediaTypeListRequest,
    msgCurrentMediaTypeRequest, msgStartStreams, msgStopStreams]

theorem processRequest_deactivate (hcur : d.isCurrent s ch) :
    d.processRequest s ch [s.version, msgDeactivateDevice] =
      CameraDevice.deactivate s s.version := by
  simp [CameraDevice.processRequest, hcur, CameraDevice.dispatch, msgActivateDevice,
    msgDeactivateDevice]

/-- The sample errors among the messages of a stop. -/
theorem count_stop (n : Nat) (version : UInt8) :
    (List.replicate n (sampleError version errorUnexpected) ++ [[version, msgSuccess]]).count
      (sampleError version errorUnexpected) = n := by
  rw [List.count_append, List.count_replicate_self]
  simp [sampleError]

/-- StopStreams empties the queue and answers each of its requests with an error. -/
theorem stopStreams_answers (h : s.WellFormed) (version : UInt8) :
    (CameraDevice.stopStreams s version).1.pendingRequests = 0 ∧
      (CameraDevice.stopStreams s version).2.messages.count
        (sampleError version errorUnexpected) = s.pendingRequests := by
  unfold CameraDevice.stopStreams
  split
  · rename_i hl
    have hz := (h.idle (by intro hs; simp [hs, CameraLifecycle.isActive] at hl)).1
    refine ⟨hz, ?_⟩
    rw [hz]
    simp [CameraDevice.error, errorResponse, sampleError, msgError, msgSampleError]
  · obtain ⟨hp, hq, -⟩ := stopCapture_pending s
    simp only [hp, hq, count_stop, and_self]

/-- So does a Deactivate that leaves no activation reference. -/
theorem deactivate_last_answers (h : s.WellFormed) (hrefs : s.activationRefs ≤ 1)
    (version : UInt8) :
    (CameraDevice.deactivate s version).1.pendingRequests = 0 ∧
      (CameraDevice.deactivate s version).2.messages.count
        (sampleError version errorUnexpected) = s.pendingRequests := by
  unfold CameraDevice.deactivate
  split
  · rename_i hz
    have hp := (h.idle (by rw [h.refs.mpr hz]; decide)).1
    refine ⟨hp, ?_⟩
    rw [hp]
    simp [CameraDevice.error, errorResponse, sampleError, msgError, msgSampleError]
  · have hz : s.activationRefs - 1 = 0 := by omega
    obtain ⟨hp, hq, -⟩ := stopCapture_pending { s with activationRefs := s.activationRefs - 1 }
    simp only [hz, if_true]
    rw [hz] at hp hq
    simp only [hp, hq, count_stop, and_self]

/-- A Deactivate that leaves another reference answers nothing and cancels nothing. -/
theorem deactivate_other_keeps (hrefs : 1 < s.activationRefs) (version : UInt8) :
    (CameraDevice.deactivate s version).1.pendingRequests = s.pendingRequests ∧
      (CameraDevice.deactivate s version).2.messages = [[version, msgSuccess]] := by
  have h0 : s.activationRefs ≠ 0 := by omega
  have h1 : s.activationRefs - 1 ≠ 0 := by omega
  simp [CameraDevice.deactivate, h0, h1]

end Stopping

variable {width height fps : UInt16}

theorem accounted_run {tr : List CameraEvent} {s : CameraSystem × SampleLedger}
    (hr : (accountedCamera width height fps).Run tr s) : s.1.WellFormed :=
  run_wellFormed hr.forget

/-- The books of a whole run balance. -/
theorem run_balanced {tr : List CameraEvent} {s : CameraSystem × SampleLedger}
    (hr : (accountedCamera width height fps).Run tr s) :
    s.2.received = s.2.answered + s.1.bridge.pendingRequests + s.2.cancelled := by
  refine hr.invariant_of (I := fun s : CameraSystem × SampleLedger => s.1.WellFormed)
    (J := fun s => s.2.received = s.2.answered + s.1.bridge.pendingRequests + s.2.cancelled)
    (accounted_run (.refl _)) ?_ rfl ?_
  · intro s a t o h hstep
    exact step_wellFormed h (Machine.withGhost_step.mp hstep).1
  · intro s a t o h hb hstep
    obtain ⟨hs, hl⟩ := Machine.withGhost_step.mp hstep
    have hbal : _ = _ := step_balanced h hs
    rw [hl]
    simp only [SampleLedger.record]
    omega

/-- Sample conservation in every state of every run. What came in is answered,
pending or cancelled; a cancelled request lost its device; no answer is made
without an outstanding request; a StopStreams and the Deactivate of the last
activation reference answer every pending request with an error, and any other
Deactivate leaves them pending. -/
theorem sample_conservation {tr : List CameraEvent} {s : CameraSystem × SampleLedger}
    (hr : (accountedCamera width height fps).Run tr s) :
    s.2.received = s.2.answered + s.1.bridge.pendingRequests + s.2.cancelled ∧
    (∀ a t o, s.1.step a = some (t, o) →
      answeredSamples o.messages ≤ s.1.bridge.pendingRequests + receivedBy s.1 a) ∧
    (∀ a t o, s.1.step a = some (t, o) → cancelledBetween s.1.bridge t.bridge ≠ 0 →
      ∃ d, s.1.bridge.deviceInstance = some d ∧
        ∀ d', t.bridge.deviceInstance = some d' → d'.token ≠ d.token) ∧
    (∀ i ch d t o, s.1.devices[i]? = some d → d.isCurrent s.1.bridge ch →
      s.1.step (.deviceProcess i ch [s.1.bridge.version, msgStopStreams]) = some (t, o) →
      t.bridge.pendingRequests = 0 ∧
        o.messages.count (sampleError s.1.bridge.version errorUnexpected) =
          s.1.bridge.pendingRequests) ∧
    (∀ i ch d t o, s.1.devices[i]? = some d → d.isCurrent s.1.bridge ch →
      s.1.step (.deviceProcess i ch [s.1.bridge.version, msgDeactivateDevice]) = some (t, o) →
      (s.1.bridge.activationRefs ≤ 1 →
        t.bridge.pendingRequests = 0 ∧
          o.messages.count (sampleError s.1.bridge.version errorUnexpected) =
            s.1.bridge.pendingRequests) ∧
      (1 < s.1.bridge.activationRefs →
        t.bridge.pendingRequests = s.1.bridge.pendingRequests ∧
          answeredSamples o.messages = 0)) := by
  have h := accounted_run hr
  refine ⟨run_balanced hr, ?_, ?_, ?_, ?_⟩
  · intro a t o hstep
    have hbal : _ = _ := step_balanced h hstep
    omega
  · intro a t o _ hne
    unfold cancelledBetween at hne
    have hgone : deviceGone s.1.bridge t.bridge = true := by
      by_contra hg
      simp [hg] at hne
    unfold deviceGone at hgone
    cases hd : s.1.bridge.deviceInstance with
    | none => simp [hd] at hgone
    | some d =>
      refine ⟨d, rfl, fun d' hd' => ?_⟩
      simpa [hd, hd'] using hgone
  · intro i ch d t o hd hcur hstep
    simp only [CameraSystem.step, hd, Option.map_some] at hstep
    cases hstep
    simp only [processRequest_stopStreams hcur]
    exact stopStreams_answers h.bridge _
  · intro i ch d t o hd hcur hstep
    simp only [CameraSystem.step, hd, Option.map_some] at hstep
    cases hstep
    simp only [processRequest_deactivate hcur]
    refine ⟨fun hrefs => deactivate_last_answers h.bridge hrefs _, fun hrefs => ?_⟩
    obtain ⟨hp, hm⟩ := deactivate_other_keeps hrefs s.1.bridge.version
    rw [hp, hm]
    exact ⟨rfl, rfl⟩

/-- Two activations, one stream, one queued request. -/
def sharedCamera : List CameraAction :=
  [.setAvailable true, .newEnumerator, .enumeratorStart 0 42, .enumeratorProcess 0 42 [2, 4],
    .createDevice, .deviceStart 0 7, .deviceProcess 0 7 [2, msgActivateDevice],
    .deviceProcess 0 7 [2, msgActivateDevice],
    .deviceProcess 0 7 ([2, msgStartStreams, 0] ++ mediaType 640 480 15),
    .deviceProcess 0 7 [2, msgSampleRequest, 0]]

/-- The books of that run: one request received and pending. -/
theorem sample_conservation_shared :
    ∃ tr s, (accountedCamera 640 480 15).Run tr s ∧ s.2.received = 1 ∧
      s.2.received = s.2.answered + s.1.bridge.pendingRequests + s.2.cancelled := by
  have hr := Machine.run_of_exec (M := accountedCamera 640 480 15) sharedCamera
    (by decide)
  exact ⟨_, _, hr, by decide, (sample_conservation hr).1⟩

/-- A Deactivate does not always answer what is pending: with a second
activation it leaves the request in the queue. -/
theorem deactivate_leaves_pending :
    ¬ ∀ tr s i ch d t o, (cameraMachine 640 480 15).Run tr s → s.devices[i]? = some d →
      d.isCurrent s.bridge ch →
      s.step (.deviceProcess i ch [s.bridge.version, msgDeactivateDevice]) = some (t, o) →
      answeredSamples o.messages = s.bridge.pendingRequests := by
  intro hall
  have hr := Machine.run_of_exec (M := cameraMachine 640 480 15) sharedCamera (by decide)
  have h := hall _ _ 0 7 ⟨1, some 7⟩ _ _ hr (by decide) (by decide) rfl
  revert h
  decide

end Lgnome.Rdpecam
