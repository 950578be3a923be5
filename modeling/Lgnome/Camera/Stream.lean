import Lgnome.Camera.System

/-!
# What a call does to the stream

Of everything that a call on the camera bridge changes, the credit depends on
whether a generation streams and whether its credit has been handed out. The
callbacks of a call say what they say about the bridge that the call leaves.
-/
namespace Lgnome.Camera

open Lgnome.Rdpecam

variable {s t : CameraState} {callbacks : List CameraCallback}

/-- The stream and its credit are the same. -/
structure SameStream (s t : CameraState) : Prop where
  streaming : t.lifecycle = .streaming ↔ s.lifecycle = .streaming
  generation : t.generation = s.generation
  notified : t.creditNotified = s.creditNotified
  notification : t.pendingCreditNotification = s.pendingCreditNotification

def IsStop (callback : CameraCallback) : Prop := ∃ g, callback = .stop g

/-- What a call from the server does to the stream. -/
inductive Move (s t : CameraState) : List CameraCallback → Prop
  | same (h : SameStream s t) : Move s t []
  | stopped {callbacks : List CameraCallback} (h : t.lifecycle ≠ .streaming)
      (hstops : ∀ callback ∈ callbacks, IsStop callback) : Move s t callbacks
  | started {width height fps : UInt16} (h : t.lifecycle = .streaming)
      (hnotified : t.creditNotified = false) :
      Move s t [.start t.generation width height fps]
  | credited (h : t.lifecycle = .streaming) (hbefore : s.lifecycle = .streaming)
      (hgeneration : t.generation = s.generation) :
      Move s t [.sampleRequest t.generation]

/-- What the callbacks that are still to be made say about the bridge. -/
inductive Outstanding (s : CameraState) : List CameraCallback → Prop
  | none : Outstanding s []
  | stops {callbacks : List CameraCallback} (h : s.lifecycle ≠ .streaming)
      (hstops : ∀ callback ∈ callbacks, IsStop callback) : Outstanding s callbacks
  | start {width height fps : UInt16} (h : s.lifecycle = .streaming)
      (hnotified : s.creditNotified = false) :
      Outstanding s [.start s.generation width height fps]
  | sampleRequest (h : s.lifecycle = .streaming) : Outstanding s [.sampleRequest s.generation]

theorem Move.outstanding (h : Move s t callbacks) : Outstanding t callbacks := by
  cases h with
  | same => exact .none
  | stopped h hstops => exact .stops h hstops
  | started h hnotified => exact .start h hnotified
  | credited h _ _ => exact .sampleRequest h

theorem SameStream.refl (s : CameraState) : SameStream s s := ⟨Iff.rfl, rfl, rfl, rfl⟩

theorem stopCapture_stops (s : CameraState) :
    (stopCapture s).1.lifecycle ≠ .streaming ∧
      ∀ callback ∈ (stopCapture s).2.callback.toList, IsStop callback := by
  refine ⟨(stopCapture_idle s).1, fun callback hcallback => ?_⟩
  unfold stopCapture at hcallback
  split at hcallback
  · obtain rfl := Option.some.inj (Option.mem_toList.1 hcallback)
    exact ⟨_, rfl⟩
  · cases hcallback

theorem retireDevice_stops (s : CameraState) :
    (retireDevice s).1.lifecycle ≠ .streaming ∧
      ∀ callback ∈ (retireDevice s).2.toList, IsStop callback :=
  ⟨by simp [retireDevice], (stopCapture_stops s).2⟩

theorem advertiseDevice_same (s : CameraState) : SameStream s (advertiseDevice s).1 := by
  unfold advertiseDevice
  split
  · exact .refl s
  · split
    · exact .refl s
    · exact ⟨Iff.rfl, rfl, rfl, rfl⟩

theorem replaceDevice_stops (s : CameraState) (inst : DeviceInstance) :
    (replaceDevice s inst).1.lifecycle ≠ .streaming ∧
      ∀ callback ∈ (replaceDevice s inst).2.toList, IsStop callback :=
  ⟨by simp [replaceDevice], (stopCapture_stops s).2⟩

theorem allocateDeviceToken_same (s : CameraState) : SameStream s (allocateDeviceToken s).1 := by
  unfold allocateDeviceToken
  split
  · exact ⟨Iff.rfl, rfl, rfl, rfl⟩
  · exact .refl s

theorem deviceStart_move (d : CameraDevice) (s : CameraState) (ch : Nat) :
    Move s (d.start s ch).2.1 (d.start s ch).2.2.callbacks := by
  unfold CameraDevice.start
  dsimp only
  split
  · exact .same (.refl s)
  · split
    · exact .same (.refl s)
    · split
      · exact .same ⟨Iff.rfl, rfl, rfl, rfl⟩
      · exact .stopped (replaceDevice_stops s _).1 (replaceDevice_stops s _).2

theorem deviceClose_move (d : CameraDevice) (s : CameraState) (ch : Nat) :
    Move s (d.close s ch).2.1 (d.close s ch).2.2.callbacks := by
  unfold CameraDevice.close
  split
  · exact .same (.refl s)
  · dsimp only
    split
    · exact .same (.refl s)
    · exact .stopped (by simp) (stopCapture_stops s).2

theorem enumeratorStart_move (e : CameraEnumerator) (s : CameraState) (ch : Nat) :
    Move s (e.start s ch).2.1 (e.start s ch).2.2.callbacks := by
  have hstops := retireDevice_stops { s with
    enumChannelId := some ch, enumNegotiated := false, advertised := false }
  exact .stopped hstops.1 hstops.2

theorem enumeratorProcess_move (e : CameraEnumerator) (s : CameraState) (ch : Nat)
    (payload : Bytes) : Move s (e.process s ch payload).1 (e.process s ch payload).2.callbacks := by
  unfold CameraEnumerator.process
  split
  · exact .same (.refl s)
  · split
    · rename_i version _
      split
      · exact .same (.refl s)
      · split
        · exact .same (.refl s)
        · have h := advertiseDevice_same { s with version, enumNegotiated := true }
          exact .same ⟨h.streaming, h.generation, h.notified, h.notification⟩
    · exact .same (.refl s)

theorem enumeratorClose_move (e : CameraEnumerator) (s : CameraState) (ch : Nat) :
    Move s (e.close s ch).2.1 (e.close s ch).2.2.callbacks := by
  unfold CameraEnumerator.close
  split
  · exact .same (.refl s)
  · split
    · exact .same (.refl s)
    · have hstops := retireDevice_stops { s with
        enumChannelId := none, enumNegotiated := false, advertised := false }
      exact .stopped hstops.1 hstops.2

theorem sampleRequest_move (s : CameraState) (version : UInt8) (stream : Option UInt8) :
    Move s (CameraDevice.sampleRequest s version stream).1
      (CameraDevice.sampleRequest s version stream).2.callbacks := by
  unfold CameraDevice.sampleRequest
  dsimp only
  split
  · exact .same ⟨Iff.rfl, rfl, rfl, rfl⟩
  · rename_i hstreaming
    have hbefore : s.lifecycle = .streaming := by simpa using hstreaming
    split
    · exact .same ⟨Iff.rfl, rfl, rfl, rfl⟩
    · split
      · exact .same ⟨Iff.rfl, rfl, rfl, rfl⟩
      · unfold armNextCredit
        split
        · exact .credited hbefore hbefore rfl
        · exact .same ⟨Iff.rfl, rfl, rfl, rfl⟩

theorem deactivate_move (s : CameraState) (version : UInt8) :
    Move s (CameraDevice.deactivate s version).1 (CameraDevice.deactivate s version).2.callbacks := by
  unfold CameraDevice.deactivate
  split
  · exact .same (.refl s)
  · dsimp only
    split
    · exact .stopped (by simp) (stopCapture_stops _).2
    · exact .same ⟨Iff.rfl, rfl, rfl, rfl⟩

theorem activate_move (s : CameraState) (version : UInt8) :
    Move s (CameraDevice.activate s version).1 (CameraDevice.activate s version).2.callbacks := by
  unfold CameraDevice.activate
  split
  · exact .same (.refl s)
  · split
    · refine .same ⟨?_, rfl, rfl, rfl⟩
      cases s.lifecycle <;> simp
    · exact .same (.refl s)

theorem startStreams_move (s : CameraState) (version : UInt8) (payload : Bytes) :
    Move s (CameraDevice.startStreams s version payload).1
      (CameraDevice.startStreams s version payload).2.callbacks := by
  unfold CameraDevice.startStreams
  split
  · exact .same (.refl s)
  · split
    · exact .same (.refl s)
    · split
      · exact .same (.refl s)
      · split
        · exact .same (.refl s)
        · exact .started rfl rfl

theorem stopStreams_move (s : CameraState) (version : UInt8) :
    Move s (CameraDevice.stopStreams s version).1
      (CameraDevice.stopStreams s version).2.callbacks := by
  unfold CameraDevice.stopStreams
  split
  · exact .same (.refl s)
  · exact .stopped (stopCapture_stops s).1 (stopCapture_stops s).2

theorem processRequest_move (d : CameraDevice) (s : CameraState) (ch : Nat) (payload : Bytes) :
    Move s (d.processRequest s ch payload).1 (d.processRequest s ch payload).2.callbacks := by
  have hcases := CameraDevice.processRequest_cases d s ch payload
  generalize d.processRequest s ch payload = result at hcases ⊢
  cases hcases with
  | quiet hcalls _ _ =>
    rw [hcalls]
    exact .same (.refl s)
  | activate _ _ => exact activate_move s _
  | deactivate _ _ _ => exact deactivate_move s _
  | startStreams _ _ => exact startStreams_move s _ payload
  | stopStreams _ _ _ => exact stopStreams_move s _
  | sampleRequest _ _ => exact sampleRequest_move s _ _

/-- Every call from the server is one of the moves. -/
theorem call_move {c c' : CameraSystem} {a : CameraAction} {o : CameraOutput}
    (ha : fromServer a = true) (h : c.step a = some (c', o)) :
    Move c.bridge c'.bridge o.callbacks := by
  cases camera_step_cases h with
  | setAvailable => cases ha
  | submitH264 => cases ha
  | submitError => cases ha
  | notifyNextCredit => cases ha
  | newEnumerator => exact .same (.refl _)
  | enumeratorStart _ => exact enumeratorStart_move _ _ _
  | enumeratorProcess _ => exact enumeratorProcess_move _ _ _ _
  | enumeratorClose _ => exact enumeratorClose_move _ _ _
  | createDevice => exact .same (allocateDeviceToken_same _)
  | deviceStart _ => exact deviceStart_move _ _ _
  | deviceProcess _ => exact processRequest_move _ _ _ _
  | deviceClose _ => exact deviceClose_move _ _ _

/-! ## The worker's own calls -/

theorem setAvailable_move (s : CameraState) (available : Bool) :
    Move s (setAvailable s available).1 (setAvailable s available).2.2.callbacks := by
  unfold setAvailable
  split
  · exact .same (.refl s)
  · cases available with
    | true =>
      have h := advertiseDevice_same { s with available := true }
      exact .same ⟨h.streaming, h.generation, h.notified, h.notification⟩
    | false =>
      have hstops := retireDevice_stops { s with available := false, advertised := false }
      exact .stopped hstops.1 hstops.2

/-- Once the device is withdrawn nothing streams. -/
theorem setAvailable_false (h : s.WellFormed) :
    (setAvailable s false).1.lifecycle ≠ .streaming := by
  unfold setAvailable
  split
  · rename_i hgone
    intro hstreaming
    cases hd : s.deviceInstance with
    | none =>
      have habsent := h.absent hd
      rw [hstreaming] at habsent
      cases habsent
    | some d =>
      have havailable := (h.device d hd).1
      rw [hgone] at havailable
      cases havailable
  · exact (retireDevice_stops _).1

/-- An answer to the streaming generation whose credit is out is accepted; what
it leaves has the next credit armed, or none out. -/
theorem consumeRequest_credit (s : CameraState) :
    (consumeRequest s).generation = s.generation ∧
      (consumeRequest s).lifecycle = s.lifecycle ∧
      ((consumeRequest s).creditNotified = true →
        (consumeRequest s).pendingCreditNotification = some s.generation) := by
  unfold consumeRequest armNextCredit
  dsimp only
  split
  · exact ⟨rfl, rfl, fun _ => rfl⟩
  · exact ⟨rfl, rfl, nofun⟩

/-- What an answer does: it is not for the stream, or it takes the credit. -/
structure Answered (s t : CameraState) (g : Nat) : Prop where
  streaming : t.lifecycle = .streaming ↔ s.lifecycle = .streaming
  generation : t.generation = s.generation
  credit : s.lifecycle = .streaming → t.creditNotified = true →
    t.pendingCreditNotification = some t.generation ∨
      (g ≠ s.generation ∧ s.creditNotified = true ∧
        t.pendingCreditNotification = s.pendingCreditNotification)

theorem submitError_answered (h : s.WellFormed) (g : Nat) :
    Answered s (submitError s g).1 g := by
  unfold submitError
  split
  · split
    · rename_i haccepts _ hnone
      have hgone := h.absent hnone
      simp [acceptsAnswer, hgone] at haccepts
    · have hc := consumeRequest_credit
        { s with sampleErrorsSent := saturatingAdd64 s.sampleErrorsSent 1 }
      refine ⟨by rw [hc.2.1], hc.1, fun _ hn => .inl ?_⟩
      rw [hc.1]
      exact hc.2.2 hn
  · rename_i hrefused
    refine ⟨Iff.rfl, rfl, fun hstreaming hn => .inr ⟨fun hg => ?_, hn, rfl⟩⟩
    have hpending := (h.credit hstreaming).2 hn
    refine hrefused ?_
    simp only [acceptsAnswer, Bool.and_eq_true, CameraLifecycle.isStreaming_iff, beq_iff_eq,
      bne_iff_ne]
    exact ⟨⟨⟨hstreaming, hg.symm⟩, Nat.ne_of_gt hpending⟩, hn⟩

theorem submitH264_answered (h : s.WellFormed) (g : Nat) (data : Bytes) :
    Answered s (submitH264 s g data).1 g := by
  unfold submitH264
  split
  · exact submitError_answered h g
  · split
    · split
      · rename_i haccepts _ hnone
        have hgone := h.absent hnone
        simp [acceptsAnswer, hgone] at haccepts
      · have hc := consumeRequest_credit
          { s with sampleResponsesSent := saturatingAdd64 s.sampleResponsesSent 1 }
        refine ⟨by rw [hc.2.1], hc.1, fun _ hn => .inl ?_⟩
        rw [hc.1]
        exact hc.2.2 hn
    · rename_i hrefused
      refine ⟨Iff.rfl, rfl, fun hstreaming hn => .inr ⟨fun hg => ?_, hn, rfl⟩⟩
      have hpending := (h.credit hstreaming).2 hn
      refine hrefused ?_
      simp only [acceptsAnswer, Bool.and_eq_true, CameraLifecycle.isStreaming_iff, beq_iff_eq,
        bne_iff_ne]
      exact ⟨⟨⟨hstreaming, hg.symm⟩, Nat.ne_of_gt hpending⟩, hn⟩

/-- An armed credit is handed out as a callback. -/
theorem notifyNextCredit_move (h : s.WellFormed) :
    Move s (notifyNextCredit s).1 (notifyNextCredit s).2.callbacks := by
  unfold notifyNextCredit
  cases hn : s.pendingCreditNotification with
  | none => exact .same (.refl s)
  | some g =>
    obtain ⟨rfl, -⟩ := h.notification g hn
    have hstreaming : s.lifecycle = .streaming := by
      by_contra hidle
      have hnone := (h.idle hidle).2.2
      rw [hn] at hnone
      cases hnone
    exact .credited hstreaming hstreaming rfl

end Lgnome.Camera
