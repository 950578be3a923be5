import Lgnome.Camera.Stream

/-!
# What the capture manager does to a slot's credit

A small step of the capture manager is about one slot at most, and its call goes
to that slot's session. Apart from a publication and the steps that request
availability, none takes the credit away without leaving its answer in the
mailbox.
-/
namespace Lgnome.Camera

open Lgnome.Native (SlotIndex Session)
open Lgnome.Capture Lgnome.Rdpecam
open Lgnome.Media (CameraSubmission MediaMailbox)

/-- The slot a small step is about. -/
def slotOf : Micro → Option SlotIndex
  | .failCredit i _ => some i
  | .closeGate i => some i
  | .openGate i => some i
  | .gateFollows i => some i
  | .publishForeground _ => none
  | .publishSlot i .. => some i
  | .forgetAvailability i => some i
  | .withdraw i => some i
  | .advertise i => some i
  | .setPhysical _ => none
  | .startCamera i .. => some i
  | .stopCamera i _ => some i
  | .requestSample i _ => some i
  | .startAudio i .. => some i
  | .stopAudio i _ => some i
  | .submitH264 i .. => some i
  | .failRejected i _ => some i
  | .submitPcm i .. => some i
  | .applyConfig _ => none
  | .dropSession i => some i

variable {r : Redirect} {m : Micro} {i j : SlotIndex} {session : Session}

theorem failCredit_other (r : Redirect) (generation : Nat) (accepted : Bool) (hj : j ≠ i) :
    (r.failCredit i generation accepted).slots j = r.slots j := by
  unfold Redirect.failCredit
  split
  · exact Redirect.modifySlot_other _ _ _ hj
  · rfl

/-- The other slots are left alone. -/
theorem exec_other (r : Redirect) (m : Micro) (answer : Bool) (h : slotOf m ≠ some j) :
    (r.exec m answer).slots j = r.slots j := by
  cases m with
  | publishForeground | setPhysical | applyConfig | closeGate | openGate | gateFollows
  | submitPcm => rfl
  | failCredit i generation =>
    exact failCredit_other r _ answer fun hj => h (congrArg some hj.symm)
  | failRejected i generation =>
    simp only [Redirect.exec]
    split
    · exact failCredit_other r generation answer fun hj => h (congrArg some hj.symm)
    · rfl
  | publishSlot i | forgetAvailability i | startCamera i | startAudio i | dropSession i =>
    exact if_neg fun hj => h (congrArg some hj.symm)
  | withdraw i | advertise i =>
    simp only [Redirect.exec]
    split
    · rfl
    · exact Redirect.modifySlot_other r i _ fun hj => h (congrArg some hj.symm)
  | stopCamera i | requestSample i | stopAudio i =>
    simp only [Redirect.exec]
    split
    · exact Redirect.modifySlot_other r i _ fun hj => h (congrArg some hj.symm)
    · rfl
  | submitH264 i =>
    simp only [Redirect.exec]
    split
    · split
      · exact if_neg fun hj => h (congrArg some hj.symm)
      · rfl
    · rfl

theorem map_callee {o : Option Session} {f : Session → RdpCall} {call : RdpCall}
    (hf : ∀ session, callee (f session) = session) (h : o.map f = some call) :
    o = some (callee call) := by
  obtain ⟨other, hother, rfl⟩ := Option.map_eq_some_iff.1 h
  rw [hf]
  exact hother

theorem failCreditCall_callee {generation : Nat} {call : RdpCall}
    (h : r.failCreditCall i generation = some call) :
    (r.slots i).session = some (callee call) := by
  unfold Redirect.failCreditCall at h
  split at h
  · exact map_callee (fun _ => rfl) h
  · cases h

theorem submitH264_call {generation : Nat} {stateGeneration : UInt32} {ownerEpoch : UInt64}
    {packet : Option Bytes} {call : RdpCall}
    (h : r.call (.submitH264 i generation stateGeneration ownerEpoch packet) = some call) :
    r.submitsQueued i generation stateGeneration ownerEpoch = true ∧
      (r.slots i).session = some (callee call) ∧
      ∃ data, call = .submitCameraH264 (callee call) generation data := by
  simp only [Redirect.call] at h
  split at h
  · rename_i hsubmits
    refine ⟨hsubmits, ?_⟩
    cases hother : (r.slots i).session with
    | none => simp [hother] at h
    | some other =>
      cases packet with
      | none => simp [hother] at h
      | some data =>
        simp only [hother] at h
        obtain rfl := Option.some.inj h
        exact ⟨rfl, data, rfl⟩
  · cases h

/-- A call goes to the session of the step's slot. -/
theorem call_callee {call : RdpCall} (h : r.call m = some call) :
    ∃ i, slotOf m = some i ∧ (r.slots i).session = some (callee call) := by
  cases m with
  | failCredit i generation => exact ⟨i, rfl, failCreditCall_callee h⟩
  | closeGate i | openGate i | gateFollows i => exact ⟨i, rfl, map_callee (fun _ => rfl) h⟩
  | forgetAvailability i =>
    simp only [Redirect.call] at h
    split at h
    · exact ⟨i, rfl, map_callee (fun _ => rfl) h⟩
    · cases h
  | withdraw i | advertise i =>
    simp only [Redirect.call] at h
    split at h
    · cases h
    · exact ⟨i, rfl, map_callee (fun _ => rfl) h⟩
  | submitH264 i => exact ⟨i, rfl, (submitH264_call h).2.1⟩
  | failRejected i generation =>
    simp only [Redirect.call] at h
    split at h
    · exact ⟨i, rfl, failCreditCall_callee h⟩
    · cases h
  | submitPcm i target data =>
    simp only [Redirect.call] at h
    split at h
    · rename_i hsubmits
      obtain rfl := Option.some.inj h
      simp only [Redirect.submitsPcm, Redirect.targetMatches, Bool.and_eq_true,
        decide_eq_true_eq] at hsubmits
      exact ⟨i, rfl, hsubmits.1.1.1.2⟩
    · cases h
  | _ => cases h

/-- The answer a small step gets. -/
def answerOf (s : CreditSystem) (m : Micro) : Bool :=
  match s.capture.shared.redirect.call m with
  | none => s.capture.parties.stop
  | some call => ((s.rdp (callee call)).receive call).2

theorem exec_shared (s : CreditSystem) (m : Micro) :
    (s.exec m).capture.shared = s.capture.shared.exec m (answerOf s m) := by
  unfold CreditSystem.exec answerOf
  cases s.capture.shared.redirect.call m <;> rfl

theorem exec_parties (s : CreditSystem) (m : Micro) :
    (s.exec m).capture.parties = s.capture.parties := by
  unfold CreditSystem.exec
  cases s.capture.shared.redirect.call m <;> rfl

theorem exec_todo (s : CreditSystem) (m : Micro) : (s.exec m).capture.todo = s.capture.todo := by
  unfold CreditSystem.exec
  cases s.capture.shared.redirect.call m <;> rfl

theorem exec_rdp_none {s : CreditSystem} (h : s.capture.shared.redirect.call m = none) :
    (s.exec m).rdp = s.rdp := by
  rw [CreditSystem.exec, h]

theorem exec_rdp_some {s : CreditSystem} {call : RdpCall}
    (h : s.capture.shared.redirect.call m = some call) (hcallee : callee call = session) :
    (s.exec m).rdp session = ((s.rdp session).receive call).1 := by
  rw [CreditSystem.exec, h]
  dsimp only [CreditSystem.setRdp]
  rw [hcallee, if_pos rfl]

theorem exec_rdp_other {s : CreditSystem} {call : RdpCall}
    (h : s.capture.shared.redirect.call m = some call) (hcallee : callee call ≠ session) :
    (s.exec m).rdp session = s.rdp session := by
  rw [CreditSystem.exec, h]
  exact if_neg fun heq => hcallee heq.symm

/-- What most small steps do to a slot and to its session: nothing but closing
and opening the gate, requesting less, and answering with the credit. -/
structure Plain (c : CaptureSlot) (r : RdpSide) (c' : CaptureSlot) (r' : RdpSide) : Prop where
  session : c'.session = c.session
  streaming : c'.cameraStreaming = c.cameraStreaming
  generation : c'.cameraGeneration = c.cameraGeneration
  camera : r'.camera = r.camera
  phase : r'.phase = r.phase
  outbox : r'.outbox = r.outbox
  desired : r'.desired = true →
    r.desired = true ∧ c'.cameraAvailableRequested = c.cameraAvailableRequested
  queued : ∀ y, r'.mailbox.camera = some y →
    (∃ x, r.mailbox.camera = some x ∧ y.generation = x.generation) ∨
      y.generation = c.cameraGeneration
  kept : ∀ x, r.mailbox.camera = some x →
    ∃ y, r'.mailbox.camera = some y ∧ y.generation = x.generation
  credit : 0 < c.cameraCredit → 0 < c'.cameraCredit ∨
    ∃ y, r'.mailbox.camera = some y ∧ y.generation = c.cameraGeneration

theorem Plain.refl (c : CaptureSlot) (r : RdpSide) : Plain c r c r :=
  ⟨rfl, rfl, rfl, rfl, rfl, rfl, fun h => ⟨h, rfl⟩, fun y hy => .inl ⟨y, hy, rfl⟩,
    fun x hx => ⟨x, hx, rfl⟩, .inl⟩

/-- The gate keeps an answer, if only the duty to make one. -/
theorem setCaptureActive_kept (m : MediaMailbox Bytes) (active : Bool) :
    (m.setCaptureActive active).1.camera.map CameraSubmission.generation =
      m.camera.map CameraSubmission.generation := by
  unfold MediaMailbox.setCaptureActive
  split
  · rfl
  · cases active with
    | true => rfl
    | false => cases m.camera <;> rfl

theorem Plain.of_mailbox {c : CaptureSlot} {r : RdpSide} {mailbox : MediaMailbox Bytes}
    (h : mailbox.camera.map CameraSubmission.generation =
      r.mailbox.camera.map CameraSubmission.generation) :
    Plain c r c { r with mailbox := mailbox } := by
  refine ⟨rfl, rfl, rfl, rfl, rfl, rfl, fun h => ⟨h, rfl⟩, fun y hy => ?_, fun x hx => ?_, .inl⟩
  · change mailbox.camera = some y at hy
    rw [hy] at h
    obtain ⟨x, hx, hgen⟩ := Option.map_eq_some_iff.1 h.symm
    exact .inl ⟨x, hx, hgen.symm⟩
  · rw [hx] at h
    obtain ⟨y, hy, hgen⟩ := Option.map_eq_some_iff.1 h
    exact ⟨y, hy, hgen⟩

/-- An answer that was taken costs the credit, and is the slot's own. -/
theorem Plain.answered {c c' : CaptureSlot} {r : RdpSide} {mailbox : MediaMailbox Bytes}
    {y : CameraSubmission Bytes} (hempty : r.mailbox.camera = none)
    (hmailbox : mailbox.camera = some y) (hgen : y.generation = c.cameraGeneration)
    (hsession : c'.session = c.session) (hstreaming : c'.cameraStreaming = c.cameraStreaming)
    (hgeneration : c'.cameraGeneration = c.cameraGeneration)
    (hrequested : c'.cameraAvailableRequested = c.cameraAvailableRequested) :
    Plain c r c' { r with mailbox := mailbox } := by
  refine ⟨hsession, hstreaming, hgeneration, rfl, rfl, rfl, fun h => ⟨h, hrequested⟩,
    fun x hx => .inr ?_, fun x hx => ?_, fun _ => .inr ⟨y, hmailbox, hgen⟩⟩
  · obtain rfl := Option.some.inj (hmailbox.symm.trans hx)
    exact hgen
  · rw [hempty] at hx
    cases hx

/-- The small steps that are plain for every slot. -/
def isPlain : Micro → Bool
  | .publishSlot .. => false
  | .withdraw _ => false
  | .advertise _ => false
  | .startCamera .. => false
  | .stopCamera .. => false
  | .requestSample .. => false
  | .dropSession _ => false
  | _ => true

section exec

variable {s : CreditSystem}

/-- A step about another slot is none of this session's. -/
theorem exec_elsewhere (hslot : slotOf m ≠ some i)
    (hapart : ∀ j, (s.capture.shared.redirect.slots j).session = some session → j = i) :
    (s.exec m).capture.shared.redirect.slots i = s.capture.shared.redirect.slots i ∧
      (s.exec m).rdp session = s.rdp session := by
  refine ⟨?_, ?_⟩
  · rw [exec_shared]
    exact exec_other _ m _ hslot
  · cases hcall : s.capture.shared.redirect.call m with
    | none => rw [exec_rdp_none hcall]
    | some call =>
      refine exec_rdp_other hcall fun heq => ?_
      obtain ⟨j, hj, hsession⟩ := call_callee hcall
      rw [heq] at hsession
      exact hslot (hj.trans (congrArg some (hapart j hsession)))

/-- A sample error for the slot's credit, taken or refused. -/
theorem failCredit_plain {generation : Nat} {call : RdpCall}
    (hcall : s.capture.shared.redirect.failCreditCall i generation = some call)
    (hsession : callee call = session) :
    Plain (s.capture.shared.redirect.slots i) (s.rdp session)
      ((s.capture.shared.redirect.failCredit i generation
        ((s.rdp session).receive call).2).slots i)
      ((s.rdp session).receive call).1 := by
  have howes : s.capture.shared.redirect.owesAnswer i generation = true := by
    by_contra hnot
    rw [Redirect.failCreditCall, if_neg hnot] at hcall
    cases hcall
  have hsome : call = .submitCameraError session generation := by
    rw [Redirect.failCreditCall, if_pos howes] at hcall
    obtain ⟨other, -, rfl⟩ := Option.map_eq_some_iff.1 hcall
    rw [← hsession]
    rfl
  simp only [Redirect.owesAnswer, Bool.and_eq_true, decide_eq_true_eq] at howes
  rw [hsome]
  unfold Redirect.failCredit
  rw [hcall]
  rcases (s.rdp session).mailbox.tryEnqueueCameraError_cases generation with
    ⟨-, hempty, haccepted⟩ | hrefused
  · simp only [RdpSide.receive, haccepted, Option.isSome_some, Bool.and_self, if_true,
      Redirect.modifySlot_same]
    exact .answered hempty rfl howes.1.2.symm rfl rfl rfl rfl
  · simp only [RdpSide.receive, hrefused, Bool.and_false, Bool.false_eq_true, if_false]
    exact .refl _ _

/-- A frame for the slot's credit, taken or refused. -/
theorem submitH264_plain {generation : Nat} {stateGeneration : UInt32} {ownerEpoch : UInt64}
    {packet : Option Bytes} {call : RdpCall}
    (hcall : s.capture.shared.redirect.call
      (.submitH264 i generation stateGeneration ownerEpoch packet) = some call)
    (hsession : callee call = session) :
    Plain (s.capture.shared.redirect.slots i) (s.rdp session)
      ((s.capture.shared.redirect.exec
        (.submitH264 i generation stateGeneration ownerEpoch packet)
        ((s.rdp session).receive call).2).slots i)
      ((s.rdp session).receive call).1 := by
  obtain ⟨hsubmits, -, data, hdata⟩ := submitH264_call hcall
  rw [hsession] at hdata
  simp only [Redirect.submitsQueued, Bool.and_eq_true, decide_eq_true_eq] at hsubmits
  simp only [Redirect.exec, hcall, Option.isSome_some, if_true, hdata]
  by_cases hrejected : data = [] ∨ maxCameraAu < data.length
  · simp only [RdpSide.receive, if_pos hrejected, Bool.false_eq_true, if_false]
    exact .refl _ _
  · rcases (s.rdp session).mailbox.tryEnqueueCameraH264_cases generation data with
      ⟨-, hempty, haccepted⟩ | hrefused
    · simp only [RdpSide.receive, if_neg hrejected, haccepted, if_true, Redirect.modifySlot_same]
      exact .answered hempty rfl hsubmits.1.2.symm rfl rfl rfl rfl
    · simp only [RdpSide.receive, if_neg hrejected, hrefused, Bool.false_eq_true, if_false]
      exact .refl _ _

/-- Packets of the microphone are not in the camera's place. -/
theorem submitPcm_plain {generation : UInt64} {data : Bytes} (c : CaptureSlot) (r : RdpSide) :
    Plain c r c (r.receive (.submitAudioInputPcm session generation data)).1 := by
  refine .of_mailbox ?_
  unfold MediaMailbox.tryEnqueueAudioPcm
  split <;> rfl

/-- Nothing of the camera changes but the request. -/
theorem Plain.of_slot {c c' : CaptureSlot} {r : RdpSide} (hsession : c'.session = c.session)
    (hstreaming : c'.cameraStreaming = c.cameraStreaming)
    (hgeneration : c'.cameraGeneration = c.cameraGeneration)
    (hcredit : c'.cameraCredit = c.cameraCredit)
    (hrequested : r.desired = true → c'.cameraAvailableRequested = c.cameraAvailableRequested) :
    Plain c r c' r :=
  ⟨hsession, hstreaming, hgeneration, rfl, rfl, rfl, fun h => ⟨h, hrequested h⟩,
    fun y hy => .inl ⟨y, hy, rfl⟩, fun x hx => ⟨x, hx, rfl⟩, fun h => .inl (by rwa [hcredit])⟩

theorem failCredit_none {generation : Nat} (h : r.failCreditCall i generation = none)
    (accepted : Bool) : r.failCredit i generation accepted = r := by
  rw [Redirect.failCredit, h]
  rfl

/-- A plain step of the slot that makes no call. -/
theorem exec_silent {rdp : RdpSide} (hm : isPlain m = true) (hslot : slotOf m = some i)
    (hcall : r.call m = none) (hdesired : rdp.desired = true → (r.slots i).session = some session)
    (answer : Bool) : Plain (r.slots i) rdp ((r.exec m answer).slots i) rdp := by
  cases m with
  | failCredit j generation =>
    simp only [Redirect.exec, failCredit_none hcall]
    exact .refl _ _
  | closeGate | openGate | gateFollows | submitPcm => exact .refl _ _
  | forgetAvailability j =>
    obtain rfl := Option.some.inj hslot
    simp only [Redirect.exec, Redirect.modifySlot_same]
    refine .of_slot rfl rfl rfl rfl fun hwanted => ?_
    simp only [Redirect.call, hdesired hwanted] at hcall
    split at hcall
    · cases hcall
    · rename_i hrequested
      exact (Bool.eq_false_iff.2 hrequested).symm
  | startAudio j generation framesPerPacket =>
    obtain rfl := Option.some.inj hslot
    simp only [Redirect.exec, Redirect.modifySlot_same]
    exact .of_slot rfl rfl rfl rfl fun _ => rfl
  | stopAudio j generation =>
    obtain rfl := Option.some.inj hslot
    simp only [Redirect.exec]
    split
    · rw [Redirect.modifySlot_same]
      exact .of_slot rfl rfl rfl rfl fun _ => rfl
    · exact .refl _ _
  | submitH264 j =>
    simp only [Redirect.exec, hcall, Option.isSome_none, Bool.false_eq_true, if_false]
    exact .refl _ _
  | failRejected j generation =>
    simp only [Redirect.exec]
    split
    · rename_i hfailed
      simp only [Redirect.call, if_pos hfailed] at hcall
      rw [failCredit_none hcall]
      exact .refl _ _
    · exact .refl _ _
  | publishForeground | setPhysical | applyConfig => cases hslot
  | _ => cases hm

/-- A plain step of the slot with its call. -/
theorem exec_calling {call : RdpCall} (hm : isPlain m = true) (hslot : slotOf m = some i)
    (hcall : s.capture.shared.redirect.call m = some call) (hsession : callee call = session) :
    Plain (s.capture.shared.redirect.slots i) (s.rdp session)
      ((s.capture.shared.redirect.exec m ((s.rdp session).receive call).2).slots i)
      ((s.rdp session).receive call).1 := by
  cases m with
  | failCredit j generation =>
    obtain rfl := Option.some.inj hslot
    exact failCredit_plain hcall hsession
  | closeGate j | openGate j | gateFollows j =>
    obtain rfl := Option.some.inj hslot
    obtain ⟨other, -, rfl⟩ := Option.map_eq_some_iff.1 hcall
    exact .of_mailbox (setCaptureActive_kept _ _)
  | forgetAvailability j =>
    obtain rfl := Option.some.inj hslot
    simp only [Redirect.call] at hcall
    split at hcall
    · obtain ⟨other, -, rfl⟩ := Option.map_eq_some_iff.1 hcall
      simp only [Redirect.exec, Redirect.modifySlot_same]
      exact ⟨rfl, rfl, rfl, rfl, rfl, rfl, fun h => (by cases h), fun y hy => .inl ⟨y, hy, rfl⟩,
        fun x hx => ⟨x, hx, rfl⟩, .inl⟩
    · cases hcall
  | submitH264 j =>
    obtain rfl := Option.some.inj hslot
    exact submitH264_plain hcall hsession
  | failRejected j generation =>
    obtain rfl := Option.some.inj hslot
    simp only [Redirect.call] at hcall
    split at hcall
    · rename_i hfailed
      simp only [Redirect.exec, if_pos hfailed]
      exact failCredit_plain hcall hsession
    · cases hcall
  | submitPcm j target data =>
    simp only [Redirect.call] at hcall
    split at hcall
    · obtain rfl := Option.some.inj hcall
      exact submitPcm_plain _ _
    · cases hcall
  | startAudio | stopAudio => cases hcall
  | publishForeground | setPhysical | applyConfig => cases hslot
  | _ => cases hm

/-- A small step that is plain for the slot it is about. -/
theorem exec_plain (hm : isPlain m = true)
    (hworker : ∀ other, (s.capture.shared.redirect.slots i).session = some other →
      other = session)
    (hapart : ∀ j, (s.capture.shared.redirect.slots j).session = some session → j = i)
    (hdesired : (s.rdp session).desired = true →
      (s.capture.shared.redirect.slots i).session = some session) :
    Plain (s.capture.shared.redirect.slots i) (s.rdp session)
      ((s.exec m).capture.shared.redirect.slots i) ((s.exec m).rdp session) := by
  by_cases hslot : slotOf m = some i
  · cases hcall : s.capture.shared.redirect.call m with
    | none =>
      rw [exec_rdp_none hcall, exec_shared]
      exact exec_silent hm hslot hcall hdesired _
    | some call =>
      obtain ⟨j, hj, hsession⟩ := call_callee hcall
      obtain rfl : i = j := Option.some.inj (hslot.symm.trans hj)
      have hcallee := hworker _ hsession
      have hanswer : answerOf s m = ((s.rdp session).receive call).2 := by
        unfold answerOf
        rw [hcall]
        dsimp only
        rw [hcallee]
      rw [exec_rdp_some hcall hcallee, exec_shared, hanswer]
      exact exec_calling hm hslot hcall hcallee
  · obtain ⟨hsame, hrdp⟩ := exec_elsewhere hslot hapart
    rw [hrdp, hsame]
    exact .refl _ _

end exec

end Lgnome.Camera
