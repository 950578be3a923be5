import Mathlib.Algebra.Group.Nat.Defs
import Lgnome.Transition.Machine

/-!
# The media mailbox

Camera and microphone submissions wait here for the RDP worker. Every method
holds the mailbox mutex for its whole body, so it is one function of the
mailbox; a poisoned mutex is not modelled. Frame bytes are opaque to the
mailbox and their type is a parameter. Only the capture epoch is computed with,
so only it carries its width.
-/
namespace Lgnome.Media

def audioInputQueueDepth : Nat := 8

/-- `u64::wrapping_add`. -/
def wrappingAdd64 (a b : Nat) : Nat := (a + b) % 2 ^ 64

inductive CameraSubmission (δ : Type*) where
  | h264 (generation : Nat) (data : δ) (captureEpoch : Nat)
  | error (generation : Nat) (captureEpoch : Nat)
  | deferredError (generation : Nat)
  deriving DecidableEq, Repr

structure AudioInputSubmission (δ : Type*) where
  generation : Nat
  data : δ
  captureEpoch : Nat
  deriving DecidableEq, Repr

structure MediaMailbox (δ : Type*) where
  captureActive : Bool := false
  captureEpoch : Nat := 0
  camera : Option (CameraSubmission δ) := none
  audioInput : List (AudioInputSubmission δ) := []
  outboundPayloads : Nat := 0
  deriving DecidableEq, Repr

structure PendingMediaBatch (δ : Type*) where
  camera : Option (CameraSubmission δ)
  audioInput : List (AudioInputSubmission δ)
  deriving DecidableEq, Repr

variable {δ : Type*}

namespace CameraSubmission

def generation : CameraSubmission δ → Nat
  | .h264 g _ _ => g
  | .error g _ => g
  | .deferredError g => g

end CameraSubmission

namespace MediaMailbox

/-- The inner `set_capture_active`: a real change opens a new epoch and clears
the microphone queue, and a close keeps only the duty to answer. -/
def setCaptureActive (m : MediaMailbox δ) (active : Bool) : MediaMailbox δ × Bool :=
  if m.captureActive = active then (m, false)
  else
    ({ m with
        captureActive := active
        captureEpoch := wrappingAdd64 m.captureEpoch 1
        audioInput := []
        camera := if active then m.camera
          else m.camera.map fun submission => .deferredError submission.generation },
      true)

def activeEpoch (m : MediaMailbox δ) : Option Nat :=
  if m.captureActive then some m.captureEpoch else none

def epochIsActive (m : MediaMailbox δ) (captureEpoch : Nat) : Bool :=
  m.captureActive && m.captureEpoch == captureEpoch

def tryEnqueueCameraH264 (m : MediaMailbox δ) (generation : Nat) (data : δ) :
    MediaMailbox δ × Bool :=
  match m.activeEpoch with
  | none => (m, false)
  | some captureEpoch =>
    if m.camera.isSome then (m, false)
    else ({ m with camera := some (.h264 generation data captureEpoch) }, true)

def tryEnqueueCameraError (m : MediaMailbox δ) (generation : Nat) : MediaMailbox δ × Bool :=
  match m.activeEpoch with
  | none => (m, false)
  | some captureEpoch =>
    if m.camera.isSome then (m, false)
    else ({ m with camera := some (.error generation captureEpoch) }, true)

/-- The oldest packet makes room for the newest one. -/
def tryEnqueueAudioPcm (m : MediaMailbox δ) (generation : Nat) (data : δ) :
    MediaMailbox δ × Bool :=
  match m.activeEpoch with
  | none => (m, false)
  | some captureEpoch =>
    let queue := if m.audioInput.length = audioInputQueueDepth then m.audioInput.tail
      else m.audioInput
    ({ m with audioInput := queue ++ [⟨generation, data, captureEpoch⟩] }, true)

def takePending (m : MediaMailbox δ) : MediaMailbox δ × PendingMediaBatch δ :=
  ({ m with camera := none, audioInput := [] }, ⟨m.camera, m.audioInput⟩)

/-- The submission that may be written on a live gate: itself in its own
epoch, and a sample error of the present epoch otherwise. -/
def revalidate (m : MediaMailbox δ) (submission : CameraSubmission δ) :
    Option (CameraSubmission δ) :=
  match submission with
  | .h264 generation data captureEpoch =>
    if m.epochIsActive captureEpoch then some (.h264 generation data captureEpoch)
    else m.activeEpoch.map fun epoch => .error generation epoch
  | .error generation captureEpoch =>
    if m.epochIsActive captureEpoch then some (.error generation captureEpoch)
    else m.activeEpoch.map fun epoch => .error generation epoch
  | .deferredError generation => m.activeEpoch.map fun epoch => .error generation epoch

/-- `some` carries the submission to write together with one send permit; on a
closed gate the duty to answer goes back into an empty mailbox. -/
def prepareCameraSend (m : MediaMailbox δ) (submission : CameraSubmission δ) :
    MediaMailbox δ × Option (CameraSubmission δ) :=
  match m.revalidate submission with
  | some prepared => ({ m with outboundPayloads := m.outboundPayloads + 1 }, some prepared)
  | none =>
    (if m.camera.isNone then { m with camera := some (.deferredError submission.generation) }
      else m, none)

/-- `some` carries the generation and data to write together with one send permit. -/
def prepareAudioSend (m : MediaMailbox δ) (submission : AudioInputSubmission δ) :
    MediaMailbox δ × Option (Nat × δ) :=
  if m.epochIsActive submission.captureEpoch then
    ({ m with outboundPayloads := m.outboundPayloads + 1 },
      some (submission.generation, submission.data))
  else (m, none)

def discardCameraSubmission (m : MediaMailbox δ) : MediaMailbox δ × Bool :=
  ({ m with camera := none }, m.camera.isSome)

def captureIsActive (m : MediaMailbox δ) : Bool := m.captureActive

/-- `CaptureSendPermit::drop`, with its saturating subtraction. -/
def dropPermit (m : MediaMailbox δ) : MediaMailbox δ :=
  { m with outboundPayloads := m.outboundPayloads - 1 }

section Lemmas

variable (m : MediaMailbox δ)

@[simp] theorem setCaptureActive_active (b : Bool) :
    (m.setCaptureActive b).1.captureActive = b := by
  unfold setCaptureActive
  split <;> simp_all

@[simp] theorem setCaptureActive_outbound (b : Bool) :
    (m.setCaptureActive b).1.outboundPayloads = m.outboundPayloads := by
  unfold setCaptureActive
  split <;> rfl

theorem setCaptureActive_epoch (b : Bool) :
    (m.setCaptureActive b).1.captureEpoch =
      if (m.setCaptureActive b).2 then wrappingAdd64 m.captureEpoch 1 else m.captureEpoch := by
  unfold setCaptureActive
  split <;> rfl

/-- A packet found in the queue after a setter call was in it before. -/
theorem mem_setCaptureActive_audioInput {b : Bool} {p : AudioInputSubmission δ}
    (h : p ∈ (m.setCaptureActive b).1.audioInput) : p ∈ m.audioInput := by
  unfold setCaptureActive at h
  split at h
  · exact h
  · cases h

/-- A frame found in the mailbox after a transition was in it before. -/
theorem setCaptureActive_camera_h264 {b : Bool} {g e : Nat} {d : δ}
    (h : (m.setCaptureActive b).1.camera = some (.h264 g d e)) :
    m.camera = some (.h264 g d e) := by
  unfold setCaptureActive at h
  split at h
  · exact h
  · cases b with
    | true => simpa using h
    | false => cases hc : m.camera <;> simp [hc] at h

/-- An accepted frame fills the empty mailbox of an active gate; a refusal changes nothing. -/
theorem tryEnqueueCameraH264_cases (g : Nat) (d : δ) :
    (m.captureActive = true ∧ m.camera = none ∧ m.tryEnqueueCameraH264 g d =
        ({ m with camera := some (.h264 g d m.captureEpoch) }, true)) ∨
      m.tryEnqueueCameraH264 g d = (m, false) := by
  unfold tryEnqueueCameraH264 activeEpoch
  cases ha : m.captureActive with
  | false => right; simp
  | true =>
    cases hc : m.camera with
    | some c => right; simp
    | none => left; simp

theorem tryEnqueueCameraError_cases (g : Nat) :
    (m.captureActive = true ∧ m.camera = none ∧ m.tryEnqueueCameraError g =
        ({ m with camera := some (.error g m.captureEpoch) }, true)) ∨
      m.tryEnqueueCameraError g = (m, false) := by
  unfold tryEnqueueCameraError activeEpoch
  cases ha : m.captureActive with
  | false => right; simp
  | true =>
    cases hc : m.camera with
    | some c => right; simp
    | none => left; simp

/-- An accepted packet goes to the back; what stays in front was queued before. -/
theorem tryEnqueueAudioPcm_cases (g : Nat) (d : δ) :
    (∃ queue, m.captureActive = true ∧ (∀ p ∈ queue, p ∈ m.audioInput) ∧
        m.tryEnqueueAudioPcm g d =
          ({ m with audioInput := queue ++ [⟨g, d, m.captureEpoch⟩] }, true)) ∨
      m.tryEnqueueAudioPcm g d = (m, false) := by
  unfold tryEnqueueAudioPcm activeEpoch
  cases ha : m.captureActive with
  | false => right; simp
  | true =>
    left
    refine ⟨_, rfl, ?_, rfl⟩
    intro p hp
    split at hp
    · exact List.mem_of_mem_tail hp
    · exact hp

theorem revalidate_some {submission prepared : CameraSubmission δ}
    (h : m.revalidate submission = some prepared) : m.captureActive = true := by
  cases ha : m.captureActive with
  | true => rfl
  | false => cases submission <;> simp [revalidate, epochIsActive, activeEpoch, ha] at h

/-- Only a frame of the present epoch is written as a frame. -/
theorem revalidate_h264 {submission : CameraSubmission δ} {g e : Nat} {d : δ}
    (h : m.revalidate submission = some (.h264 g d e)) :
    submission = .h264 g d e ∧ e = m.captureEpoch := by
  cases submission with
  | h264 g' d' e' =>
    simp only [revalidate] at h
    split at h
    · rename_i he
      obtain ⟨rfl, rfl, rfl⟩ := CameraSubmission.h264.inj (Option.some.inj h)
      simp only [epochIsActive, Bool.and_eq_true, beq_iff_eq] at he
      exact ⟨rfl, he.2.symm⟩
    · simp at h
  | error g' e' =>
    simp only [revalidate] at h
    split at h <;> simp at h
  | deferredError g' => simp [revalidate] at h

/-- A submission of another epoch is written as a sample error or not at all. -/
theorem revalidate_stale {g e : Nat} {d : δ} (he : e ≠ m.captureEpoch) :
    m.revalidate (.h264 g d e) = m.activeEpoch.map fun epoch => .error g epoch := by
  have hn : m.epochIsActive e = false := by
    simp [epochIsActive, Ne.symm he]
  simp [revalidate, hn]

theorem prepareCameraSend_result (submission : CameraSubmission δ) :
    (m.prepareCameraSend submission).2 = m.revalidate submission := by
  unfold prepareCameraSend
  split
  · rename_i p hp; exact hp.symm
  · rename_i hp; exact hp.symm

/-- Preparing never places a frame in the mailbox. -/
theorem prepareCameraSend_camera_h264 {submission : CameraSubmission δ} {g e : Nat} {d : δ}
    (h : (m.prepareCameraSend submission).1.camera = some (.h264 g d e)) :
    m.camera = some (.h264 g d e) := by
  unfold prepareCameraSend at h
  split at h
  · exact h
  · split at h
    · simp at h
    · exact h

@[simp] theorem prepareCameraSend_audioInput (submission : CameraSubmission δ) :
    (m.prepareCameraSend submission).1.audioInput = m.audioInput := by
  unfold prepareCameraSend
  split
  · rfl
  · split <;> rfl

@[simp] theorem prepareCameraSend_captureActive (submission : CameraSubmission δ) :
    (m.prepareCameraSend submission).1.captureActive = m.captureActive := by
  unfold prepareCameraSend
  split
  · rfl
  · split <;> rfl

@[simp] theorem prepareCameraSend_captureEpoch (submission : CameraSubmission δ) :
    (m.prepareCameraSend submission).1.captureEpoch = m.captureEpoch := by
  unfold prepareCameraSend
  split
  · rfl
  · split <;> rfl

theorem prepareCameraSend_outbound (submission : CameraSubmission δ) :
    (m.prepareCameraSend submission).1.outboundPayloads =
      m.outboundPayloads + if (m.prepareCameraSend submission).2.isSome then 1 else 0 := by
  unfold prepareCameraSend
  split
  · rfl
  · split <;> rfl

@[simp] theorem prepareAudioSend_captureActive (submission : AudioInputSubmission δ) :
    (m.prepareAudioSend submission).1.captureActive = m.captureActive := by
  unfold prepareAudioSend
  split <;> rfl

@[simp] theorem prepareAudioSend_captureEpoch (submission : AudioInputSubmission δ) :
    (m.prepareAudioSend submission).1.captureEpoch = m.captureEpoch := by
  unfold prepareAudioSend
  split <;> rfl

@[simp] theorem prepareAudioSend_camera (submission : AudioInputSubmission δ) :
    (m.prepareAudioSend submission).1.camera = m.camera := by
  unfold prepareAudioSend
  split <;> rfl

@[simp] theorem prepareAudioSend_audioInput (submission : AudioInputSubmission δ) :
    (m.prepareAudioSend submission).1.audioInput = m.audioInput := by
  unfold prepareAudioSend
  split <;> rfl

theorem prepareAudioSend_outbound (submission : AudioInputSubmission δ) :
    (m.prepareAudioSend submission).1.outboundPayloads =
      m.outboundPayloads + if (m.prepareAudioSend submission).2.isSome then 1 else 0 := by
  unfold prepareAudioSend
  split <;> rfl

/-- Only a packet of the present epoch of an active gate is written. -/
theorem prepareAudioSend_some {submission : AudioInputSubmission δ} {p : Nat × δ}
    (h : (m.prepareAudioSend submission).2 = some p) :
    m.captureActive = true ∧ submission.captureEpoch = m.captureEpoch ∧
      p = (submission.generation, submission.data) := by
  unfold prepareAudioSend at h
  split at h
  · rename_i he
    simp only [epochIsActive, Bool.and_eq_true, beq_iff_eq] at he
    exact ⟨he.1, he.2.symm, (Option.some.inj h).symm⟩
  · cases h

theorem prepareAudioSend_stale {submission : AudioInputSubmission δ}
    (he : submission.captureEpoch ≠ m.captureEpoch) :
    (m.prepareAudioSend submission).2 = none := by
  have hn : m.epochIsActive submission.captureEpoch = false := by
    simp [epochIsActive, Ne.symm he]
  simp [prepareAudioSend, hn]

end Lemmas

end MediaMailbox

end Lgnome.Media
