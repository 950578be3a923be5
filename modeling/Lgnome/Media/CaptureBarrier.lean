import Mathlib.Data.Nat.ModEq
import Lgnome.Media.Mailbox

/-!
# The capture privacy barrier

The threads around one media gate as a guarded machine: a setter (at most one
holds the transition mutex), capture threads that enqueue, and the RDP worker
with the submissions it has taken and the send permits it holds. A close that
finds payload writes in flight waits with the mailbox mutex released, so every
other step may come before its wake-up.
-/
namespace Lgnome.Media

open Lgnome.Transition

variable {δ : Type*}

/-- `closing` holds the pending result of the close that waits on `outbound_idle`. -/
structure GateState (δ : Type*) where
  mailbox : MediaMailbox δ := {}
  closing : Option Bool := none
  heldCamera : List (CameraSubmission δ) := []
  heldAudio : List (AudioInputSubmission δ) := []
  permits : Nat := 0
  deriving DecidableEq, Repr

inductive GateAction (δ : Type*) where
  | setCaptureActive (active : Bool)
  | closeWakes
  | tryEnqueueCameraH264 (generation : Nat) (data : δ)
  | tryEnqueueCameraError (generation : Nat)
  | tryEnqueueAudioPcm (generation : Nat) (data : δ)
  | takePending
  | prepareCameraSend (index : Nat)
  | prepareAudioSend (index : Nat)
  | discardCameraSubmission
  | dropPermit
  | abandonCamera (index : Nat)
  | abandonAudio (index : Nat)
  deriving DecidableEq, Repr

/-- What a step returns to its caller. A prepare also names what it consumed. -/
inductive GateResult (δ : Type*) where
  | opened (changed : Bool)
  | closed (changed : Bool)
  | closeWaits (changed : Bool)
  | enqueued (accepted : Bool)
  | batch (pending : PendingMediaBatch δ)
  | camera (submission : CameraSubmission δ) (prepared : Option (CameraSubmission δ))
  | audio (submission : AudioInputSubmission δ) (prepared : Option (Nat × δ))
  | discarded (hadSubmission : Bool)
  | done
  deriving DecidableEq, Repr

abbrev GateEvent (δ : Type*) := GateAction δ × GateResult δ

namespace GateState

def step (s : GateState δ) : GateAction δ → Option (GateState δ × GateResult δ)
  | .setCaptureActive active =>
    if s.closing.isSome then none
    else
      let r := s.mailbox.setCaptureActive active
      if active then some ({ s with mailbox := r.1 }, .opened r.2)
      else if r.1.outboundPayloads = 0 then some ({ s with mailbox := r.1 }, .closed r.2)
      else some ({ s with mailbox := r.1, closing := some r.2 }, .closeWaits r.2)
  | .closeWakes =>
    match s.closing with
    | none => none
    | some changed =>
      if s.mailbox.outboundPayloads = 0 then some ({ s with closing := none }, .closed changed)
      else none
  | .tryEnqueueCameraH264 generation data =>
    let r := s.mailbox.tryEnqueueCameraH264 generation data
    some ({ s with mailbox := r.1 }, .enqueued r.2)
  | .tryEnqueueCameraError generation =>
    let r := s.mailbox.tryEnqueueCameraError generation
    some ({ s with mailbox := r.1 }, .enqueued r.2)
  | .tryEnqueueAudioPcm generation data =>
    let r := s.mailbox.tryEnqueueAudioPcm generation data
    some ({ s with mailbox := r.1 }, .enqueued r.2)
  | .takePending =>
    let r := s.mailbox.takePending
    some ({ s with
        mailbox := r.1
        heldCamera := s.heldCamera ++ r.2.camera.toList
        heldAudio := s.heldAudio ++ r.2.audioInput }, .batch r.2)
  | .prepareCameraSend index =>
    match s.heldCamera[index]? with
    | none => none
    | some submission =>
      let r := s.mailbox.prepareCameraSend submission
      some ({ s with
          mailbox := r.1
          heldCamera := s.heldCamera.eraseIdx index
          permits := s.permits + if r.2.isSome then 1 else 0 }, .camera submission r.2)
  | .prepareAudioSend index =>
    match s.heldAudio[index]? with
    | none => none
    | some submission =>
      let r := s.mailbox.prepareAudioSend submission
      some ({ s with
          mailbox := r.1
          heldAudio := s.heldAudio.eraseIdx index
          permits := s.permits + if r.2.isSome then 1 else 0 }, .audio submission r.2)
  | .discardCameraSubmission =>
    let r := s.mailbox.discardCameraSubmission
    some ({ s with mailbox := r.1 }, .discarded r.2)
  | .dropPermit =>
    if s.permits = 0 then none
    else some ({ s with mailbox := s.mailbox.dropPermit, permits := s.permits - 1 }, .done)
  | .abandonCamera index => some ({ s with heldCamera := s.heldCamera.eraseIdx index }, .done)
  | .abandonAudio index => some ({ s with heldAudio := s.heldAudio.eraseIdx index }, .done)

end GateState

/-- Every interleaving of the threads around one gate. -/
def mediaGate (δ : Type*) : Machine (GateState δ) (GateAction δ) (GateResult δ) where
  init := {}
  step := GateState.step

/-- The step changed the capture state and so opened a new epoch. -/
def GateEvent.isTransition : GateEvent δ → Bool
  | (.setCaptureActive _, .opened changed) => changed
  | (.setCaptureActive _, .closed changed) => changed
  | (.setCaptureActive _, .closeWaits changed) => changed
  | _ => false

def transitions (tr : List (GateEvent δ)) : Nat := tr.countP GateEvent.isTransition

/-- The step issued a send permit, for a payload or for a sample error. -/
def GateEvent.issuesPermit : GateEvent δ → Bool
  | (_, .camera _ prepared) => prepared.isSome
  | (_, .audio _ prepared) => prepared.isSome
  | _ => false

/-- A frame sits in the mailbox or in the worker's hands. -/
def GateState.HasFrame (s : GateState δ) (g : Nat) (d : δ) (e : Nat) : Prop :=
  s.mailbox.camera = some (.h264 g d e) ∨ .h264 g d e ∈ s.heldCamera

/-- A packet sits in the mailbox or in the worker's hands. -/
def GateState.HasPacket (s : GateState δ) (p : AudioInputSubmission δ) : Prop :=
  p ∈ s.mailbox.audioInput ∨ p ∈ s.heldAudio

/-- The record holds the accepted enqueue of this frame, in the epoch it carries. -/
def FrameQueued (tr : List (GateEvent δ)) (g : Nat) (d : δ) (e : Nat) : Prop :=
  ∃ pre post, tr = pre ++ (.tryEnqueueCameraH264 g d, .enqueued true) :: post ∧
    e = transitions pre % 2 ^ 64

def PacketQueued (tr : List (GateEvent δ)) (p : AudioInputSubmission δ) : Prop :=
  ∃ pre post, tr = pre ++ (.tryEnqueueAudioPcm p.generation p.data, .enqueued true) :: post ∧
    p.captureEpoch = transitions pre % 2 ^ 64

/-- Everything a step can do, one constructor for each way it can go. -/
inductive GateStep (s : GateState δ) : GateAction δ → GateResult δ → GateState δ → Prop
  | opens (hfree : s.closing = none) :
      GateStep s (.setCaptureActive true) (.opened (s.mailbox.setCaptureActive true).2)
        { s with mailbox := (s.mailbox.setCaptureActive true).1 }
  | closes (hfree : s.closing = none)
      (hidle : (s.mailbox.setCaptureActive false).1.outboundPayloads = 0) :
      GateStep s (.setCaptureActive false) (.closed (s.mailbox.setCaptureActive false).2)
        { s with mailbox := (s.mailbox.setCaptureActive false).1 }
  | waits (hfree : s.closing = none) :
      GateStep s (.setCaptureActive false) (.closeWaits (s.mailbox.setCaptureActive false).2)
        { s with
          mailbox := (s.mailbox.setCaptureActive false).1
          closing := some (s.mailbox.setCaptureActive false).2 }
  | wakes {changed : Bool} (hwait : s.closing = some changed)
      (hidle : s.mailbox.outboundPayloads = 0) :
      GateStep s .closeWakes (.closed changed) { s with closing := none }
  | enqueuesH264 (g : Nat) (d : δ) :
      GateStep s (.tryEnqueueCameraH264 g d) (.enqueued (s.mailbox.tryEnqueueCameraH264 g d).2)
        { s with mailbox := (s.mailbox.tryEnqueueCameraH264 g d).1 }
  | enqueuesError (g : Nat) :
      GateStep s (.tryEnqueueCameraError g) (.enqueued (s.mailbox.tryEnqueueCameraError g).2)
        { s with mailbox := (s.mailbox.tryEnqueueCameraError g).1 }
  | enqueuesPcm (g : Nat) (d : δ) :
      GateStep s (.tryEnqueueAudioPcm g d) (.enqueued (s.mailbox.tryEnqueueAudioPcm g d).2)
        { s with mailbox := (s.mailbox.tryEnqueueAudioPcm g d).1 }
  | takes :
      GateStep s .takePending (.batch s.mailbox.takePending.2)
        { s with
          mailbox := s.mailbox.takePending.1
          heldCamera := s.heldCamera ++ s.mailbox.takePending.2.camera.toList
          heldAudio := s.heldAudio ++ s.mailbox.takePending.2.audioInput }
  | preparesCamera {index : Nat} {submission : CameraSubmission δ}
      (hheld : s.heldCamera[index]? = some submission) :
      GateStep s (.prepareCameraSend index)
        (.camera submission (s.mailbox.prepareCameraSend submission).2)
        { s with
          mailbox := (s.mailbox.prepareCameraSend submission).1
          heldCamera := s.heldCamera.eraseIdx index
          permits := s.permits +
            if (s.mailbox.prepareCameraSend submission).2.isSome then 1 else 0 }
  | preparesAudio {index : Nat} {submission : AudioInputSubmission δ}
      (hheld : s.heldAudio[index]? = some submission) :
      GateStep s (.prepareAudioSend index)
        (.audio submission (s.mailbox.prepareAudioSend submission).2)
        { s with
          mailbox := (s.mailbox.prepareAudioSend submission).1
          heldAudio := s.heldAudio.eraseIdx index
          permits := s.permits +
            if (s.mailbox.prepareAudioSend submission).2.isSome then 1 else 0 }
  | discards :
      GateStep s .discardCameraSubmission (.discarded s.mailbox.discardCameraSubmission.2)
        { s with mailbox := s.mailbox.discardCameraSubmission.1 }
  | dropsPermit :
      GateStep s .dropPermit .done
        { s with mailbox := s.mailbox.dropPermit, permits := s.permits - 1 }
  | abandonsCamera (index : Nat) :
      GateStep s (.abandonCamera index) .done
        { s with heldCamera := s.heldCamera.eraseIdx index }
  | abandonsAudio (index : Nat) :
      GateStep s (.abandonAudio index) .done
        { s with heldAudio := s.heldAudio.eraseIdx index }

section Steps

variable {s t : GateState δ} {a : GateAction δ} {o : GateResult δ}

theorem step_cases (h : s.step a = some (t, o)) : GateStep s a o t := by
  cases a with
  | setCaptureActive active =>
    simp only [GateState.step] at h
    cases hw : s.closing with
    | some c => simp [hw] at h
    | none =>
      simp only [hw, Option.isSome_none, Bool.false_eq_true, if_false] at h
      rw [← hw] at h
      cases active with
      | true => cases h; exact .opens hw
      | false =>
        simp only [Bool.false_eq_true, if_false] at h
        split at h
        · rename_i hz
          cases h
          exact .closes hw hz
        · cases h
          exact .waits hw
  | closeWakes =>
    simp only [GateState.step] at h
    split at h
    · cases h
    · rename_i hw
      split at h
      · rename_i hz
        cases h
        exact .wakes hw hz
      · cases h
  | tryEnqueueCameraH264 g d => cases h; exact .enqueuesH264 g d
  | tryEnqueueCameraError g => cases h; exact .enqueuesError g
  | tryEnqueueAudioPcm g d => cases h; exact .enqueuesPcm g d
  | takePending => cases h; exact .takes
  | prepareCameraSend index =>
    simp only [GateState.step] at h
    split at h
    · cases h
    · rename_i hheld
      cases h
      exact .preparesCamera hheld
  | prepareAudioSend index =>
    simp only [GateState.step] at h
    split at h
    · cases h
    · rename_i hheld
      cases h
      exact .preparesAudio hheld
  | discardCameraSubmission => cases h; exact .discards
  | dropPermit =>
    simp only [GateState.step] at h
    split at h
    · cases h
    · cases h
      exact .dropsPermit
  | abandonCamera index => cases h; exact .abandonsCamera index
  | abandonAudio index => cases h; exact .abandonsAudio index

/-- The epoch counter moves with the transitions and with nothing else. -/
theorem step_epoch (h : s.step a = some (t, o)) :
    t.mailbox.captureEpoch =
      if GateEvent.isTransition (a, o) then wrappingAdd64 s.mailbox.captureEpoch 1
      else s.mailbox.captureEpoch := by
  cases step_cases h with
  | opens => exact s.mailbox.setCaptureActive_epoch true
  | closes => exact s.mailbox.setCaptureActive_epoch false
  | waits => exact s.mailbox.setCaptureActive_epoch false
  | enqueuesH264 g d =>
    rcases s.mailbox.tryEnqueueCameraH264_cases g d with ⟨-, -, he⟩ | he <;> rw [he] <;> rfl
  | enqueuesError g =>
    rcases s.mailbox.tryEnqueueCameraError_cases g with ⟨-, -, he⟩ | he <;> rw [he] <;> rfl
  | enqueuesPcm g d =>
    rcases s.mailbox.tryEnqueueAudioPcm_cases g d with ⟨_, -, -, he⟩ | he <;> rw [he] <;> rfl
  | preparesCamera => exact s.mailbox.prepareCameraSend_captureEpoch _
  | preparesAudio => exact s.mailbox.prepareAudioSend_captureEpoch _
  | _ => rfl

/-- A frame that is present after a step was present before it, unless the step
is its own accepted enqueue. -/
theorem step_frame (h : s.step a = some (t, o)) {g e : Nat} {d : δ} (hf : t.HasFrame g d e) :
    s.HasFrame g d e ∨ (a = .tryEnqueueCameraH264 g d ∧ o = .enqueued true ∧
      e = s.mailbox.captureEpoch) := by
  cases step_cases h with
  | opens => exact .inl (hf.imp_left (s.mailbox.setCaptureActive_camera_h264 ·))
  | closes => exact .inl (hf.imp_left (s.mailbox.setCaptureActive_camera_h264 ·))
  | waits => exact .inl (hf.imp_left (s.mailbox.setCaptureActive_camera_h264 ·))
  | enqueuesH264 g' d' =>
    rcases s.mailbox.tryEnqueueCameraH264_cases g' d' with ⟨-, -, he⟩ | he
    · rw [he] at hf ⊢
      rcases hf with hc | hh
      · obtain ⟨rfl, rfl, rfl⟩ := CameraSubmission.h264.inj (Option.some.inj hc)
        exact .inr ⟨rfl, rfl, rfl⟩
      · exact .inl (.inr hh)
    · rw [he] at hf
      exact .inl hf
  | enqueuesError g' =>
    left
    rcases s.mailbox.tryEnqueueCameraError_cases g' with ⟨-, -, he⟩ | he
    · rw [he] at hf
      exact .inr (hf.resolve_left (by simp))
    · rw [he] at hf
      exact hf
  | enqueuesPcm g' d' =>
    left
    rcases s.mailbox.tryEnqueueAudioPcm_cases g' d' with ⟨_, -, -, he⟩ | he
    all_goals rw [he] at hf; exact hf
  | takes =>
    left
    rcases hf with hc | hh
    · cases hc
    · rcases List.mem_append.mp hh with hh | hh
      · exact .inr hh
      · exact .inl (Option.mem_toList.mp hh)
  | preparesCamera =>
    exact .inl (hf.imp (s.mailbox.prepareCameraSend_camera_h264 ·) List.mem_of_mem_eraseIdx)
  | preparesAudio => exact .inl (hf.imp_left fun hc => by simpa using hc)
  | discards => exact .inl (.inr (hf.resolve_left (by simp [MediaMailbox.discardCameraSubmission])))
  | abandonsCamera index => exact .inl (hf.imp_right List.mem_of_mem_eraseIdx)
  | wakes => exact .inl hf
  | dropsPermit => exact .inl hf
  | abandonsAudio => exact .inl hf

/-- The same for a microphone packet. -/
theorem step_packet (h : s.step a = some (t, o)) {p : AudioInputSubmission δ}
    (hp : t.HasPacket p) :
    s.HasPacket p ∨ (a = .tryEnqueueAudioPcm p.generation p.data ∧ o = .enqueued true ∧
      p.captureEpoch = s.mailbox.captureEpoch) := by
  cases step_cases h with
  | opens => exact .inl (hp.imp_left (s.mailbox.mem_setCaptureActive_audioInput ·))
  | closes => exact .inl (hp.imp_left (s.mailbox.mem_setCaptureActive_audioInput ·))
  | waits => exact .inl (hp.imp_left (s.mailbox.mem_setCaptureActive_audioInput ·))
  | enqueuesH264 g' d' =>
    left
    rcases s.mailbox.tryEnqueueCameraH264_cases g' d' with ⟨-, -, he⟩ | he
    all_goals rw [he] at hp; exact hp
  | enqueuesError g' =>
    left
    rcases s.mailbox.tryEnqueueCameraError_cases g' with ⟨-, -, he⟩ | he
    all_goals rw [he] at hp; exact hp
  | enqueuesPcm g' d' =>
    rcases s.mailbox.tryEnqueueAudioPcm_cases g' d' with ⟨queue, -, hq, he⟩ | he
    · rw [he] at hp ⊢
      rcases hp with hp | hp
      · rcases List.mem_append.mp hp with hp | hp
        · exact .inl (.inl (hq p hp))
        · obtain rfl := List.mem_singleton.mp hp
          exact .inr ⟨rfl, rfl, rfl⟩
      · exact .inl (.inr hp)
    · rw [he] at hp
      exact .inl hp
  | takes =>
    left
    rcases hp with hp | hp
    · cases hp
    · rcases List.mem_append.mp hp with hp | hp
      · exact .inr hp
      · exact .inl hp
  | preparesCamera => exact .inl (hp.imp_left fun hq => by simpa using hq)
  | preparesAudio =>
    exact .inl (hp.imp (fun hq => by simpa using hq) List.mem_of_mem_eraseIdx)
  | abandonsAudio index => exact .inl (hp.imp_right List.mem_of_mem_eraseIdx)
  | wakes => exact .inl hp
  | discards => exact .inl hp
  | dropsPermit => exact .inl hp
  | abandonsCamera => exact .inl hp

/-- The capture state a step leaves behind. Only the setter writes it. -/
def GateAction.activeAfter (active : Bool) : GateAction δ → Bool
  | .setCaptureActive b => b
  | _ => active

theorem step_active (h : s.step a = some (t, o)) :
    t.mailbox.captureActive = a.activeAfter s.mailbox.captureActive := by
  cases step_cases h with
  | opens => exact s.mailbox.setCaptureActive_active true
  | closes => exact s.mailbox.setCaptureActive_active false
  | waits => exact s.mailbox.setCaptureActive_active false
  | enqueuesH264 g d =>
    rcases s.mailbox.tryEnqueueCameraH264_cases g d with ⟨-, -, he⟩ | he <;> rw [he] <;> rfl
  | enqueuesError g =>
    rcases s.mailbox.tryEnqueueCameraError_cases g with ⟨-, -, he⟩ | he <;> rw [he] <;> rfl
  | enqueuesPcm g d =>
    rcases s.mailbox.tryEnqueueAudioPcm_cases g d with ⟨_, -, -, he⟩ | he <;> rw [he] <;> rfl
  | preparesCamera => exact s.mailbox.prepareCameraSend_captureActive _
  | preparesAudio => exact s.mailbox.prepareAudioSend_captureActive _
  | _ => rfl

end Steps

/-- The mailbox counts the permits that are really out, and a close that waits
has already shut the gate. -/
structure GateState.Counted (s : GateState δ) : Prop where
  outbound : s.mailbox.outboundPayloads = s.permits
  shut : s.closing ≠ none → s.mailbox.captureActive = false

section Barrier

variable {s t : GateState δ} {a : GateAction δ} {o : GateResult δ}

theorem step_outbound (hc : s.Counted) (h : s.step a = some (t, o)) :
    t.mailbox.outboundPayloads = t.permits := by
  have hp := hc.outbound
  cases step_cases h with
  | opens => exact (s.mailbox.setCaptureActive_outbound true).trans hp
  | closes => exact (s.mailbox.setCaptureActive_outbound false).trans hp
  | waits => exact (s.mailbox.setCaptureActive_outbound false).trans hp
  | enqueuesH264 g d =>
    rcases s.mailbox.tryEnqueueCameraH264_cases g d with ⟨-, -, he⟩ | he <;> rw [he] <;> exact hp
  | enqueuesError g =>
    rcases s.mailbox.tryEnqueueCameraError_cases g with ⟨-, -, he⟩ | he <;> rw [he] <;> exact hp
  | enqueuesPcm g d =>
    rcases s.mailbox.tryEnqueueAudioPcm_cases g d with ⟨_, -, -, he⟩ | he <;> rw [he] <;> exact hp
  | preparesCamera => simp only [MediaMailbox.prepareCameraSend_outbound, hp]
  | preparesAudio => simp only [MediaMailbox.prepareAudioSend_outbound, hp]
  | dropsPermit => simp only [MediaMailbox.dropPermit, hp]
  | _ => exact hp

/-- While a close waits, the setter is excluded and so nothing opens the gate. -/
theorem step_shut (hc : s.Counted) (h : s.step a = some (t, o)) (ht : t.closing ≠ none) :
    t.mailbox.captureActive = false := by
  have hact := step_active h
  cases step_cases h with
  | opens hfree => exact absurd hfree ht
  | closes => exact hact
  | waits => exact hact
  | wakes => exact absurd rfl ht
  | _ => exact hact.trans (hc.shut ht)

theorem step_counted (hc : s.Counted) (h : s.step a = some (t, o)) : t.Counted :=
  ⟨step_outbound hc h, step_shut hc h⟩

theorem run_counted {tr : List (GateEvent δ)} (hr : (mediaGate δ).Run tr s) : s.Counted :=
  hr.invariant ⟨rfl, fun h => absurd rfl h⟩ fun _ _ _ _ => step_counted

/-- A returning close leaves a shut gate and no permit outside. -/
theorem closed_idle (hc : s.Counted) {changed : Bool} (h : s.step a = some (t, .closed changed)) :
    t.mailbox.captureActive = false ∧ t.permits = 0 := by
  have ho := step_outbound hc h
  have hact := step_active h
  cases step_cases h with
  | closes _ hidle => exact ⟨hact, ho ▸ hidle⟩
  | wakes hwait hidle => exact ⟨hact.trans (hc.shut (by simp [hwait])), ho ▸ hidle⟩

/-- What a camera prepare consumed was in the worker's hands, and what it
issued is the revalidated submission. -/
theorem camera_result {submission : CameraSubmission δ} {prepared : Option (CameraSubmission δ)}
    (h : s.step a = some (t, .camera submission prepared)) :
    submission ∈ s.heldCamera ∧ prepared = s.mailbox.revalidate submission := by
  cases step_cases h with
  | preparesCamera hheld =>
    exact ⟨List.mem_of_getElem? hheld, s.mailbox.prepareCameraSend_result _⟩

theorem audio_result {submission : AudioInputSubmission δ} {prepared : Option (Nat × δ)}
    (h : s.step a = some (t, .audio submission prepared)) :
    submission ∈ s.heldAudio ∧ prepared = (s.mailbox.prepareAudioSend submission).2 := by
  cases step_cases h with
  | preparesAudio hheld => exact ⟨List.mem_of_getElem? hheld, rfl⟩

/-- A permit is issued on an active gate only. -/
theorem permit_active (h : s.step a = some (t, o)) (hp : GateEvent.issuesPermit (a, o)) :
    s.mailbox.captureActive = true := by
  cases o with
  | camera submission prepared =>
    obtain ⟨-, rfl⟩ := camera_result h
    obtain ⟨p, hr⟩ := Option.isSome_iff_exists.mp hp
    exact s.mailbox.revalidate_some hr
  | audio submission prepared =>
    obtain ⟨-, rfl⟩ := audio_result h
    obtain ⟨p, hr⟩ := Option.isSome_iff_exists.mp hp
    exact (s.mailbox.prepareAudioSend_some hr).1
  | _ => cases hp

/-- A shut gate stays shut until someone asks to open it. -/
theorem path_shut {tr : List (GateEvent δ)} (hp : (mediaGate δ).Path s tr t)
    (hs : s.mailbox.captureActive = false)
    (hno : ∀ x ∈ tr, x.1 ≠ .setCaptureActive true) : t.mailbox.captureActive = false := by
  refine hp.invariant_on (I := fun s => s.mailbox.captureActive = false) hs hno ?_
  intro s a t o hx hi hstep
  rw [step_active hstep]
  cases a with
  | setCaptureActive b =>
    cases b with
    | true => exact absurd rfl hx
    | false => rfl
  | _ => exact hi

end Barrier

section Provenance

variable {s t : GateState δ} {a : GateAction δ} {o : GateResult δ} {tr : List (GateEvent δ)}

theorem transitions_append (tr tr' : List (GateEvent δ)) :
    transitions (tr ++ tr') = transitions tr + transitions tr' :=
  List.countP_append

theorem FrameQueued.snoc {g e : Nat} {d : δ} (h : FrameQueued tr g d e) (x : GateEvent δ) :
    FrameQueued (tr ++ [x]) g d e := by
  obtain ⟨pre, post, rfl, he⟩ := h
  exact ⟨pre, post ++ [x], by simp, he⟩

theorem PacketQueued.snoc {p : AudioInputSubmission δ} (h : PacketQueued tr p)
    (x : GateEvent δ) : PacketQueued (tr ++ [x]) p := by
  obtain ⟨pre, post, rfl, he⟩ := h
  exact ⟨pre, post ++ [x], by simp, he⟩

/-- The epoch counts the transitions, and every payload still around was
accepted in the epoch it carries. -/
structure GateState.Traced (tr : List (GateEvent δ)) (s : GateState δ) : Prop where
  epoch : s.mailbox.captureEpoch = transitions tr % 2 ^ 64
  frames : ∀ g d e, s.HasFrame g d e → FrameQueued tr g d e
  packets : ∀ p, s.HasPacket p → PacketQueued tr p

theorem step_traced (hi : s.Traced tr) (h : s.step a = some (t, o)) :
    t.Traced (tr ++ [(a, o)]) := by
  refine ⟨?_, ?_, ?_⟩
  · rw [step_epoch h, transitions_append, hi.epoch]
    cases hx : GateEvent.isTransition (a, o) with
    | true => simp [transitions, hx, wrappingAdd64]
    | false => simp [transitions, hx]
  · intro g d e hf
    rcases step_frame h hf with hs | ⟨rfl, rfl, rfl⟩
    · exact (hi.frames g d e hs).snoc _
    · exact ⟨tr, [], rfl, hi.epoch⟩
  · intro p hp
    rcases step_packet h hp with hs | ⟨rfl, rfl, he⟩
    · exact (hi.packets p hs).snoc _
    · exact ⟨tr, [], rfl, he.trans hi.epoch⟩

theorem run_traced (hr : (mediaGate δ).Run tr s) : s.Traced tr := by
  refine hr.history (I := fun tr s => s.Traced tr) ⟨rfl, ?_, ?_⟩
    fun _ _ _ _ _ => step_traced
  · intro g d e hf
    rcases hf with hf | hf <;> cases hf
  · intro p hp
    rcases hp with hp | hp <;> cases hp

/-- With no wraparound, equal epochs mean that no transition came between. -/
theorem transitions_between {pre post : List (GateEvent δ)} {x : GateEvent δ}
    (hw : transitions (pre ++ x :: post) < 2 ^ 64)
    (he : transitions pre % 2 ^ 64 = transitions (pre ++ x :: post) % 2 ^ 64) :
    transitions post = 0 := by
  have hs : transitions (pre ++ x :: post) = transitions pre + transitions ([x] ++ post) :=
    transitions_append pre (x :: post)
  have hp := transitions_append [x] post
  rw [Nat.mod_eq_of_lt hw, Nat.mod_eq_of_lt (by omega)] at he
  omega

/-- Where a prepared frame came from, and what becomes of a frame that a
transition has overtaken. -/
theorem prepared_frame (hr : (mediaGate δ).Run tr s) (hw : transitions tr < 2 ^ 64)
    {g e : Nat} {d : δ} {prepared : Option (CameraSubmission δ)}
    (h : s.step a = some (t, .camera (.h264 g d e) prepared)) :
    ∃ pre post, tr = pre ++ (.tryEnqueueCameraH264 g d, .enqueued true) :: post ∧
      (transitions post ≠ 0 → prepared = none ∨ ∃ epoch, prepared = some (.error g epoch)) := by
  have hi := run_traced hr
  obtain ⟨hheld, rfl⟩ := camera_result h
  obtain ⟨pre, post, rfl, he⟩ := hi.frames g d e (.inr hheld)
  refine ⟨pre, post, rfl, fun hne => ?_⟩
  have hstale : e ≠ s.mailbox.captureEpoch := by
    intro heq
    exact hne (transitions_between hw (he.symm.trans (heq.trans hi.epoch)))
  rw [s.mailbox.revalidate_stale hstale]
  cases s.mailbox.activeEpoch with
  | none => exact .inl rfl
  | some epoch => exact .inr ⟨epoch, rfl⟩

theorem prepared_packet (hr : (mediaGate δ).Run tr s) (hw : transitions tr < 2 ^ 64)
    {p : AudioInputSubmission δ} {prepared : Option (Nat × δ)}
    (h : s.step a = some (t, .audio p prepared)) :
    ∃ pre post, tr = pre ++ (.tryEnqueueAudioPcm p.generation p.data, .enqueued true) :: post ∧
      (transitions post ≠ 0 → prepared = none) := by
  have hi := run_traced hr
  obtain ⟨hheld, rfl⟩ := audio_result h
  obtain ⟨pre, post, rfl, he⟩ := hi.packets p (.inr hheld)
  refine ⟨pre, post, rfl, fun hne => ?_⟩
  have hstale : p.captureEpoch ≠ s.mailbox.captureEpoch := by
    intro heq
    exact hne (transitions_between hw (he.symm.trans (heq.trans hi.epoch)))
  exact s.mailbox.prepareAudioSend_stale hstale

end Provenance

/-- The privacy barrier over every interleaving. A returning close finds no
permit outside; until the next request to open, no permit is issued at all; and
each payload that is issued was accepted in the same capture epoch, because an
older frame turns into a sample error or back into a duty to answer, and an
older packet is dropped. -/
theorem capture_privacy_barrier {tr : List (GateEvent δ)} {s : GateState δ}
    (hr : (mediaGate δ).Run tr s) (hw : transitions tr < 2 ^ 64) :
    (∀ pre a changed post t, tr = pre ++ (a, .closed changed) :: post →
      (mediaGate δ).Run (pre ++ [(a, .closed changed)]) t → t.permits = 0) ∧
    (∀ pre a changed mid x post, tr = pre ++ (a, .closed changed) :: (mid ++ x :: post) →
      GateEvent.issuesPermit x → ∃ o, (.setCaptureActive true, o) ∈ mid) ∧
    (∀ pre a g d e prepared post,
      tr = pre ++ (a, .camera (.h264 g d e) prepared) :: post →
      ∃ before between, pre = before ++ (.tryEnqueueCameraH264 g d, .enqueued true) :: between ∧
        (transitions between ≠ 0 →
          prepared = none ∨ ∃ epoch, prepared = some (.error g epoch))) ∧
    (∀ pre a submission g d e post,
      tr = pre ++ (a, .camera submission (some (.h264 g d e))) :: post →
      submission = .h264 g d e) ∧
    (∀ pre a p prepared post, tr = pre ++ (a, .audio p prepared) :: post →
      ∃ before between,
        pre = before ++ (.tryEnqueueAudioPcm p.generation p.data, .enqueued true) :: between ∧
        (transitions between ≠ 0 → prepared = none)) ∧
    (∀ pre a p g d post, tr = pre ++ (a, .audio p (some (g, d))) :: post →
      p.generation = g ∧ p.data = d) := by
  refine ⟨?_, ?_, ?_, ?_, ?_, ?_⟩
  · intro pre a changed post t _ ht
    obtain ⟨u, u', hu, hstep, hrest⟩ := Machine.Path.split_at ht
    obtain rfl := hrest.eq_of_nil
    exact (closed_idle (run_counted hu) hstep).2
  · rintro pre a changed mid x post rfl hx
    obtain ⟨u, u', hu, hstep, hrest⟩ := hr.split_at
    obtain ⟨v, v', hmid, hissue, -⟩ := hrest.split_at
    by_contra hno
    have hshut := (closed_idle (run_counted hu) hstep).1
    have hv := path_shut hmid hshut fun y hy hopen => hno ⟨y.2, by rw [← hopen]; exact hy⟩
    rw [permit_active hissue hx] at hv
    cases hv
  · rintro pre a g d e prepared post rfl
    obtain ⟨u, u', hu, hstep, -⟩ := hr.split_at
    have hle := transitions_append pre ((a, .camera (.h264 g d e) prepared) :: post)
    exact prepared_frame hu (by omega) hstep
  · rintro pre a submission g d e post rfl
    obtain ⟨u, u', hu, hstep, -⟩ := hr.split_at
    exact (u.mailbox.revalidate_h264 (camera_result hstep).2.symm).1
  · rintro pre a p prepared post rfl
    obtain ⟨u, u', hu, hstep, -⟩ := hr.split_at
    have hle := transitions_append pre ((a, .audio p prepared) :: post)
    exact prepared_packet hu (by omega) hstep
  · rintro pre a p g d post rfl
    obtain ⟨u, u', hu, hstep, -⟩ := hr.split_at
    obtain ⟨-, -, he⟩ := u.mailbox.prepareAudioSend_some (audio_result hstep).2.symm
    obtain ⟨rfl, rfl⟩ := Prod.mk.inj he
    exact ⟨rfl, rfl⟩

/-- A frame is taken, the gate closes and opens again, and the frame's turn comes. -/
def reopenedGate : List (GateAction Nat) :=
  [.setCaptureActive true, .tryEnqueueCameraH264 7 41, .tryEnqueueAudioPcm 3 42, .takePending,
    .setCaptureActive false, .setCaptureActive true, .prepareCameraSend 0, .prepareAudioSend 0,
    .setCaptureActive false, .dropPermit, .closeWakes]

/-- The barrier applied to that run, whose late frame leaves as a sample error. -/
theorem capture_privacy_barrier_reopened :
    ∃ tr s, (mediaGate Nat).Run tr s ∧
      (.prepareCameraSend 0, .camera (.h264 7 41 1) (some (.error 7 3))) ∈ tr ∧
      ∀ pre a changed post t, tr = pre ++ (a, .closed changed) :: post →
        (mediaGate Nat).Run (pre ++ [(a, .closed changed)]) t → t.permits = 0 := by
  have hr := Machine.run_of_exec (M := mediaGate Nat) reopenedGate (by decide)
  exact ⟨_, _, hr, by decide, (capture_privacy_barrier hr (by decide)).1⟩

end Lgnome.Media
