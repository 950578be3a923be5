import Lgnome.Camera.Slot

/-!
# Where the credit of a stream is

A generation that streams in the bridge streams in the slot, or its start is on
the way, or the camera has been withdrawn. While it streams in both, a credit
that was handed out is with the slot, in an answer, or on the way.
-/
namespace Lgnome.Camera

open Lgnome.Native (SlotIndex Session)
open Lgnome.Transition Lgnome.Capture Lgnome.Rdpecam
open Lgnome.Media (CameraSubmission MediaMailbox)

/-- The slot streams this generation. -/
def Streams (c : CaptureSlot) (g : Nat) : Prop :=
  c.cameraStreaming = true ∧ c.cameraGeneration = g

namespace RdpSide

/-- The answer in the worker's hands. -/
def hand (r : RdpSide) : Option (CameraSubmission Bytes) :=
  match r.phase with
  | .holding submission => some submission
  | .prepared submission => some submission
  | _ => none

/-- An answer for this generation is in the mailbox or in the worker's hands. -/
def Answers (r : RdpSide) (g : Nat) : Prop :=
  (∃ x, r.mailbox.camera = some x ∧ x.generation = g) ∨ ∃ x, r.hand = some x ∧ x.generation = g

/-- A credit notification for this generation is still to be delivered. -/
def Notifies (r : RdpSide) (g : Nat) : Prop :=
  r.camera.bridge.pendingCreditNotification = some g ∨ .sampleRequest g ∈ r.outbox

/-- The start of this generation is still to be delivered. -/
def Starts (r : RdpSide) (g : Nat) : Prop := ∃ width height fps, .start g width height fps ∈ r.outbox

end RdpSide

namespace CreditSystem

abbrev slot (s : CreditSystem) (i : SlotIndex) : CaptureSlot := s.capture.shared.redirect.slots i

/-- Whoever holds the lock is about to withdraw the slot's camera. -/
def Withdrawing (s : CreditSystem) (i : SlotIndex) : Prop :=
  (∀ m ∈ s.capture.todo, m.cameraOnly = true) ∧ .withdraw i ∈ s.capture.todo ∧
    (s.slot i).cameraAvailableRequested = true ∧
      s.capture.shared.redirect.cameraAvailable i = false

end CreditSystem

/-- Slot and session agree on the stream, and its credit is somewhere. `w` says
that the camera is about to be withdrawn. -/
structure Linked (c : CaptureSlot) (session : Session) (r : RdpSide) (w : Prop) : Prop where
  wellFormed : r.camera.WellFormed
  outstanding : Outstanding r.camera.bridge r.outbox
  atHand : r.outbox ≠ [] → r.hand = none
  discarding : r.phase = .discarding → r.camera.bridge.lifecycle ≠ .streaming
  generation : r.camera.bridge.lifecycle = .streaming →
    r.Starts r.camera.bridge.generation ∨ c.cameraGeneration = r.camera.bridge.generation
  queued : ∀ x y, r.hand = some x → r.mailbox.camera = some y → y.generation = c.cameraGeneration
  requested : r.desired = true → c.session = some session ∧ c.cameraAvailableRequested = true
  streams : r.camera.bridge.lifecycle = .streaming →
    (r.desired = false ∨ w) ∨ r.Starts r.camera.bridge.generation ∨
      Streams c r.camera.bridge.generation
  credit : r.camera.bridge.lifecycle = .streaming → r.camera.bridge.creditNotified = true →
    Streams c r.camera.bridge.generation →
    0 < c.cameraCredit ∨ r.Answers r.camera.bridge.generation ∨
      r.Notifies r.camera.bridge.generation

variable {c c' : CaptureSlot} {r r' : RdpSide} {w w' : Prop} {session : Session}

/-! ## The worker's steps -/

section Worker

theorem RdpSide.not_starts (h : r.outbox = []) (g : Nat) : ¬ r.Starts g := by
  rintro ⟨width, height, fps, hmem⟩
  rw [h] at hmem
  cases hmem

theorem RdpSide.Answers.queued {g : Nat} (h : r.Answers g) (hhand : r.hand = none) :
    ∃ x, r.mailbox.camera = some x ∧ x.generation = g := by
  rcases h with hqueued | ⟨x, hx, -⟩
  · exact hqueued
  · rw [hhand] at hx
    cases hx

/-- With no callback to make, the slot's generation is the bridge's. -/
theorem Linked.same_generation (h : Linked c session r w) (hout : r.outbox = [])
    (hstreaming : r.camera.bridge.lifecycle = .streaming) :
    c.cameraGeneration = r.camera.bridge.generation :=
  (h.generation hstreaming).resolve_left (RdpSide.not_starts hout _)

/-- A move of the bridge with nothing in the worker's hands. -/
theorem Linked.move (h : Linked c session r w) (hout : r.outbox = []) (hhand : r.hand = none)
    {camera : CameraSystem} {callbacks : List CameraCallback} {phase : Phase}
    (hwell : camera.WellFormed) (hmove : Move r.camera.bridge camera.bridge callbacks)
    (hphase : RdpSide.hand { r with phase := phase } = none)
    (hdiscarding : phase = .discarding → camera.bridge.lifecycle ≠ .streaming) :
    Linked c session { r with camera := camera, outbox := callbacks, phase := phase } w := by
  have hanswers : ∀ g, r.Answers g →
      RdpSide.Answers { r with camera := camera, outbox := callbacks, phase := phase } g :=
    fun g hanswer => .inl (hanswer.queued hhand)
  refine ⟨hwell, hmove.outstanding, fun _ => hphase, hdiscarding, fun hstreaming => ?_,
    fun x y hx => ?_, h.requested, fun hstreaming => ?_, fun hstreaming hnotified hstreams => ?_⟩
  · cases hmove with
    | same hsame =>
      refine .inr ?_
      rw [h.same_generation hout (hsame.streaming.1 hstreaming)]
      exact hsame.generation.symm
    | stopped hstopped => exact absurd hstreaming hstopped
    | started _ _ => exact .inl ⟨_, _, _, List.mem_singleton_self _⟩
    | credited _ hbefore hgeneration =>
      refine .inr ?_
      rw [h.same_generation hout hbefore]
      exact hgeneration.symm
  · have hx' : RdpSide.hand { r with phase := phase } = some x := hx
    rw [hphase] at hx'
    cases hx'
  · cases hmove with
    | same hsame =>
      rcases h.streams (hsame.streaming.1 hstreaming) with hgone | hstarts | hstreams
      · exact .inl hgone
      · exact absurd hstarts (RdpSide.not_starts hout _)
      · refine .inr (.inr ?_)
        show Streams c camera.bridge.generation
        rw [hsame.generation]
        exact hstreams
    | stopped hstopped => exact absurd hstreaming hstopped
    | started _ _ => exact .inr (.inl ⟨_, _, _, List.mem_singleton_self _⟩)
    | credited _ hbefore hgeneration =>
      rcases h.streams hbefore with hgone | hstarts | hstreams
      · exact .inl hgone
      · exact absurd hstarts (RdpSide.not_starts hout _)
      · refine .inr (.inr ?_)
        show Streams c camera.bridge.generation
        rw [hgeneration]
        exact hstreams
  · cases hmove with
    | same hsame =>
      change Streams c camera.bridge.generation at hstreams
      change camera.bridge.creditNotified = true at hnotified
      show 0 < c.cameraCredit ∨ RdpSide.Answers _ camera.bridge.generation ∨
        RdpSide.Notifies _ camera.bridge.generation
      rw [hsame.generation] at hstreams ⊢
      rw [hsame.notified] at hnotified
      rcases h.credit (hsame.streaming.1 hstreaming) hnotified hstreams with
        hheld | hanswer | hnotice | hmem
      · exact .inl hheld
      · exact .inr (.inl (hanswers _ hanswer))
      · exact .inr (.inr (.inl (hsame.notification.trans hnotice)))
      · rw [hout] at hmem
        cases hmem
    | stopped hstopped => exact absurd hstreaming hstopped
    | started _ hidle =>
      change camera.bridge.creditNotified = true at hnotified
      rw [hidle] at hnotified
      cases hnotified
    | credited _ _ _ => exact .inr (.inr (.inr (List.mem_singleton_self _)))

/-- A step that leaves the bridge alone and every answer where it can be found. -/
theorem Linked.shuffle (h : Linked c session r w) (hout : r.outbox = [])
    {mailbox : MediaMailbox Bytes} {phase : Phase}
    (hdiscarding : phase = .discarding → r.camera.bridge.lifecycle ≠ .streaming)
    (hqueued : ∀ x y, RdpSide.hand { r with phase := phase } = some x → mailbox.camera = some y →
      y.generation = c.cameraGeneration)
    (hanswers : r.camera.bridge.lifecycle = .streaming →
      r.Answers r.camera.bridge.generation →
      RdpSide.Answers { r with mailbox := mailbox, phase := phase } r.camera.bridge.generation) :
    Linked c session { r with mailbox := mailbox, phase := phase } w := by
  refine ⟨h.wellFormed, h.outstanding, fun hne => absurd hout hne, hdiscarding, h.generation,
    hqueued, h.requested, h.streams, fun hstreaming hnotified hstreams => ?_⟩
  exact (h.credit hstreaming hnotified hstreams).imp_right fun hrest =>
    hrest.imp_left (hanswers hstreaming)

/-- An answer that leaves the worker's hands for the bridge. -/
theorem Linked.submitted (h : Linked c session r w) (hout : r.outbox = [])
    {x : CameraSubmission Bytes} (hhand : r.hand = some x) {camera : CameraSystem}
    (hwell : camera.WellFormed)
    (hanswered : Answered r.camera.bridge camera.bridge x.generation) :
    Linked c session { r with camera := camera, phase := .sent } w := by
  have hgen : camera.bridge.generation = r.camera.bridge.generation := hanswered.generation
  refine ⟨hwell, ?_, fun hne => absurd hout hne, fun hp => (by cases hp), fun hstreaming => ?_,
    fun x y hx => (by cases hx), h.requested, fun hstreaming => ?_,
    fun hstreaming hnotified hstreams => ?_⟩
  · show Outstanding camera.bridge r.outbox
    rw [hout]
    exact .none
  · refine .inr ?_
    show c.cameraGeneration = camera.bridge.generation
    rw [hgen]
    exact h.same_generation hout (hanswered.streaming.1 hstreaming)
  · show _ ∨ RdpSide.Starts _ camera.bridge.generation ∨ Streams c camera.bridge.generation
    rw [hgen]
    exact h.streams (hanswered.streaming.1 hstreaming)
  · have hbefore := hanswered.streaming.1 hstreaming
    change Streams c camera.bridge.generation at hstreams
    rcases hanswered.credit hbefore hnotified with harmed | ⟨hother, hstill, hsame⟩
    · exact .inr (.inr (.inl harmed))
    · show 0 < c.cameraCredit ∨ RdpSide.Answers _ camera.bridge.generation ∨
        RdpSide.Notifies _ camera.bridge.generation
      rw [hgen] at hstreams ⊢
      rcases h.credit hbefore hstill hstreams with hheld | (hqueued | ⟨y, hy, hmine⟩) |
        (hnotice | hmem)
      · exact .inl hheld
      · exact .inr (.inl (.inl hqueued))
      · obtain rfl := Option.some.inj (hhand.symm.trans hy)
        exact absurd hmine hother
      · exact .inr (.inr (.inl (hsame.trans hnotice)))
      · rw [hout] at hmem
        cases hmem

/-- The revalidated answer is for the same generation. -/
theorem revalidate_generation {m : MediaMailbox Bytes} {x y : CameraSubmission Bytes}
    (h : m.revalidate x = some y) : y.generation = x.generation := by
  cases x with
  | h264 generation data captureEpoch =>
    simp only [MediaMailbox.revalidate] at h
    split at h
    · obtain rfl := Option.some.inj h
      rfl
    · obtain ⟨epoch, -, rfl⟩ := Option.map_eq_some_iff.1 h
      rfl
  | error generation captureEpoch =>
    simp only [MediaMailbox.revalidate] at h
    split at h
    · obtain rfl := Option.some.inj h
      rfl
    · obtain ⟨epoch, -, rfl⟩ := Option.map_eq_some_iff.1 h
      rfl
  | deferredError generation =>
    obtain ⟨epoch, -, rfl⟩ := Option.map_eq_some_iff.1 h
    rfl

/-- The answer in the worker's hands is prepared for the same generation, or
goes back to an empty mailbox, or finds there another one of its generation. -/
theorem Linked.prepared (h : Linked c session r w) (hout : r.outbox = [])
    {x : CameraSubmission Bytes} (hhand : r.hand = some x) :
    Linked c session { r with
      mailbox := (r.mailbox.prepareCameraSend x).1
      phase := match (r.mailbox.prepareCameraSend x).2 with
        | some prepared => .prepared prepared
        | none => .checking } w := by
  unfold MediaMailbox.prepareCameraSend
  cases hprepared : r.mailbox.revalidate x with
  | some prepared =>
    have hgen := revalidate_generation hprepared
    refine h.shuffle hout (fun hp => (by cases hp)) (fun x' y hx hy => ?_) fun _ hanswers => ?_
    · exact h.queued x y hhand hy
    · rcases hanswers with hqueued | ⟨x', hx, hmine⟩
      · exact .inl hqueued
      · obtain rfl := Option.some.inj (hhand.symm.trans hx)
        exact .inr ⟨prepared, rfl, hgen.trans hmine⟩
  | none =>
    refine h.shuffle hout (fun hp => (by cases hp)) (fun x' y hx => (by cases hx))
      fun hstreaming hanswers => ?_
    have hmine : ∀ y, r.mailbox.camera = some y →
        y.generation = r.camera.bridge.generation := by
      intro y hy
      rw [h.queued x y hhand hy]
      exact h.same_generation hout hstreaming
    cases hcamera : r.mailbox.camera with
    | some y => exact .inl ⟨y, by simp [hcamera], hmine y hcamera⟩
    | none =>
      rcases hanswers with ⟨y, hy, -⟩ | ⟨x', hx, hgen⟩
      · rw [hcamera] at hy
        cases hy
      · obtain rfl := Option.some.inj (hhand.symm.trans hx)
        exact .inl ⟨.deferredError x.generation, by simp, hgen⟩

/-- The worker keeps the credit, whatever it does next. -/
theorem Linked.work (h : Linked c session r w) {a : WorkerAction} (hstep : r.work a = some r') :
    Linked c session r' w := by
  unfold RdpSide.work at hstep
  split at hstep
  swap
  · cases hstep
  rename_i hout
  have hidle : ∀ {phase : Phase}, r.phase = phase →
      (∀ x, phase ≠ .holding x) → (∀ x, phase ≠ .prepared x) → r.hand = none := by
    intro phase hphase hholding hprepared
    unfold RdpSide.hand
    rw [hphase]
    split
    · exact absurd rfl (hholding _)
    · exact absurd rfl (hprepared _)
    · rfl
  split at hstep
  -- a call from the server
  · rename_i action hphase
    split at hstep
    · rename_i hserver
      obtain ⟨camera, hcamera, rfl⟩ := Option.map_eq_some_iff.1 hstep
      have hhand := hidle hphase nofun nofun
      exact h.move hout hhand (step_wellFormed h.wellFormed hcamera) (call_move hserver hcamera)
        hhand fun hdiscarding => (by
        rw [hphase] at hdiscarding
        cases hdiscarding)
    · cases hstep
  -- the wanted availability is loaded
  · rename_i hphase
    obtain rfl := Option.some.inj hstep
    have hhand := hidle hphase nofun nofun
    exact h.shuffle hout nofun nofun fun _ hanswers => .inl (hanswers.queued hhand)
  -- and reconciled
  · rename_i available hphase
    obtain rfl := Option.some.inj hstep
    have hwell := step_wellFormed h.wellFormed (a := .setAvailable available) rfl
    refine h.move hout (hidle hphase nofun nofun) hwell (setAvailable_move _ available) ?_ ?_
    · cases available <;> rfl
    · cases available with
      | true => exact nofun
      | false => exact fun _ => setAvailable_false h.wellFormed.bridge
  -- nothing streams behind a device that is gone
  · rename_i hphase
    obtain rfl := Option.some.inj hstep
    exact h.shuffle hout nofun nofun fun hstreaming => absurd hstreaming (h.discarding hphase)
  -- the mailbox is emptied into the worker's hands
  · rename_i hphase
    obtain rfl := Option.some.inj hstep
    have hhand := hidle hphase nofun nofun
    have htaken : r.mailbox.takePending.2.camera = r.mailbox.camera := rfl
    rw [htaken]
    cases hcamera : r.mailbox.camera with
    | some x =>
      refine h.shuffle hout nofun nofun fun _ hanswers => ?_
      obtain ⟨y, hy, hgen⟩ := hanswers.queued hhand
      obtain rfl := Option.some.inj (hcamera.symm.trans hy)
      exact .inr ⟨x, rfl, hgen⟩
    | none =>
      refine h.shuffle hout nofun nofun fun _ hanswers => ?_
      obtain ⟨y, hy, -⟩ := hanswers.queued hhand
      rw [hcamera] at hy
      cases hy
  · rename_i x hphase
    obtain rfl := Option.some.inj hstep
    exact h.prepared hout (by rw [RdpSide.hand, hphase])
  · rename_i generation data captureEpoch hphase
    obtain rfl := Option.some.inj hstep
    have hwell := step_wellFormed h.wellFormed (a := .submitH264 generation data) rfl
    have hhand : r.hand = some (.h264 generation data captureEpoch) := by
      rw [RdpSide.hand, hphase]
    exact h.submitted hout hhand hwell (submitH264_answered h.wellFormed.bridge generation data)
  · rename_i generation captureEpoch hphase
    obtain rfl := Option.some.inj hstep
    have hwell := step_wellFormed h.wellFormed (a := .submitError generation) rfl
    have hhand : r.hand = some (.error generation captureEpoch) := by
      rw [RdpSide.hand, hphase]
    exact h.submitted hout hhand hwell (submitError_answered h.wellFormed.bridge generation)
  -- the permit goes, and the gate is looked at
  · rename_i hphase
    obtain rfl := Option.some.inj hstep
    have hhand := hidle hphase nofun nofun
    exact h.shuffle hout nofun nofun fun _ hanswers => .inl (hanswers.queued hhand)
  · rename_i hphase
    obtain rfl := Option.some.inj hstep
    have hhand := hidle hphase nofun nofun
    cases hactive : r.mailbox.captureIsActive with
    | true =>
      exact h.shuffle hout nofun nofun fun _ hanswers => .inl (hanswers.queued hhand)
    | false =>
      exact h.shuffle hout nofun nofun fun _ hanswers => .inl (hanswers.queued hhand)
  -- an armed credit becomes a callback
  · rename_i hphase
    obtain rfl := Option.some.inj hstep
    have hwell := step_wellFormed h.wellFormed (a := .notifyNextCredit) rfl
    exact h.move hout (hidle hphase nofun nofun) hwell
      (notifyNextCredit_move h.wellFormed.bridge) rfl nofun
  · cases hstep

end Worker

/-! ## The capture manager's steps -/

section Manager

/-- What the slot has of its stream is told by its plain steps. -/
theorem Linked.plain (h : Linked c session r w) (hp : Plain c r c' r')
    (hw : w → r'.desired = true → w') : Linked c' session r' w' := by
  have hhand : r'.hand = r.hand := by
    unfold RdpSide.hand
    rw [hp.phase]
  have hstarts : ∀ g, r'.Starts g ↔ r.Starts g := by
    intro g
    unfold RdpSide.Starts
    rw [hp.outbox]
  have hstreams : ∀ g, Streams c' g ↔ Streams c g := by
    intro g
    unfold Streams
    rw [hp.streaming, hp.generation]
  refine ⟨by rw [hp.camera]; exact h.wellFormed, by rw [hp.camera, hp.outbox]; exact h.outstanding,
    by rw [hp.outbox, hhand]; exact h.atHand, by rw [hp.phase, hp.camera]; exact h.discarding,
    ?_, fun x y hx hy => ?_, fun hwanted => ?_, ?_, ?_⟩
  · rw [hp.camera, hp.generation]
    intro hstreaming
    exact (h.generation hstreaming).imp_left (hstarts _).2
  · rw [hp.generation]
    rcases hp.queued y hy with ⟨y', hy', hgen⟩ | hgen
    · rw [hgen]
      exact h.queued x y' (hhand.symm.trans hx) hy'
    · exact hgen
  · obtain ⟨hbefore, hsame⟩ := hp.desired hwanted
    rw [hp.session, hsame]
    exact h.requested hbefore
  · rw [hp.camera]
    intro hstreaming
    rcases h.streams hstreaming with (hgone | hgoing) | hstart | hstream
    · refine .inl (.inl (Bool.eq_false_iff.2 fun hwanted => ?_))
      exact absurd (hp.desired hwanted).1 (Bool.eq_false_iff.1 hgone)
    · cases hwanted : r'.desired with
      | false => exact .inl (.inl rfl)
      | true => exact .inl (.inr (hw hgoing hwanted))
    · exact .inr (.inl ((hstarts _).2 hstart))
    · exact .inr (.inr ((hstreams _).2 hstream))
  · rw [hp.camera]
    intro hstreaming hnotified hstream
    have hown := ((hstreams _).1 hstream).2
    have hkept : ∀ g, r.Answers g → r'.Answers g := by
      rintro g (⟨x, hx, hgen⟩ | ⟨x, hx, hgen⟩)
      · obtain ⟨y, hy, hsame⟩ := hp.kept x hx
        exact .inl ⟨y, hy, hsame.trans hgen⟩
      · exact .inr ⟨x, hhand.trans hx, hgen⟩
    rcases h.credit hstreaming hnotified ((hstreams _).1 hstream) with hheld | hanswer | hnotice
    · rcases hp.credit hheld with hstill | ⟨y, hy, hgen⟩
      · exact .inl hstill
      · exact .inr (.inl (.inl ⟨y, hy, hgen.trans hown⟩))
    · exact .inr (.inl (hkept _ hanswer))
    · refine .inr (.inr ?_)
      unfold RdpSide.Notifies at hnotice ⊢
      rw [hp.camera, hp.outbox]
      exact hnotice

/-- A request for a camera is made again only while the slot streams what the
bridge streams, or is about to. -/
theorem Linked.advertise (h : Linked c session r w) (hsession : c.session = some session)
    (hready : r.camera.bridge.lifecycle = .streaming →
      r.Starts r.camera.bridge.generation ∨ Streams c r.camera.bridge.generation) :
    Linked { c with cameraAvailableRequested := true } session { r with desired := true } w' :=
  ⟨h.wellFormed, h.outstanding, h.atHand, h.discarding, h.generation, h.queued,
    fun _ => ⟨hsession, rfl⟩, fun hstreaming => .inr (hready hstreaming), h.credit⟩

/-- A new publication drops the stream only of a camera that is gone or goes. -/
theorem Linked.publish (h : Linked c session r w) (hw : ¬ w)
    (hsession : c'.session = c.session ∨ c.cameraAvailableRequested = false)
    (hrequested : c'.cameraAvailableRequested = c.cameraAvailableRequested)
    (hgeneration : c'.cameraGeneration = c.cameraGeneration)
    (hcases : (c'.cameraStreaming = c.cameraStreaming ∧ c'.cameraCredit = c.cameraCredit) ∨
      (c'.cameraStreaming = false ∧
        (c.cameraAvailableRequested = true → c'.session = c.session → w'))) :
    Linked c' session r w' := by
  have hgone : c.cameraAvailableRequested = false → r.desired = false := by
    intro hfalse
    refine Bool.eq_false_iff.2 fun hwanted => ?_
    exact absurd (h.requested hwanted).2 (Bool.eq_false_iff.1 hfalse)
  refine ⟨h.wellFormed, h.outstanding, h.atHand, h.discarding, ?_, ?_, fun hwanted => ?_,
    fun hstreaming => ?_, fun hstreaming hnotified hstreams => ?_⟩
  · rw [hgeneration]
    exact h.generation
  · rw [hgeneration]
    exact h.queued
  · obtain ⟨hpublished, hreq⟩ := h.requested hwanted
    rw [hrequested]
    refine ⟨?_, hreq⟩
    rcases hsession with hsame | hfalse
    · exact hsame.trans hpublished
    · rw [hreq] at hfalse
      cases hfalse
  · rcases h.streams hstreaming with (hfalse | hgoing) | hstarts | hstream
    · exact .inl (.inl hfalse)
    · exact absurd hgoing hw
    · exact .inr (.inl hstarts)
    · rcases hcases with ⟨hsame, -⟩ | ⟨-, hgoing⟩
      · refine .inr (.inr ?_)
        rw [Streams, hsame, hgeneration]
        exact hstream
      · refine .inl ?_
        cases hreq : c.cameraAvailableRequested with
        | false => exact .inl (hgone hreq)
        | true =>
          rcases hsession with hsame | hfalse
          · exact .inr (hgoing hreq hsame)
          · rw [hreq] at hfalse
            cases hfalse
  · rcases hcases with ⟨hsame, hcredit⟩ | ⟨hdropped, -⟩
    · rw [Streams, hsame, hgeneration] at hstreams
      rw [hcredit]
      exact h.credit hstreaming hnotified hstreams
    · rw [Streams, hdropped] at hstreams
      cases hstreams.1

end Manager

/-! ## The callbacks -/

section Callback

variable {g : Nat} {rest : List CameraCallback}

theorem Outstanding.of_start {b : CameraState} {width height fps : UInt16}
    (h : Outstanding b (.start g width height fps :: rest)) :
    rest = [] ∧ g = b.generation ∧ b.creditNotified = false := by
  cases h with
  | stops _ hstops =>
    obtain ⟨other, hother⟩ := hstops _ List.mem_cons_self
    cases hother
  | start _ hnotified => exact ⟨rfl, rfl, hnotified⟩

theorem Outstanding.of_stop {b : CameraState} (h : Outstanding b (.stop g :: rest)) :
    b.lifecycle ≠ .streaming ∧ Outstanding b rest := by
  cases h with
  | stops hidle hstops =>
    exact ⟨hidle, .stops hidle fun callback hmem => hstops callback (List.mem_cons_of_mem _ hmem)⟩

theorem Outstanding.of_sampleRequest {b : CameraState}
    (h : Outstanding b (.sampleRequest g :: rest)) :
    rest = [] ∧ g = b.generation ∧ b.lifecycle = .streaming := by
  cases h with
  | stops _ hstops =>
    obtain ⟨other, hother⟩ := hstops _ List.mem_cons_self
    cases hother
  | sampleRequest hstreaming => exact ⟨rfl, rfl, hstreaming⟩

/-- The start of the stream reaches the slot. -/
theorem Linked.start (h : Linked c session r w) {width height fps : UInt16}
    (hout : r.outbox = .start g width height fps :: rest) (hstreaming : c'.cameraStreaming = true)
    (hgeneration : c'.cameraGeneration = g) (hsession : c'.session = c.session)
    (hrequested : c'.cameraAvailableRequested = c.cameraAvailableRequested) :
    Linked c' session { r with outbox := rest } w' := by
  have hhand := h.atHand (by rw [hout]; exact List.cons_ne_nil _ _)
  have hstart := h.outstanding
  rw [hout] at hstart
  obtain ⟨rfl, hg, hnotified⟩ := hstart.of_start
  have hsame := hgeneration.trans hg
  refine ⟨h.wellFormed, .none, fun hne => absurd rfl hne, h.discarding, fun _ => .inr hsame,
    fun x y hx => ?_, fun hwanted => ?_, fun _ => .inr (.inr ⟨hstreaming, hsame⟩),
    fun _ hcredit => ?_⟩
  · exact absurd (hhand.symm.trans hx) nofun
  · rw [hsession, hrequested]
    exact h.requested hwanted
  · rw [hnotified] at hcredit
    cases hcredit

/-- A stop reaches the slot, and may drop another stream than its own. -/
theorem Linked.stop (h : Linked c session r w) (hout : r.outbox = .stop g :: rest)
    (hsession : c'.session = c.session)
    (hrequested : c'.cameraAvailableRequested = c.cameraAvailableRequested) :
    Linked c' session { r with outbox := rest } w' := by
  have hhand := h.atHand (by rw [hout]; exact List.cons_ne_nil _ _)
  have hstop := h.outstanding
  rw [hout] at hstop
  obtain ⟨hidle, hrest⟩ := hstop.of_stop
  refine ⟨h.wellFormed, hrest, fun _ => hhand, h.discarding,
    fun hstreaming => absurd hstreaming hidle, fun x y hx => ?_, fun hwanted => ?_,
    fun hstreaming => absurd hstreaming hidle, fun hstreaming => absurd hstreaming hidle⟩
  · exact absurd (hhand.symm.trans hx) nofun
  · rw [hsession, hrequested]
    exact h.requested hwanted

/-- A credit reaches the slot, which counts it while it streams. -/
theorem Linked.sampleRequest (h : Linked c session r w) (hw : ¬ w)
    (hout : r.outbox = .sampleRequest g :: rest)
    (hstreaming : c'.cameraStreaming = c.cameraStreaming)
    (hgeneration : c'.cameraGeneration = c.cameraGeneration) (hsession : c'.session = c.session)
    (hrequested : c'.cameraAvailableRequested = c.cameraAvailableRequested)
    (hcredit : Streams c g → 0 < c'.cameraCredit) :
    Linked c' session { r with outbox := rest } w' := by
  have hhand := h.atHand (by rw [hout]; exact List.cons_ne_nil _ _)
  have hrequest := h.outstanding
  rw [hout] at hrequest
  obtain ⟨rfl, hg, hbridge⟩ := hrequest.of_sampleRequest
  have hstarts : ∀ g', ¬ r.Starts g' := by
    rintro g' ⟨width, height, fps, hmem⟩
    rw [hout] at hmem
    cases List.mem_singleton.1 hmem
  refine ⟨h.wellFormed, .none, fun hne => absurd rfl hne, h.discarding, fun _ => .inr ?_,
    fun x y hx => ?_, fun hwanted => ?_, fun _ => ?_, fun _ _ hstreams => .inl (hcredit ?_)⟩
  · rw [hgeneration]
    exact (h.generation hbridge).resolve_left (hstarts _)
  · exact absurd (hhand.symm.trans hx) nofun
  · rw [hsession, hrequested]
    exact h.requested hwanted
  · rcases h.streams hbridge with (hgone | hgoing) | hstart | hstream
    · exact .inl (.inl hgone)
    · exact absurd hgoing hw
    · exact absurd hstart (hstarts _)
    · refine .inr (.inr ?_)
      rw [Streams, hstreaming, hgeneration]
      exact hstream
  · rw [Streams, hstreaming, hgeneration] at hstreams
    rw [hg]
    exact hstreams

end Callback

end Lgnome.Camera
