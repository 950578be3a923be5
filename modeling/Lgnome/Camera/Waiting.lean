import Lgnome.Camera.Conserved

/-!
# No server waits for a lost credit

Along every run in which a camera is asked for again in time, a credit that a
streaming bridge has handed out is with its slot, in an answer, on the way, or
the camera is about to go. Asked for again too early, it may be lost for good.
-/
namespace Lgnome.Camera

open Lgnome.Native (SlotIndex Session)
open Lgnome.Transition Lgnome.Capture Lgnome.Rdpecam

variable {s t : CreditSystem} {i : SlotIndex} {session : Session} {a : CaptureAction}

/-! ## The manager's steps -/

section Manager

variable {c c' : CaptureSystem}

/-- A step of the manager is without the lock, or takes the lock at rest. -/
theorem manager_cases {e : Option RdpCall} (ha : fromManager a = true)
    (hstep : c.step a = some (c', e)) :
    (∃ parties, CaptureSystem.lockFree c.parties a = some parties ∧ c' = { c with parties }) ∨
      (c.todo = [] ∧ CaptureSystem.acquire c a = some c') := by
  unfold CaptureSystem.step at hstep
  split at hstep
  · cases ha
  · split at hstep
    · rename_i parties hfree
      obtain ⟨rfl, -⟩ := Prod.mk.inj (Option.some.inj hstep)
      exact .inl ⟨parties, hfree, rfl⟩
    · rw [Option.ite_none_right_eq_some] at hstep
      obtain ⟨hfree, hstep⟩ := hstep
      obtain ⟨c'', hacquire, heq⟩ := Option.map_eq_some_iff.1 hstep
      obtain ⟨rfl, -⟩ := Prod.mk.inj heq
      exact .inr ⟨hfree, hacquire⟩

/-- Without the lock no handle changes, and no session starts. -/
theorem lockFree_handles {p p' : Parties} (h : CaptureSystem.lockFree p a = some p') :
    p'.handles = p.handles ∧ ∀ s : CreditSystem, s.started a = s := by
  cases a with
  | reconfigure config =>
    simp only [CaptureSystem.lockFree, Option.ite_none_right_eq_some] at h
    obtain rfl := Option.some.inj h.2
    exact ⟨rfl, fun _ => rfl⟩
  | destroy =>
    simp only [CaptureSystem.lockFree, Option.ite_none_right_eq_some] at h
    obtain rfl := Option.some.inj h.2
    exact ⟨rfl, fun _ => rfl⟩
  | audioSync j inputRate inputChannels ready =>
    simp only [CaptureSystem.lockFree, Option.ite_none_right_eq_some] at h
    obtain rfl := Option.some.inj h.2
    refine ⟨?_, fun _ => rfl⟩
    unfold Parties.audioSync
    split <;> rfl
  | _ => cases h

/-- What taking the lock does to the workers: no section begins unsound, no
worker appears, and none goes whose session its slot still has. -/
structure Takes (c c' : CaptureSystem) : Prop where
  redirect : c'.shared.redirect = c.shared.redirect
  sound : Sound c'.parties c'.todo c'.shared.redirect
  workers : ∀ j other, (c'.parties.handles j).worker = some other →
    (c.parties.handles j).worker = some other
  published : ∀ j other, (c.shared.redirect.slots j).session = some other →
    (c'.parties.handles j).worker = some other

theorem AtRest.requested (h : AtRest c.parties c.shared) (j : SlotIndex)
    (hrequested : (c.shared.redirect.slots j).cameraAvailableRequested = true) :
    (c.shared.redirect.slots j).session ≠ none := by
  have havailable := h.settled j hrequested
  simp only [Redirect.cameraAvailable, Redirect.cameraSlotEligible, Bool.and_eq_true] at havailable
  exact Option.isSome_iff_ne_none.1 havailable.1.2.1.2

theorem AtRest.worker (h : AtRest c.parties c.shared) (j : SlotIndex) (other : Session)
    (hother : (c.shared.redirect.slots j).session = some other) :
    (c.parties.handles j).worker = some other := by
  rw [(h.placed j).live other hother]
  rfl

/-- The handles stay as they are. -/
theorem Takes.of_handles (h : AtRest c.parties c.shared)
    (hredirect : c'.shared.redirect = c.shared.redirect)
    (hhandles : c'.parties.handles = c.parties.handles)
    (hsound : Sound c'.parties c'.todo c'.shared.redirect) : Takes c c' := by
  refine ⟨hredirect, hsound, fun j other hother => ?_, fun j other hother => ?_⟩
  · rwa [hhandles] at hother
  · rw [hhandles]
    exact AtRest.worker h j other hother

/-- One handle loses its session, or keeps it only for its worker. -/
theorem Takes.of_handle (handle : Handle) (h : AtRest c.parties c.shared)
    (hredirect : c'.shared.redirect = c.shared.redirect)
    (hhandles : c'.parties.handles = (c.parties.modifyHandle i handle).handles)
    (hsound : Sound c'.parties c'.todo c'.shared.redirect)
    (hworker : ∀ other, handle.worker = some other → (c.parties.handles i).worker = some other)
    (hlive : ∀ other, c.parties.handles i = .live other → handle.worker = some other) :
    Takes c c' := by
  refine ⟨hredirect, hsound, fun j other hother => ?_, fun j other hother => ?_⟩
  · rw [hhandles] at hother
    by_cases hj : j = i
    · rw [hj] at hother ⊢
      rw [modifyHandle_same] at hother
      exact hworker other hother
    · rwa [modifyHandle_other _ _ hj] at hother
  · rw [hhandles]
    by_cases hj : j = i
    · rw [hj] at hother ⊢
      rw [modifyHandle_same]
      exact hlive other ((h.placed i).live other hother)
    · rw [modifyHandle_other _ _ hj]
      exact AtRest.worker h j other hother

theorem handle_session {handle : Handle} {other : Session} (h : handle.session = some other) :
    handle.worker = some other := by
  cases handle with
  | live session => exact h
  | _ => cases h

theorem setPhysicalAvailable_free (available : Bool) :
    ∀ m ∈ Redirect.setPhysicalAvailable available, isFree m = true := by
  intro m hm
  rcases List.mem_cons.1 hm with rfl | hm
  · rfl
  · exact updateCameraAvailability_free m hm

/-- A section of one step that relies on nothing. -/
theorem Sound.single {p : Parties} {r : Redirect} {m : Micro} (h : isFree m = true) :
    Sound p [m] r := by
  refine .of_free fun m' hm' => ?_
  rw [List.mem_singleton.1 hm']
  exact h

/-- Nothing is left to do. -/
theorem Sound.nothing {p : Parties} {r : Redirect} {l : List Micro} (h : l = []) :
    Sound p l r := by
  rw [h]
  trivial

/-- Whoever takes the lock begins a sound section. -/
theorem acquire_takes (h : AtRest c.parties c.shared) (hfree : c.todo = [])
    (ha : fromManager a = true) (hstep : CaptureSystem.acquire c a = some c') :
    Takes c c' ∨ ∃ j fresh, a = .sessionStart j fresh := by
  have hidle := AtRest.requested h
  cases a with
  | setForegroundSlot slot =>
    simp only [CaptureSystem.acquire, Option.ite_none_right_eq_some] at hstep
    obtain rfl := Option.some.inj hstep.2
    exact .inl (.of_handles h rfl rfl (setForegroundSlot_sound slot))
  | setSlot j cameraAllowed audioAllowed =>
    simp only [CaptureSystem.acquire, Option.ite_none_right_eq_some] at hstep
    obtain rfl := Option.some.inj hstep.2
    exact .inl (.of_handles h rfl rfl
      (setSlot_sound hidle cameraAllowed audioAllowed fun other hother => handle_session hother))
  | sessionStart j fresh => exact .inr ⟨j, fresh, rfl⟩
  | sessionDetach j =>
    simp only [CaptureSystem.acquire] at hstep
    split at hstep
    · rename_i other _ hlive
      obtain rfl := Option.some.inj hstep
      refine .inl (.of_handle (.leaving other) h rfl rfl
        (setSlot_sound hidle false false fun _ h => by cases h) (fun other' hother => ?_)
        fun other' hother => ?_)
      · rw [hlive]
        exact hother
      · rw [hlive] at hother
        rw [← Handle.live.inj hother]
        rfl
    · cases hstep
  | sessionJoin j =>
    simp only [CaptureSystem.acquire] at hstep
    split at hstep
    · rename_i hleaving
      obtain rfl := Option.some.inj hstep
      refine .inl (.of_handle .left h rfl rfl (.nothing hfree)
        (fun _ hother => by cases hother)
        fun other hother => ?_)
      rw [hleaving] at hother
      cases hother
    · cases hstep
  | sessionSettle j =>
    simp only [CaptureSystem.acquire] at hstep
    split at hstep
    · rename_i hleft
      obtain rfl := Option.some.inj hstep
      refine .inl (.of_handle .none h rfl rfl
        (setSlot_sound hidle false false fun _ h => by cases h) (fun _ h => by cases h)
        fun other hother => ?_)
      rw [hleft] at hother
      cases hother
    · cases hstep
  | joinWorkers =>
    simp only [CaptureSystem.acquire] at hstep
    split at hstep
    · obtain rfl := Option.some.inj hstep
      exact .inl (.of_handles h rfl rfl (.nothing hfree))
    · cases hstep
  | withdrawPhysical =>
    simp only [CaptureSystem.acquire] at hstep
    split at hstep
    · obtain rfl := Option.some.inj hstep
      exact .inl (.of_handles h rfl rfl (.of_free (setPhysicalAvailable_free false)))
    · cases hstep
  | applyConfig =>
    simp only [CaptureSystem.acquire] at hstep
    split at hstep
    · obtain rfl := Option.some.inj hstep
      exact .inl (.of_handles h rfl rfl (.single rfl))
    · cases hstep
  | startWorkers camera audio =>
    simp only [CaptureSystem.acquire, Option.ite_none_right_eq_some] at hstep
    obtain rfl := Option.some.inj hstep.2
    exact .inl (.of_handles h rfl rfl (.nothing hfree))
  | destroyLocked =>
    simp only [CaptureSystem.acquire, Option.ite_none_right_eq_some] at hstep
    obtain rfl := Option.some.inj hstep.2
    exact .inl (.of_handles h rfl rfl (destroy_sound hidle))
  | destroyJoin =>
    simp only [CaptureSystem.acquire, Option.ite_none_right_eq_some] at hstep
    obtain rfl := Option.some.inj hstep.2
    exact .inl (.of_handles h rfl rfl (.nothing hfree))
  | audioStart j skipped sampleRate channels framesPerPacket =>
    simp only [CaptureSystem.acquire, Option.ite_none_right_eq_some] at hstep
    obtain rfl := Option.some.inj hstep.2
    refine .inl (.of_handles h rfl rfl (.of_free fun m hm => ?_))
    dsimp only at hm
    split at hm
    · cases hm
    · rw [List.mem_singleton.1 hm]
      rfl
  | audioStop j generation =>
    simp only [CaptureSystem.acquire, Option.ite_none_right_eq_some] at hstep
    obtain rfl := Option.some.inj hstep.2
    exact .inl (.of_handles h rfl rfl (.single rfl))
  | cameraRound left available =>
    simp only [CaptureSystem.acquire, Option.ite_none_right_eq_some] at hstep
    obtain rfl := Option.some.inj hstep.2
    refine .inl (.of_handles h rfl rfl (.of_free fun m hm => ?_))
    rcases List.mem_append.1 hm with hleft | hm
    · obtain ⟨target, -, rfl⟩ := List.mem_map.1 hleft
      rfl
    · exact setPhysicalAvailable_free available m hm
  | cameraSetPhysical available =>
    simp only [CaptureSystem.acquire, Option.ite_none_right_eq_some] at hstep
    obtain rfl := Option.some.inj hstep.2
    exact .inl (.of_handles h rfl rfl (.of_free (setPhysicalAvailable_free available)))
  | cameraFailCredit j generation =>
    simp only [CaptureSystem.acquire, Option.ite_none_right_eq_some] at hstep
    obtain rfl := Option.some.inj hstep.2
    exact .inl (.of_handles h rfl rfl (.single rfl))
  | cameraSubmitQueued j generation stateGeneration ownerEpoch packet =>
    simp only [CaptureSystem.acquire, Option.ite_none_right_eq_some] at hstep
    obtain rfl := Option.some.inj hstep.2
    refine .inl (.of_handles h rfl rfl (.of_free fun m hm => ?_))
    simp only [Redirect.cameraSubmitQueued, List.mem_cons, List.not_mem_nil, or_false] at hm
    rcases hm with rfl | rfl <;> rfl
  | audioCollect =>
    simp only [CaptureSystem.acquire, Option.ite_none_right_eq_some] at hstep
    obtain rfl := Option.some.inj hstep.2
    exact .inl (.of_handles h rfl rfl (.nothing hfree))
  | audioPacket j data =>
    simp only [CaptureSystem.acquire, Option.ite_none_right_eq_some] at hstep
    obtain ⟨stream, -, rfl⟩ := Option.map_eq_some_iff.1 hstep.2
    exact .inl (.of_handles h rfl rfl (.single rfl))
  | cameraStart | cameraStop | cameraSampleRequest => cases ha
  | _ => cases hstep

theorem CreditInv.takes (h : CreditInv s) (hfree : s.capture.todo = []) (hok : SystemOk c')
    (htakes : Takes s.capture c') : CreditInv { s with capture := c' } := by
  refine ⟨hok, htakes.sound, fun j other hother => ?_, fun j k other hj hk => ?_,
    fun j other hj => ?_⟩
  · have hbefore : (s.slot j).session = some other := by
      unfold CreditSystem.slot
      rw [← htakes.redirect]
      exact hother
    exact htakes.published j other hbefore
  · exact h.apart j k other (htakes.workers j other hj) (htakes.workers k other hk)
  · have hslot : c'.shared.redirect.slots j = s.slot j := by
      rw [htakes.redirect]
    show Linked (c'.shared.redirect.slots j) other (s.rdp other) _
    rw [hslot]
    exact (h.linked j other (htakes.workers j other hj)).plain (.refl _ _) fun hgoing _ =>
      absurd hgoing (not_withdrawing hfree)

/-- A step that makes no section and moves no handle. -/
theorem CreditInv.parties (h : CreditInv s) {parties : Parties}
    (hok : SystemOk { s.capture with parties }) (hhandles : parties.handles = s.capture.parties.handles) :
    CreditInv { s with capture := { s.capture with parties } } := by
  have hworkers : ∀ j, (parties.handles j).worker = s.worker j := by
    intro j
    rw [hhandles]
  refine ⟨hok, h.sound.handles hhandles, fun j other hother => ?_, fun j k other hj hk => ?_,
    fun j other hj => ?_⟩
  · exact (hworkers j).trans (h.published j other hother)
  · exact h.apart j k other ((hworkers j).symm.trans hj) ((hworkers k).symm.trans hk)
  · exact h.linked j other ((hworkers j).symm.trans hj)

/-- A fresh session streams nothing. -/
theorem fresh_linked (c : CaptureSlot) (session : Session) (width height fps : UInt16) (w : Prop) :
    Linked c session { camera := { bridge := .new width height fps } } w := by
  have hidle : (CameraState.new width height fps).lifecycle ≠ .streaming := by
    simp [CameraState.new]
  refine ⟨⟨new_wellFormed width height fps, fun _ h => by cases h⟩, .none,
    fun hne => absurd rfl hne, fun h => (by cases h),
    fun hstreaming => absurd hstreaming hidle, fun _ _ h => (by cases h), fun h => (by cases h),
    fun hstreaming => absurd hstreaming hidle, fun hstreaming => absurd hstreaming hidle⟩

theorem CreditInv.sessionStart (h : CreditInv s) (hfree : s.capture.todo = []) (hok : SystemOk c')
    (hstep : CaptureSystem.acquire s.capture (.sessionStart i session) = some c') :
    CreditInv { s.started (.sessionStart i session) with capture := c' } := by
  simp only [CaptureSystem.acquire, Option.ite_none_right_eq_some] at hstep
  obtain ⟨⟨-, hnone, hfresh⟩, hstep⟩ := hstep
  obtain rfl := Option.some.inj hstep
  have hrest := h.ok.atRest hfree
  have hsame : ∀ j other, j ≠ i → ((s.capture.parties.modifyHandle i (.live session)).handles j).worker
      = some other → s.worker j = some other := by
    intro j other hj hother
    rwa [modifyHandle_other _ _ hj] at hother
  have hnew : ∀ other, ((s.capture.parties.modifyHandle i (.live session)).handles i).worker =
      some other → other = session := by
    intro other hother
    rw [modifyHandle_same] at hother
    exact (Option.some.inj hother).symm
  refine ⟨hok, .nothing hfree, fun j other hother => ?_, fun j k other hj hk => ?_,
    fun j other hj => ?_⟩
  · have hlive := (hrest.placed j).live other hother
    have hj : j ≠ i := by
      rintro rfl
      rw [hnone] at hlive
      cases hlive
    show ((s.capture.parties.modifyHandle i (.live session)).handles j).worker = some other
    rw [modifyHandle_other _ _ hj, hlive]
    rfl
  · by_cases hji : j = i
    · by_cases hki : k = i
      · exact hji.trans hki.symm
      · rw [hji] at hj
        obtain rfl := hnew other hj
        exact absurd (hsame k other hki hk) (hfresh k)
    · by_cases hki : k = i
      · rw [hki] at hk
        obtain rfl := hnew other hk
        exact absurd (hsame j other hji hj) (hfresh j)
      · exact h.apart j k other (hsame j other hji hj) (hsame k other hki hk)
  · show Linked (s.slot j) other ((s.started (.sessionStart i session)).rdp other) _
    by_cases hji : j = i
    · rw [hji] at hj
      obtain rfl := hnew other hj
      rw [CreditSystem.started, setRdp_same]
      exact fresh_linked _ _ _ _ _ _
    · have hbefore := hsame j other hji hj
      have hother : other ≠ session := by
        rintro rfl
        exact hfresh j hbefore
      rw [CreditSystem.started, setRdp_other _ _ hother]
      exact (h.linked j other hbefore).plain (.refl _ _) fun hgoing _ =>
        absurd hgoing (not_withdrawing hfree)

theorem started_none (h : ∀ j fresh, a ≠ .sessionStart j fresh) : s.started a = s := by
  cases a with
  | sessionStart j fresh => exact absurd rfl (h j fresh)
  | _ => rfl

theorem CreditInv.manager (h : CreditInv s) {e : Unit}
    (hstep : s.step (.manager a) = some (t, e)) : CreditInv t := by
  simp only [CreditSystem.step, Option.ite_none_right_eq_some] at hstep
  obtain ⟨ha, hstep⟩ := hstep
  obtain ⟨⟨c', call⟩, hcapture, heq⟩ := Option.map_eq_some_iff.1 hstep
  obtain ⟨rfl, -⟩ := Prod.mk.inj heq
  have hok : SystemOk c' := (step_ok h.ok hcapture).1
  rcases manager_cases ha hcapture with ⟨parties, hparties, rfl⟩ | ⟨hfree, hacquire⟩
  · obtain ⟨hhandles, hstarted⟩ := lockFree_handles hparties
    rw [hstarted]
    exact h.parties hok hhandles
  · by_cases hstart : ∃ j fresh, a = .sessionStart j fresh
    · obtain ⟨j, fresh, rfl⟩ := hstart
      exact h.sessionStart hfree hok hacquire
    · rw [started_none fun j fresh heq => hstart ⟨j, fresh, heq⟩]
      exact h.takes hfree hok
        ((acquire_takes (h.ok.atRest hfree) hfree ha hacquire).resolve_right hstart)

end Manager

/-! ## Runs -/

theorem CreditInv.step (h : CreditInv s) {a : CreditAction} {e : Unit} (ha : s.allows a = true)
    (hstep : s.step a = some (t, e)) : CreditInv t := by
  cases a with
  | micro => exact h.micro ha hstep
  | manager action => exact h.manager hstep
  | worker j action => exact h.worker hstep
  | callback j => exact h.callback hstep

theorem creditInit (config : CaptureConfig) : CreditInv (creditMachine config).init := by
  refine ⟨init_ok config, trivial, nofun, nofun, nofun⟩

/-- The credit of a stream is somewhere, or its camera is about to go. -/
def Kept (s : CreditSystem) (i : SlotIndex) (session : Session) : Prop :=
  let r := s.rdp session
  let g := r.camera.bridge.generation
  (Streams (s.slot i) g ∧ 0 < (s.slot i).cameraCredit) ∨ r.Answers g ∨ (r.Notifies g ∨ r.Starts g) ∨
    r.desired = false

/-- Along every run in which a camera is asked for again only while its session
streams nothing that the slot has forgotten, no credit is lost. Inside a section
the removal may still be to be asked for. -/
theorem credit_kept {config : CaptureConfig} {tr : List (CreditAction × Unit)}
    (hr : ((creditMachine config).restrict fun s a => s.allows a = true).Run tr s)
    (hworker : s.worker i = some session)
    (hstreaming : (s.rdp session).camera.bridge.lifecycle = .streaming)
    (hnotified : (s.rdp session).camera.bridge.creditNotified = true) :
    (Kept s i session ∨ s.Withdrawing i) ∧ (s.capture.todo = [] → Kept s i session) := by
  have hinv : CreditInv s := hr.invariant (creditInit config) fun s a t e h hstep => by
    obtain ⟨ha, hstep⟩ := Machine.restrict_step.1 hstep
    exact h.step ha hstep
  have hlinked := hinv.linked i session hworker
  have hkept : Kept s i session ∨ s.Withdrawing i := by
    rcases hlinked.streams hstreaming with (hgone | hgoing) | hstarts | hstreams
    · exact .inl (.inr (.inr (.inr hgone)))
    · exact .inr hgoing
    · exact .inl (.inr (.inr (.inl (.inr hstarts))))
    · rcases hlinked.credit hstreaming hnotified hstreams with hheld | hanswers | hnotifies
      · exact .inl (.inl ⟨hstreams, hheld⟩)
      · exact .inl (.inr (.inl hanswers))
      · exact .inl (.inr (.inr (.inl (.inl hnotifies))))
  exact ⟨hkept, fun hfree => hkept.resolve_right (not_withdrawing hfree)⟩

/-- The red slot's session streams its camera, and the server has asked for a sample. -/
def grantedCamera : List CreditAction :=
  [CreditAction.manager (.startWorkers true false), .manager (.sessionStart .red 7),
    .manager (.setForegroundSlot (some .red))] ++ List.replicate 16 CreditAction.micro ++
  [CreditAction.manager (.setSlot .red true true)] ++ List.replicate 11 CreditAction.micro ++
  [CreditAction.manager (.cameraRound none true)] ++ List.replicate 9 CreditAction.micro ++
  ([.poll, .reconcile, .take, .check, .notify, .call .newEnumerator, .call (.enumeratorStart 0 42),
    .call (.enumeratorProcess 0 42 [2, 4]), .call .createDevice, .call (.deviceStart 0 7),
    .call (.deviceProcess 0 7 [2, msgActivateDevice]),
    .call (.deviceProcess 0 7 ([2, msgStartStreams, 0] ++ mediaType 640 480 15))] :
      List WorkerAction).map (CreditAction.worker .red) ++
  [CreditAction.callback .red,
    .worker .red (.call (.deviceProcess 0 7 [2, msgSampleRequest, 0])), .callback .red]

/-- After that run the credit is with the slot. -/
theorem credit_kept_granted :
    ∃ tr s, ((creditMachine { cameraEnabled := true }).restrict fun s a => s.allows a = true).Run
        tr s ∧ s.capture.todo = [] ∧ (s.slot .red).cameraCredit = 1 ∧ Kept s .red 7 := by
  have hr := Machine.run_of_exec
    (M := (creditMachine { cameraEnabled := true }).restrict fun s a => s.allows a = true)
    grantedCamera (by decide +kernel)
  refine ⟨_, _, hr, by decide +kernel, by decide +kernel, ?_⟩
  exact (credit_kept (i := .red) hr (show _ = some 7 by decide +kernel) (by decide +kernel)
    (by decide +kernel)).2 (by decide +kernel)

/-- The camera permission is revoked and granted again before the worker polls. The
worker answers with the error it finds, and the server asks for its next sample. -/
def regrantedCamera : List CreditAction :=
  grantedCamera ++ [CreditAction.manager (.setSlot .red false true)] ++
  List.replicate 11 CreditAction.micro ++ [CreditAction.manager (.setSlot .red true true)] ++
  List.replicate 10 CreditAction.micro ++
  ([.poll, .reconcile, .take, .prepare, .submit, .release, .check, .notify,
    .call (.deviceProcess 0 7 [2, msgSampleRequest, 0])] : List WorkerAction).map
      (CreditAction.worker .red) ++
  [CreditAction.callback .red]

theorem not_kept (hstreams : (s.slot i).cameraStreaming = false)
    (hqueued : (s.rdp session).mailbox.camera = none) (hhand : (s.rdp session).hand = none)
    (harmed : (s.rdp session).camera.bridge.pendingCreditNotification = none)
    (hout : (s.rdp session).outbox = []) (hdesired : (s.rdp session).desired = true) :
    ¬ Kept s i session := by
  rintro (⟨⟨hstreaming, -⟩, -⟩ | (⟨x, hx, -⟩ | ⟨x, hx, -⟩) | ((hnotice | hmem) | hstarts) | hgone)
  · rw [hstreams] at hstreaming
    cases hstreaming
  · rw [hqueued] at hx
    cases hx
  · rw [hhand] at hx
    cases hx
  · rw [harmed] at hnotice
    cases hnotice
  · rw [hout] at hmem
    cases hmem
  · exact RdpSide.not_starts hout _ hstarts
  · rw [hdesired] at hgone
    cases hgone

/-- The credit is nowhere, with every lock free and every callback made, while the
bridge waits for its sample. -/
theorem credit_lost_regranted :
    ∃ tr s, (creditMachine { cameraEnabled := true }).Run tr s ∧ s.capture.todo = [] ∧
      s.worker .red = some 7 ∧ (s.rdp 7).camera.bridge.lifecycle = .streaming ∧
      0 < (s.rdp 7).camera.bridge.pendingRequests ∧
      (s.rdp 7).camera.bridge.creditNotified = true ∧ ¬ Kept s .red 7 := by
  have hr := Machine.run_of_exec (M := creditMachine { cameraEnabled := true }) regrantedCamera
    (by decide +kernel)
  refine ⟨_, _, hr, by decide +kernel, by decide +kernel, by decide +kernel, by decide +kernel,
    by decide +kernel, ?_⟩
  exact not_kept (by decide +kernel) (by decide +kernel) (by decide +kernel) (by decide +kernel)
    (by decide +kernel) (by decide +kernel)

end Lgnome.Camera
