import Lgnome.Camera.Sections

/-!
# What all the steps keep

Every session's stream is linked to the slot of its worker. The small steps of a
section keep this whatever the worker does in between, as long as no camera is
asked for again while the bridge streams what the slot has forgotten.
-/
namespace Lgnome.Camera

open Lgnome.Native (SlotIndex Session)
open Lgnome.Transition Lgnome.Capture Lgnome.Rdpecam

namespace CreditSystem

abbrev worker (s : CreditSystem) (i : SlotIndex) : Option Session :=
  (s.capture.parties.handles i).worker

/-- If the next small step asks for a camera, the slot streams what the session's
bridge streams, or is about to. -/
def asksInTime (s : CreditSystem) : Bool :=
  match s.capture.todo with
  | .advertise i :: _ =>
    (s.slot i).cameraAvailableRequested || !s.capture.shared.redirect.cameraAvailable i ||
      (s.slot i).session.all fun session =>
        let r := s.rdp session
        !r.camera.bridge.lifecycle.isStreaming ||
          ((s.slot i).cameraStreaming && (s.slot i).cameraGeneration = r.camera.bridge.generation) ||
            r.outbox.any fun
              | .start g _ _ _ => g = r.camera.bridge.generation
              | _ => false
  | _ => true

/-- What a step may not do. -/
def allows (s : CreditSystem) : CreditAction → Bool
  | .micro => s.asksInTime
  | _ => true

end CreditSystem

/-- Slots, handles and sessions fit together. -/
structure CreditInv (s : CreditSystem) : Prop where
  ok : SystemOk s.capture
  sound : Sound s.capture.parties s.capture.todo s.capture.shared.redirect
  published : ∀ i other, (s.slot i).session = some other → s.worker i = some other
  apart : ∀ i j session, s.worker i = some session → s.worker j = some session → i = j
  linked : ∀ i session, s.worker i = some session →
    Linked (s.slot i) session (s.rdp session) (s.Withdrawing i)

variable {s t : CreditSystem} {m : Micro} {rest : List Micro} {i j : SlotIndex} {session : Session}

theorem CreditInv.alone (h : CreditInv s) (hworker : s.worker i = some session) (j : SlotIndex)
    (hj : (s.slot j).session = some session) : j = i :=
  h.apart j i session (h.published j session hj) hworker

theorem CreditInv.own (h : CreditInv s) (hworker : s.worker i = some session) (other : Session)
    (hother : (s.slot i).session = some other) : other = session :=
  Option.some.inj ((h.published i other hother).symm.trans hworker)

/-! ## Small steps -/

section Micro

/-- Only a publication gives a slot another session. -/
theorem exec_session (r : Redirect) (answer : Bool) (hfree : isFree m = true) (j : SlotIndex) :
    ((r.exec m answer).slots j).session = (r.slots j).session := by
  cases hm : m.cameraOnly with
  | true => exact ((exec_cameraOnly r answer hm).slot j).1
  | false =>
    cases m with
    | publishForeground | setPhysical | applyConfig => rfl
    | startAudio i =>
      by_cases hj : j = i
      · rw [hj]
        simp only [Redirect.exec, Redirect.modifySlot_same]
      · simp only [Redirect.exec, Redirect.modifySlot_other _ _ _ hj]
    | stopAudio i =>
      simp only [Redirect.exec]
      split
      · by_cases hj : j = i
        · rw [hj]
          simp only [Redirect.modifySlot_same]
        · simp only [Redirect.modifySlot_other _ _ _ hj]
      · rfl
    | publishSlot | dropSession => cases hfree
    | _ => cases hm

theorem exec_slot (s : CreditSystem) (m : Micro) (i : SlotIndex) :
    (s.exec m).slot i = (s.capture.shared.redirect.exec m (answerOf s m)).slots i := by
  unfold CreditSystem.slot
  rw [exec_shared]
  rfl

/-- A section's next small step, with what is left of it. -/
theorem micro_eq (htodo : s.capture.todo = m :: rest) {e : Unit}
    (hstep : s.step .micro = some (t, e)) :
    t.capture.parties = s.capture.parties ∧ t.capture.todo = rest ∧
      t.capture.shared = (s.exec m).capture.shared ∧ t.rdp = (s.exec m).rdp := by
  simp only [CreditSystem.step, htodo] at hstep
  obtain ⟨rfl, -⟩ := Prod.mk.inj (Option.some.inj hstep)
  exact ⟨exec_parties s m, rfl, rfl, rfl⟩

/-- A withdrawal that is still to come after a small step. -/
theorem withdrawing_exec (htodo : s.capture.todo = m :: rest) (hm : m ≠ .withdraw i)
    (hgoing : s.Withdrawing i)
    (hrequested : ((s.exec m).slot i).cameraAvailableRequested =
      (s.slot i).cameraAvailableRequested) :
    (∀ m ∈ rest, m.cameraOnly = true) ∧ .withdraw i ∈ rest ∧
      ((s.exec m).slot i).cameraAvailableRequested = true ∧
        (s.exec m).capture.shared.redirect.cameraAvailable i = false := by
  obtain ⟨honly, hmem, hreq, hgone⟩ := hgoing
  rw [htodo] at honly hmem
  have hframe := exec_cameraOnly s.capture.shared.redirect (answerOf s m)
    (honly m List.mem_cons_self)
  refine ⟨fun m' hm' => honly m' (List.mem_cons_of_mem _ hm'), ?_, hrequested.trans hreq, ?_⟩
  · exact (List.mem_cons.1 hmem).resolve_left fun heq => hm heq.symm
  · rw [exec_shared]
    exact (hframe.available i).trans hgone

theorem asksInTime_ready (h : s.asksInTime = true) (htodo : s.capture.todo = .advertise i :: rest)
    (hrequested : (s.slot i).cameraAvailableRequested = false)
    (havailable : s.capture.shared.redirect.cameraAvailable i = true)
    (hsession : (s.slot i).session = some session)
    (hstreaming : (s.rdp session).camera.bridge.lifecycle = .streaming) :
    (s.rdp session).Starts (s.rdp session).camera.bridge.generation ∨
      Streams (s.slot i) (s.rdp session).camera.bridge.generation := by
  simp only [CreditSystem.asksInTime, htodo, hrequested, havailable, hsession, Option.all_some,
    Bool.not_true, Bool.false_or, Bool.or_eq_true, Bool.and_eq_true, decide_eq_true_eq,
    (CameraLifecycle.isStreaming_iff _).2 hstreaming] at h
  rcases h with hstreams | hstarts
  · exact .inr hstreams
  · obtain ⟨callback, hmem, hstart⟩ := List.any_eq_true.1 hstarts
    cases callback with
    | start g width height fps =>
      refine .inl ⟨width, height, fps, ?_⟩
      rw [← of_decide_eq_true hstart]
      exact hmem
    | _ => cases hstart

/-- A session whose request goes, if it has one. -/
theorem withdraw_linked (h : CreditInv s) (hworker : s.worker i = some session) {w : Prop} :
    Linked ((s.exec (.withdraw i)).slot i) session ((s.exec (.withdraw i)).rdp session) w := by
  have hlinked := h.linked i session hworker
  rw [exec_slot]
  by_cases hkept : (!(s.slot i).cameraAvailableRequested ||
      s.capture.shared.redirect.cameraAvailable i) = true
  · have hcall : s.capture.shared.redirect.call (.withdraw i) = none := if_pos hkept
    rw [exec_rdp_none hcall]
    simp only [Redirect.exec, if_pos hkept]
    refine hlinked.plain (.refl _ _) fun hgoing _ => ?_
    obtain ⟨-, -, hrequested, hgone⟩ := hgoing
    rw [hrequested, hgone] at hkept
    cases hkept
  · simp only [Redirect.exec, if_neg hkept, Redirect.modifySlot_same]
    rcases Option.eq_none_or_eq_some (s.slot i).session with hother | ⟨other, hother⟩
    · have hcall : s.capture.shared.redirect.call (.withdraw i) = none := by
        simp only [Redirect.call, if_neg hkept]
        rw [hother]
        rfl
      have hgone : (s.rdp session).desired = false := by
        refine Bool.eq_false_iff.2 fun hwanted => ?_
        have hsession := (hlinked.requested hwanted).1
        rw [hother] at hsession
        cases hsession
      rw [exec_rdp_none hcall]
      refine hlinked.plain (.of_slot rfl rfl rfl rfl fun hwanted => ?_) fun _ hwanted => ?_
      · rw [hgone] at hwanted
        cases hwanted
      · rw [hgone] at hwanted
        cases hwanted
    · obtain rfl := h.own hworker other hother
      have hcall : s.capture.shared.redirect.call (.withdraw i) =
          some (.setCameraAvailable other false) := by
        simp only [Redirect.call, if_neg hkept]
        rw [hother]
        rfl
      have hcallee : callee (.setCameraAvailable other false) = other := rfl
      rw [exec_rdp_some hcall hcallee]
      refine hlinked.plain ⟨rfl, rfl, rfl, rfl, rfl, rfl, fun hwanted => (by cases hwanted),
        fun y hy => .inl ⟨y, hy, rfl⟩, fun x hx => ⟨x, hx, rfl⟩, .inl⟩ fun _ hwanted => ?_
      cases hwanted

/-- A request is made in time. -/
theorem advertise_linked (h : CreditInv s) (hworker : s.worker i = some session)
    (htodo : s.capture.todo = .advertise i :: rest) (hasks : s.asksInTime = true) {w : Prop}
    (hw : s.Withdrawing i → ((s.exec (.advertise i)).slot i).cameraAvailableRequested =
      (s.slot i).cameraAvailableRequested → w) :
    Linked ((s.exec (.advertise i)).slot i) session ((s.exec (.advertise i)).rdp session) w := by
  have hlinked := h.linked i session hworker
  rw [exec_slot] at hw ⊢
  by_cases hkept : ((s.slot i).cameraAvailableRequested ||
      !s.capture.shared.redirect.cameraAvailable i) = true
  · have hcall : s.capture.shared.redirect.call (.advertise i) = none := if_pos hkept
    rw [exec_rdp_none hcall]
    simp only [Redirect.exec, if_pos hkept] at hw ⊢
    exact hlinked.plain (.refl _ _) fun hgoing _ => hw hgoing trivial
  · simp only [Redirect.exec, if_neg hkept, Redirect.modifySlot_same]
    simp only [Bool.or_eq_true, Bool.not_eq_true', not_or, Bool.not_eq_true,
      Bool.not_eq_false] at hkept
    obtain ⟨hrequested, havailable⟩ := hkept
    have hsome : (s.slot i).session.isSome = true := by
      simp only [Redirect.cameraAvailable, Redirect.cameraSlotEligible, Bool.and_eq_true]
        at havailable
      exact havailable.1.2.1.2
    obtain ⟨other, hother⟩ := Option.isSome_iff_exists.1 hsome
    obtain rfl := h.own hworker other hother
    have hcall : s.capture.shared.redirect.call (.advertise i) =
        some (.setCameraAvailable other true) := by
      simp only [Redirect.call, hrequested, havailable]
      rw [hother]
      rfl
    have hcallee : callee (.setCameraAvailable other true) = other := rfl
    rw [exec_rdp_some hcall hcallee]
    exact hlinked.advertise hother fun hstreaming =>
      asksInTime_ready hasks htodo hrequested havailable hother hstreaming

theorem updateCameraAvailability_only :
    ∀ m ∈ Redirect.updateCameraAvailability, m.cameraOnly = true := by decide

/-- A publication that drops the stream is followed by the withdrawal. -/
theorem publishSlot_linked (h : CreditInv s) (hworker : s.worker i = some session)
    {published : Option Session} {cameraAllowed audioAllowed : Bool}
    (htodo : s.capture.todo = .publishSlot i published cameraAllowed audioAllowed :: rest)
    {w : Prop}
    (hw : (∀ m ∈ rest, m.cameraOnly = true) → .withdraw i ∈ rest →
      (s.slot i).cameraAvailableRequested = true → cameraAllowed = false → w) :
    Linked ((s.exec (.publishSlot i published cameraAllowed audioAllowed)).slot i) session
      ((s.exec (.publishSlot i published cameraAllowed audioAllowed)).rdp session) w := by
  have hsound := h.sound
  rw [htodo] at hsound
  obtain ⟨⟨-, hgone, hrest⟩, -⟩ := hsound
  have hidle : ¬ s.Withdrawing i := by
    rintro ⟨honly, -⟩
    rw [htodo] at honly
    cases honly _ List.mem_cons_self
  have hcall : s.capture.shared.redirect.call
      (.publishSlot i published cameraAllowed audioAllowed) = none := rfl
  rw [exec_slot, exec_rdp_none hcall]
  simp only [Redirect.exec, Redirect.modifySlot_same]
  refine (h.linked i session hworker).publish hidle ?_ rfl rfl ?_
  · by_cases hsame : (s.slot i).session = published
    · exact .inl hsame.symm
    · exact .inr (hgone hsame)
  · by_cases hdrops : (s.slot i).session ≠ published ∨ cameraAllowed = false
    · refine .inr ⟨if_pos hdrops, fun hrequested hsame => hw ?_ ?_ hrequested ?_⟩
      · rw [hrest]
        intro m hm
        rcases List.mem_cons.1 hm with rfl | hm
        · rfl
        · exact updateCameraAvailability_only m hm
      · rw [hrest]
        refine List.mem_cons_of_mem _ (List.mem_append_left _ (List.mem_map_of_mem ?_))
        exact List.mem_finRange i
      · exact hdrops.resolve_left fun hchanged => hchanged hsame.symm
    · exact .inl ⟨if_neg hdrops, if_neg hdrops⟩

theorem dropSession_linked (h : CreditInv s) (hworker : s.worker i = some session)
    (htodo : s.capture.todo = .dropSession i :: rest) {w : Prop} :
    Linked ((s.exec (.dropSession i)).slot i) session ((s.exec (.dropSession i)).rdp session) w := by
  have hsound := h.sound
  rw [htodo] at hsound
  have hidle : ¬ s.Withdrawing i := by
    rintro ⟨honly, -⟩
    rw [htodo] at honly
    cases honly _ List.mem_cons_self
  have hcall : s.capture.shared.redirect.call (.dropSession i) = none := rfl
  rw [exec_slot, exec_rdp_none hcall]
  simp only [Redirect.exec, Redirect.modifySlot_same]
  exact (h.linked i session hworker).publish hidle (.inr hsound.1) rfl rfl (.inl ⟨rfl, rfl⟩)

/-- A small step keeps every session linked to its slot. -/
theorem micro_linked (h : CreditInv s) (htodo : s.capture.todo = m :: rest)
    (hasks : s.asksInTime = true) (hworker : s.worker i = some session)
    (hrest : t.capture.todo = rest)
    (hshared : t.capture.shared = (s.exec m).capture.shared) (hrdp : t.rdp = (s.exec m).rdp) :
    Linked (t.slot i) session (t.rdp session) (t.Withdrawing i) := by
  have hlinked := h.linked i session hworker
  have hslot : t.slot i = (s.exec m).slot i := by
    unfold CreditSystem.slot
    rw [hshared]
  have hstill : m ≠ .withdraw i → s.Withdrawing i →
      ((s.exec m).slot i).cameraAvailableRequested = (s.slot i).cameraAvailableRequested →
        t.Withdrawing i := by
    intro hm hgoing hrequested
    have hgoing' := withdrawing_exec htodo hm hgoing hrequested
    rw [CreditSystem.Withdrawing, hrest, hslot, hshared]
    exact hgoing'
  rw [hslot, hrdp]
  by_cases hslotOf : slotOf m = some i
  swap
  · -- a step about another slot
    obtain ⟨hsame, hother⟩ := exec_elsewhere hslotOf (h.alone hworker)
    have hsame' : (s.exec m).slot i = s.slot i := hsame
    rw [hsame', hother]
    refine hlinked.plain (.refl _ _) fun hgoing _ => hstill (fun hm => ?_) hgoing ?_
    · rw [hm] at hslotOf
      exact hslotOf rfl
    · rw [hsame']
  cases hplain : isPlain m with
  | true =>
    have hp := exec_plain hplain (h.own hworker) (h.alone hworker) fun hwanted =>
      (hlinked.requested hwanted).1
    refine hlinked.plain hp fun hgoing hwanted => hstill (fun hm => ?_) hgoing (hp.desired hwanted).2
    rw [hm] at hplain
    cases hplain
  | false =>
    have hfine := h.sound
    rw [htodo] at hfine
    cases m with
    | withdraw j =>
      obtain rfl := Option.some.inj hslotOf
      exact withdraw_linked h hworker
    | advertise j =>
      obtain rfl := Option.some.inj hslotOf
      exact advertise_linked h hworker htodo hasks (hstill nofun)
    | publishSlot j published cameraAllowed audioAllowed =>
      obtain rfl := Option.some.inj hslotOf
      refine publishSlot_linked h hworker htodo fun honly hmem hrequested hdenied => ?_
      rw [CreditSystem.Withdrawing, hrest, hslot, hshared, exec_slot, exec_shared]
      refine ⟨honly, hmem, ?_, ?_⟩
      · simp only [Redirect.exec, Redirect.modifySlot_same]
        exact hrequested
      · simp only [Shared.exec, Redirect.exec, Redirect.cameraAvailable,
          Redirect.cameraSlotEligible, Redirect.modifySlot_same, hdenied, Bool.and_false,
          Bool.false_and]
    | dropSession j =>
      obtain rfl := Option.some.inj hslotOf
      exact dropSession_linked h hworker htodo
    | startCamera | stopCamera | requestSample => exact hfine.1.elim
    | _ => cases hplain

/-- What a slot is known to hold after a small step has a worker. -/
theorem exec_published (h : CreditInv s) (htodo : s.capture.todo = m :: rest) (j : SlotIndex)
    (other : Session) (hother : ((s.exec m).slot j).session = some other) :
    s.worker j = some other := by
  have hfine := h.sound
  rw [htodo] at hfine
  rw [exec_slot] at hother
  cases hfree : isFree m with
  | true =>
    rw [exec_session _ _ hfree] at hother
    exact h.published j other hother
  | false =>
    cases m with
    | publishSlot i published cameraAllowed audioAllowed =>
      by_cases hj : j = i
      · rw [hj] at hother ⊢
        simp only [Redirect.exec, Redirect.modifySlot_same] at hother
        exact hfine.1.1 other hother
      · have hslot : slotOf (.publishSlot i published cameraAllowed audioAllowed) ≠ some j :=
          fun heq => hj (Option.some.inj heq).symm
        rw [exec_other _ _ _ hslot] at hother
        exact h.published j other hother
    | dropSession i =>
      by_cases hj : j = i
      · rw [hj] at hother
        simp only [Redirect.exec, Redirect.modifySlot_same] at hother
        cases hother
      · have hslot : slotOf (.dropSession i) ≠ some j :=
          fun heq => hj (Option.some.inj heq).symm
        rw [exec_other _ _ _ hslot] at hother
        exact h.published j other hother
    | startCamera | stopCamera | requestSample => exact hfine.1.elim
    | _ => cases hfree

theorem CreditInv.micro (h : CreditInv s) (hasks : s.asksInTime = true) {e : Unit}
    (hstep : s.step .micro = some (t, e)) : CreditInv t := by
  cases htodo : s.capture.todo with
  | nil =>
    simp only [CreditSystem.step, htodo] at hstep
    cases hstep
  | cons m rest =>
    obtain ⟨hparties, hrest, hshared, hrdp⟩ := micro_eq htodo hstep
    have hworker : ∀ i, t.worker i = s.worker i := by
      intro i
      unfold CreditSystem.worker
      rw [hparties]
    have hslot : ∀ i, t.slot i = (s.exec m).slot i := by
      intro i
      unfold CreditSystem.slot
      rw [hshared]
    have hsafe := h.ok.safe
    have hsound := h.sound
    rw [htodo] at hsafe hsound
    refine ⟨⟨?_, ?_⟩, ?_, fun i other hother => ?_, fun i j session hi hj => ?_,
      fun i session hi => ?_⟩
    · rw [hparties, hrest, hshared, exec_shared]
      exact hsafe.2 (answerOf s m)
    · rw [hparties]
      exact h.ok.threads
    · rw [hparties, hrest, hshared, exec_shared]
      exact hsound.2 (answerOf s m)
    · rw [hslot] at hother
      rw [hworker]
      exact exec_published h htodo i other hother
    · rw [hworker] at hi hj
      exact h.apart i j session hi hj
    · rw [hworker] at hi
      exact micro_linked h htodo hasks hi hrest hshared hrdp

end Micro

/-! ## The worker and its callbacks -/

section Worker

theorem setRdp_same (s : CreditSystem) (session : Session) (r : RdpSide) :
    (s.setRdp session r).rdp session = r := if_pos rfl

theorem setRdp_other (s : CreditSystem) {session other : Session} (r : RdpSide)
    (h : other ≠ session) : (s.setRdp session r).rdp other = s.rdp other := if_neg h

/-- One session's side moves on its own. -/
theorem CreditInv.setRdp (h : CreditInv s) (hworker : s.worker i = some session) {r : RdpSide}
    (hlinked : Linked (s.slot i) session r (s.Withdrawing i)) : CreditInv (s.setRdp session r) := by
  refine ⟨h.ok, h.sound, h.published, h.apart, fun j other hj => ?_⟩
  by_cases hother : other = session
  · subst hother
    obtain rfl := h.apart j i other hj hworker
    rw [setRdp_same]
    exact hlinked
  · rw [setRdp_other s r hother]
    exact h.linked j other hj

theorem CreditInv.worker (h : CreditInv s) {a : WorkerAction} {e : Unit}
    (hstep : s.step (.worker i a) = some (t, e)) : CreditInv t := by
  simp only [CreditSystem.step] at hstep
  cases hworker : (s.capture.parties.handles i).worker with
  | none =>
    rw [hworker] at hstep
    cases hstep
  | some session =>
    rw [hworker] at hstep
    obtain ⟨r, hr, heq⟩ := Option.map_eq_some_iff.1 hstep
    obtain ⟨rfl, -⟩ := Prod.mk.inj heq
    exact h.setRdp hworker ((h.linked i session hworker).work hr)

/-- What a callback's section leaves alone. -/
structure Beside (i : SlotIndex) (s u : CreditSystem) : Prop where
  parties : u.capture.parties = s.capture.parties
  todo : u.capture.todo = s.capture.todo
  sessions : ∀ j, (u.slot j).session = (s.slot j).session
  others : ∀ j session, s.worker j = some session → j ≠ i →
    u.slot j = s.slot j ∧ u.rdp session = s.rdp session

theorem Beside.refl (i : SlotIndex) (s : CreditSystem) : Beside i s s :=
  ⟨rfl, rfl, fun _ => rfl, fun _ _ _ _ => ⟨rfl, rfl⟩⟩

/-- One more step about the same slot. -/
theorem Beside.exec {u : CreditSystem} (hb : Beside i s u) (h : CreditInv s)
    (hslot : slotOf m = some i) (honly : m.cameraOnly = true) : Beside i s (u.exec m) := by
  have hframe := exec_cameraOnly u.capture.shared.redirect (answerOf u m) honly
  refine ⟨(exec_parties u m).trans hb.parties, (exec_todo u m).trans hb.todo, fun j => ?_,
    fun j session hworker hj => ?_⟩
  · rw [exec_slot, (hframe.slot j).1]
    exact hb.sessions j
  · obtain ⟨hsame, hrdp⟩ := hb.others j session hworker hj
    have hne : slotOf m ≠ some j := by
      rw [hslot]
      exact fun heq => hj (Option.some.inj heq).symm
    have hapart : ∀ k, (u.capture.shared.redirect.slots k).session = some session → k = j := by
      intro k hk
      exact h.alone hworker k ((hb.sessions k).symm.trans hk)
    obtain ⟨hstill, hrdp'⟩ := exec_elsewhere hne hapart
    exact ⟨Eq.trans hstill hsame, hrdp'.trans hrdp⟩

/-- A safe section that is worked off at once. -/
theorem foldl_atRest {p : Parties} {l : List Micro} (hparties : s.capture.parties = p)
    (h : Safe p l s.capture.shared) : AtRest p (l.foldl CreditSystem.exec s).capture.shared := by
  induction l generalizing s with
  | nil => exact h
  | cons m l ih =>
    rw [List.foldl_cons]
    refine ih ((exec_parties s m).trans hparties) ?_
    rw [exec_shared]
    exact h.2 (answerOf s m)

theorem not_withdrawing (hfree : s.capture.todo = []) : ¬ s.Withdrawing i := by
  rintro ⟨-, hmem, -⟩
  rw [hfree] at hmem
  cases hmem

/-- A callback is delivered. -/
theorem CreditInv.popOutbox (h : CreditInv s) (hfree : s.capture.todo = [])
    (hworker : s.worker i = some session) {u : CreditSystem} (hb : Beside i s u)
    (hrest : AtRest s.capture.parties u.capture.shared)
    (hlinked : Linked (u.slot i) session { u.rdp session with outbox := (u.rdp session).outbox.tail }
      False) : CreditInv (u.popOutbox session) := by
  have htodo := hb.todo.trans hfree
  have hworkers : ∀ j, u.worker j = s.worker j := by
    intro j
    unfold CreditSystem.worker
    rw [hb.parties]
  refine ⟨⟨?_, ?_⟩, ?_, fun j other hother => ?_, fun j k other hj hk => ?_, fun j other hj => ?_⟩
  · show Safe u.capture.parties u.capture.todo u.capture.shared
    rw [htodo, hb.parties]
    exact hrest
  · show u.capture.parties.cameraThreadRunning = true → ∀ config,
      u.capture.parties.control ≠ .joined config ∧ u.capture.parties.control ≠ .withdrawn config
    rw [hb.parties]
    exact h.ok.threads
  · show Sound u.capture.parties u.capture.todo u.capture.shared.redirect
    rw [htodo]
    trivial
  · show u.worker j = some other
    rw [hworkers]
    exact h.published j other ((hb.sessions j).symm.trans hother)
  · have hj' : u.worker j = some other := hj
    have hk' : u.worker k = some other := hk
    rw [hworkers] at hj' hk'
    exact h.apart j k other hj' hk'
  · have hj' : u.worker j = some other := hj
    rw [hworkers] at hj'
    show Linked (u.slot j) other ((u.popOutbox session).rdp other) (u.Withdrawing j)
    unfold CreditSystem.popOutbox
    by_cases hji : j = i
    · subst hji
      obtain rfl := Option.some.inj (hworker.symm.trans hj')
      rw [setRdp_same]
      exact hlinked.plain (.refl _ _) fun hf _ => hf.elim
    · have hother : other ≠ session := by
        rintro rfl
        exact hji (h.apart j i other hj' hworker)
      obtain ⟨hslot, hrdp⟩ := hb.others j other hj' hji
      rw [setRdp_other _ _ hother, hslot, hrdp]
      exact (h.linked j other hj').plain (.refl _ _) fun hgoing _ =>
        absurd hgoing (not_withdrawing hfree)

/-- The start of a stream reaches its slot, which first answers for the old one. -/
theorem start_delivered (h : CreditInv s) (hfree : s.capture.todo = [])
    (hworker : s.worker i = some session) {g : Nat} {width height fps : UInt16}
    {rest : List CameraCallback} (hout : (s.rdp session).outbox = .start g width height fps :: rest) :
    CreditInv (((callbackSection i (.start g width height fps)).foldl CreditSystem.exec s).popOutbox
      session) := by
  have hlinked := h.linked i session hworker
  have hp := exec_plain (s := s) (m := .failCredit i none) (i := i) rfl (h.own hworker)
    (h.alone hworker) fun hwanted => (hlinked.requested hwanted).1
  have hrest := foldl_atRest rfl
    (cameraStart_safe (h.ok.atRest hfree) i g width height fps)
  have hb := ((Beside.refl i s).exec h (m := .failCredit i none) rfl rfl).exec h
    (m := .startCamera i g width height fps) rfl rfl
  refine h.popOutbox hfree hworker hb hrest ?_
  have hsection : (callbackSection i (.start g width height fps)).foldl CreditSystem.exec s =
      (s.exec (.failCredit i none)).exec (.startCamera i g width height fps) := rfl
  rw [hsection]
  have hcall : (s.exec (.failCredit i none)).capture.shared.redirect.call
      (.startCamera i g width height fps) = none := rfl
  rw [exec_slot, exec_rdp_none hcall]
  simp only [Redirect.exec, Redirect.modifySlot_same]
  have hout' : ((s.exec (.failCredit i none)).rdp session).outbox =
      .start g width height fps :: rest := hp.outbox.trans hout
  rw [hout', List.tail_cons]
  have hanswered : Linked _ session _ (s.Withdrawing i) := hlinked.plain hp fun hgoing _ => hgoing
  exact hanswered.start hout' rfl rfl rfl rfl

theorem stop_delivered (h : CreditInv s) (hfree : s.capture.todo = [])
    (hworker : s.worker i = some session) {g : Nat}
    {rest : List CameraCallback} (hout : (s.rdp session).outbox = .stop g :: rest) :
    CreditInv (((callbackSection i (.stop g)).foldl CreditSystem.exec s).popOutbox session) := by
  have hrest := foldl_atRest rfl (cameraStop_safe (h.ok.atRest hfree) i g)
  have hb := (Beside.refl i s).exec h (m := .stopCamera i g) rfl rfl
  refine h.popOutbox hfree hworker hb hrest ?_
  have hsection : (callbackSection i (.stop g)).foldl CreditSystem.exec s =
      s.exec (.stopCamera i g) := rfl
  have hcall : s.capture.shared.redirect.call (.stopCamera i g) = none := rfl
  rw [hsection, exec_slot, exec_rdp_none hcall, hout, List.tail_cons]
  simp only [Redirect.exec]
  split
  · rw [Redirect.modifySlot_same]
    exact (h.linked i session hworker).stop hout rfl rfl
  · exact (h.linked i session hworker).stop hout rfl rfl

theorem sampleRequest_delivered (h : CreditInv s) (hfree : s.capture.todo = [])
    (hworker : s.worker i = some session) {g : Nat}
    {rest : List CameraCallback} (hout : (s.rdp session).outbox = .sampleRequest g :: rest) :
    CreditInv (((callbackSection i (.sampleRequest g)).foldl CreditSystem.exec s).popOutbox
      session) := by
  have hrest := foldl_atRest rfl (cameraSampleRequest_safe (h.ok.atRest hfree) i g)
  have hb := (Beside.refl i s).exec h (m := .requestSample i g) rfl rfl
  refine h.popOutbox hfree hworker hb hrest ?_
  have hlinked := h.linked i session hworker
  have hidle : ¬ s.Withdrawing i := not_withdrawing hfree
  have hsection : (callbackSection i (.sampleRequest g)).foldl CreditSystem.exec s =
      s.exec (.requestSample i g) := rfl
  have hcall : s.capture.shared.redirect.call (.requestSample i g) = none := rfl
  rw [hsection, exec_slot, exec_rdp_none hcall, hout, List.tail_cons]
  simp only [Redirect.exec]
  split
  · rw [Redirect.modifySlot_same]
    exact hlinked.sampleRequest hidle hout rfl rfl rfl rfl fun _ => Nat.succ_pos _
  · rename_i hrefused
    refine hlinked.sampleRequest hidle hout rfl rfl rfl rfl fun hstreams => ?_
    by_contra hnone
    exact hrefused ⟨hstreams.1, hstreams.2, by omega⟩

theorem CreditInv.callback (h : CreditInv s) {e : Unit}
    (hstep : s.step (.callback i) = some (t, e)) : CreditInv t := by
  simp only [CreditSystem.step] at hstep
  cases hpending : s.pending i with
  | none =>
    rw [hpending] at hstep
    cases hstep
  | some pair =>
    obtain ⟨session, callback⟩ := pair
    rw [hpending] at hstep
    simp only [Option.ite_none_right_eq_some] at hstep
    obtain ⟨⟨hfree, -⟩, hstep⟩ := hstep
    obtain ⟨rfl, -⟩ := Prod.mk.inj (Option.some.inj hstep)
    unfold CreditSystem.pending at hpending
    cases hworker : (s.capture.parties.handles i).worker with
    | none =>
      rw [hworker] at hpending
      cases hpending
    | some other =>
      rw [hworker] at hpending
      obtain ⟨head, hhead, heq⟩ := Option.map_eq_some_iff.1 hpending
      obtain ⟨rfl, rfl⟩ := Prod.mk.inj heq
      obtain ⟨rest, hout⟩ := List.head?_eq_some_iff.1 hhead
      cases head with
      | start g width height fps => exact start_delivered h hfree hworker hout
      | stop g => exact stop_delivered h hfree hworker hout
      | sampleRequest g => exact sampleRequest_delivered h hfree hworker hout

end Worker

end Lgnome.Camera
