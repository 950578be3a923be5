import Lgnome.Capture.Guard

/-!
# The sections of the capture manager

Every function that takes the lock at rest is safe at every point and leaves the
manager at rest.
-/
namespace Lgnome.Capture

open Lgnome.Native (SlotIndex Session)
open Lgnome.Transition

variable {p : Parties} {s : Shared} {i : SlotIndex}

/-- Everything at rest but the requests. -/
structure Unsettled (p : Parties) (s : Shared) : Prop where
  guarded : Guarded p s
  placed : ∀ i, Placed p s.redirect i
  withdrawn : Withdrawn p s.redirect

theorem AtRest.unsettled (h : AtRest p s) : Unsettled p s := ⟨h.guarded, h.placed, h.withdrawn⟩

theorem Unsettled.exec {m : Micro} (h : Unsettled p s) (hok : StepOk s m) (hm : m.cameraOnly)
    (answer : Bool) : Unsettled p (s.exec m answer) := by
  have hframe := shared_cameraOnly s m answer hm
  exact ⟨h.guarded.exec hok hm answer, fun i => (h.placed i).frame hframe, h.withdrawn.frame hframe⟩

theorem map_eq_rounds (f : SlotIndex → Micro) (xs : List SlotIndex) :
    xs.map f = xs.flatMap fun i => [f i] := by
  induction xs with
  | nil => rfl
  | cons x xs ih => rw [List.map_cons, List.flatMap_cons, ih, List.singleton_append]

/-- The removals first, then the additions, and every request is in its place. -/
theorem updateCameraAvailability_safe (h : Unsettled p s) :
    Safe p Redirect.updateCameraAvailability s := by
  have hmem : ∀ i : SlotIndex, i ∈ Redirect.slotRange := fun i => List.mem_finRange i
  unfold Redirect.updateCameraAvailability
  rw [map_eq_rounds, map_eq_rounds]
  apply Along.append (AtRest p)
  · have hloop : Along Shared.exec StepOk
        (fun s => Unsettled p s ∧ ∀ j ∈ Redirect.slotRange,
          (s.redirect.slots j).cameraAvailableRequested → s.redirect.cameraAvailable j)
        (Redirect.slotRange.flatMap fun i => [.withdraw i]) s := by
      apply Along.loop (fun pre s => Unsettled p s ∧ ∀ j ∈ pre,
          (s.redirect.slots j).cameraAvailableRequested → s.redirect.cameraAvailable j)
      · exact ⟨h, fun j hj => by cases hj⟩
      · intro pre i post _ s hdone
        have hok := hdone.1.guarded.withdraw_ok i
        refine ⟨hok, fun answer => ⟨hdone.1.exec hok rfl answer, fun j hj hrequested => ?_⟩⟩
        have hframe := shared_cameraOnly s (.withdraw i) answer rfl
        rw [hframe.available]
        simp only [Shared.exec, Redirect.exec] at hrequested
        split at hrequested
        · rename_i hkept
          rcases List.mem_append.mp hj with hold | hnew
          · exact hdone.2 j hold hrequested
          · rw [List.mem_singleton.mp hnew] at hrequested ⊢
            simpa [hrequested] using hkept
        · by_cases hji : j = i
          · rw [hji, Redirect.modifySlot_same] at hrequested
            cases hrequested
          · rw [Redirect.modifySlot_other _ _ _ hji] at hrequested
            rcases List.mem_append.mp hj with hold | hnew
            · exact hdone.2 j hold hrequested
            · exact absurd (List.mem_singleton.mp hnew) hji
    apply hloop.mono
    intro s hdone
    exact ⟨hdone.1.guarded, hdone.1.placed, hdone.1.withdrawn, fun i => hdone.2 i (hmem i)⟩
  · intro s hrest
    apply Along.loop (fun _ => AtRest p) _ hrest
    intro _ i _ _ s hrest
    have hok := hrest.guarded.advertise_ok i
    refine ⟨hok, fun answer => ?_⟩
    have hframe := shared_cameraOnly s (.advertise i) answer rfl
    obtain ⟨hguarded, hplaced, hwithdrawn⟩ := hrest.unsettled.exec hok rfl answer
    refine ⟨hguarded, hplaced, hwithdrawn, fun j hrequested => ?_⟩
    rw [hframe.available]
    simp only [Shared.exec, Redirect.exec] at hrequested
    split at hrequested
    · exact hrest.settled j hrequested
    · rename_i hnew
      by_cases hji : j = i
      · rw [hji]
        simp only [Bool.or_eq_true, Bool.not_eq_true', not_or, Bool.not_eq_false] at hnew
        exact hnew.2
      · rw [Redirect.modifySlot_other _ _ _ hji] at hrequested
        exact hrest.settled j hrequested

theorem modifySlot_requests (r : Redirect) (i j : SlotIndex) (f : CaptureSlot → CaptureSlot)
    (hf : (f (r.slots i)).cameraAvailableRequested = (r.slots i).cameraAvailableRequested) :
    ((r.modifySlot i f).slots j).cameraAvailableRequested =
      (r.slots j).cameraAvailableRequested := by
  by_cases hj : j = i
  · rw [hj, Redirect.modifySlot_same]
    exact hf
  · rw [Redirect.modifySlot_other _ _ _ hj]

theorem failCredit_requests (r : Redirect) (i j : SlotIndex) (generation : Nat) (accepted : Bool) :
    ((r.failCredit i generation accepted).slots j).cameraAvailableRequested =
      (r.slots j).cameraAvailableRequested := by
  unfold Redirect.failCredit
  split
  · exact modifySlot_requests r i j _ rfl
  · rfl

theorem exec_requests (r : Redirect) {m : Micro} (answer : Bool) (hm : m.requests = false)
    (j : SlotIndex) :
    ((r.exec m answer).slots j).cameraAvailableRequested =
      (r.slots j).cameraAvailableRequested := by
  cases m with
  | failCredit i generation => exact failCredit_requests r i j _ answer
  | startCamera i | startAudio i | dropSession i | publishSlot i =>
    simp only [Redirect.exec]
    exact modifySlot_requests r i j _ rfl
  | stopCamera i | requestSample i | stopAudio i =>
    simp only [Redirect.exec]
    split
    · exact modifySlot_requests r i j _ rfl
    · rfl
  | submitH264 i =>
    simp only [Redirect.exec]
    split
    · split
      · exact modifySlot_requests r i j (fun s => { s with cameraCredit := s.cameraCredit - 1 }) rfl
      · rfl
    · rfl
  | failRejected i generation =>
    simp only [Redirect.exec]
    split
    · exact failCredit_requests r i j generation answer
    · rfl
  | forgetAvailability | withdraw | advertise => cases hm
  | _ => rfl

/-- Camera steps that request nothing keep the manager at rest. -/
theorem AtRest.exec {m : Micro} (h : AtRest p s) (hok : StepOk s m) (hm : m.cameraOnly)
    (hrequests : m.requests = false) (answer : Bool) : AtRest p (s.exec m answer) := by
  have hframe := shared_cameraOnly s m answer hm
  obtain ⟨hguarded, hplaced, hwithdrawn⟩ := h.unsettled.exec hok hm answer
  refine ⟨hguarded, hplaced, hwithdrawn, fun j hrequested => ?_⟩
  rw [hframe.available]
  have hsame := exec_requests s.redirect answer hrequests j
  change ((s.redirect.exec m answer).slots j).cameraAvailableRequested = true at hrequested
  rw [hsame] at hrequested
  exact h.settled j hrequested

theorem AtRest.failCredit (h : AtRest p s) (i : SlotIndex) (generation : Option Nat)
    (answer : Bool) : AtRest p (s.exec (.failCredit i generation) answer) :=
  h.exec (h.guarded.failCredit_ok i generation) rfl rfl answer

theorem AtRest.closeGate (h : AtRest p s) (i : SlotIndex) (answer : Bool) :
    AtRest p (s.exec (.closeGate i) answer) :=
  h.exec (h.guarded.closeGate_ok i) rfl rfl answer

/-- A gate that was closed in this step. -/
theorem closeGate_closed (s : Shared) (i : SlotIndex) (answer : Bool) {session : Session}
    (hsession : (s.redirect.slots i).session = some session) :
    (s.exec (.closeGate i) answer).gates session = false := by
  show Shared.setGate s.gates (s.redirect.call (.closeGate i)) session = false
  simp [Redirect.call, hsession, Shared.setGate]

theorem gate_stays_closed {m : Micro} (answer : Bool) {session : Session}
    (hclosed : s.gates session = false)
    (hcall : s.redirect.call m ≠ some (.setCaptureActive session true)) :
    (s.exec m answer).gates session = false := by
  cases hopen : (s.exec m answer).gates session with
  | false => rfl
  | true =>
    rcases exec_gates s m answer session hopen with hold | hopens
    · rw [hclosed] at hold
      cases hold
    · exact absurd hopens hcall

theorem failCredit_opens_nothing (s : Shared) (i : SlotIndex) (generation : Option Nat)
    (session : Session) :
    s.redirect.call (.failCredit i generation) ≠ some (.setCaptureActive session true) := by
  intro hcall
  obtain ⟨_, -, heq⟩ := failCreditCall_eq hcall
  cases heq

theorem closeGate_opens_nothing (s : Shared) (i : SlotIndex) (session : Session) :
    s.redirect.call (.closeGate i) ≠ some (.setCaptureActive session true) := by
  intro hcall
  obtain ⟨_, -, heq⟩ := Option.map_eq_some_iff.mp hcall
  cases heq

/-- The old gates are closed before the new owner is published and its gate opened. -/
theorem setForegroundSlot_safe (h : AtRest p s) (slot : Option SlotIndex) :
    Safe p (s.redirect.setForegroundSlot slot) s := by
  unfold Redirect.setForegroundSlot
  by_cases hsame : s.redirect.foregroundSlot = slot
  · rw [if_pos hsame]
    exact h
  · rw [if_neg hsame]
    have hclosing : Along Shared.exec StepOk
        (fun s' => AtRest p s' ∧ s'.redirect.foregroundSlot = s.redirect.foregroundSlot ∧
          ∀ j ∈ Redirect.slotRange.filter fun i => slot ≠ some i, ∀ session,
            (s'.redirect.slots j).session = some session → s'.gates session = false)
        ((Redirect.slotRange.filter fun i => slot ≠ some i).flatMap Redirect.closeOld) s := by
      apply Along.loop (fun pre s' => AtRest p s' ∧
          s'.redirect.foregroundSlot = s.redirect.foregroundSlot ∧ ∀ j ∈ pre, ∀ session,
            (s'.redirect.slots j).session = some session → s'.gates session = false)
      · exact ⟨h, rfl, fun j hj => by cases hj⟩
      · intro pre i post _ s' hdone
        obtain ⟨hrest, hforeground, hclosed⟩ := hdone
        refine ⟨hrest.guarded.failCredit_ok i none, fun accepted => ?_⟩
        have hframe := shared_cameraOnly s' (.failCredit i none) accepted rfl
        have hrest' := hrest.failCredit i none accepted
        refine ⟨hrest'.guarded.closeGate_ok i, fun answer => ⟨hrest'.closeGate i answer,
          hframe.foregroundSlot.trans hforeground, fun j hj session hsession => ?_⟩⟩
        rcases List.mem_append.mp hj with hold | hnew
        · have hstill := hclosed j hold session ((hframe.slot j).1.symm.trans hsession)
          exact gate_stays_closed answer
            (gate_stays_closed accepted hstill (failCredit_opens_nothing s' i none session))
            (closeGate_opens_nothing _ i session)
        · rw [List.mem_singleton.mp hnew] at hsession
          exact closeGate_closed _ i answer hsession
    apply hclosing.append
    intro s' hclosed
    obtain ⟨hrest, hforeground, hclosed⟩ := hclosed
    -- Whoever owned an open gate was among the slots just closed.
    have hnone : ∀ session, s'.gates session = false := by
      intro session
      cases hopen : s'.gates session with
      | false => rfl
      | true =>
        obtain ⟨j, hj, hsession⟩ := hrest.guarded.owned session hopen
        rw [← hclosed j _ session hsession, hopen]
        refine List.mem_filter.mpr ⟨List.mem_finRange j, ?_⟩
        rw [hforeground] at hj
        rw [hj] at hsame
        simpa using fun heq : slot = some j => hsame heq.symm
    refine ⟨hrest.guarded.stepOk (fun call hcall => by cases hcall), fun answer => ?_⟩
    have hpublished : Unsettled p (s'.exec (.publishForeground slot) answer) := by
      refine ⟨⟨fun session hopen => ?_, hrest.guarded.credited, hrest.guarded.opens,
        hrest.guarded.counted, fun i c hh => ?_⟩, fun i => ?_, hrest.withdrawn⟩
      · change s'.gates session = true at hopen
        rw [hnone] at hopen
        cases hopen
      · obtain ⟨h1, h2, h3, h4, h5, h6⟩ := hrest.guarded.targets i c hh
        exact ⟨h1, h2, h3, h4, h5, h6⟩
      · obtain ⟨h1, h2⟩ := hrest.placed i
        exact ⟨h1, h2⟩
    have howner : (s'.exec (.publishForeground slot) answer).redirect.foregroundSlot = slot := rfl
    cases slot with
    | none => exact updateCameraAvailability_safe hpublished
    | some i =>
      have hok := hpublished.guarded.openGate_ok howner
      exact ⟨hok, fun answer => updateCameraAvailability_safe (hpublished.exec hok rfl answer)⟩

/-- One slot is about to change hands; the others are in place. -/
structure Handing (p : Parties) (i : SlotIndex) (old : Option Session) (streaming : Bool)
    (s : Shared) : Prop where
  guarded : Guarded p s
  placed : ∀ j, j ≠ i → Placed p s.redirect j
  withdrawn : Withdrawn p s.redirect
  session : (s.redirect.slots i).session = old
  streaming : (s.redirect.slots i).audioStreaming = streaming

theorem Handing.exec {old : Option Session} {streaming : Bool} {m : Micro}
    (h : Handing p i old streaming s) (hok : StepOk s m) (hm : m.cameraOnly) (answer : Bool) :
    Handing p i old streaming (s.exec m answer) := by
  have hframe := shared_cameraOnly s m answer hm
  obtain ⟨hsession, -, -, hstreaming, -, -⟩ := hframe.slot i
  exact ⟨h.guarded.exec hok hm answer, fun j hj => (h.placed j hj).frame hframe,
    h.withdrawn.frame hframe, hsession.trans h.session, hstreaming.trans h.streaming⟩

/-- The session that is given up has its gate closed. -/
theorem releaseSession_safe {old : Option Session} {streaming : Bool}
    (h : Handing p i old streaming s) (session : Option Session) :
    Along Shared.exec StepOk
      (fun s' => Handing p i old streaming s' ∧
        (old ≠ session → ∀ other, old = some other → s'.gates other = false))
      (s.redirect.releaseSession i session) s := by
  unfold Redirect.releaseSession
  rw [h.session]
  by_cases hchanges : old.isSome ∧ old ≠ session
  · rw [if_pos hchanges]
    have hfail := h.guarded.failCredit_ok i none
    refine ⟨hfail, fun accepted => ?_⟩
    have h₁ := h.exec hfail rfl accepted
    have hclose := h₁.guarded.closeGate_ok i
    refine ⟨hclose, fun answer => ?_⟩
    have h₂ := h₁.exec hclose rfl answer
    have hforget := h₂.guarded.forgetAvailability_ok i
    refine ⟨hforget, fun last => ⟨h₂.exec hforget rfl last, fun _ other hother => ?_⟩⟩
    have hclosed := closeGate_closed (s.exec (.failCredit i none) accepted) i answer
      (h₁.session.trans hother)
    refine gate_stays_closed last hclosed fun hcall => ?_
    simp only [Redirect.call] at hcall
    split at hcall
    · obtain ⟨_, -, heq⟩ := Option.map_eq_some_iff.mp hcall
      cases heq
    · cases hcall
  · rw [if_neg hchanges]
    refine ⟨h, fun hne other hother => ?_⟩
    rw [hother] at hchanges hne
    exact absurd ⟨rfl, hne⟩ hchanges

/-- The slot's new owner is published: with another session or without permission
none of its old streams is left, and a new session object outdates every target. -/
theorem publishSlot_hands {old session : Option Session} {streaming : Bool}
    (h : Handing p i old streaming s) (cameraAllowed audioAllowed answer : Bool)
    (hclosed : old ≠ session → ∀ other, old = some other → s.gates other = false)
    (hlive : ∀ other, session = some other → p.handles i = .live other)
    (hsilent : p.handles i = .none → audioAllowed = false ∨ streaming = false) :
    Unsettled p (s.exec (.publishSlot i session cameraAllowed audioAllowed) answer) := by
  obtain ⟨⟨howned, hcredited, hopens, hcounted, htargets⟩, hplaced, hwithdrawn, rfl, rfl⟩ := h
  have hcredit := exec_credited hcredited (.publishSlot i session cameraAllowed audioAllowed) answer
  refine ⟨⟨fun other hopen => ?_, hcredit, fun j hstreaming => ?_, fun j => ?_, fun j c hholds => ?_⟩,
    fun j => ?_, hwithdrawn⟩
  · change s.gates other = true at hopen
    obtain ⟨j, hj, hother⟩ := howned other hopen
    refine ⟨j, hj, ?_⟩
    by_cases hji : j = i
    · subst hji
      by_cases hsame : (s.redirect.slots j).session = session
      · simp only [Shared.exec, Redirect.exec, Redirect.modifySlot_same]
        exact hsame.symm.trans hother
      · rw [hclosed hsame other hother] at hopen
        cases hopen
    · simp only [Shared.exec, Redirect.exec, Redirect.modifySlot_other _ _ _ hji]
      exact hother
  · by_cases hji : j = i
    · subst hji
      simp only [Shared.exec, Redirect.exec, Redirect.modifySlot_same] at hstreaming ⊢
      split at hstreaming
      · cases hstreaming
      · exact hopens j hstreaming
    · simp only [Shared.exec, Redirect.exec, Redirect.modifySlot_other _ _ _ hji] at hstreaming ⊢
      exact hopens j hstreaming
  · have hbefore := hcounted j
    simp only [Shared.exec, Redirect.exec]
    split
    · rw [hbefore, UInt32.ofNat_add]
      rfl
    · exact hbefore
  · obtain ⟨hbound, hpresent, hcount, hallowed, hstate, hgeneration⟩ := htargets j c hholds
    by_cases hji : j = i
    · subst hji
      by_cases hsame : (s.redirect.slots j).session = session
      · refine ⟨?_, ?_, ?_, ?_, hstate, hgeneration⟩
        · simpa [Shared.exec, Redirect.exec, hsame] using hbound
        · simpa [Shared.exec, Redirect.exec, hsame] using hpresent
        · simpa [Shared.exec, Redirect.exec, hsame] using hcount
        · intro hcurrent hstreaming
          cases audioAllowed with
          | true =>
            have hbefore : (s.redirect.slots j).audioStreaming = true := by
              simpa [Shared.exec, Redirect.exec, hsame] using hstreaming
            have hthen := hallowed (by simpa [Shared.exec, Redirect.exec, hsame] using hcurrent) hbefore
            exact ⟨by simpa [Shared.exec, Redirect.exec] using hthen.1,
              fun _ => by simp [Shared.exec, Redirect.exec]⟩
          | false => simp [Shared.exec, Redirect.exec] at hstreaming
      · have hnewer : (s.exec (.publishSlot j session cameraAllowed audioAllowed)
            answer).redirect.slotChanges j = s.redirect.slotChanges j + 1 := by
          simp [Shared.exec, Redirect.exec, hsame]
        have hstale : c.changes ≠ (s.exec (.publishSlot j session cameraAllowed audioAllowed)
            answer).redirect.slotChanges j := by omega
        exact ⟨by omega, fun hc => absurd hc hstale, fun hc => absurd hc hstale,
          fun hc => absurd hc hstale, hstate, hgeneration⟩
    · have hchanges : (s.exec (.publishSlot i session cameraAllowed audioAllowed)
          answer).redirect.slotChanges j = s.redirect.slotChanges j := by
        simp [Shared.exec, Redirect.exec, hji]
      have hslot : (s.exec (.publishSlot i session cameraAllowed audioAllowed)
          answer).redirect.slots j = s.redirect.slots j := by
        simp only [Shared.exec, Redirect.exec, Redirect.modifySlot_other _ _ _ hji]
      refine ⟨?_, ?_, ?_, ?_, hstate, hgeneration⟩
      · rw [hchanges]
        exact hbound
      · rw [hchanges, hslot]
        exact hpresent
      · rw [hchanges]
        exact hcount
      · rw [hchanges, hslot]
        exact hallowed
  · by_cases hji : j = i
    · subst hji
      constructor
      · simpa only [Shared.exec, Redirect.exec, Redirect.modifySlot_same] using hlive
      · intro hnone
        simp only [Shared.exec, Redirect.exec, Redirect.modifySlot_same]
        split
        · rfl
        · rename_i hkeeps
          rcases hsilent hnone with hdenied | hquiet
          · exact absurd (.inl hdenied) hkeeps
          · exact hquiet
    · obtain ⟨h1, h2⟩ := hplaced j hji
      constructor
      · simpa only [Shared.exec, Redirect.exec, Redirect.modifySlot_other _ _ _ hji] using h1
      · simpa only [Shared.exec, Redirect.exec, Redirect.modifySlot_other _ _ _ hji] using h2

theorem setSlot_safe {old : Option Session} {streaming : Bool} (h : Handing p i old streaming s)
    (session : Option Session) (cameraAllowed audioAllowed : Bool)
    (hlive : ∀ other, session = some other → p.handles i = .live other)
    (hsilent : p.handles i = .none → audioAllowed = false ∨ streaming = false) :
    Safe p (s.redirect.setSlot i session cameraAllowed audioAllowed) s := by
  unfold Redirect.setSlot
  apply (releaseSession_safe h session).append
  intro s₁ hreleased
  have hfailing : Along Shared.exec StepOk
      (fun s' => Handing p i old streaming s' ∧
        (old ≠ session → ∀ other, old = some other → s'.gates other = false))
      (if (s.redirect.slots i).session ≠ session ∨ cameraAllowed = false then [.failCredit i none]
        else []) s₁ := by
    split
    · have hok := hreleased.1.guarded.failCredit_ok i none
      refine ⟨hok, fun accepted => ⟨hreleased.1.exec hok rfl accepted, fun hne other hother => ?_⟩⟩
      exact gate_stays_closed accepted (hreleased.2 hne other hother)
        (failCredit_opens_nothing s₁ i none other)
    · exact hreleased
  apply hfailing.append
  intro s₂ hready
  refine ⟨hready.1.guarded.stepOk (fun call hcall => by cases hcall), fun answer => ?_⟩
  have hpublished := publishSlot_hands hready.1 cameraAllowed audioAllowed answer hready.2 hlive
    hsilent
  have hok := hpublished.guarded.gateFollows_ok i
  exact ⟨hok, fun last => updateCameraAvailability_safe (hpublished.exec hok rfl last)⟩

/-- A step without a call. -/
theorem AtRest.quiet {m : Micro} (h : AtRest p s) (hcall : s.redirect.call m = none) : StepOk s m :=
  h.guarded.stepOk fun call hsome => by
    rw [hcall] at hsome
    cases hsome

theorem cameraStart_safe (h : AtRest p s) (i : SlotIndex) (generation : Nat)
    (width height fps : UInt16) : Safe p (Redirect.cameraStart i generation width height fps) s := by
  refine ⟨h.guarded.failCredit_ok i none, fun accepted => ?_⟩
  have hrest := h.failCredit i none accepted
  refine ⟨hrest.quiet rfl, fun answer => ?_⟩
  exact hrest.exec (hrest.quiet rfl) rfl rfl answer

theorem cameraStop_safe (h : AtRest p s) (i : SlotIndex) (generation : Nat) :
    Safe p [.stopCamera i generation] s :=
  ⟨h.quiet rfl, fun answer => h.exec (h.quiet rfl) rfl rfl answer⟩

theorem cameraSampleRequest_safe (h : AtRest p s) (i : SlotIndex) (generation : Nat) :
    Safe p [.requestSample i generation] s :=
  ⟨h.quiet rfl, fun answer => h.exec (h.quiet rfl) rfl rfl answer⟩

theorem cameraFailCredit_safe (h : AtRest p s) (i : SlotIndex) (generation : Option Nat) :
    Safe p [.failCredit i generation] s :=
  ⟨h.guarded.failCredit_ok i generation, fun answer => h.failCredit i generation answer⟩

/-- A new physical state leads through the requests. -/
theorem setPhysicalAvailable_safe (hguarded : Guarded p s) (hplaced : ∀ j, Placed p s.redirect j)
    (available : Bool) (hwithdrawn : ∀ config, p.control = .withdrawn config → available = false) :
    Safe p (Redirect.setPhysicalAvailable available) s := by
  refine ⟨hguarded.stepOk (fun call hcall => by cases hcall), fun stopped => ?_⟩
  apply updateCameraAvailability_safe
  refine ⟨⟨hguarded.owned, hguarded.credited, hguarded.opens, hguarded.counted, fun i c hholds => ?_⟩,
    fun j => ?_, fun config hcontrol => ?_⟩
  · obtain ⟨h1, h2, h3, h4, h5, h6⟩ := hguarded.targets i c hholds
    exact ⟨h1, h2, h3, h4, h5, h6⟩
  · obtain ⟨h1, h2⟩ := hplaced j
    exact ⟨h1, h2⟩
  · show (available && !stopped) = false
    rw [hwithdrawn config hcontrol, Bool.false_and]

theorem cameraRound_safe (h : AtRest p s) (left : Option (SlotIndex × Nat)) (available : Bool)
    (hwithdrawn : ∀ config, p.control ≠ .withdrawn config) :
    Safe p (Redirect.cameraRound left available) s := by
  have hrest (s' : Shared) (h' : AtRest p s') :
      Safe p (Redirect.setPhysicalAvailable available) s' :=
    setPhysicalAvailable_safe h'.guarded h'.placed available fun config hcontrol =>
      absurd hcontrol (hwithdrawn config)
  cases left with
  | none => exact hrest s h
  | some target =>
    exact ⟨h.guarded.failCredit_ok target.1 (some target.2), fun answer =>
      hrest _ (h.failCredit target.1 (some target.2) answer)⟩

/-- A frame goes out under the guards that were just read. -/
theorem submitH264_ok (h : AtRest p s) (i : SlotIndex) (generation : Nat)
    (stateGeneration : UInt32) (ownerEpoch : UInt64) (packet : Option Bytes) :
    StepOk s (.submitH264 i generation stateGeneration ownerEpoch packet) := by
  apply h.guarded.stepOk
  intro call hcall
  simp only [Redirect.call] at hcall
  split at hcall
  · rename_i hguards
    split at hcall
    · rename_i session data _ hsession
      obtain rfl := Option.some.inj hcall
      simp only [Redirect.submitsQueued, Redirect.cameraStreamRequested,
        Redirect.cameraSlotEligible, Redirect.isForeground, Bool.and_eq_true,
        decide_eq_true_eq] at hguards
      obtain ⟨⟨⟨_, hstream⟩, hgeneration⟩, _⟩ := hguards
      obtain ⟨⟨⟨⟨⟨⟨_, hallowed⟩, hforeground⟩, hstreaming⟩, _⟩, _⟩, _⟩ := hstream
      exact ⟨i, hforeground, hsession, hallowed, hstreaming, hgeneration⟩
    · cases hcall
  · cases hcall

theorem cameraSubmitQueued_safe (h : AtRest p s) (i : SlotIndex) (generation : Nat)
    (stateGeneration : UInt32) (ownerEpoch : UInt64) (packet : Option Bytes) :
    Safe p (Redirect.cameraSubmitQueued i generation stateGeneration ownerEpoch packet) s := by
  have hsubmit := submitH264_ok h i generation stateGeneration ownerEpoch packet
  refine ⟨hsubmit, fun accepted => ?_⟩
  have hrest : AtRest p (s.exec (.submitH264 i generation stateGeneration ownerEpoch packet)
      accepted) := h.exec hsubmit rfl rfl accepted
  generalize s.exec (.submitH264 i generation stateGeneration ownerEpoch packet) accepted = s'
    at hrest
  have hok : StepOk s' (.failRejected i generation) := by
    apply hrest.guarded.stepOk
    intro call hcall
    simp only [Redirect.call] at hcall
    split at hcall
    · obtain ⟨_, -, rfl⟩ := failCreditCall_eq hcall
      trivial
    · cases hcall
  exact ⟨hok, fun answer => hrest.exec hok rfl rfl answer⟩

/-- A packet for a recent target goes out only with the permission its stream was made under. -/
theorem audioPacket_safe (h : AtRest p s) {c : Collected} (hholds : p.Holds i c)
    (data : Bytes) : Safe p [.submitPcm i c data] s := by
  have hok : StepOk s (.submitPcm i c data) := by
    apply h.guarded.stepOk
    intro call hcall
    simp only [Redirect.call] at hcall
    split at hcall
    · rename_i hguards
      obtain rfl := Option.some.inj hcall
      simp only [Redirect.submitsPcm, Redirect.targetMatches, Redirect.isForeground,
        Bool.and_eq_true, decide_eq_true_eq] at hguards
      obtain ⟨⟨⟨⟨hstate, hsession⟩, hforeground⟩, hstreaming⟩, hgeneration⟩ := hguards
      refine ⟨i, hforeground, hsession, fun hrecent => ?_, hstreaming, hgeneration⟩
      exact (h.guarded.targets i c hholds).current hrecent (h.guarded.counted i)
        (h.guarded.opens i hstreaming).2 hstate hstreaming hgeneration
    · cases hcall
  exact ⟨hok, fun answer => h.exec hok rfl rfl answer⟩

/-- Everything but the microphone fields of one slot is the same. -/
theorem audio_section_safe {m : Micro} (h : AtRest p s) (hcall : s.redirect.call m = none)
    (f : CaptureSlot → CaptureSlot)
    (hexec : ∀ answer, s.redirect.exec m answer = s.redirect.modifySlot i f)
    (hkept : (f (s.redirect.slots i)).session = (s.redirect.slots i).session ∧
      (f (s.redirect.slots i)).cameraAllowed = (s.redirect.slots i).cameraAllowed ∧
      (f (s.redirect.slots i)).audioAllowed = (s.redirect.slots i).audioAllowed ∧
      (f (s.redirect.slots i)).cameraAvailableRequested =
        (s.redirect.slots i).cameraAvailableRequested)
    (hopens : (f (s.redirect.slots i)).audioStreaming →
      (f (s.redirect.slots i)).audioOpened ≤ p.audioOpens i ∧
        (f (s.redirect.slots i)).audioGeneration =
          Rdpeai.nextGeneration^[(f (s.redirect.slots i)).audioOpened] 0)
    (hfresh : (f (s.redirect.slots i)).audioStreaming → ∀ c, p.Holds i c →
      c.changes = s.redirect.slotChanges i → c.opened < (f (s.redirect.slots i)).audioOpened)
    (hsilent : p.handles i = .none → (f (s.redirect.slots i)).audioStreaming = false) :
    Safe p [m] s := by
  obtain ⟨hsession, hcamera, hallowed, hrequested⟩ := hkept
  have hok := h.quiet hcall
  refine ⟨hok, fun answer => ?_⟩
  have hredirect : (s.exec m answer).redirect = s.redirect.modifySlot i f := hexec answer
  have hgates : (s.exec m answer).gates = s.gates := by
    show Shared.setGate s.gates (s.redirect.call m) = s.gates
    rw [hcall]
    rfl
  have hslot (j : SlotIndex) : (s.exec m answer).redirect.slots j =
      if j = i then f (s.redirect.slots i) else s.redirect.slots j := by rw [hredirect]; rfl
  have hcredit := exec_credited h.guarded.credited m answer
  refine ⟨⟨fun session hopen => ?_, hcredit, fun j hstreaming => ?_, fun j => ?_, fun j c hholds => ?_⟩,
    fun j => ?_, fun config hcontrol => ?_, fun j hj => ?_⟩
  · rw [hgates] at hopen
    obtain ⟨j, hj, hother⟩ := h.guarded.owned session hopen
    refine ⟨j, by rw [hredirect]; exact hj, ?_⟩
    rw [hslot]
    split
    · rename_i hji
      rw [hsession, ← hji]
      exact hother
    · exact hother
  · rw [hslot] at hstreaming ⊢
    split at hstreaming
    · rename_i hji
      rw [if_pos hji, hji]
      exact hopens hstreaming
    · rename_i hji
      rw [if_neg hji]
      exact h.guarded.opens j hstreaming
  · rw [hredirect]
    exact h.guarded.counted j
  · obtain ⟨h1, h2, h3, h4, h5, h6⟩ := h.guarded.targets j c hholds
    have hchanges : (s.exec m answer).redirect.slotChanges = s.redirect.slotChanges := by
      rw [hredirect, Redirect.modifySlot_slotChanges]
    refine ⟨?_, ?_, ?_, ?_, h5, h6⟩
    · rw [hchanges]
      exact h1
    · rw [hchanges, hslot]
      split
      · rename_i hji
        rw [hsession, ← hji]
        exact h2
      · exact h2
    · rw [hchanges]
      exact h3
    · rw [hchanges, hslot]
      split
      · rename_i hji
        intro hcurrent hstreaming
        rw [hji] at hcurrent hholds
        have hlater := hfresh hstreaming c hholds hcurrent
        exact ⟨hlater.le, fun heq => absurd heq hlater.ne'⟩
      · exact h4
  · obtain ⟨h1, h2⟩ := h.placed j
    by_cases hji : j = i
    · constructor
      · rw [hslot, if_pos hji, hsession, ← hji]
        exact h1
      · rw [hslot, if_pos hji, hji]
        exact hsilent
    · constructor
      · rw [hslot, if_neg hji]
        exact h1
      · rw [hslot, if_neg hji]
        exact h2
  · rw [hredirect]
    exact h.withdrawn config hcontrol
  · have hbefore : (s.redirect.slots j).cameraAvailableRequested := by
      rw [hslot] at hj
      split at hj
      · rename_i hji
        rw [hrequested, ← hji] at hj
        exact hj
      · exact hj
    have hsame : (s.exec m answer).redirect.cameraAvailable j = s.redirect.cameraAvailable j := by
      rw [hredirect]
      by_cases hji : j = i
      · subst hji
        simp only [Redirect.cameraAvailable, Redirect.cameraSlotEligible, Redirect.isForeground,
          Redirect.modifySlot_same, hsession, hcamera, Redirect.modifySlot_foregroundSlot]
        rfl
      · simp only [Redirect.cameraAvailable, Redirect.cameraSlotEligible, Redirect.isForeground,
          Redirect.modifySlot_other _ _ _ hji, Redirect.modifySlot_foregroundSlot]
        rfl
    rw [hsame]
    exact h.settled j hbefore

theorem audioStop_safe (h : AtRest p s) (i : SlotIndex) (generation : UInt64) :
    Safe p [.stopAudio i generation] s := by
  by_cases hmine : (s.redirect.slots i).audioGeneration = generation
  · apply audio_section_safe (i := i) h rfl
      (fun slot => { slot with audioStreaming := false, audioFramesPerPacket := 0 })
    · intro answer
      simp only [Redirect.exec, if_pos hmine]
    · exact ⟨rfl, rfl, rfl, rfl⟩
    · intro hstreaming
      cases hstreaming
    · intro hstreaming
      cases hstreaming
    · exact fun _ => rfl
  · refine ⟨h.quiet rfl, fun answer => ?_⟩
    have hsame : s.exec (.stopAudio i generation) answer = s := by
      simp only [Shared.exec, Redirect.exec, if_neg hmine]
      rfl
    rw [hsame]
    exact h

/-- The parties may change what the manager does not rely on. -/
theorem AtRest.parties (h : AtRest p s) (p' : Parties) (hhandles : p'.handles = p.handles)
    (hopens : ∀ i, p.audioOpens i ≤ p'.audioOpens i)
    (hholds : ∀ i target, p'.Holds i target → p.Holds i target)
    (hclosed : p.control = .drained ∨ p.control = .closed →
      p'.control = .drained ∨ p'.control = .closed)
    (hwithdrawn : ∀ config, p'.control = .withdrawn config → p.control = .withdrawn config) :
    AtRest p' s := by
  obtain ⟨⟨howned, hcredited, hcount, hcounted, htargets⟩, hplaced, hwith, hsettled⟩ := h
  refine ⟨⟨howned, hcredited, fun i hstreaming => ?_, hcounted, fun i c hh => ?_⟩, fun i => ?_,
    fun config hcontrol => hwith config (hwithdrawn config hcontrol), hsettled⟩
  · obtain ⟨hle, hgeneration⟩ := hcount i hstreaming
    exact ⟨hle.trans (hopens i), hgeneration⟩
  · obtain ⟨h1, h2, h3, h4, h5, h6⟩ := htargets i c (hholds i c hh)
    exact ⟨h1, fun hc hn => hclosed (h2 hc hn), fun hc => (h3 hc).trans (hopens i), h4, h5, h6⟩
  · obtain ⟨h1, h2⟩ := hplaced i
    constructor
    · rw [hhandles]
      exact h1
    · rw [hhandles]
      exact h2

/-- An OPEN is later than that of every target of its session. -/
theorem audioStart_safe (h : AtRest p s) (i : SlotIndex) (opened : Nat)
    (framesPerPacket : UInt32) (hworker : p.handles i ≠ .none)
    (hfresh : p.audioOpens i < opened) :
    Safe { p with audioOpens := fun j => if j = i then opened else p.audioOpens j }
      [.startAudio i (Rdpeai.nextGeneration^[opened] 0) framesPerPacket opened] s := by
  have hmono : ∀ j, p.audioOpens j ≤ if j = i then opened else p.audioOpens j := by
    intro j
    split
    · rename_i hj
      rw [hj]
      omega
    · exact Nat.le_refl _
  have hrest : AtRest { p with audioOpens := fun j => if j = i then opened else p.audioOpens j } s :=
    h.parties _ rfl hmono (fun _ _ => id) id (fun _ => id)
  apply audio_section_safe (i := i) hrest rfl
    (fun slot => { slot with
      audioStreaming := true, audioGeneration := Rdpeai.nextGeneration^[opened] 0
      audioFramesPerPacket := framesPerPacket, audioOpened := opened })
  · exact fun _ => rfl
  · exact ⟨rfl, rfl, rfl, rfl⟩
  · intro _
    show opened ≤ (if i = i then opened else p.audioOpens i) ∧ _
    rw [if_pos rfl]
    exact ⟨Nat.le_refl _, rfl⟩
  · intro _ c hholds hcurrent
    have hbound := (h.guarded.targets i c hholds).opens hcurrent
    show c.opened < opened
    omega
  · exact fun hnone => absurd hnone hworker

/-- A new configuration outdates every target, and meets no camera. -/
theorem applyConfig_safe (h : AtRest p s) (config : CaptureConfig)
    (hcontrol : p.control = .withdrawn config) :
    Safe { p with control := .applied } [.applyConfig config] s := by
  have hphysical := h.withdrawn config hcontrol
  refine ⟨h.guarded.stepOk (fun call hcall => by cases hcall), fun answer => ?_⟩
  refine ⟨⟨h.guarded.owned, h.guarded.credited, h.guarded.opens, fun i => ?_, fun i c hholds => ?_⟩,
    fun i => ?_, fun config' hcontrol' => (by cases hcontrol'), fun i hrequested => ?_⟩
  · show s.redirect.slotGeneration i + 1 = UInt32.ofNat (s.redirect.slotChanges i + 1)
    rw [h.guarded.counted i, UInt32.ofNat_add]
    rfl
  · obtain ⟨hbound, -, -, -, hstate, hgeneration⟩ := h.guarded.targets i c hholds
    have hnewer : (s.exec (.applyConfig config) answer).redirect.slotChanges i =
      s.redirect.slotChanges i + 1 := rfl
    have hstale : c.changes ≠ (s.exec (.applyConfig config) answer).redirect.slotChanges i := by
      omega
    exact ⟨by omega, fun hc => absurd hc hstale, fun hc => absurd hc hstale,
      fun hc => absurd hc hstale, hstate, hgeneration⟩
  · obtain ⟨h1, h2⟩ := h.placed i
    exact ⟨h1, h2⟩
  · have havailable := h.settled i hrequested
    simp [Redirect.cameraAvailable, hphysical] at havailable

/-- Shutdown closes every gate and takes every session from the manager. -/
theorem destroy_safe (h : AtRest p s) (hdrained : p.control = .drained) :
    Safe p s.redirect.destroy s := by
  unfold Redirect.destroy
  have hloop : Along Shared.exec StepOk
      (fun s' => AtRest p s' ∧ ∀ j, j ∉ Redirect.slotRange →
        (s'.redirect.slots j).session = (s.redirect.slots j).session)
      (Redirect.slotRange.flatMap s.redirect.destroySlot) s := by
    apply Along.loop (fun pre s' => AtRest p s' ∧ ∀ j, j ∉ pre →
      (s'.redirect.slots j).session = (s.redirect.slots j).session)
    · exact ⟨h, fun _ _ => rfl⟩
    · intro pre i post hrange s' hdone
      have hfresh : i ∉ pre := by
        have hnodup : (pre ++ i :: post).Nodup := hrange ▸ List.nodup_finRange 4
        intro hmem
        have hdisjoint := (List.nodup_append.mp hnodup).2.2
        exact absurd rfl (hdisjoint i hmem i List.mem_cons_self)
      have hsession := hdone.2 i hfresh
      have hclosing : Along Shared.exec StepOk
          (fun s₁ => Unsettled p s₁ ∧ (∀ j, j ≠ i → (s₁.redirect.slots j).cameraAvailableRequested →
              s₁.redirect.cameraAvailable j) ∧
            (∀ j, (s₁.redirect.slots j).session = (s'.redirect.slots j).session) ∧
            (∀ session, (s₁.redirect.slots i).session = some session → s₁.gates session = false) ∧
            (s₁.redirect.slots i).cameraAvailableRequested = false)
          (if (s.redirect.slots i).session.isSome then
            [.failCredit i none, .closeGate i, .forgetAvailability i] else []) s' := by
        by_cases hsome : (s.redirect.slots i).session.isSome
        · rw [if_pos hsome]
          refine ⟨hdone.1.guarded.failCredit_ok i none, fun accepted => ?_⟩
          have h₁ := hdone.1.failCredit i none accepted
          have f₁ := shared_cameraOnly s' (.failCredit i none) accepted rfl
          generalize s'.exec (.failCredit i none) accepted = s₁ at h₁ f₁
          refine ⟨h₁.guarded.closeGate_ok i, fun answer => ?_⟩
          have h₂ := h₁.closeGate i answer
          have f₂ := shared_cameraOnly s₁ (.closeGate i) answer rfl
          have hclosed : ∀ session, (s₁.redirect.slots i).session = some session →
              (s₁.exec (.closeGate i) answer).gates session = false := fun session hs =>
            closeGate_closed s₁ i answer hs
          generalize s₁.exec (.closeGate i) answer = s₂ at h₂ f₂ hclosed
          have hok := h₂.guarded.forgetAvailability_ok i
          refine ⟨hok, fun last => ?_⟩
          have f₃ := shared_cameraOnly s₂ (.forgetAvailability i) last rfl
          refine ⟨h₂.unsettled.exec hok rfl last, fun j hj hrequested => ?_, fun j => ?_,
            fun session hs => ?_, ?_⟩
          · rw [f₃.available]
            simp only [Shared.exec, Redirect.exec, Redirect.modifySlot_other _ _ _ hj] at hrequested
            exact h₂.settled j hrequested
          · exact (f₃.slot j).1.trans ((f₂.slot j).1.trans (f₁.slot j).1)
          · have hbefore := hclosed session
              ((f₂.slot i).1.symm.trans ((f₃.slot i).1.symm.trans hs))
            refine gate_stays_closed last hbefore fun hcall => ?_
            simp only [Redirect.call] at hcall
            split at hcall
            · obtain ⟨_, -, heq⟩ := Option.map_eq_some_iff.mp hcall
              cases heq
            · cases hcall
          · simp only [Shared.exec, Redirect.exec, Redirect.modifySlot_same]
        · rw [if_neg hsome]
          have hnone : (s'.redirect.slots i).session = none := by
            rw [hsession]
            simpa using hsome
          refine ⟨hdone.1.unsettled, fun j _ => hdone.1.settled j, fun _ => rfl, fun session hs => ?_, ?_⟩
          · rw [hnone] at hs
            cases hs
          · cases hrequested : (s'.redirect.slots i).cameraAvailableRequested with
            | false => rfl
            | true =>
              have havailable := hdone.1.settled i hrequested
              simp [Redirect.cameraAvailable, Redirect.cameraSlotEligible, hnone] at havailable
      unfold Redirect.destroySlot
      apply hclosing.append
      intro s₁ hclosed
      obtain ⟨hrest, hsettled, hkept, hgate, hunrequested⟩ := hclosed
      refine ⟨hrest.guarded.stepOk (fun call hcall => by cases hcall), fun answer => ?_⟩
      have hslot (j : SlotIndex) (hj : j ≠ i) :
          (s₁.exec (.dropSession i) answer).redirect.slots j = s₁.redirect.slots j := by
        simp only [Shared.exec, Redirect.exec, Redirect.modifySlot_other _ _ _ hj]
      have hdropped : (s₁.exec (.dropSession i) answer).redirect.slots i =
          { s₁.redirect.slots i with session := none } := by
        simp only [Shared.exec, Redirect.exec, Redirect.modifySlot_same]
      have hcredit := exec_credited hrest.guarded.credited (.dropSession i) answer
      refine ⟨⟨⟨fun session hopen => ?_, hcredit, fun j hstreaming => ?_, hrest.guarded.counted,
        fun j c hholds => ?_⟩, fun j => ?_, hrest.withdrawn, fun j hrequested => ?_⟩, fun j hj => ?_⟩
      · change s₁.gates session = true at hopen
        obtain ⟨j, hj, hs⟩ := hrest.guarded.owned session hopen
        by_cases hji : j = i
        · rw [hji] at hs
          rw [hgate session hs] at hopen
          cases hopen
        · exact ⟨j, hj, by rw [hslot j hji]; exact hs⟩
      · by_cases hji : j = i
        · rw [hji, hdropped] at hstreaming ⊢
          exact hrest.guarded.opens i hstreaming
        · rw [hslot j hji] at hstreaming ⊢
          exact hrest.guarded.opens j hstreaming
      · obtain ⟨h1, h2, h3, h4, h5, h6⟩ := hrest.guarded.targets j c hholds
        refine ⟨h1, fun _ _ => .inl hdrained, h3, ?_, h5, h6⟩
        by_cases hji : j = i
        · rw [hji, hdropped]
          rw [hji] at h4
          exact h4
        · rw [hslot j hji]
          exact h4
      · obtain ⟨h1, h2⟩ := hrest.placed j
        by_cases hji : j = i
        · rw [hji]
          constructor
          · intro session hs
            rw [hdropped] at hs
            cases hs
          · rw [hdropped, ← hji]
            exact h2
        · constructor
          · rw [hslot j hji]
            exact h1
          · rw [hslot j hji]
            exact h2
      · by_cases hji : j = i
        · rw [hji, hdropped] at hrequested
          change (s₁.redirect.slots i).cameraAvailableRequested = true at hrequested
          rw [hunrequested] at hrequested
          cases hrequested
        · rw [hslot j hji] at hrequested
          have havailable := hsettled j hji hrequested
          simp only [Redirect.cameraAvailable, Redirect.cameraSlotEligible, hslot j hji]
          exact havailable
      · have hnot : j ∉ pre ∧ j ≠ i := by simpa using hj
        rw [hslot j hnot.2, hkept j, hdone.2 j hnot.1]
  exact hloop.mono fun s' hdone => hdone.1

end Lgnome.Capture
