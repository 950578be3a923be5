import Lgnome.Capture.Sections

/-!
# One foreground, one gate

Along every run the manager is safe: the section in progress, if there is one,
leads on to rest.
-/
namespace Lgnome.Capture

open Lgnome.Native (SlotIndex Session)
open Lgnome.Transition

variable {s t : CaptureSystem} {i : SlotIndex}

/-- The section in progress is safe, and no camera worker runs while the devices change. -/
structure SystemOk (s : CaptureSystem) : Prop where
  safe : Safe s.parties s.todo s.shared
  threads : s.parties.cameraThreadRunning → ∀ config,
    s.parties.control ≠ .joined config ∧ s.parties.control ≠ .withdrawn config

theorem SystemOk.atRest (h : SystemOk s) (hfree : s.todo = []) : AtRest s.parties s.shared := by
  have hsafe := h.safe
  rw [hfree] at hsafe
  exact hsafe

theorem Handle.live_of_session {handle : Handle} {session : Session}
    (h : handle.session = some session) : handle = .live session := by
  cases handle with
  | live other => exact congrArg Handle.live (Option.some.inj h)
  | _ => cases h

theorem modifyHandle_same (p : Parties) (i : SlotIndex) (handle : Handle) :
    (p.modifyHandle i handle).handles i = handle := if_pos rfl

theorem modifyHandle_other (p : Parties) {i j : SlotIndex} (handle : Handle) (hj : j ≠ i) :
    (p.modifyHandle i handle).handles j = p.handles j := if_neg hj

/-- A slot that is about to lose its session, under a new handle. -/
theorem AtRest.handing (h : AtRest s.parties s.shared) (handle : Handle) :
    Handing (s.parties.modifyHandle i handle) i (s.shared.redirect.slots i).session
      (s.shared.redirect.slots i).audioStreaming s.shared := by
  refine ⟨⟨h.guarded.owned, h.guarded.credited, h.guarded.opens, h.guarded.counted,
    fun j c hholds => ?_⟩, fun j hj => ?_, h.withdrawn, rfl, rfl⟩
  · obtain ⟨h1, h2, h3, h4, h5, h6⟩ := h.guarded.targets j c hholds
    exact ⟨h1, h2, h3, h4, h5, h6⟩
  · obtain ⟨h1, h2⟩ := h.placed j
    constructor
    · rw [modifyHandle_other _ _ hj]
      exact h1
    · rw [modifyHandle_other _ _ hj]
      exact h2

theorem setSlot_ok (h : AtRest s.parties s.shared) (i : SlotIndex) (cameraAllowed audioAllowed : Bool) :
    Safe s.parties
      (s.shared.redirect.setSlot i (s.parties.handles i).session cameraAllowed audioAllowed)
      s.shared := by
  have hhanding : Handing s.parties i (s.shared.redirect.slots i).session
      (s.shared.redirect.slots i).audioStreaming s.shared :=
    ⟨h.guarded, fun j _ => h.placed j, h.withdrawn, rfl, rfl⟩
  apply setSlot_safe hhanding
  · intro other hother
    exact Handle.live_of_session hother
  · intro hnone
    exact .inr ((h.placed i).silent hnone)

theorem sessionDetach_ok (h : AtRest s.parties s.shared) (i : SlotIndex) (session : Session) :
    Safe (s.parties.modifyHandle i (.leaving session)) (s.shared.redirect.setSlot i none false false)
      s.shared := by
  apply setSlot_safe (h.handing (.leaving session))
  · intro other hother
    cases hother
  · intro _
    exact .inl rfl

theorem sessionSettle_ok (h : AtRest s.parties s.shared) (i : SlotIndex) :
    Safe (s.parties.modifyHandle i .none) (s.shared.redirect.setSlot i none false false)
      s.shared := by
  apply setSlot_safe (h.handing .none)
  · intro other hother
    cases hother
  · intro _
    exact .inl rfl

/-- The handle a joined worker leaves is none the manager knows. -/
theorem sessionJoin_ok (h : AtRest s.parties s.shared) {session : Session}
    (hleaving : s.parties.handles i = .leaving session) :
    AtRest (s.parties.modifyHandle i .left) s.shared := by
  obtain ⟨hguarded, hplaced, hwithdrawn, -, -⟩ := h.handing (i := i) .left
  refine ⟨hguarded, fun j => ?_, hwithdrawn, h.settled⟩
  by_cases hj : j = i
  · rw [hj]
    constructor
    · intro other hother
      have hlive := (h.placed i).live other hother
      rw [hleaving] at hlive
      cases hlive
    · intro hnone
      rw [modifyHandle_same] at hnone
      cases hnone
  · exact hplaced j hj

/-- A fresh session finds nothing of an older one: no stream, no target, no open gate. -/
theorem sessionStart_ok (h : AtRest s.parties s.shared) (session : Session)
    (hidle : s.parties.control = .idle) (hnone : s.parties.handles i = .none) :
    AtRest { s.parties.modifyHandle i (.live session) with
        audioOpens := fun j => if j = i then 0 else s.parties.audioOpens j }
      { s.shared with gates := fun other => if other = session then false else s.shared.gates other } := by
  have hempty : (s.shared.redirect.slots i).session = none := by
    cases hsession : (s.shared.redirect.slots i).session with
    | none => rfl
    | some other =>
      have hlive := (h.placed i).live other hsession
      rw [hnone] at hlive
      cases hlive
  have hquiet := (h.placed i).silent hnone
  refine ⟨⟨fun other hopen => ?_, h.guarded.credited, fun j hstreaming => ?_, h.guarded.counted,
    fun j c hholds => ?_⟩, fun j => ?_, h.withdrawn, h.settled⟩
  · simp only at hopen
    split at hopen
    · cases hopen
    · exact h.guarded.owned other hopen
  · by_cases hj : j = i
    · rw [hj] at hstreaming
      simp only [hquiet] at hstreaming
      cases hstreaming
    · simp only [if_neg hj]
      exact h.guarded.opens j hstreaming
  · obtain ⟨h1, h2, h3, h4, h5, h6⟩ := h.guarded.targets j c hholds
    by_cases hj : j = i
    · have hstale : c.changes ≠ s.shared.redirect.slotChanges j := by
        intro hcurrent
        rcases h2 hcurrent (hj ▸ hempty) with hdrained | hclosed
        · rw [hidle] at hdrained
          cases hdrained
        · rw [hidle] at hclosed
          cases hclosed
      exact ⟨h1, fun hc => absurd hc hstale, fun hc => absurd hc hstale,
        fun hc => absurd hc hstale, h5, h6⟩
    · refine ⟨h1, h2, fun hcurrent => ?_, h4, h5, h6⟩
      simp only [if_neg hj]
      exact h3 hcurrent
  · obtain ⟨h1, h2⟩ := h.placed j
    by_cases hj : j = i
    · subst hj
      constructor
      · intro other hother
        change (s.shared.redirect.slots j).session = some other at hother
        rw [hempty] at hother
        cases hother
      · intro hgone
        have hlive := modifyHandle_same s.parties j (.live session)
        change (s.parties.modifyHandle j (.live session)).handles j = .none at hgone
        rw [hlive] at hgone
        cases hgone
    · constructor
      · intro other hother
        show (s.parties.modifyHandle i (.live session)).handles j = .live other
        rw [modifyHandle_other _ _ hj]
        exact h1 other hother
      · intro hgone
        change (s.parties.modifyHandle i (.live session)).handles j = .none at hgone
        rw [modifyHandle_other _ _ hj] at hgone
        exact h2 hgone

/-- The microphone worker copies what is current and permitted. -/
theorem audioCollect_ok (h : AtRest s.parties s.shared) :
    AtRest { s.parties with desired := s.shared.redirect.audioDesired } s.shared := by
  refine ⟨⟨h.guarded.owned, h.guarded.credited, h.guarded.opens, h.guarded.counted,
    fun j c hholds => ?_⟩, fun j => ?_, h.withdrawn, h.settled⟩
  · rcases hholds with hdesired | hstream
    · change s.shared.redirect.audioDesired j = some c at hdesired
      unfold Redirect.audioDesired at hdesired
      split at hdesired
      · cases hdesired
      · rename_i session hsession
        split at hdesired
        · rename_i hguards
          obtain rfl := Option.some.inj hdesired
          simp only [Bool.and_eq_true] at hguards
          obtain ⟨⟨⟨⟨-, hallowed⟩, -⟩, hstreaming⟩, -⟩ := hguards
          obtain ⟨hopens, hgeneration⟩ := h.guarded.opens j hstreaming
          refine ⟨Nat.le_refl _, fun _ hnone => ?_, fun _ => hopens,
            fun _ _ => ⟨Nat.le_refl _, fun _ => hallowed⟩, h.guarded.counted j, hgeneration⟩
          rw [hsession] at hnone
          cases hnone
        · cases hdesired
    · obtain ⟨h1, h2, h3, h4, h5, h6⟩ := h.guarded.targets j c (.inr hstream)
      exact ⟨h1, h2, h3, h4, h5, h6⟩
  · obtain ⟨h1, h2⟩ := h.placed j
    exact ⟨h1, h2⟩

theorem withoutWorkers_ok (h : AtRest s.parties s.shared) (control : Control)
    (hclosed : s.parties.control = .drained ∨ s.parties.control = .closed →
      control = .drained ∨ control = .closed)
    (hwithdrawn : ∀ config, control ≠ .withdrawn config) :
    AtRest (s.parties.withoutWorkers control) s.shared := by
  refine h.parties _ rfl (fun _ => Nat.le_refl _) (fun j target hholds => ?_) hclosed
    fun config hcontrol => absurd hcontrol (hwithdrawn config)
  rcases hholds with hdesired | ⟨stream, hstream, -⟩
  · cases hdesired
  · cases hstream

/-- What a party does whoever holds the lock leaves the section in progress safe. -/
theorem lockFree_ok {p' : Parties} {a : CaptureAction} {todo : List Micro} {shared : Shared}
    {p : Parties} (h : Safe p todo shared) (hstep : CaptureSystem.lockFree p a = some p') :
    Safe p' todo shared ∧ (p'.cameraThreadRunning → p.cameraThreadRunning) ∧
      ∀ config, p'.control = .joined config ∨ p'.control = .withdrawn config →
        p.control = p'.control := by
  cases a with
  | reconfigure config =>
    simp only [CaptureSystem.lockFree] at hstep
    split at hstep
    · rename_i hidle
      obtain rfl := Option.some.inj hstep
      refine ⟨h.mono fun s hrest => ?_, id, fun config' hcontrol => ?_⟩
      · refine hrest.parties _ rfl (fun _ => Nat.le_refl _) (fun _ _ => id) ?_ nofun
        rw [hidle.1]
        intro hcontrol
        simp at hcontrol
      · simp at hcontrol
    · cases hstep
  | destroy =>
    simp only [CaptureSystem.lockFree] at hstep
    split at hstep
    · rename_i hidle
      obtain rfl := Option.some.inj hstep
      refine ⟨h.mono fun s hrest => ?_, id, fun config' hcontrol => ?_⟩
      · refine hrest.parties _ rfl (fun _ => Nat.le_refl _) (fun _ _ => id) ?_ nofun
        rw [hidle]
        intro hcontrol
        simp at hcontrol
      · simp at hcontrol
    · cases hstep
  | audioSync i inputRate inputChannels ready =>
    simp only [CaptureSystem.lockFree] at hstep
    split at hstep
    · obtain rfl := Option.some.inj hstep
      unfold Parties.audioSync
      split
      · exact ⟨h, id, fun _ _ => rfl⟩
      · refine ⟨h.mono fun s hrest => ?_, id, fun _ _ => rfl⟩
        refine hrest.parties _ rfl (fun _ => Nat.le_refl _) (fun j target hholds => ?_) id fun _ => id
        rcases hholds with hdesired | ⟨stream, hstream, htarget⟩
        · exact .inl hdesired
        · simp only at hstream
          split at hstream
          · rename_i hj
            split at hstream
            · obtain ⟨wanted, hwanted, rfl⟩ := Option.map_eq_some_iff.mp hstream
              rw [hj]
              exact .inl (hwanted.trans (congrArg some htarget))
            · cases hstream
          · exact .inr ⟨stream, hstream, htarget⟩
    · cases hstep
  | _ => cases hstep

/-- Whoever takes the lock at rest starts a safe section. -/
theorem acquire_ok {a : CaptureAction} (h : SystemOk s) (hfree : s.todo = [])
    (hstep : CaptureSystem.acquire s a = some t) : SystemOk t := by
  have hrest := h.atRest hfree
  cases a with
  | setForegroundSlot slot =>
    simp only [CaptureSystem.acquire, Option.ite_none_right_eq_some] at hstep
    obtain ⟨-, hstep⟩ := hstep
    obtain rfl := Option.some.inj hstep
    exact ⟨setForegroundSlot_safe hrest slot, h.threads⟩
  | setSlot i cameraAllowed audioAllowed =>
    simp only [CaptureSystem.acquire, Option.ite_none_right_eq_some] at hstep
    obtain ⟨-, hstep⟩ := hstep
    obtain rfl := Option.some.inj hstep
    exact ⟨setSlot_ok hrest i cameraAllowed audioAllowed, h.threads⟩
  | sessionStart i session =>
    simp only [CaptureSystem.acquire, Option.ite_none_right_eq_some] at hstep
    obtain ⟨⟨hidle, hnone, -⟩, hstep⟩ := hstep
    obtain rfl := Option.some.inj hstep
    refine ⟨?_, h.threads⟩
    show Safe _ s.todo _
    rw [hfree]
    exact sessionStart_ok hrest session hidle hnone
  | sessionDetach i =>
    simp only [CaptureSystem.acquire] at hstep
    split at hstep
    · obtain rfl := Option.some.inj hstep
      exact ⟨sessionDetach_ok hrest i _, h.threads⟩
    · cases hstep
  | sessionJoin i =>
    simp only [CaptureSystem.acquire] at hstep
    split at hstep
    · rename_i hleaving
      obtain rfl := Option.some.inj hstep
      refine ⟨?_, h.threads⟩
      show Safe _ s.todo _
      rw [hfree]
      exact sessionJoin_ok hrest hleaving
    · cases hstep
  | sessionSettle i =>
    simp only [CaptureSystem.acquire] at hstep
    split at hstep
    · obtain rfl := Option.some.inj hstep
      exact ⟨sessionSettle_ok hrest i, h.threads⟩
    · cases hstep
  | joinWorkers =>
    simp only [CaptureSystem.acquire] at hstep
    split at hstep
    · rename_i config hstopping
      obtain rfl := Option.some.inj hstep
      refine ⟨?_, fun hrunning => by cases hrunning⟩
      show Safe _ s.todo _
      rw [hfree]
      apply withoutWorkers_ok hrest
      · rw [hstopping]
        intro hcontrol
        simp at hcontrol
      · intro config' hcontrol
        cases hcontrol
    · cases hstep
  | withdrawPhysical =>
    simp only [CaptureSystem.acquire] at hstep
    split at hstep
    · rename_i config hjoined
      obtain rfl := Option.some.inj hstep
      refine ⟨?_, fun hrunning => absurd hjoined (h.threads hrunning config).1⟩
      apply setPhysicalAvailable_safe
      · refine ⟨hrest.guarded.owned, hrest.guarded.credited, hrest.guarded.opens,
          hrest.guarded.counted, fun j c hholds => ?_⟩
        obtain ⟨h1, h2, h3, h4, h5, h6⟩ := hrest.guarded.targets j c hholds
        refine ⟨h1, fun hc hn => ?_, h3, h4, h5, h6⟩
        have hcontrol := h2 hc hn
        rw [hjoined] at hcontrol
        simp at hcontrol
      · intro j
        obtain ⟨h1, h2⟩ := hrest.placed j
        exact ⟨h1, h2⟩
      · exact fun _ _ => rfl
    · cases hstep
  | applyConfig =>
    simp only [CaptureSystem.acquire] at hstep
    split at hstep
    · rename_i config hwithdrawn
      obtain rfl := Option.some.inj hstep
      exact ⟨applyConfig_safe hrest config hwithdrawn, fun _ config' => ⟨nofun, nofun⟩⟩
    · cases hstep
  | startWorkers camera audio =>
    simp only [CaptureSystem.acquire, Option.ite_none_right_eq_some] at hstep
    obtain ⟨happlied, hstep⟩ := hstep
    obtain rfl := Option.some.inj hstep
    refine ⟨?_, fun _ config' => ⟨nofun, nofun⟩⟩
    show Safe _ s.todo _
    rw [hfree]
    refine hrest.parties _ rfl (fun _ => Nat.le_refl _) (fun _ _ => id) ?_ nofun
    rw [happlied]
    intro hcontrol
    simp at hcontrol
  | destroyLocked =>
    simp only [CaptureSystem.acquire, Option.ite_none_right_eq_some] at hstep
    obtain ⟨-, hstep⟩ := hstep
    obtain rfl := Option.some.inj hstep
    refine ⟨destroy_safe ?_ rfl, fun _ config' => ⟨nofun, nofun⟩⟩
    exact hrest.parties _ rfl (fun _ => Nat.le_refl _) (fun _ _ => id) (fun _ => .inl rfl) nofun
  | destroyJoin =>
    simp only [CaptureSystem.acquire, Option.ite_none_right_eq_some] at hstep
    obtain ⟨-, hstep⟩ := hstep
    obtain rfl := Option.some.inj hstep
    refine ⟨?_, fun hrunning => by cases hrunning⟩
    show Safe _ s.todo _
    rw [hfree]
    apply withoutWorkers_ok hrest
    · exact fun _ => .inr rfl
    · intro config' hcontrol
      cases hcontrol
  | cameraStart i generation width height fps =>
    simp only [CaptureSystem.acquire, Option.ite_none_right_eq_some] at hstep
    obtain ⟨-, hstep⟩ := hstep
    obtain rfl := Option.some.inj hstep
    exact ⟨cameraStart_safe hrest i generation width height fps, h.threads⟩
  | cameraStop i generation =>
    simp only [CaptureSystem.acquire, Option.ite_none_right_eq_some] at hstep
    obtain ⟨-, hstep⟩ := hstep
    obtain rfl := Option.some.inj hstep
    exact ⟨cameraStop_safe hrest i generation, h.threads⟩
  | cameraSampleRequest i generation =>
    simp only [CaptureSystem.acquire, Option.ite_none_right_eq_some] at hstep
    obtain ⟨-, hstep⟩ := hstep
    obtain rfl := Option.some.inj hstep
    exact ⟨cameraSampleRequest_safe hrest i generation, h.threads⟩
  | audioStart i skipped sampleRate channels framesPerPacket =>
    simp only [CaptureSystem.acquire, Option.ite_none_right_eq_some] at hstep
    obtain ⟨hworker, hstep⟩ := hstep
    obtain rfl := Option.some.inj hstep
    refine ⟨?_, h.threads⟩
    have hfresh : s.parties.audioOpens i < s.parties.audioOpens i + 1 + skipped := by omega
    have hhandle : s.parties.handles i ≠ .none := by
      intro hnone
      simp [Parties.hasWorker, hnone, Handle.worker] at hworker
    dsimp only
    split
    · show AtRest _ _
      refine hrest.parties _ rfl (fun j => ?_) (fun _ _ => id) id fun _ => id
      simp only
      split
      · rename_i hj
        rw [hj]
        omega
      · exact Nat.le_refl _
    · exact audioStart_safe hrest i _ framesPerPacket hhandle hfresh
  | audioStop i generation =>
    simp only [CaptureSystem.acquire, Option.ite_none_right_eq_some] at hstep
    obtain ⟨-, hstep⟩ := hstep
    obtain rfl := Option.some.inj hstep
    exact ⟨audioStop_safe hrest i generation, h.threads⟩
  | cameraRound left available =>
    simp only [CaptureSystem.acquire, Option.ite_none_right_eq_some] at hstep
    obtain ⟨hrunning, hstep⟩ := hstep
    obtain rfl := Option.some.inj hstep
    exact ⟨cameraRound_safe hrest left available fun config => (h.threads hrunning config).2,
      h.threads⟩
  | cameraSetPhysical available =>
    simp only [CaptureSystem.acquire, Option.ite_none_right_eq_some] at hstep
    obtain ⟨hrunning, hstep⟩ := hstep
    obtain rfl := Option.some.inj hstep
    refine ⟨?_, h.threads⟩
    apply setPhysicalAvailable_safe hrest.guarded hrest.placed
    intro config hcontrol
    exact absurd hcontrol (h.threads hrunning config).2
  | cameraFailCredit i generation =>
    simp only [CaptureSystem.acquire, Option.ite_none_right_eq_some] at hstep
    obtain ⟨-, hstep⟩ := hstep
    obtain rfl := Option.some.inj hstep
    exact ⟨cameraFailCredit_safe hrest i (some generation), h.threads⟩
  | cameraSubmitQueued i generation stateGeneration ownerEpoch packet =>
    simp only [CaptureSystem.acquire, Option.ite_none_right_eq_some] at hstep
    obtain ⟨-, hstep⟩ := hstep
    obtain rfl := Option.some.inj hstep
    exact ⟨cameraSubmitQueued_safe hrest i generation stateGeneration ownerEpoch packet, h.threads⟩
  | audioCollect =>
    simp only [CaptureSystem.acquire, Option.ite_none_right_eq_some] at hstep
    obtain ⟨-, hstep⟩ := hstep
    obtain rfl := Option.some.inj hstep
    refine ⟨?_, h.threads⟩
    show Safe _ s.todo _
    rw [hfree]
    exact audioCollect_ok hrest
  | audioPacket i data =>
    simp only [CaptureSystem.acquire, Option.ite_none_right_eq_some] at hstep
    obtain ⟨-, hstep⟩ := hstep
    obtain ⟨stream, hstream, rfl⟩ := Option.map_eq_some_iff.mp hstep
    exact ⟨audioPacket_safe hrest (.inr ⟨stream, hstream, rfl⟩) data, h.threads⟩
  | _ => cases hstep

/-- A step is a small one of the section in progress, one without the lock, or one that
takes the lock. -/
theorem step_cases {a : CaptureAction} {e : Option RdpCall}
    (hstep : CaptureSystem.step s a = some (t, e)) :
    (∃ answer m todo, s.todo = m :: todo ∧ e = s.shared.redirect.call m ∧
      t = { s with shared := s.shared.exec m answer, todo }) ∨
    (∃ parties, CaptureSystem.lockFree s.parties a = some parties ∧ e = none ∧
      t = { s with parties }) ∨
    (s.todo = [] ∧ CaptureSystem.acquire s a = some t ∧ e = none) := by
  unfold CaptureSystem.step at hstep
  split at hstep
  · rename_i answer
    split at hstep
    · cases hstep
    · rename_i m todo htodo
      split at hstep
      · cases hstep
      · obtain ⟨rfl, rfl⟩ := Prod.mk.inj (Option.some.inj hstep)
        exact .inl ⟨answer, m, todo, htodo, rfl, rfl⟩
  · split at hstep
    · rename_i parties hfree
      obtain ⟨rfl, rfl⟩ := Prod.mk.inj (Option.some.inj hstep)
      exact .inr (.inl ⟨parties, hfree, rfl, rfl⟩)
    · rw [Option.ite_none_right_eq_some] at hstep
      obtain ⟨hfree, hstep⟩ := hstep
      obtain ⟨t', hacquire, heq⟩ := Option.map_eq_some_iff.mp hstep
      obtain ⟨rfl, rfl⟩ := Prod.mk.inj heq
      exact .inr (.inr ⟨hfree, hacquire, rfl⟩)

/-- One step leads to a safe system, and its call is permitted. -/
theorem step_ok {a : CaptureAction} {e : Option RdpCall} (h : SystemOk s)
    (hstep : CaptureSystem.step s a = some (t, e)) :
    SystemOk t ∧ ∀ call, e = some call →
      ∃ m, s.todo.head? = some m ∧ Permitted s.shared (m.Timely s.shared.redirect) call := by
  rcases step_cases hstep with ⟨answer, m, todo, htodo, rfl, rfl⟩ | ⟨parties, hparties, rfl, rfl⟩ |
    ⟨hfree, hacquire, rfl⟩
  · obtain ⟨hsafe, hthreads⟩ := h
    rw [htodo] at hsafe
    refine ⟨⟨hsafe.2 answer, hthreads⟩, fun call hcall => ⟨m, ?_, hsafe.1.permitted call hcall⟩⟩
    rw [htodo]
    rfl
  · obtain ⟨hsafe, hrunning, hcontrol⟩ := lockFree_ok h.safe hparties
    refine ⟨⟨hsafe, fun hthread config => ?_⟩, nofun⟩
    have hbefore := h.threads (hrunning hthread) config
    constructor
    · intro hjoined
      exact hbefore.1 ((hcontrol config (.inl hjoined)).trans hjoined)
    · intro hwithdrawn
      exact hbefore.2 ((hcontrol config (.inr hwithdrawn)).trans hwithdrawn)
  · exact ⟨acquire_ok h hfree hacquire, nofun⟩

theorem init_ok (config : CaptureConfig) : SystemOk (captureMachine config).init := by
  refine ⟨?_, nofun⟩
  refine ⟨⟨nofun, fun i => ⟨Nat.zero_le 1, nofun⟩, nofun, fun i => rfl, fun i c hholds => ?_⟩,
    fun i => ⟨nofun, fun _ => rfl⟩, nofun, nofun⟩
  rcases hholds with hdesired | ⟨stream, hstream, -⟩
  · cases hdesired
  · cases hstream

theorem run_ok {config : CaptureConfig} {tr : List (CaptureAction × Option RdpCall)}
    (hr : (captureMachine config).Run tr s) : SystemOk s :=
  hr.invariant (init_ok config) fun _ _ _ _ h hstep => (step_ok h hstep).1

/-- What holds before the next small step, or at rest. -/
theorem SystemOk.guarded (h : SystemOk s) : Owned s.shared ∧ Credited s.shared.redirect := by
  obtain ⟨hsafe, -⟩ := h
  generalize s.todo = todo at hsafe
  cases todo with
  | nil => exact ⟨AtRest.guarded hsafe |>.owned, AtRest.guarded hsafe |>.credited⟩
  | cons m ms => exact ⟨hsafe.1.owned, hsafe.1.credited⟩

/-- Along every run at most one gate is open, and it is the foreground session's; a
credit is one and has a stream; between sections the camera is requested for nobody but
an eligible foreground slot with a camera behind it; and every call into the RDP client
is permitted where it is made, the permission for a packet of the microphone as long as
its target is recent. -/
theorem capture_exclusive {config : CaptureConfig} {tr : List (CaptureAction × Option RdpCall)}
    (hr : (captureMachine config).Run tr s) :
    (∀ session, s.shared.gates session →
      (∃ i, s.shared.redirect.foregroundSlot = some i ∧
        (s.shared.redirect.slots i).session = some session) ∧
      ∀ other, s.shared.gates other → other = session) ∧
    (∀ i, (s.shared.redirect.slots i).cameraCredit ≤ 1 ∧
      (0 < (s.shared.redirect.slots i).cameraCredit →
        (s.shared.redirect.slots i).cameraStreaming)) ∧
    (s.todo = [] → ∀ i, (s.shared.redirect.slots i).cameraAvailableRequested →
      s.shared.redirect.foregroundSlot = some i ∧ s.shared.redirect.cameraSlotEligible i ∧
        s.shared.redirect.cameraPhysicalAvailable) ∧
    ∀ pre post a call, tr = pre ++ (a, some call) :: post →
      ∃ t t' m, (captureMachine config).Run pre t ∧ t.todo.head? = some m ∧
        CaptureSystem.step t a = some (t', some call) ∧
        Permitted t.shared (m.Timely t.shared.redirect) call := by
  have hok := run_ok hr
  obtain ⟨howned, hcredited⟩ := hok.guarded
  refine ⟨fun session hopen => ?_, hcredited, fun hfree i hrequested => ?_,
    fun pre post a call htr => ?_⟩
  · obtain ⟨i, hi, hsession⟩ := howned session hopen
    exact ⟨⟨i, hi, hsession⟩, howned.unique hi hsession⟩
  · have havailable := (hok.atRest hfree).settled i hrequested
    simp only [Redirect.cameraAvailable, Redirect.isForeground, Bool.and_eq_true,
      decide_eq_true_eq] at havailable
    exact ⟨havailable.2, havailable.1.2, havailable.1.1⟩
  · subst htr
    obtain ⟨t, t', hpre, hstep, -⟩ := hr.split_at
    obtain ⟨m, hnext, hpermitted⟩ := (step_ok (run_ok hpre) hstep).2 call rfl
    exact ⟨t, t', m, hpre, hnext, hstep, hpermitted⟩

/-- The red slot's session is put on screen, streams its camera and is asked for a frame. -/
def servedSample : List CaptureAction :=
  ([.startWorkers true false, .sessionStart .red 7, .setForegroundSlot (some .red)] :
      List CaptureAction) ++
    List.replicate 16 (CaptureAction.micro true) ++ [CaptureAction.setSlot .red true true] ++
    List.replicate 11 (CaptureAction.micro true) ++ [CaptureAction.cameraRound none true] ++
    List.replicate 9 (CaptureAction.micro false) ++
    ([.cameraStart .red 3 640 480 15, .micro true, .micro true, .cameraSampleRequest .red 3,
      .micro true, .cameraSubmitQueued .red 3 2 1 (some [0, 0, 1, 0x65]), .micro true] :
        List CaptureAction)

/-- The exclusion along that run, whose last call hands a frame to the RDP client. -/
theorem capture_exclusive_sample :
    ∃ tr s, (captureMachine { cameraEnabled := true }).Run tr s ∧ s.shared.gates 7 ∧
      (tr.map Prod.snd).getLast? = some (some (.submitCameraH264 7 3 [0, 0, 1, 0x65])) ∧
      ∀ other, s.shared.gates other → other = 7 := by
  have hr := Machine.run_of_exec (M := captureMachine { cameraEnabled := true }) servedSample
    (by decide)
  exact ⟨_, _, hr, by decide, by decide, ((capture_exclusive hr).1 7 (by decide)).2⟩

/-! ## A target that is held too long -/

/-- The small steps of a slot that changes hands; none reads a generation. -/
def Micro.plain : Micro → Bool
  | .failCredit .. => true
  | .closeGate _ => true
  | .gateFollows _ => true
  | .publishSlot .. => true
  | .forgetAvailability _ => true
  | .withdraw _ => true
  | .advertise _ => true
  | .startAudio .. => true
  | _ => false

/-- The red slot has changed hands `k` times more. -/
def Redirect.ahead (r : Redirect) (k : Nat) : Redirect :=
  { r with
    slotGeneration := fun j => r.slotGeneration j + if j = .red then UInt32.ofNat k else 0
    slotChanges := fun j => r.slotChanges j + if j = .red then k else 0 }

theorem Redirect.ahead_call (r : Redirect) (k : Nat) {m : Micro} (hm : m.plain) :
    (r.ahead k).call m = r.call m := by
  cases m with
  | failCredit | closeGate | gateFollows | publishSlot | forgetAvailability | withdraw | advertise
  | startAudio => rfl
  | _ => cases hm

theorem Redirect.ahead_modifySlot (r : Redirect) (k : Nat) (i : SlotIndex)
    (f : CaptureSlot → CaptureSlot) :
    (r.ahead k).modifySlot i f = (r.modifySlot i f).ahead k := rfl

theorem Redirect.ahead_ite (k : Nat) {c : Prop} [Decidable c] {r r' : Redirect} :
    (if c then r.ahead k else r'.ahead k) = (if c then r else r').ahead k :=
  (apply_ite (Redirect.ahead · k) c r r').symm

theorem Redirect.ahead_exec (r : Redirect) (k : Nat) {m : Micro} (hm : m.plain) (answer : Bool) :
    (r.ahead k).exec m answer = (r.exec m answer).ahead k := by
  cases m with
  | closeGate | gateFollows | forgetAvailability | startAudio => rfl
  | failCredit i generation =>
    simp only [Redirect.exec, Redirect.failCredit, ahead_modifySlot, ahead_ite]
    rfl
  | withdraw i | advertise i =>
    simp only [Redirect.exec, ahead_modifySlot, ahead_ite]
    rfl
  | publishSlot i session cameraAllowed audioAllowed =>
    simp only [Redirect.exec, Redirect.ahead, Redirect.modifySlot, Redirect.mk.injEq, and_true]
    refine ⟨funext fun j => ?_, funext fun j => ?_, rfl⟩
    · by_cases hnew : j = i ∧ (r.slots i).session ≠ session
      · refine (if_pos hnew).trans (Eq.trans ?_ (congrArg (· + _) (if_pos hnew).symm))
        rw [UInt32.add_assoc, UInt32.add_comm _ 1, ← UInt32.add_assoc]
      · exact (if_neg hnew).trans (congrArg (· + _) (if_neg hnew).symm)
    · by_cases hnew : j = i ∧ (r.slots i).session ≠ session
      · exact (if_pos hnew).trans
          ((Nat.add_right_comm ..).trans (congrArg (· + _) (if_pos hnew).symm))
      · exact (if_neg hnew).trans (congrArg (· + _) (if_neg hnew).symm)
  | _ => cases hm

theorem Redirect.ahead_ahead (r : Redirect) (k l : Nat) : (r.ahead k).ahead l = r.ahead (k + l) := by
  have hgeneration (c : Prop) [Decidable c] (g : UInt32) :
      g + (if c then UInt32.ofNat k else 0) + (if c then UInt32.ofNat l else 0) =
        g + if c then UInt32.ofNat (k + l) else 0 := by
    split
    · rw [UInt32.add_assoc, UInt32.ofNat_add]
    · simp
  have hchanges (c : Prop) [Decidable c] (n : Nat) :
      n + (if c then k else 0) + (if c then l else 0) = n + if c then k + l else 0 := by
    split <;> omega
  simp only [Redirect.ahead, hgeneration, hchanges]

/-- The same system behind `k` more changes of the red slot, with any gates. -/
def CaptureSystem.ahead (s : CaptureSystem) (k : Nat) (gates : Session → Bool) : CaptureSystem :=
  { s with shared := { redirect := s.shared.redirect.ahead k, gates } }

/-- What a session does that comes and goes. -/
def CaptureAction.replaces : CaptureAction → Bool
  | .micro _ => true
  | .setSlot .. => true
  | .sessionStart .. => true
  | .sessionDetach _ => true
  | .sessionJoin _ => true
  | .sessionSettle _ => true
  | .audioStart .. => true
  | _ => false

theorem setSlot_plain (r : Redirect) (i : SlotIndex) (session : Option Session)
    (cameraAllowed audioAllowed : Bool) :
    (r.setSlot i session cameraAllowed audioAllowed).all Micro.plain = true := by
  have hrest : (Micro.publishSlot i session cameraAllowed audioAllowed :: .gateFollows i ::
    Redirect.updateCameraAvailability).all Micro.plain = true := rfl
  unfold Redirect.setSlot Redirect.releaseSession
  rw [List.all_append, List.all_append, hrest]
  split <;> split <;> rfl

section Ahead

variable {s s' : CaptureSystem} {a : CaptureAction}

/-- Whoever takes the lock does so there too. -/
theorem ahead_acquire (k : Nat) (gates : Session → Bool) (ha : a.replaces)
    (hplain : s.todo.all Micro.plain = true) (hstep : CaptureSystem.acquire s a = some s') :
    (∃ gates', CaptureSystem.acquire (s.ahead k gates) a = some (s'.ahead k gates')) ∧
      s'.todo.all Micro.plain = true := by
  cases a with
  | setSlot i cameraAllowed audioAllowed =>
    simp only [CaptureSystem.acquire, Option.ite_none_right_eq_some] at hstep
    obtain ⟨hfree, hstep⟩ := hstep
    cases hstep
    exact ⟨⟨gates, if_pos hfree⟩, setSlot_plain ..⟩
  | sessionStart i session =>
    simp only [CaptureSystem.acquire, Option.ite_none_right_eq_some] at hstep
    obtain ⟨hfree, hstep⟩ := hstep
    cases hstep
    exact ⟨⟨_, if_pos hfree⟩, hplain⟩
  | sessionDetach i =>
    simp only [CaptureSystem.acquire] at hstep
    split at hstep
    · rename_i session hcontrol hhandle
      cases hstep
      refine ⟨⟨gates, ?_⟩, setSlot_plain ..⟩
      simp only [CaptureSystem.acquire, CaptureSystem.ahead, hcontrol, hhandle]
      rfl
    · cases hstep
  | sessionJoin i =>
    simp only [CaptureSystem.acquire] at hstep
    split at hstep
    · rename_i session hcontrol hhandle
      cases hstep
      refine ⟨⟨gates, ?_⟩, hplain⟩
      simp only [CaptureSystem.acquire, CaptureSystem.ahead, hcontrol, hhandle]
    · cases hstep
  | sessionSettle i =>
    simp only [CaptureSystem.acquire] at hstep
    split at hstep
    · rename_i hcontrol hhandle
      cases hstep
      refine ⟨⟨gates, ?_⟩, setSlot_plain ..⟩
      simp only [CaptureSystem.acquire, CaptureSystem.ahead, hcontrol, hhandle]
      rfl
    · cases hstep
  | audioStart i skipped sampleRate channels framesPerPacket =>
    simp only [CaptureSystem.acquire, Option.ite_none_right_eq_some] at hstep
    obtain ⟨hworker, hstep⟩ := hstep
    cases hstep
    refine ⟨⟨gates, if_pos hworker⟩, ?_⟩
    dsimp only
    split <;> rfl
  | micro => cases hstep
  | _ => cases ha

theorem ahead_step (k : Nat) (gates : Session → Bool) {e : Option RdpCall} (ha : a.replaces)
    (hplain : s.todo.all Micro.plain = true) (hstep : CaptureSystem.step s a = some (s', e)) :
    (∃ gates', CaptureSystem.step (s.ahead k gates) a = some (s'.ahead k gates', e)) ∧
      s'.todo.all Micro.plain = true := by
  cases a with
  | micro answer =>
    simp only [CaptureSystem.step] at hstep
    split at hstep
    · cases hstep
    · rename_i m todo htodo
      rw [htodo, List.all_cons, Bool.and_eq_true] at hplain
      split at hstep
      · cases hstep
      · rename_i hanswer
        cases hstep
        refine ⟨⟨Shared.setGate gates (s.shared.redirect.call m), ?_⟩, hplain.2⟩
        simp only [CaptureSystem.step, CaptureSystem.ahead, htodo, if_neg hanswer, Shared.exec,
          Redirect.ahead_exec _ _ hplain.1, Redirect.ahead_call _ _ hplain.1]
  | setSlot | sessionStart | sessionDetach | sessionJoin | sessionSettle | audioStart =>
    simp only [CaptureSystem.step, CaptureSystem.lockFree, Option.ite_none_right_eq_some] at hstep
    obtain ⟨hfree, hstep⟩ := hstep
    obtain ⟨t, hacquire, heq⟩ := Option.map_eq_some_iff.mp hstep
    cases heq
    obtain ⟨⟨gates', hthere⟩, hnext⟩ := ahead_acquire k gates ha hplain hacquire
    refine ⟨⟨gates', ?_⟩, hnext⟩
    simp only [CaptureSystem.step, CaptureSystem.lockFree]
    rw [if_pos (show (s.ahead k gates).todo = [] from hfree), hthere]
    rfl
  | _ => cases ha

/-- A path of such steps can be gone there too. -/
theorem ahead_path {config : CaptureConfig} {tr : List (CaptureAction × Option RdpCall)}
    (hpath : (captureMachine config).Path s tr s') (k : Nat) (gates : Session → Bool)
    (hactions : tr.all (·.1.replaces) = true) (hplain : s.todo.all Micro.plain = true) :
    (∃ gates', (captureMachine config).Path (s.ahead k gates) tr (s'.ahead k gates')) ∧
      s'.todo.all Micro.plain = true := by
  induction hpath with
  | refl => exact ⟨⟨gates, .refl _⟩, hplain⟩
  | snoc _ hstep ih =>
    rw [List.all_append, Bool.and_eq_true] at hactions
    obtain ⟨⟨gates₁, hthere⟩, hplain₁⟩ := ih hactions.1
    have ha := hactions.2
    rw [List.all_cons, Bool.and_eq_true] at ha
    obtain ⟨⟨gates₂, hnext⟩, hplain₂⟩ := ahead_step k gates₁ ha.1 hplain₁ hstep
    exact ⟨⟨gates₂, hthere.snoc hnext⟩, hplain₂⟩

end Ahead

def withMicrophone : CaptureConfig := { audioInputEnabled := true }

/-- `n` small steps of a section. -/
def micros (n : Nat) : List CaptureAction := List.replicate n (.micro false)

/-- Another session comes and goes in the red slot. -/
def replaceActions : List CaptureAction :=
  [.sessionStart .red 8, .setSlot .red false false] ++ micros 11 ++ [.sessionDetach .red] ++
    micros 14 ++ [.sessionJoin .red, .sessionSettle .red] ++ micros 11

/-- The microphone of the red slot's session is collected, the session ends, and another one
comes and goes. -/
def collectActions : List CaptureAction :=
  [.startWorkers false true, .sessionStart .red 7, .setForegroundSlot (some .red)] ++ micros 16 ++
    [.setSlot .red false true] ++ micros 11 ++ [.audioStart .red 0 44100 2 441] ++ micros 1 ++
    [.audioCollect, .audioSync .red 48000 1 true, .sessionDetach .red] ++ micros 14 ++
    [.sessionJoin .red, .sessionSettle .red] ++ micros 11 ++ replaceActions

/-- A session at the old one's address opens its microphone without permission. -/
def reopenActions : List CaptureAction :=
  [.sessionStart .red 7, .setSlot .red false false] ++ micros 11 ++
    [.audioStart .red 0 44100 2 441] ++ micros 1

/-- The microphone worker holds the target of a session that is gone. -/
def abandoned : CaptureSystem :=
  (((captureMachine withMicrophone).exec (captureMachine withMicrophone).init collectActions).get
    (by decide +kernel)).1

/-- What another session leaves behind. -/
def replaced : CaptureSystem :=
  (((captureMachine withMicrophone).exec abandoned replaceActions).get (by decide +kernel)).1

theorem replaced_redirect : replaced.shared.redirect = abandoned.shared.redirect.ahead 2 := by
  apply Redirect.ext
  · exact funext (by decide +kernel)
  · exact funext (by decide +kernel)
  · exact funext (by decide +kernel)
  all_goals decide +kernel

theorem replaced_parties : replaced.parties = abandoned.parties := by
  apply Parties.ext
  all_goals decide +kernel

/-- It is as it was, two changes further. -/
theorem replaced_ahead (k : Nat) (gates : Session → Bool) :
    replaced.ahead k gates = abandoned.ahead (2 + k) gates := by
  have htodo : replaced.todo = abandoned.todo := by decide +kernel
  unfold CaptureSystem.ahead
  rw [replaced_redirect, replaced_parties, htodo, Redirect.ahead_ahead]

theorem abandoned_rounds (n : Nat) : ∃ tr gates, (captureMachine withMicrophone).Path abandoned tr
    (abandoned.ahead (2 * n) gates) := by
  have hround : (captureMachine withMicrophone).Path abandoned _ replaced :=
    Machine.path_of_exec abandoned replaceActions (by decide +kernel)
  have hactions : (((captureMachine withMicrophone).exec abandoned replaceActions).get
      (by decide +kernel)).2.all (·.1.replaces) = true := by decide +kernel
  have hplain : abandoned.todo.all Micro.plain = true := by decide +kernel
  induction n with
  | zero =>
    refine ⟨[], abandoned.shared.gates, ?_⟩
    have hzero : abandoned.ahead 0 abandoned.shared.gates = abandoned := by
      simp [CaptureSystem.ahead, Redirect.ahead]
    rw [Nat.mul_zero, hzero]
    exact .refl _
  | succ n ih =>
    obtain ⟨tr, gates, hpath⟩ := ih
    obtain ⟨⟨gates', hnext⟩, -⟩ := ahead_path hround (2 * n) gates hactions hplain
    rw [replaced_ahead, show 2 + 2 * n = 2 * (n + 1) by omega] at hnext
    exact ⟨_, gates', hpath.append hnext⟩

/-- The state in which the packet is made, but for the red slot's changes. -/
def reopened : CaptureSystem :=
  (((captureMachine withMicrophone).exec abandoned reopenActions).get (by decide +kernel)).1

def staleTarget : Collected := ⟨⟨7, 2, 1, 441⟩, 2, 1⟩

/-- After 2^32 sessions in one slot the microphone worker's old target is taken for that of a
session whose microphone is not allowed. -/
theorem microphone_generation_returns : ¬∀ (config : CaptureConfig)
    (tr : List (CaptureAction × Option RdpCall)) (s s' : CaptureSystem) (a : CaptureAction)
    (call : RdpCall), (captureMachine config).Run tr s →
      CaptureSystem.step s a = some (s', some call) → Permitted s.shared True call := by
  intro hall
  have hstart : (captureMachine withMicrophone).Run _ abandoned :=
    Machine.run_of_exec collectActions (by decide +kernel)
  obtain ⟨tr, gates, hrounds⟩ := abandoned_rounds 2147483646
  rw [show 2 * 2147483646 = 4294967292 from rfl] at hrounds
  have hopening : (captureMachine withMicrophone).Path abandoned _ reopened :=
    Machine.path_of_exec abandoned reopenActions (by decide +kernel)
  obtain ⟨⟨gates', hreopened⟩, -⟩ := ahead_path hopening 4294967292 gates (by decide +kernel)
    (by decide +kernel)
  have hstream : reopened.parties.streams .red = some ⟨staleTarget, 48000, 1⟩ := by decide +kernel
  have hrunning : reopened.parties.audioThreadRunning = true := by decide +kernel
  have htodo : reopened.todo = [] := by decide +kernel
  have hpacket : (captureMachine withMicrophone).step (reopened.ahead 4294967292 gates')
      (.audioPacket .red [1]) =
      some ({ reopened.ahead 4294967292 gates' with todo := [.submitPcm .red staleTarget [1]] }, none) := by
    simp only [captureMachine, CaptureSystem.step, CaptureSystem.lockFree, CaptureSystem.acquire,
      CaptureSystem.ahead, htodo, hrunning, hstream, if_true, Option.map_some]
  have hcall : (reopened.shared.redirect.ahead 4294967292).call (.submitPcm .red staleTarget [1]) =
      some (.submitAudioInputPcm 7 1 [1]) := by decide +kernel
  have hmicro : ∃ s', CaptureSystem.step { reopened.ahead 4294967292 gates' with
      todo := [.submitPcm .red staleTarget [1]] } (.micro false) =
        some (s', some (.submitAudioInputPcm 7 1 [1])) := by
    simp only [CaptureSystem.step, Micro.loadsStop, Bool.false_eq_true, false_and, if_false,
      CaptureSystem.ahead, hcall]
    exact ⟨_, rfl⟩
  obtain ⟨s', hmicro⟩ := hmicro
  have hrun := (((hstart.append hrounds).append hreopened).snoc hpacket)
  obtain ⟨i, hforeground, -, hallowed, -⟩ := hall _ _ _ _ _ _ hrun hmicro
  have hred : (reopened.shared.redirect.ahead 4294967292).foregroundSlot = some .red := by
    decide +kernel
  obtain rfl := Option.some.inj (hred.symm.trans hforeground)
  have hdenied : ((reopened.shared.redirect.ahead 4294967292).slots .red).audioAllowed = false := by
    decide +kernel
  exact absurd (hdenied.symm.trans (hallowed trivial)) (by decide)

end Lgnome.Capture
