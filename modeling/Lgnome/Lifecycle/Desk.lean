import Lgnome.Lifecycle.Record

/-!
# What the SDL thread does with a slot

It stops a session by joining its worker, and from then on the slot is its own until
it starts another. What the HUB is told of an end is what was flagged.
-/
namespace Lgnome.Lifecycle

open Lgnome.Native
open Lgnome.Transition (Prog Contract)
open Lgnome.Transition.Contract (Safe)

variable {s t : State} {A : State → Prop}

/-- A store at the desk that leaves the handle alone. -/
theorem Minded.step (h : Minded .sdl s) (hinv : contract.inv s) {f : Desk → Desk}
    (hrdp : (f s.desk).rdp = s.desk.rdp)
    (hpresented : ∀ p ∈ (f s.desk).presented, p ∈ s.desk.presented ∨ p.Tells ∨ p.Refused) :
    contract.inv (s.onDesk f) ∧ contract.guar .sdl s (s.onDesk f) ∧ Minded .sdl (s.onDesk f) := by
  have hsound : Sound s := hinv
  refine ⟨?_, ?_, ?_⟩
  · refine ⟨hsound.toConsistent, hsound.fresh, hsound.unfinished, ?_, ?_, ?_⟩
    · rw [State.onDesk_desk, hrdp]
      exact hsound.ended
    · rw [State.onDesk_desk, hrdp]
      exact hsound.offline
    · exact fun p hp => (hpresented p hp).elim (hsound.presented p) id
  · refine ⟨id, ?_, fun _ => ⟨hrdp, rfl, rfl, rfl, id, rfl, rfl, .refl _ _⟩⟩
    intro hnone
    rw [State.onDesk_conn, hnone]
    decide
  · exact fun hconnected => h (hrdp ▸ hconnected)

theorem Minded.stable (h : Minded .sdl s) (hrely : contract.rely .sdl s t) : Minded .sdl t :=
  AtRest.stable .sdl hrely h

/-- A store at the desk, with nothing to show. -/
theorem Minded.storeDesk (h : Minded .sdl s) {f : Desk → Desk} (hrdp : ∀ d, (f d).rdp = d.rdp)
    (hpresented : ∀ d, (f d).presented = d.presented) :
    contract.Safe .sdl (Prog.store (State.onDesk f) : Action Unit) (fun _ => Minded .sdl) s := by
  apply Safe.store
  intro t hrely hinv
  refine (h.stable hrely).step hinv (hrdp _) fun p hp => .inl ?_
  rw [← hpresented]
  exact hp

/-! ## Without a session -/

/-- The slot has no session, and nobody but the SDL thread touches it. -/
structure Vacant (B : Connection → Prop) (s : State) : Prop where
  rdp : s.desk.rdp = false
  thread : s.conn.thread = .none
  conn : B s.conn

section Vacant

variable {B C : Connection → Prop}

theorem Vacant.stable (h : Vacant B s) (hrely : contract.rely .sdl s t) : Vacant B t := by
  have hm : WorkerMoves s t := hrely
  have hconn := hm.resting h.thread
  exact ⟨by rw [hm.desk]; exact h.rdp, by rw [hconn]; exact h.thread, by rw [hconn]; exact h.conn⟩

theorem Vacant.minded (h : Vacant B s) : Minded .sdl s :=
  fun hrdp => nomatch h.rdp.symm.trans hrdp

/-- A store to a connection without a worker. -/
theorem Vacant.store (h : Vacant B s) {f : Connection → Connection}
    (hthread : ∀ c, (f c).thread = c.thread)
    (hC : ∀ c, Consistent c → B c → Consistent (f c) ∧ C (f c)) :
    contract.Safe .sdl (Prog.store (State.onConn f) : Action Unit) (fun _ => Vacant C) s := by
  apply Safe.store
  intro t hrely hinv
  have ht := h.stable hrely
  have hs : Sound t := hinv
  have hnone : (f t.conn).thread = .none := (hthread _).trans ht.thread
  obtain ⟨hconsistent, hCt⟩ := hC t.conn hs.toConsistent ht.conn
  refine ⟨?_, ?_, ⟨ht.rdp, hnone, hCt⟩⟩
  · exact ⟨hconsistent, (fun hspawned => nomatch hnone.symm.trans hspawned),
      (fun hrunning => nomatch hnone.symm.trans hrunning),
      (fun hrdp => nomatch ht.rdp.symm.trans hrdp), fun _ => hnone, hs.presented⟩
  · refine ⟨id, fun _ => ?_, fun hthread => absurd ht.thread hthread⟩
    rw [State.onConn_conn, hnone]
    decide

theorem Vacant.load {α : Type} (h : Vacant B s) (f : State → α) :
    contract.Safe .sdl (Prog.load f : Action α) (fun _ => Vacant B) s :=
  Safe.load fun _ hrely _ => h.stable hrely

/-- A store at the desk of a slot without a session. -/
theorem Vacant.storeDesk (h : Vacant B s) {f : Desk → Desk} (hrdp : ∀ d, (f d).rdp = d.rdp)
    (hpresented : ∀ d, (f d).presented = d.presented) :
    contract.Safe .sdl (Prog.store (State.onDesk f) : Action Unit) (fun _ => Vacant B) s := by
  apply Safe.store
  intro t hrely hinv
  have ht := h.stable hrely
  obtain ⟨hsound, hguar, -⟩ := ht.minded.step hinv (hrdp _) fun p hp => .inl (by
    rw [← hpresented]
    exact hp)
  exact ⟨hsound, hguar, ⟨(hrdp _).trans ht.rdp, ht.thread, ht.conn⟩⟩

end Vacant

/-! ## Stopping -/

/-- The SDL thread waits until there is no worker. -/
theorem joinWorker_safe (h : Ready .sdl A s) (hA : contract.Stable .sdl A) :
    contract.Safe .sdl joinWorker (fun _ t => Ready .sdl A t ∧ t.conn.thread = .none) s := by
  refine ⟨fun _ => Ready .sdl A, fun _ _ _ hrely hinv ht => ht.stable hA hrely hinv, h, ?_⟩
  intro _ t _ ht
  apply Safe.load
  intro u hrely hinv
  have hu := ht.stable hA hrely hinv
  by_cases hnone : u.conn.thread = .none
  · rw [if_pos hnone]
    exact ⟨hu, hnone⟩
  · rw [if_neg hnone]
    exact hu

/-- The handle is given up once its worker has been joined. -/
theorem closeHandle_safe (hnone : s.conn.thread = .none) :
    contract.Safe .sdl (Prog.store (State.onDesk fun d => { d with rdp := false }) : Action Unit)
      (fun _ => Vacant fun _ => True) s := by
  apply Safe.store
  intro t hrely hinv
  have hm : WorkerMoves s t := hrely
  have hs : Sound t := hinv
  have hthread : t.conn.thread = .none := by rw [hm.resting hnone, hnone]
  refine ⟨⟨hs.toConsistent, hs.fresh, hs.unfinished, nofun, fun _ => hthread, hs.presented⟩, ?_,
    ⟨rfl, hthread, trivial⟩⟩
  refine ⟨id, fun _ => ?_, fun hne => absurd hthread hne⟩
  rw [State.onDesk_conn, hthread]
  decide

theorem endSession_safe (h : Minded .sdl s) :
    contract.Safe .sdl endSession (fun _ => Vacant fun _ => True) s := by
  have htrue : contract.Stable .sdl fun _ => True := fun _ _ _ _ _ => trivial
  apply Safe.bind
  apply Safe.load
  intro t hrely hinv
  have ht : Ready .sdl (fun _ => True) t := ⟨trivial, trivial, h.stable hrely⟩
  split
  · apply Safe.bind
    apply Safe.store
    intro u hrely hinv
    obtain ⟨hsound, hguar, hu⟩ := (ht.stable htrue hrely hinv).step (fun _ _ _ _ => trivial) hinv
      (t := u.onConn fun c => { c with stop := true })
      ⟨rfl, rfl, rfl, rfl, fun _ => rfl, rfl⟩ rfl rfl rfl rfl rfl rfl
    refine ⟨hsound, hguar, ?_⟩
    apply Safe.bind
    apply (joinWorker_safe hu htrue).mono
    rintro _ v ⟨-, hnone⟩
    exact closeHandle_safe hnone
  · rename_i hrdp
    have hoff : t.desk.rdp = false := Bool.eq_false_iff.mpr hrdp
    exact ⟨hoff, (show Sound t from hinv).offline hoff, trivial⟩

theorem stopSlot_safe (h : Minded .sdl s) :
    contract.Safe .sdl stopSlot (fun _ => Vacant fun c => c.sessionFailed = false) s := by
  apply Safe.bind
  apply (endSession_safe h).mono
  intro _ t ht
  apply Safe.bind
  apply (ht.store (C := fun _ => True) (f := fun c => { c with currentState := .idle })
    (fun _ => rfl) fun _ hc _ => ⟨⟨hc.claimed, hc.unclaimed, hc.published, hc.active, hc.inherits⟩,
      trivial⟩).mono
  intro _ u hu
  apply Safe.bind
  apply (hu.store (C := fun c => c.sessionFailed = false)
    (f := fun c => { c with sessionFailed := false })
    (fun _ => rfl) fun _ hc _ => ⟨⟨hc.claimed, hc.unclaimed, nofun, hc.active, hc.inherits⟩, rfl⟩).mono
  intro _ v hv
  exact hv.storeDesk (fun _ => rfl) fun _ => rfl

/-! ## Connecting -/

/-- A connection that nobody has reported on. -/
structure Blank (c : Connection) : Prop where
  failed : c.sessionFailed = false
  claim : c.claim = none
  emitted : c.emitted = []
  outcomes : c.outcomes = []

theorem renewConnection_safe (logical : Bool) (h : Vacant (fun c => c.sessionFailed = false) s) :
    contract.Safe .sdl (renewConnection logical) (fun _ => Vacant Blank) s := by
  apply Safe.bind
  apply (h.store (C := fun c => c.sessionFailed = false ∧ c.claim = none)
    (f := fun c => { c with terminalState := .idle, claim := none }) (fun _ => rfl) ?_).mono
  · intro _ t ht
    apply Safe.bind
    apply (ht.store (C := fun c => c.sessionFailed = false ∧ c.claim = none)
      (f := fun c => { c with terminalReason := .none }) (fun _ => rfl) ?_).mono
    · intro _ u hu
      apply Safe.bind
      apply (hu.store (C := fun c => c.sessionFailed = false ∧ c.claim = none)
        (f := fun c => { c with reconnecting := false }) (fun _ => rfl) fun _ hc hcleared =>
          ⟨⟨hc.claimed, hc.unclaimed, hc.published, hc.active, hc.inherits⟩, hcleared⟩).mono
      intro _ v hv
      refine hv.store (fun _ => rfl) ?_
      rintro c hc ⟨hfailed, hclaim⟩
      refine ⟨⟨hc.claimed, hc.unclaimed, ?_, .inr, id⟩, ⟨hfailed, hclaim, rfl, rfl⟩⟩
      exact fun hflagged => nomatch hfailed.symm.trans hflagged
    · rintro c hc ⟨hfailed, hclaim⟩
      refine ⟨⟨hc.claimed, hc.unclaimed, ?_, hc.active, hc.inherits⟩, hfailed, hclaim⟩
      exact fun hflagged => nomatch hfailed.symm.trans hflagged
  · intro c hc hfailed
    refine ⟨⟨nofun, fun _ => rfl, ?_, hc.active, hc.inherits⟩, hfailed, rfl⟩
    exact fun hflagged => nomatch hfailed.symm.trans hflagged

/-- The connection of a session that could not be started, which is reported nevertheless. -/
structure Unstarted (c : Connection) : Prop where
  emitted : c.emitted = []
  claimed : ∃ k, c.claim = some k

/-- A session that does not start says so on the connection it was to have. -/
theorem refuse_safe (h : Vacant Blank s) {state : RdpState} (hstate : state.isTerminal = true)
    (hactive : state ≠ .active) :
    contract.Safe .sdl (do
      recordState .sdl state .none
      pure false : Action Bool)
      (fun started t => Minded .sdl t ∧ (started = false → Vacant Unstarted t)) s := by
  have hstable : contract.Stable .sdl (Vacant fun c => c.emitted = []) :=
    fun _ _ hrely _ hv => hv.stable hrely
  have hframe : ∀ t u, Aside t u → Vacant (fun c => c.emitted = []) t →
      Vacant (fun c => c.emitted = []) u := by
    intro t u haside hv
    exact ⟨by rw [haside.desk]; exact hv.rdp, haside.thread.trans hv.thread,
      haside.emitted.trans hv.conn⟩
  have hready : Ready .sdl (Vacant fun c => c.emitted = []) s :=
    ⟨trivial, ⟨h.rdp, h.thread, h.conn.emitted⟩, h.minded⟩
  apply Safe.bind
  apply (recordState_safe hstable hframe state .none hready
    (fun h => absurd h hactive) nofun).mono
  rintro _ t ⟨⟨-, hv, hminded⟩, -, hclaimed⟩
  exact ⟨hminded, fun _ => ⟨hv.rdp, hv.thread, hv.conn, hclaimed hstate⟩⟩

theorem sessionStart_safe (h : Vacant Blank s) :
    contract.Safe .sdl sessionStart
      (fun started t => Minded .sdl t ∧ (started = false → Vacant Unstarted t)) s := by
  apply Safe.bind
  apply Safe.ask
  intro t hrely hinv answer
  have ht := h.stable hrely
  cases answer.starts with
  | started =>
    apply Safe.bind
    apply Safe.store
    intro u hrely hinv
    have hu := ht.stable hrely
    have hs : Sound u := hinv
    refine ⟨⟨⟨hs.claimed, hs.unclaimed, hs.published, hs.active, hs.inherits⟩, ?_, nofun, nofun,
      nofun, hs.presented⟩, ?_, ?_, nofun⟩
    · intro _
      refine ⟨hu.conn.emitted, hu.conn.outcomes, fun k hk => ?_⟩
      exact nomatch hu.conn.claim.symm.trans hk
    · exact ⟨id, fun _ => nofun, fun hne => absurd hu.thread hne⟩
    · intro _ k hk
      exact nomatch hu.conn.claim.symm.trans hk
  | invalidConfig => exact refuse_safe ht rfl (by decide)
  | noThread => exact refuse_safe ht rfl (by decide)

/-- A connection that could not be made is left reported, and without a session. -/
theorem slotConnect_safe (h : Minded .sdl s) :
    contract.Safe .sdl slotConnect
      (fun started t => Minded .sdl t ∧ (started = false → Vacant Unstarted t)) s := by
  apply Safe.bind
  apply Safe.load
  intro t hrely _
  generalize t.desk.runtimeActive = logical
  apply Safe.bind
  apply (stopSlot_safe (h.stable hrely)).mono
  intro _ u hu
  apply Safe.bind
  apply (renewConnection_safe logical hu).mono
  intro _ v hv
  apply Safe.bind
  apply (hv.load _).mono
  intro active w hw
  apply Safe.bind
  refine Safe.mono (?_ : contract.Safe .sdl _ (fun _ => Vacant Blank) w) ?_
  · apply Safe.when
    · intro _
      apply Safe.store
      intro x hrely hinv
      have hx := hw.stable hrely
      have hs : Sound x := hinv
      refine ⟨⟨hs.toConsistent, hs.fresh, hs.unfinished, hs.ended, hs.offline, hs.presented⟩, ?_,
        ⟨hx.rdp, hx.thread, hx.conn⟩⟩
      refine ⟨id, fun _ => ?_, fun hne => absurd hx.thread hne⟩
      show x.conn.thread ≠ .running
      rw [hx.thread]
      decide
    · exact fun _ => hw
  intro _ x hx
  apply Safe.bind
  apply (sessionStart_safe hx).mono
  rintro started y ⟨hy, hunstarted⟩
  apply Safe.bind
  apply Safe.when
  · intro hstarted
    apply (hy.storeDesk (f := fun d => { d with runtimeActive := logical })
      (fun _ => rfl) fun _ => rfl).mono
    intro _ z hz
    exact ⟨hz, fun hfalse => nomatch hstarted.symm.trans hfalse⟩
  · exact fun _ => ⟨hy, hunstarted⟩

/-! ## What the HUB is told -/

/-- The end of the session is flagged, for its first report. -/
structure Flagged (k : Claim) (s : State) : Prop where
  minded : Minded .sdl s
  failed : s.conn.sessionFailed = true
  claim : s.conn.claim = some k

theorem Flagged.stable {k : Claim} (h : Flagged k s) (hrely : contract.rely .sdl s t) :
    Flagged k t := by
  have hm : WorkerMoves s t := hrely
  exact ⟨h.minded.stable hrely, (hm.flagged h.failed).1, hm.kept.claim k h.claim⟩

theorem Flagged.told {k : Claim} (h : Flagged k s) (hinv : contract.inv s) :
    Told k s.conn s.conn.terminalReason := by
  have hs : Sound s := hinv
  obtain ⟨k', hk, htold⟩ := hs.published h.failed
  obtain rfl := Option.some.inj (h.claim.symm.trans hk)
  exact htold

theorem presentEnd_safe {k : Claim} (h : Flagged k s) :
    contract.Safe .sdl presentEnd (fun _ => Minded .sdl) s := by
  apply Safe.bind
  apply Safe.load
  intro s₁ hrely hinv
  have h₁ := h.stable hrely
  obtain ⟨hstate, hterminal, -⟩ := (show Sound s₁ from hinv).claimed k h₁.claim
  rw [hstate]
  apply Safe.bind
  apply Safe.load
  intro s₂ hrely hinv
  have h₂ := h₁.stable hrely
  obtain ⟨was, hwas, -, -⟩ := h₂.told hinv
  apply Safe.bind
  apply Safe.load
  intro s₃ hrely₃ _
  have h₃ := h₂.stable hrely₃
  have hm₃ : WorkerMoves s₂ s₃ := hrely₃
  -- The reason is what was flagged, whatever is known of the session by now.
  have hreason : sessionTerminalReason k.state s₂.conn.terminalReason
      (s₃.conn.wasActive || s₃.desk.runtimeActive) = s₂.conn.terminalReason := by
    rw [hwas]
    exact sessionTerminalReason_again ..
  dsimp only
  rw [hreason]
  apply Safe.store
  intro s₄ hrely₄ hinv
  have h₄ := h₃.stable hrely₄
  have hm₄ : WorkerMoves s₃ s₄ := hrely₄
  have htold := h₄.told hinv
  rw [(hm₄.flagged h₃.failed).2, (hm₃.flagged h₂.failed).2] at htold
  refine h₄.minded.step hinv rfl fun p hp => ?_
  rcases List.mem_append.mp hp with hp | hp
  · exact .inl hp
  · obtain rfl := List.mem_singleton.mp hp
    exact .inr (.inl ⟨k, h₄.claim, hterminal, htold, rfl, rfl⟩)

/-- A session that could not be started was reported before the HUB is told. -/
theorem hubConnect_safe (h : Minded .sdl s) :
    contract.Safe .sdl hubConnect (fun _ => Minded .sdl) s := by
  apply Safe.bind
  apply (h.storeDesk (f := fun d => { d with runtimeActive := false })
    (fun _ => rfl) fun _ => rfl).mono
  intro _ t ht
  apply Safe.bind
  apply (stopSlot_safe ht).mono
  intro _ u hu
  apply Safe.bind
  apply (hu.storeDesk (f := fun d => { d with active := true }) (fun _ => rfl) fun _ => rfl).mono
  intro _ v hv
  apply Safe.bind
  apply (slotConnect_safe hv.minded).mono
  rintro started w ⟨hw, hunstarted⟩
  split
  · exact hw
  rename_i hstarted
  have hvacant := hunstarted (Bool.eq_false_iff.mpr hstarted)
  apply Safe.store
  intro x hrely hinv
  have hx := hvacant.stable hrely
  obtain ⟨k, hk⟩ := hx.conn.claimed
  refine hx.minded.step hinv rfl fun p hp => ?_
  rcases List.mem_append.mp hp with hp | hp
  · exact .inl hp
  · obtain rfl := List.mem_singleton.mp hp
    exact .inr (.inr ⟨rfl, rfl, rfl, ⟨k, hk, ((show Sound x from hinv).claimed k hk).2.1⟩,
      hx.conn.emitted⟩)

theorem report_safe (h : Minded .sdl s) {state : RdpState} (hstate : state.isTerminal = true) :
    contract.Safe .sdl (reportTerminal .sdl state) (fun _ => Minded .sdl) s := by
  have hready : Ready .sdl (fun _ => True) s := ⟨trivial, trivial, h⟩
  apply (reportTerminalReason_safe (fun _ _ _ _ _ => trivial) (fun _ _ _ _ => trivial) hstate
    .none _ hready nofun).mono
  exact fun _ _ ht => ht.minded

theorem reconnectSlot_safe (h : Minded .sdl s) :
    contract.Safe .sdl reconnectSlot (fun _ => Minded .sdl) s := by
  apply Safe.bind
  apply (slotConnect_safe h).mono
  rintro started t ⟨ht, -⟩
  split
  · exact ht
  · exact report_safe ht rfl

theorem yieldScreen_safe (h : Minded .sdl s) :
    contract.Safe .sdl yieldScreen (fun _ => Minded .sdl) s := by
  apply Safe.bind
  apply (h.storeDesk (f := fun d => { d with active := false }) (fun _ => rfl) fun _ => rfl).mono
  intro _ t ht
  apply Safe.bind
  apply Safe.load
  intro u hrely _
  have hu := ht.stable hrely
  apply Safe.bind
  apply Safe.ask
  intro v hrely _ answer
  have hv := hu.stable hrely
  apply Safe.bind
  apply Safe.load
  intro w hrely _
  have hw := hv.stable hrely
  exact Safe.when (fun _ => reconnectSlot_safe hw) fun _ => hw

theorem supervise_safe (h : Minded .sdl s) :
    contract.Safe .sdl supervise (fun _ => Minded .sdl) s := by
  apply Safe.bind
  apply Safe.load
  intro t hrely hinv
  have ht := h.stable hrely
  split
  · rename_i hfailed
    obtain ⟨k, hk, -⟩ := (show Sound t from hinv).published hfailed
    apply Safe.bind
    apply (presentEnd_safe ⟨ht, hfailed, hk⟩).mono
    intro _ u hu
    apply Safe.bind
    apply Safe.load
    intro v hrely _
    have hv := hu.stable hrely
    apply Safe.bind
    apply Safe.ask
    intro w hrely _ answer
    have hw := hv.stable hrely
    apply Safe.bind
    refine Safe.mono (?_ : contract.Safe .sdl _ (fun _ => Minded .sdl) w) ?_
    · exact Safe.when (fun _ => yieldScreen_safe hw) fun _ => hw
    intro _ x hx
    apply (stopSlot_safe hx).mono
    exact fun _ _ hx => hx.minded
  · exact ht

theorem publishRuntime_safe (h : Minded .sdl s) :
    contract.Safe .sdl publishRuntime (fun _ => Minded .sdl) s := by
  apply Safe.bind
  apply Safe.load
  intro t hrely _
  have ht := h.stable hrely
  apply Safe.bind
  apply Safe.load
  intro u hrely _
  refine (ht.stable hrely).storeDesk ?_ ?_
  · intro d
    split
    · rfl
    · split <;> rfl
  · intro d
    split
    · rfl
    · split <;> rfl

/-- The SDL thread leaves every call with its own reports flagged. -/
theorem perform_safe (duty : Duty) (h : Minded .sdl s) :
    contract.Safe .sdl duty.perform (fun _ => Minded .sdl) s := by
  cases duty with
  | connect => exact hubConnect_safe h
  | reconnect => exact reconnectSlot_safe h
  | stop => exact (stopSlot_safe h).mono fun _ _ ht => ht.minded
  | supervise => exact supervise_safe h
  | publishRuntime => exact publishRuntime_safe h
  | report finding => exact report_safe h (by cases finding <;> rfl)
  | «show» active => exact h.storeDesk (fun _ => rfl) fun _ => rfl

end Lgnome.Lifecycle
