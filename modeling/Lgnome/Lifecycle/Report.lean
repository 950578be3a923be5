import Lgnome.Lifecycle.Contract

/-!
# A report, one store at a time

A report that comes first claims the connection, tells the reason and only then
flags the end. What a thread knows besides stays true while it reports.
-/
namespace Lgnome.Lifecycle

open Lgnome.Native
open Lgnome.Transition (Prog Contract)
open Lgnome.Transition.Contract (Safe)

/-- A thread that can report: the worker of a session, or the SDL thread. -/
def Acting : Party → State → Prop
  | .worker, s => s.conn.thread = .running ∧ s.desk.rdp = true
  | .sdl, _ => True
  | .others, _ => False

/-- What a report does not touch. -/
structure Aside (s t : State) : Prop where
  desk : t.desk = s.desk
  thread : t.conn.thread = s.conn.thread
  emitted : t.conn.emitted = s.conn.emitted
  outcomes : t.conn.outcomes = s.conn.outcomes
  stop : s.conn.stop = true → t.conn.stop = true
  inherited : t.conn.inherited = s.conn.inherited

/-- What others leave to a thread that can report. -/
structure Meanwhile (p : Party) (s t : State) : Prop where
  acting : Acting p t
  kept : ∃ q, p ≠ q ∧ ClaimKept q s.conn t.conn
  quit : t.running = true → s.running = true
  wasActive : s.conn.wasActive = true → t.conn.wasActive = true
  unchanged : p = .worker → t.conn.wasActive = s.conn.wasActive
  inherited : t.conn.inherited = s.conn.inherited
  rdp : t.desk.rdp = s.desk.rdp

section

variable {p : Party} {s t : State}

theorem meanwhile_of_relies (hrely : contract.rely p s t) (hact : Acting p s) :
    Meanwhile p s t := by
  cases p with
  | others => exact hact.elim
  | sdl =>
    have hm : WorkerMoves s t := hrely
    exact ⟨trivial, ⟨.worker, by decide, hm.kept⟩, hm.quit, hm.wasActive, nofun, hm.inherited,
      by rw [hm.desk]⟩
  | worker =>
    have hm : SdlMoves s t := hrely
    have hb := hm.beside (by rw [hact.1]; decide)
    exact ⟨⟨hb.thread.trans hact.1, hb.rdp.trans hact.2⟩, ⟨.sdl, by decide, hb.kept⟩, hm.quit,
      by rw [hb.wasActive]; exact id, fun _ => hb.wasActive, hb.inherited, hb.rdp⟩

/-- A step of a report is one of its thread's moves. -/
theorem moves_of_aside (hact : Acting p s) (haside : Aside s t) (hkept : ClaimKept p s.conn t.conn)
    (hquit : t.running = true → s.running = true) (hwas : t.conn.wasActive = s.conn.wasActive)
    (hflagged : s.conn.sessionFailed = true →
      t.conn.sessionFailed = true ∧ t.conn.terminalReason = s.conn.terminalReason) :
    contract.guar p s t := by
  cases p with
  | others => exact hact.elim
  | worker =>
    refine ⟨haside.desk, hquit, ?_, hkept, by rw [hwas]; exact id, haside.inherited, hflagged⟩
    intro hnone
    rw [hact.1] at hnone
    cases hnone
  | sdl =>
    refine ⟨hquit, ?_, fun _ => ⟨by rw [haside.desk], haside.thread, haside.emitted, haside.outcomes,
      haside.stop, hwas, haside.inherited, hkept⟩⟩
    intro hnone
    rw [haside.thread, hnone]
    decide

theorem Acting.aside (h : Acting p s) (haside : Aside s t) : Acting p t := by
  cases p with
  | others => exact h.elim
  | sdl => trivial
  | worker => exact ⟨haside.thread.trans h.1, by rw [haside.desk]; exact h.2⟩

/-- A store that leaves the claim alone keeps the invariant, if what it publishes is told. -/
theorem Sound.store (h : Sound s) (haside : Aside s t) (hclaim : t.conn.claim = s.conn.claim)
    (hterminal : t.conn.terminalState = s.conn.terminalState)
    (hwas : t.conn.wasActive = s.conn.wasActive)
    (hfailed : s.conn.sessionFailed = true → t.conn.sessionFailed = true)
    (hquit : t.running = true → s.running = true)
    (hpublished : t.conn.sessionFailed = true →
      ∃ k, t.conn.claim = some k ∧ Told k t.conn t.conn.terminalReason) : Sound t where
  claimed k hk := by
    rw [hterminal]
    exact h.claimed k (hclaim ▸ hk)
  unclaimed hk := by
    rw [hterminal]
    exact h.unclaimed (hclaim ▸ hk)
  published := hpublished
  active := by rw [hwas, haside.emitted, haside.inherited]; exact h.active
  inherits := by rw [hwas, haside.inherited]; exact h.inherits
  fresh := by rw [haside.thread, haside.emitted, haside.outcomes, hclaim]; exact h.fresh
  unfinished := by rw [haside.thread, haside.emitted, haside.outcomes]; exact h.unfinished
  ended := by
    rw [haside.desk, haside.thread, haside.emitted, haside.outcomes, hclaim]
    intro hrdp hnone
    obtain ⟨hwhole, k, hk, hsettled⟩ := h.ended hrdp hnone
    exact ⟨hwhole.mono haside.stop, k, hk, fun hp => (hsettled hp).mono hfailed hquit⟩
  offline := by rw [haside.desk, haside.thread]; exact h.offline
  presented := by rw [haside.desk]; exact h.presented

end

/-! ## The claim and what follows it -/

section

variable (p : Party) (A : State → Prop) (k : Claim) {s t : State}

/-- In the middle of a report, besides `A`: the claim is made and nothing is flagged. -/
structure Reporting (s : State) : Prop where
  acting : Acting p s
  frame : A s
  claim : s.conn.claim = some k
  mine : k.claimant = p
  unflagged : s.conn.sessionFailed = false
  truthful : k.claimant = .worker → .active ∈ k.emitted ∨ s.conn.inherited = true →
    s.conn.wasActive = true

/-- What was read of `was_active`. -/
structure Knows (wasActive : Bool) (s : State) : Prop where
  was : wasActive = true → s.conn.wasActive = true
  worker : k.claimant = .worker → .active ∈ k.emitted ∨ s.conn.inherited = true → wasActive = true

/-- A report is over, and the connection is claimed. -/
structure Reported (s : State) : Prop where
  acting : Acting p s
  frame : A s
  minded : Minded p s
  claimed : ∃ k, s.conn.claim = some k

variable {p A k}

theorem Reporting.stable (hA : contract.Stable p A) (h : Reporting p A k s)
    (hrely : contract.rely p s t) (hinv : contract.inv t) : Reporting p A k t := by
  have hm := meanwhile_of_relies hrely h.acting
  obtain ⟨q, hpq, hkept⟩ := hm.kept
  refine ⟨hm.acting, hA s t hrely hinv h.frame, hkept.claim k h.claim, h.mine, ?_, ?_⟩
  · rw [(hkept.others k h.claim (h.mine ▸ hpq)).2]
    exact h.unflagged
  · rw [hm.inherited]
    exact fun hk ha => hm.wasActive (h.truthful hk ha)

theorem Knows.stable {wasActive : Bool} (h : Knows k wasActive s) (hrely : contract.rely p s t)
    (hact : Acting p s) : Knows k wasActive t := by
  have hm := meanwhile_of_relies hrely hact
  refine ⟨hm.wasActive ∘ h.was, ?_⟩
  rw [hm.inherited]
  exact h.worker

/-- The reason a claimant tells. -/
theorem Knows.told {wasActive : Bool} (h : Knows k wasActive s) (hinv : Sound s) :
    Told k s.conn (sessionTerminalReason k.state k.reason wasActive) :=
  ⟨wasActive, rfl, hinv.active ∘ h.was, h.worker⟩

variable (p A k) in
/-- The reason is told as well. -/
structure Explained (wasActive : Bool) (s : State) : Prop extends
    Reporting p A k s, Knows k wasActive s where
  reason : s.conn.terminalReason = sessionTerminalReason k.state k.reason wasActive

theorem Explained.stable {wasActive : Bool} (hA : contract.Stable p A)
    (h : Explained p A k wasActive s) (hrely : contract.rely p s t) (hinv : contract.inv t) :
    Explained p A k wasActive t := by
  obtain ⟨q, hpq, hkept⟩ := (meanwhile_of_relies hrely h.acting).kept
  exact ⟨h.toReporting.stable hA hrely hinv, h.toKnows.stable hrely h.acting,
    (hkept.others k h.claim (h.mine ▸ hpq)).1.trans h.reason⟩

theorem Reporting.reported_of_settled (h : Reporting p A k s) (hs : s.Settled) : Reported p A s :=
  ⟨h.acting, h.frame, fun _ _ _ _ => hs, ⟨k, h.claim⟩⟩

theorem Reported.stable (hA : contract.Stable p A) (h : Reported p A s)
    (hrely : contract.rely p s t) (hinv : contract.inv t) : Reported p A t := by
  have hm := meanwhile_of_relies hrely h.acting
  obtain ⟨q, hpq, hkept⟩ := hm.kept
  obtain ⟨k, hk⟩ := h.claimed
  exact ⟨hm.acting, hA s t hrely hinv h.frame, h.minded.kept hpq hm.rdp hkept hm.quit,
    ⟨k, hkept.claim k hk⟩⟩

section Steps

variable (hA : contract.Stable p A) (hframe : ∀ s t, Aside s t → A s → A t)
include hframe

/-- A store in the middle of a report. -/
theorem Reporting.step (h : Reporting p A k s) (hinv : contract.inv s) (haside : Aside s t)
    (hclaim : t.conn.claim = s.conn.claim) (hterminal : t.conn.terminalState = s.conn.terminalState)
    (hwas : t.conn.wasActive = s.conn.wasActive)
    (hfailed : t.conn.sessionFailed = s.conn.sessionFailed)
    (hquit : t.running = true → s.running = true) :
    contract.inv t ∧ contract.guar p s t ∧ Reporting p A k t := by
  refine ⟨?_, ?_, ?_⟩
  · refine Sound.store hinv haside hclaim hterminal hwas (by rw [hfailed]; exact id) hquit ?_
    rw [hfailed, h.unflagged]
    exact nofun
  · exact moves_of_aside h.acting haside (.of_own (hclaim.trans h.claim) h.mine (.inl h.claim))
      hquit hwas fun hflagged => nomatch h.unflagged.symm.trans hflagged
  · refine ⟨h.acting.aside haside, hframe s t haside h.frame, hclaim.trans h.claim, h.mine,
      hfailed.trans h.unflagged, ?_⟩
    rw [hwas, haside.inherited]
    exact h.truthful

include hA

theorem leaveApp_safe (h : Reporting p A k s) (exitCode : Nat) :
    contract.Safe p (leaveApp exitCode) (fun _ => Reported p A) s := by
  have hleave : ∀ {u}, Reporting p A k u →
      contract.Safe p (Prog.store fun s => { s with running := false } : Action Unit)
        (fun _ => Reported p A) u := by
    intro u hu
    apply Safe.store
    intro t hrely hinv
    obtain ⟨hsound, hguar, hreporting⟩ := (hu.stable hA hrely hinv).step hframe hinv
      (t := { t with running := false }) ⟨rfl, rfl, rfl, rfl, id, rfl⟩ rfl rfl rfl rfl nofun
    exact ⟨hsound, hguar, hreporting.reported_of_settled (.inr rfl)⟩
  apply Safe.bind
  apply Safe.when
  · intro _
    apply Safe.store
    intro t hrely hinv
    obtain ⟨hsound, hguar, hreporting⟩ := (h.stable hA hrely hinv).step hframe hinv
      (t := { t with exitCode }) ⟨rfl, rfl, rfl, rfl, id, rfl⟩ rfl rfl rfl rfl id
    exact ⟨hsound, hguar, hleave hreporting⟩
  · intro _
    exact hleave h

/-- The end of the session is flagged once its reason is told. -/
theorem flagEnd_safe {wasActive : Bool} (h : Explained p A k wasActive s) (exitCode : Nat) :
    contract.Safe p (flagEnd k.state exitCode) (fun _ => Reported p A) s := by
  apply Safe.bind
  apply Safe.load
  intro s₁ hrely hinv
  have h₁ := h.stable hA hrely hinv
  split
  · exact leaveApp_safe hA hframe h₁.toReporting exitCode
  · apply Safe.bind
    apply Safe.load
    intro s₂ hrely hinv
    have h₂ := h₁.stable hA hrely hinv
    split
    · apply Safe.store
      intro s₃ hrely hinv
      have h₃ := h₂.stable hA hrely hinv
      have haside : Aside s₃ (s₃.onConn fun c => { c with sessionFailed := true }) :=
        ⟨rfl, rfl, rfl, rfl, id, rfl⟩
      refine ⟨?_, ?_, ?_⟩
      · refine Sound.store hinv haside rfl rfl rfl (fun _ => rfl) id fun _ => ⟨k, h₃.claim, ?_⟩
        have htold := h₃.toKnows.told hinv
        rw [← h₃.reason] at htold
        exact htold
      · exact moves_of_aside h₃.acting haside (.of_own h₃.claim h₃.mine (.inl h₃.claim)) id rfl
          fun hflagged => nomatch h₃.unflagged.symm.trans hflagged
      · exact ⟨h₃.acting.aside haside, hframe _ _ haside h₃.frame, fun _ _ _ _ => .inl rfl,
          ⟨k, h₃.claim⟩⟩
    · exact leaveApp_safe hA hframe h₂.toReporting exitCode

/-- A claim is followed by its reason and then by the flag. -/
theorem followClaim_safe (h : Reporting p A k s) (exitCode : Nat) :
    contract.Safe p (do
      let wasActive ← (Prog.load fun s => s.conn.wasActive : Action Bool)
      Prog.store (State.onConn fun c =>
        { c with terminalReason := sessionTerminalReason k.state k.reason wasActive })
      Prog.store (State.onConn fun c => { c with reconnecting := false })
      flagEnd k.state exitCode) (fun _ => Reported p A) s := by
  apply Safe.bind
  apply Safe.load
  intro s₁ hrely hinv
  have h₁ := h.stable hA hrely hinv
  have hknows : Knows k s₁.conn.wasActive s₁ := ⟨id, h₁.truthful⟩
  generalize s₁.conn.wasActive = wasActive at hknows
  apply Safe.bind
  apply Safe.store
  intro s₂ hrely hinv
  have hknows₂ := hknows.stable hrely h₁.acting
  obtain ⟨hsound, hguar, h₂⟩ := (h₁.stable hA hrely hinv).step hframe hinv
    (t := s₂.onConn fun c =>
      { c with terminalReason := sessionTerminalReason k.state k.reason wasActive })
    ⟨rfl, rfl, rfl, rfl, id, rfl⟩ rfl rfl rfl rfl id
  have hexplained : Explained p A k wasActive _ := ⟨h₂, ⟨hknows₂.was, hknows₂.worker⟩, rfl⟩
  refine ⟨hsound, hguar, ?_⟩
  apply Safe.bind
  apply Safe.store
  intro s₃ hrely hinv
  have h₃ := hexplained.stable hA hrely hinv
  obtain ⟨hsound, hguar, hreporting⟩ := h₃.toReporting.step hframe hinv
    (t := s₃.onConn fun c => { c with reconnecting := false })
    ⟨rfl, rfl, rfl, rfl, id, rfl⟩ rfl rfl rfl rfl id
  exact ⟨hsound, hguar,
    flagEnd_safe hA hframe ⟨hreporting, ⟨h₃.was, h₃.worker⟩, h₃.reason⟩ exitCode⟩

end Steps

/-- A thread that has nothing left to flag, besides `A`. -/
structure Ready (p : Party) (A : State → Prop) (s : State) : Prop where
  acting : Acting p s
  frame : A s
  minded : Minded p s

theorem Ready.stable (hA : contract.Stable p A) (h : Ready p A s) (hrely : contract.rely p s t)
    (hinv : contract.inv t) : Ready p A t := by
  have hm := meanwhile_of_relies hrely h.acting
  obtain ⟨q, hpq, hkept⟩ := hm.kept
  exact ⟨hm.acting, hA s t hrely hinv h.frame, h.minded.kept hpq hm.rdp hkept hm.quit⟩

/-- The worker has noted that its session is active, if it has said so on an open connection. -/
def Tracked (s : State) : Prop :=
  s.conn.claim = none → .active ∈ s.conn.emitted → s.conn.wasActive = true

theorem Tracked.stable (h : Tracked s) (hrely : contract.rely .worker s t)
    (hact : Acting .worker s) : Tracked t := by
  have hm : SdlMoves s t := hrely
  have hb := hm.beside (by rw [hact.1]; decide)
  intro hnone
  rw [hb.emitted, hb.wasActive]
  refine h ?_
  cases hclaim : s.conn.claim with
  | none => rfl
  | some k =>
    rw [hb.kept.claim k hclaim] at hnone
    cases hnone

/-- A report of a state that ends the connection leaves it claimed, by this thread or before. -/
theorem reportTerminalReason_safe (hA : contract.Stable p A)
    (hframe : ∀ s t, Aside s t → A s → A t) {state : RdpState} (hstate : state.isTerminal = true)
    (reason : RdpDisconnectReason) (exitCode : Nat) (h : Ready p A s)
    (htracked : p = .worker → Tracked s) :
    contract.Safe p (reportTerminalReason p state reason exitCode) (fun _ => Reported p A) s := by
  apply Safe.bind
  apply Safe.act
  intro t hrely hinv _
  have ht := h.stable hA hrely hinv
  have hsound : Sound t := hinv
  have htr : p = .worker → Tracked t := by
    rintro rfl
    exact (htracked rfl).stable hrely h.acting
  by_cases hidle : t.conn.terminalState = .idle
  · have hnone : t.conn.claim = none := by
      cases hclaim : t.conn.claim with
      | none => rfl
      | some k =>
        obtain ⟨hterminal, hk, -⟩ := hsound.claimed k hclaim
        rw [← hterminal, hidle] at hk
        cases hk
    have hunflagged : t.conn.sessionFailed = false := by
      cases hfailed : t.conn.sessionFailed with
      | false => rfl
      | true =>
        obtain ⟨k, hk, -⟩ := hsound.published hfailed
        rw [hnone] at hk
        cases hk
    have hclaimed : t.claim p state reason = (true, t.onConn fun c =>
        { c with
          terminalState := state
          claim := some { claimant := p, state, reason, emitted := c.emitted } }) := if_pos hidle
    rw [hclaimed]
    have haside : Aside t (t.onConn fun c =>
        { c with
          terminalState := state
          claim := some { claimant := p, state, reason, emitted := c.emitted } }) :=
      ⟨rfl, rfl, rfl, rfl, id, rfl⟩
    refine ⟨?_, ?_, ?_⟩
    · refine ⟨⟨?_, nofun, ?_, hsound.active, hsound.inherits⟩, ?_, hsound.unfinished, ?_,
        hsound.offline, hsound.presented⟩
      · rintro k hk
        obtain rfl := Option.some.inj hk
        refine ⟨rfl, hstate, ?_⟩
        rintro rfl
        exact ht.acting
      · intro hfailed
        exact absurd (hunflagged.symm.trans hfailed) Bool.false_ne_true
      · intro hspawned
        obtain ⟨hemitted, houtcomes, -⟩ := hsound.fresh hspawned
        refine ⟨hemitted, houtcomes, ?_⟩
        intro k hk hworker
        obtain rfl := Option.some.inj hk
        obtain rfl : p = .worker := hworker
        have hrunning : t.conn.thread = .running := ht.acting.1
        exact nomatch hrunning.symm.trans hspawned
      · intro hrdp hthread
        obtain ⟨-, k, hk, -⟩ := hsound.ended hrdp hthread
        rw [hnone] at hk
        cases hk
    · exact moves_of_aside ht.acting haside (.of_own rfl rfl (.inr hnone)) id rfl
        fun hflagged => nomatch hunflagged.symm.trans hflagged
    · refine followClaim_safe (k := { claimant := p, state, reason, emitted := t.conn.emitted })
        hA hframe ?_ exitCode
      refine ⟨ht.acting.aside haside, hframe _ _ haside ht.frame, rfl, rfl, hunflagged, ?_⟩
      intro hp hactive
      rcases hactive with hemitted | hinherited
      · exact htr hp hnone hemitted
      · exact hsound.inherits hinherited
  · have hrefused : t.claim p state reason = (false, t) := if_neg hidle
    rw [hrefused]
    refine ⟨hinv, contract.guar_refl p t, ?_⟩
    refine ⟨ht.acting, ht.frame, ht.minded, ?_⟩
    cases hclaim : t.conn.claim with
    | none => exact absurd (hsound.unclaimed hclaim) hidle
    | some k => exact ⟨k, rfl⟩

end

end Lgnome.Lifecycle
