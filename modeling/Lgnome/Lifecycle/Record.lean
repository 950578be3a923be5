import Lgnome.Lifecycle.Report

/-!
# A state that is recorded

A slot takes note of a state as long as its connection has not been claimed. A
state that ends the connection leaves it claimed, whoever was first.
-/
namespace Lgnome.Lifecycle

open Lgnome.Native
open Lgnome.Transition (Prog Contract)
open Lgnome.Transition.Contract (Safe)

variable {p : Party} {A : State → Prop} {s t : State}

/-- A store outside a report. -/
theorem Ready.step (hframe : ∀ s t, Aside s t → A s → A t) (h : Ready p A s)
    (hinv : contract.inv s) (haside : Aside s t) (hclaim : t.conn.claim = s.conn.claim)
    (hterminal : t.conn.terminalState = s.conn.terminalState)
    (hreason : t.conn.terminalReason = s.conn.terminalReason)
    (hwas : t.conn.wasActive = s.conn.wasActive)
    (hfailed : t.conn.sessionFailed = s.conn.sessionFailed) (hrunning : t.running = s.running) :
    contract.inv t ∧ contract.guar p s t ∧ Ready p A t := by
  have hquit : t.running = true → s.running = true := by
    rw [hrunning]
    exact id
  refine ⟨?_, ?_, ?_⟩
  · refine Sound.store hinv haside hclaim hterminal hwas (by rw [hfailed]; exact id) hquit ?_
    rw [hfailed, hclaim, hreason]
    intro hflagged
    obtain ⟨k, hk, wasActive, htold, hactive, hworker⟩ :=
      (show Sound s from hinv).published hflagged
    refine ⟨k, hk, wasActive, htold, ?_, ?_⟩
    · rwa [haside.emitted, haside.inherited]
    · rwa [haside.inherited]
  · exact moves_of_aside h.acting haside (.of_same hclaim hreason hfailed) hquit hwas
      fun hflagged => ⟨hfailed.trans hflagged, hreason⟩
  · refine ⟨h.acting.aside haside, hframe s t haside h.frame, ?_⟩
    intro hrdp k hk hp
    refine (h.minded (by rw [← haside.desk]; exact hrdp) k (hclaim ▸ hk) hp).mono ?_ hquit
    rw [hfailed]
    exact id

theorem Tracked.step (h : Tracked s) (haside : Aside s t) (hclaim : t.conn.claim = s.conn.claim)
    (hwas : t.conn.wasActive = s.conn.wasActive) : Tracked t := by
  intro hnone
  rw [haside.emitted, hwas]
  exact h (hclaim ▸ hnone)

/-- A worker that says so has noted that its session is active. -/
theorem Ready.noteActive (hframe : ∀ s t, Aside s t → A s → A t) (h : Ready .worker A s)
    (hinv : contract.inv s) (hemitted : .active ∈ s.conn.emitted) :
    contract.inv (s.onConn fun c => { c with wasActive := true }) ∧
      contract.guar .worker s (s.onConn fun c => { c with wasActive := true }) ∧
      Ready .worker A (s.onConn fun c => { c with wasActive := true }) := by
  have hsound : Sound s := hinv
  have haside : Aside s (s.onConn fun c => { c with wasActive := true }) :=
    ⟨rfl, rfl, rfl, rfl, id, rfl⟩
  refine ⟨?_, ?_, h.acting.aside haside, hframe _ _ haside h.frame, h.minded⟩
  · exact ⟨⟨hsound.claimed, hsound.unclaimed, hsound.published, fun _ => .inl hemitted,
      fun _ => rfl⟩, hsound.fresh, hsound.unfinished, hsound.ended, hsound.offline,
      hsound.presented⟩
  · refine ⟨rfl, id, ?_, .of_same rfl rfl rfl, fun _ => rfl, rfl, fun hflagged => ⟨hflagged, rfl⟩⟩
    intro hnone
    rw [h.acting.1] at hnone
    cases hnone

/-- A connection that is not tracked is about to be: the worker has just said that it is active. -/
theorem noteState_safe (hA : contract.Stable p A) (hframe : ∀ s t, Aside s t → A s → A t)
    (state : RdpState) (h : Ready p A s)
    (hactive : state = .active → p = .worker ∧ ∀ t, A t → .active ∈ t.conn.emitted)
    (htracked : p = .worker → state = .active ∨ Tracked s) :
    contract.Safe p (noteState state)
      (fun _ t => Ready p A t ∧ (p = .worker → Tracked t)) s := by
  apply Safe.bind
  apply Safe.store
  intro s₁ hrely hinv
  obtain ⟨hsound, hguar, h₁⟩ := (h.stable hA hrely hinv).step hframe hinv
    (t := s₁.onConn fun c => { c with currentState := state })
    ⟨rfl, rfl, rfl, rfl, id, rfl⟩ rfl rfl rfl rfl rfl rfl
  have htracked₁ : p = .worker → state = .active ∨
      Tracked (s₁.onConn fun c => { c with currentState := state }) := by
    rintro rfl
    exact (htracked rfl).imp_right fun ht =>
      (ht.stable hrely h.acting).step ⟨rfl, rfl, rfl, rfl, id, rfl⟩ rfl rfl
  refine ⟨hsound, hguar, ?_⟩
  split
  · rename_i hreconnecting
    apply Safe.store
    intro s₂ hrely hinv
    obtain ⟨hsound, hguar, h₂⟩ := (h₁.stable hA hrely hinv).step hframe hinv
      (t := s₂.onConn fun c => { c with reconnecting := true })
      ⟨rfl, rfl, rfl, rfl, id, rfl⟩ rfl rfl rfl rfl rfl rfl
    refine ⟨hsound, hguar, h₂, ?_⟩
    rintro rfl
    have ht := (htracked₁ rfl).resolve_left (by rw [hreconnecting]; decide)
    exact (ht.stable hrely h₁.acting).step ⟨rfl, rfl, rfl, rfl, id, rfl⟩ rfl rfl
  split
  · rename_i hstate
    obtain ⟨rfl, hemitted⟩ := hactive hstate
    apply Safe.bind
    apply Safe.store
    intro s₂ hrely hinv
    obtain ⟨hsound, hguar, h₂⟩ := (h₁.stable hA hrely hinv).step hframe hinv
      (t := s₂.onConn fun c => { c with reconnecting := false })
      ⟨rfl, rfl, rfl, rfl, id, rfl⟩ rfl rfl rfl rfl rfl rfl
    refine ⟨hsound, hguar, ?_⟩
    apply Safe.store
    intro s₃ hrely hinv
    have hr₃ := h₂.stable hA hrely hinv
    obtain ⟨hsound, hguar, h₃⟩ := hr₃.noteActive hframe hinv (hemitted s₃ hr₃.frame)
    exact ⟨hsound, hguar, h₃, fun _ _ _ => rfl⟩
  · rename_i hstate
    refine ⟨h₁, ?_⟩
    rintro rfl
    exact (htracked₁ rfl).resolve_left hstate

/-- What a recorded state leaves: what was known, and a claim if the state ends the connection. -/
structure Recorded (p : Party) (A : State → Prop) (state : RdpState) (s : State) : Prop extends
    Ready p A s where
  tracked : p = .worker → Tracked s
  claimed : state.isTerminal = true → ∃ k, s.conn.claim = some k

/-- A connection that was claimed takes note of nothing. -/
theorem Ready.recorded (h : Ready p A s) (hclaimed : ∃ k, s.conn.claim = some k)
    (state : RdpState) : Recorded p A state s := by
  refine ⟨h, ?_, fun _ => hclaimed⟩
  obtain ⟨k, hk⟩ := hclaimed
  intro _ hnone
  rw [hk] at hnone
  cases hnone

theorem recordState_safe (hA : contract.Stable p A) (hframe : ∀ s t, Aside s t → A s → A t)
    (state : RdpState) (reason : RdpDisconnectReason) (h : Ready p A s)
    (hactive : state = .active → p = .worker ∧ ∀ t, A t → .active ∈ t.conn.emitted)
    (htracked : p = .worker → state = .active ∨ Tracked s) :
    contract.Safe p (recordState p state reason) (fun _ => Recorded p A state) s := by
  have htrackedLater : ∀ {u v : State}, (p = .worker → state = .active ∨ Tracked u) →
      Ready p A u → contract.rely p u v → p = .worker → state = .active ∨ Tracked v := by
    rintro u v hu hready hrely rfl
    exact (hu rfl).imp_right (·.stable hrely hready.acting)
  apply Safe.bind
  apply Safe.load
  intro s₁ hrely hinv
  have h₁ := h.stable hA hrely hinv
  have htracked₁ := htrackedLater htracked h hrely
  split
  · rename_i hfailed
    obtain ⟨k, hk, -⟩ := (show Sound s₁ from hinv).published hfailed
    exact h₁.recorded ⟨k, hk⟩ state
  apply Safe.bind
  apply Safe.load
  intro s₂ hrely hinv
  have h₂ := h₁.stable hA hrely hinv
  have htracked₂ := htrackedLater htracked₁ h₁ hrely
  split
  · rename_i hterminal
    refine h₂.recorded ?_ state
    cases hclaim : s₂.conn.claim with
    | none => exact absurd ((show Sound s₂ from hinv).unclaimed hclaim) hterminal
    | some k => exact ⟨k, rfl⟩
  apply Safe.bind
  apply (noteState_safe hA hframe state h₂ hactive htracked₂).mono
  rintro _ s₃ ⟨h₃, htracked₃⟩
  split
  · rename_i hstate
    apply (reportTerminalReason_safe hA hframe hstate reason _ h₃ htracked₃).mono
    rintro _ s₄ ⟨hacting, hframe, hminded, hclaimed⟩
    exact Ready.recorded ⟨hacting, hframe, hminded⟩ hclaimed state
  · rename_i hstate
    exact ⟨h₃, htracked₃, fun hs => absurd hs hstate⟩

end Lgnome.Lifecycle
