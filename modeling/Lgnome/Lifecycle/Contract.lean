import Lgnome.Lifecycle.Slot
import Lgnome.Lifecycle.Word

/-!
# What the threads of a slot promise each other

The first report on a connection stays. Whoever made it tells the reason and flags
the end, and the other thread leaves both alone until then. The SDL thread renews a
connection only while there is no worker, and a worker that is not there does
nothing.
-/
namespace Lgnome.Lifecycle

open Lgnome.Native
open Lgnome.Worker (Failure NativeError)
open Lgnome.Transition (Prog Contract)

/-! ## The invariant -/

/-- The reason that is told for the first report. Whether the session had been active is looked at
after the report was made; a worker's own report looks at what it had reported itself. -/
def Told (k : Claim) (c : Connection) (reason : RdpDisconnectReason) : Prop :=
  ∃ wasActive, reason = sessionTerminalReason k.state k.reason wasActive ∧
    (wasActive = true → .active ∈ c.emitted ∨ c.inherited = true) ∧
    (k.claimant = .worker → .active ∈ k.emitted ∨ c.inherited = true → wasActive = true)

/-- What the HUB was told is the first report, in words. -/
def Presented.Tells (p : Presented) : Prop :=
  ∃ k, p.claim = some k ∧ k.state.isTerminal = true ∧
    Told k { emitted := p.emitted, inherited := p.inherited } p.reason ∧
    p.ui = sessionTerminalUiState k.state p.reason ∧
    p.detail = (sessionStatus p.ui p.reason).detail

/-- What the HUB was told is that a session could not be started. That has been reported as well,
and no worker has said anything. -/
structure Presented.Refused (p : Presented) : Prop where
  ui : p.ui = .error
  reason : p.reason = .none
  detail : p.detail = startError
  report : ∃ k, p.claim = some k ∧ k.state.isTerminal = true
  silent : p.emitted = []

/-- The atomics of a connection agree with its first report. -/
structure Consistent (c : Connection) : Prop where
  claimed : ∀ k, c.claim = some k →
    c.terminalState = k.state ∧ k.state.isTerminal = true ∧ k.claimant ≠ .others
  unclaimed : c.claim = none → c.terminalState = .idle
  published : c.sessionFailed = true → ∃ k, c.claim = some k ∧ Told k c c.terminalReason
  active : c.wasActive = true → .active ∈ c.emitted ∨ c.inherited = true
  inherits : c.inherited = true → c.wasActive = true

structure Sound (s : State) : Prop extends Consistent s.conn where
  fresh : s.conn.thread = .spawned → s.conn.emitted = [] ∧ s.conn.outcomes = [] ∧
    ∀ k, s.conn.claim = some k → k.claimant ≠ .worker
  unfinished : s.conn.thread = .running → Unfinished s.conn.emitted s.conn.outcomes
  ended : s.desk.rdp = true → s.conn.thread = .none →
    Whole (s.conn.stop = true) s.conn.emitted s.conn.outcomes ∧
      ∃ k, s.conn.claim = some k ∧ (k.claimant = .worker → s.Settled)
  offline : s.desk.rdp = false → s.conn.thread = .none
  presented : ∀ p ∈ s.desk.presented, p.Tells ∨ p.Refused

/-! ## What each thread may do -/

/-- A thread leaves a claim, and what another's claim has led to. -/
structure ClaimKept (p : Party) (c d : Connection) : Prop where
  claim : ∀ k, c.claim = some k → d.claim = some k
  own : ∀ k, d.claim = some k → c.claim = some k ∨ k.claimant = p
  others : ∀ k, c.claim = some k → k.claimant ≠ p →
    d.terminalReason = c.terminalReason ∧ d.sessionFailed = c.sessionFailed

structure WorkerMoves (s t : State) : Prop where
  desk : t.desk = s.desk
  quit : t.running = true → s.running = true
  resting : s.conn.thread = .none → t.conn = s.conn
  kept : ClaimKept .worker s.conn t.conn
  wasActive : s.conn.wasActive = true → t.conn.wasActive = true
  inherited : t.conn.inherited = s.conn.inherited
  flagged : s.conn.sessionFailed = true →
    t.conn.sessionFailed = true ∧ t.conn.terminalReason = s.conn.terminalReason

/-- While there is a worker. -/
structure Beside (s t : State) : Prop where
  rdp : t.desk.rdp = s.desk.rdp
  thread : t.conn.thread = s.conn.thread
  emitted : t.conn.emitted = s.conn.emitted
  outcomes : t.conn.outcomes = s.conn.outcomes
  stop : s.conn.stop = true → t.conn.stop = true
  wasActive : t.conn.wasActive = s.conn.wasActive
  inherited : t.conn.inherited = s.conn.inherited
  kept : ClaimKept .sdl s.conn t.conn

structure SdlMoves (s t : State) : Prop where
  quit : t.running = true → s.running = true
  resting : s.conn.thread = .none → t.conn.thread ≠ .running
  beside : s.conn.thread ≠ .none → Beside s t

structure OthersMoves (s t : State) : Prop where
  conn : t.conn = s.conn
  desk : t.desk = s.desk
  quit : t.running = true → s.running = true

section Moves

variable {p : Party} {c d e : Connection} {s t u : State}

theorem ClaimKept.refl (p : Party) (c : Connection) : ClaimKept p c c :=
  ⟨fun _ h => h, fun _ h => .inl h, fun _ _ _ => ⟨rfl, rfl⟩⟩

theorem ClaimKept.trans (h : ClaimKept p c d) (h' : ClaimKept p d e) : ClaimKept p c e where
  claim k hk := h'.claim k (h.claim k hk)
  own k hk := (h'.own k hk).elim (h.own k) .inr
  others k hk hp := by
    obtain ⟨hreason, hfailed⟩ := h.others k hk hp
    obtain ⟨hreason', hfailed'⟩ := h'.others k (h.claim k hk) hp
    exact ⟨hreason'.trans hreason, hfailed'.trans hfailed⟩

/-- Nothing of the claim changes. -/
theorem ClaimKept.of_same (hclaim : d.claim = c.claim) (hreason : d.terminalReason = c.terminalReason)
    (hfailed : d.sessionFailed = c.sessionFailed) : ClaimKept p c d :=
  ⟨fun _ h => hclaim.trans h, fun _ h => .inl (hclaim.symm.trans h), fun _ _ _ => ⟨hreason, hfailed⟩⟩

/-- A claim is made, or its claimant goes on with it. -/
theorem ClaimKept.of_own {k : Claim} (hk : d.claim = some k) (hp : k.claimant = p)
    (hc : c.claim = some k ∨ c.claim = none) : ClaimKept p c d where
  claim k' hk' := by
    rcases hc with hc | hc
    · rw [hk, ← hc, hk']
    · rw [hc] at hk'
      cases hk'
  own k' hk' := by
    obtain rfl := Option.some.inj (hk.symm.trans hk')
    exact .inr hp
  others k' hk' hne := by
    rcases hc with hc | hc
    · obtain rfl := Option.some.inj (hc.symm.trans hk')
      exact absurd hp hne
    · rw [hc] at hk'
      cases hk'

theorem WorkerMoves.refl (s : State) : WorkerMoves s s :=
  ⟨rfl, id, fun _ => rfl, .refl _ _, id, rfl, fun h => ⟨h, rfl⟩⟩

theorem WorkerMoves.trans (h : WorkerMoves s t) (h' : WorkerMoves t u) : WorkerMoves s u where
  desk := h'.desk.trans h.desk
  quit := h.quit ∘ h'.quit
  resting hs := by
    have ht := h.resting hs
    rw [h'.resting (by rw [ht]; exact hs), ht]
  kept := h.kept.trans h'.kept
  wasActive := h'.wasActive ∘ h.wasActive
  inherited := h'.inherited.trans h.inherited
  flagged hs := by
    obtain ⟨ht, hreason⟩ := h.flagged hs
    obtain ⟨hu, hreason'⟩ := h'.flagged ht
    exact ⟨hu, hreason'.trans hreason⟩

theorem Beside.refl (s : State) : Beside s s := ⟨rfl, rfl, rfl, rfl, id, rfl, rfl, .refl _ _⟩

theorem Beside.trans (h : Beside s t) (h' : Beside t u) : Beside s u :=
  ⟨h'.rdp.trans h.rdp, h'.thread.trans h.thread, h'.emitted.trans h.emitted,
    h'.outcomes.trans h.outcomes, h'.stop ∘ h.stop, h'.wasActive.trans h.wasActive,
    h'.inherited.trans h.inherited, h.kept.trans h'.kept⟩

theorem SdlMoves.refl (s : State) : SdlMoves s s :=
  ⟨id, (fun h => by rw [h]; decide), fun _ => .refl s⟩

theorem SdlMoves.trans (h : SdlMoves s t) (h' : SdlMoves t u) : SdlMoves s u where
  quit := h.quit ∘ h'.quit
  resting hs := by
    have ht := h.resting hs
    cases hthread : t.conn.thread with
    | none => exact h'.resting hthread
    | running => exact absurd hthread ht
    | spawned =>
      rw [(h'.beside (by rw [hthread]; decide)).thread, hthread]
      decide
  beside hs := by
    have ht := h.beside hs
    exact ht.trans (h'.beside (by rw [ht.thread]; exact hs))

theorem OthersMoves.worker (h : OthersMoves s t) : WorkerMoves s t :=
  ⟨h.desk, h.quit, fun _ => h.conn, by rw [h.conn]; exact .refl _ _,
    by rw [h.conn]; exact id, by rw [h.conn], fun hs => by rw [h.conn]; exact ⟨hs, rfl⟩⟩

theorem OthersMoves.sdl (h : OthersMoves s t) : SdlMoves s t :=
  ⟨h.quit, (fun hs => by rw [h.conn, hs]; decide),
    fun _ => ⟨by rw [h.desk], by rw [h.conn], by rw [h.conn], by rw [h.conn],
      by rw [h.conn]; exact id, by rw [h.conn], by rw [h.conn],
      by rw [h.conn]; exact .refl _ _⟩⟩

end Moves

/-! ## The contract -/

/-- What a thread's own report has led to is complete. -/
def Minded (p : Party) (s : State) : Prop :=
  s.desk.rdp = true → ∀ k, s.conn.claim = some k → k.claimant = p → s.Settled

/-- The SDL thread leaves its reports complete, and a worker at rest is not running. -/
def AtRest : Party → State → Prop
  | .worker, s => s.conn.thread ≠ .running
  | .sdl, s => Minded .sdl s
  | .others, _ => True

def Relies : Party → State → State → Prop
  | .worker => SdlMoves
  | .sdl => WorkerMoves
  | .others => fun _ _ => True

def Moves : Party → State → State → Prop
  | .worker => WorkerMoves
  | .sdl => SdlMoves
  | .others => OthersMoves

theorem State.Settled.mono {s t : State} (h : s.Settled)
    (hfailed : s.conn.sessionFailed = true → t.conn.sessionFailed = true)
    (hquit : t.running = true → s.running = true) : t.Settled := by
  rcases h with h | h
  · exact .inl (hfailed h)
  · right
    cases hrun : t.running with
    | false => rfl
    | true => rw [hquit hrun] at h; cases h

/-- A thread's report stays complete while others move. -/
theorem Minded.kept {p q : Party} {s t : State} (h : Minded p s) (hpq : p ≠ q)
    (hrdp : t.desk.rdp = s.desk.rdp) (hkept : ClaimKept q s.conn t.conn)
    (hquit : t.running = true → s.running = true) : Minded p t := by
  intro ht k hk hp
  rcases hkept.own k hk with hs | hq
  · refine (h (hrdp ▸ ht) k hs hp).mono ?_ hquit
    intro hfailed
    rw [(hkept.others k hs (hp ▸ hpq)).2]
    exact hfailed
  · exact absurd (hp.symm.trans hq) hpq

theorem AtRest.stable (p : Party) {s t : State} (hmoves : Relies p s t) (h : AtRest p s) :
    AtRest p t := by
  cases p with
  | others => trivial
  | sdl =>
    have hm : WorkerMoves s t := hmoves
    exact Minded.kept (q := .worker) h (by decide) (by rw [hm.desk]) hm.kept hm.quit
  | worker =>
    have hm : SdlMoves s t := hmoves
    by_cases hs : s.conn.thread = .none
    · exact hm.resting hs
    · show t.conn.thread ≠ .running
      rw [(hm.beside hs).thread]
      exact h

def contract : Contract Party State where
  inv := Sound
  rely := Relies
  guar := Moves
  rest := AtRest
  rely_refl p s := by
    cases p with
    | worker => exact SdlMoves.refl s
    | sdl => exact WorkerMoves.refl s
    | others => trivial
  guar_refl p s := by
    cases p with
    | worker => exact WorkerMoves.refl s
    | sdl => exact SdlMoves.refl s
    | others => exact ⟨rfl, rfl, id⟩
  rely_trans p s t u h h' := by
    cases p with
    | worker => exact SdlMoves.trans h h'
    | sdl => exact WorkerMoves.trans h h'
    | others => trivial
  guar_rely p q s t hne h := by
    cases q with
    | others => trivial
    | worker =>
      cases p with
      | worker => exact absurd rfl hne
      | sdl => exact h
      | others => exact OthersMoves.sdl h
    | sdl =>
      cases p with
      | sdl => exact absurd rfl hne
      | worker => exact h
      | others => exact OthersMoves.worker h
  rest_stable p _ _ := AtRest.stable p

end Lgnome.Lifecycle
