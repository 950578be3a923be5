import Lgnome.Lifecycle.Desk
import Lgnome.Lifecycle.Sessions

/-!
# Every run of a slot's threads

Connections come and go, with the worker, the SDL thread and the rest of the app
taking their steps in any order. Every worker reports a connection from its first
attempt to the stop, no end goes unnoticed, and the HUB is told of the first report
alone.
-/
namespace Lgnome.Lifecycle

open Lgnome.Native
open Lgnome.Worker (Failure NativeError maxSessionAttempts)
open Lgnome.Transition (Prog Contract Config Machine Turn parties)
open Lgnome.Transition.Contract (Safe)

/-! ## The worker's thread -/

section

variable {s : State}

/-- The thread takes up a session that was started for it. -/
theorem takeUp_safe (h : s.conn.thread = .spawned) (hinv : Sound s) :
    Sound (s.onConn fun c => { c with thread := .running }) ∧
      contract.guar .worker s (s.onConn fun c => { c with thread := .running }) ∧
      Busy False (Attempt 1 0) (s.onConn fun c => { c with thread := .running }) := by
  obtain ⟨hemitted, houtcomes, hclaims⟩ := hinv.fresh h
  have hrdp : s.desk.rdp = true := by
    cases hrdp : s.desk.rdp with
    | true => rfl
    | false => exact nomatch h.symm.trans (hinv.offline hrdp)
  have hattempt : Attempt 1 0 s.conn.emitted s.conn.outcomes := by
    rw [hemitted, houtcomes]
    exact ⟨reached_start, rfl⟩
  refine ⟨?_, ?_, ?_⟩
  · refine ⟨⟨hinv.claimed, hinv.unclaimed, hinv.published, hinv.active, hinv.inherits⟩, nofun,
      fun _ => hattempt.1.unfinished (by omega), nofun, ?_, hinv.presented⟩
    exact fun hoff => nomatch hrdp.symm.trans hoff
  · exact ⟨rfl, id, (fun hnone => nomatch h.symm.trans hnone), .of_same rfl rfl rfl, id, rfl,
      fun hflagged => ⟨hflagged, rfl⟩⟩
  · refine ⟨⟨⟨rfl, hrdp⟩, ⟨rfl, hattempt⟩, fun _ k hk hp => absurd hp (hclaims k hk)⟩, ?_,
      False.elim⟩
    intro _ hactive
    rw [State.onConn_conn] at hactive
    dsimp only at hactive
    rw [hemitted] at hactive
    cases hactive

/-- What is still to be reported of the last attempt. -/
def Closes (rest : List RdpState) (s : State) : Prop :=
  ∃ stop : Prop, Busy stop (Closing stop rest) s

/-- The thread ends with all of its reports made and the connection claimed. -/
theorem threadEnds_safe (h : Closes [] s) (hclaimed : ∃ k, s.conn.claim = some k) :
    contract.Safe .worker
      (Prog.store (State.onConn fun c => { c with thread := .none }) : Action Unit)
      (fun _ => AtRest .worker) s := by
  obtain ⟨stop, hs⟩ := h
  apply Safe.store
  intro t hrely hinv
  have ht := hs.stable hrely hinv
  have hsound : Sound t := hinv
  obtain ⟨k, hk⟩ := hclaimed
  obtain ⟨q, -, hkept⟩ := (meanwhile_of_relies hrely hs.acting).kept
  have hkt := hkept.claim k hk
  have hwhole : Whole (t.conn.stop = true) t.conn.emitted t.conn.outcomes := by
    have hclosing : Whole stop (t.conn.emitted ++ []) t.conn.outcomes := ht.frame.words
    rw [List.append_nil] at hclosing
    exact hclosing.mono ht.told
  refine ⟨?_, ?_, nofun⟩
  · refine ⟨⟨hsound.claimed, hsound.unclaimed, hsound.published, hsound.active, hsound.inherits⟩,
      nofun, nofun, ?_, fun _ => rfl, hsound.presented⟩
    exact fun hrdp _ => ⟨hwhole, k, hkt, fun hp => ht.minded hrdp k hkt hp⟩
  · exact ⟨rfl, id, (fun hnone => nomatch ht.frame.running.symm.trans hnone), .of_same rfl rfl rfl,
      id, rfl, fun hflagged => ⟨hflagged, rfl⟩⟩

/-- The worker's own error comes before the stop, unless it was told to stop. -/
theorem lastError_safe {n : Nat} {stop : Prop} {f : Failure}
    (h : Busy stop (Last stop n (some f.error)) s) (hn : 1 ≤ n) (hle : n ≤ 4) :
    contract.Safe .worker (reportOutcome (.failed f.error)) (fun _ => Closes [.stopped]) s := by
  apply Safe.bind
  apply Safe.load
  intro t hrely hinv
  have ht := h.stable hrely hinv
  split
  · rename_i hstopped
    refine ⟨True, ⟨⟨ht.acting, ht.frame.mono ?_, ht.minded⟩, ht.tracked, fun _ => hstopped⟩⟩
    exact fun _ _ hq => hq.1.close hn hle (fun _ _ _ _ _ _ => trivial) (.silenced f trivial)
  · apply (ht.emitState (Q := Closing stop [.stopped]) ?_ fun _ _ hq => hq.unfinished).mono
    · exact fun _ _ hu => ⟨stop, hu.1⟩
    · intro e r hq
      have hclosing := hq.1.close hn hle hq.2 (.failed f)
      rw [Closing, List.append_assoc]
      exact hclosing

/-- An end without an error is a stop. -/
theorem returned_close {n : Nat} {stop : Prop} (h : Busy stop (Last stop n none) s)
    (hn : 1 ≤ n) (hle : n ≤ 4) (hstop : stop) : Closes [.stopped] s :=
  ⟨stop, h.mono fun _ _ hq => hq.1.close hn hle hq.2 (.returned hstop)⟩

theorem workerMain_safe (hrest : AtRest .worker s) :
    contract.Safe .worker workerMain (fun _ => AtRest .worker) s := by
  apply Safe.bind
  apply Safe.act
  intro t hrely hinv _
  have ht : AtRest .worker t := AtRest.stable .worker hrely hrest
  by_cases hspawned : t.conn.thread = .spawned
  · rw [if_pos hspawned]
    obtain ⟨hsound, hguar, hbusy⟩ := takeUp_safe hspawned hinv
    refine ⟨hsound, hguar, ?_⟩
    apply Safe.bind
    apply (runAttempts_safe maxSessionAttempts (by decide) hbusy).mono
    rintro outcome u ⟨n, last, stop, hn, hle, hu, houtcome⟩
    refine Safe.seq (?_ : contract.Safe .worker _ (fun _ => Closes [.stopped]) u) ?_
    · rcases houtcome with ⟨rfl, rfl, hstop⟩ | ⟨f, rfl, rfl⟩
      · exact returned_close hu hn hle hstop
      · exact lastError_safe hu hn hle
    rintro _ v ⟨stop', hv⟩
    apply Safe.bind
    apply (hv.emitState (Q := Closing stop' []) ?_ fun _ _ hq => hq.unfinished).mono
    · rintro _ w ⟨hw, hclaimed⟩
      exact threadEnds_safe ⟨stop', hw⟩ (hclaimed rfl)
    · intro e r hq
      rw [Closing, List.append_nil]
      exact hq
  · rw [if_neg hspawned]
    exact ⟨hinv, contract.guar_refl .worker t, ht⟩

end

/-! ## The system -/

/-- What each party can be called to do: to run a session that was started, to do a duty, or to
leave the app with an exit code. -/
def Call : Party → Type
  | .worker => Unit
  | .sdl => Duty
  | .others => Nat

def program : (p : Party) → Call p → Action Unit
  | .worker, _ => workerMain
  | .sdl, duty => Duty.perform duty
  | .others, exitCode => Prog.store fun s => { s with running := false, exitCode }

def started (active interactiveUi : Bool) : State := { desk := { active, interactiveUi } }

abbrev slotThreads (active interactiveUi : Bool) :
    Machine (Config Party Answer State) (Turn Party Answer Call) Unit :=
  parties (started active interactiveUi) program

theorem sound_started (active interactiveUi : Bool) : Sound (started active interactiveUi) := by
  refine ⟨⟨?_, fun _ => rfl, ?_, ?_, ?_⟩, ?_, ?_, ?_, fun _ => rfl, ?_⟩
  · exact fun k hk => nomatch (hk : none = some k)
  · exact fun h => nomatch (h : false = true)
  · exact fun h => nomatch (h : false = true)
  · exact fun h => nomatch (h : false = true)
  · exact fun h => nomatch (h : WorkerThread.none = .spawned)
  · exact fun h => nomatch (h : WorkerThread.none = .running)
  · exact fun h => nomatch (h : false = true)
  · exact fun p hp => absurd hp List.not_mem_nil

/-- Leaving the app settles every session. -/
theorem others_safe (exitCode : Nat) (s : State) :
    contract.Safe .others (program .others exitCode) (fun _ => AtRest .others) s := by
  apply Safe.store
  intro t _ hinv
  have hs : Sound t := hinv
  refine ⟨?_, ⟨rfl, rfl, nofun⟩, trivial⟩
  refine ⟨hs.toConsistent, hs.fresh, hs.unfinished, ?_, hs.offline, hs.presented⟩
  intro hrdp hnone
  obtain ⟨hwhole, k, hk, -⟩ := hs.ended hrdp hnone
  exact ⟨hwhole, k, hk, fun _ => .inr rfl⟩

variable {active interactiveUi : Bool} {tr : List (Turn Party Answer Call × Unit)}
  {s : Config Party Answer State}

theorem kept_run (h : (slotThreads active interactiveUi).Run tr s) : contract.Kept s := by
  refine Contract.kept_run (sound_started active interactiveUi) ?_ ?_ h
  · intro p
    cases p with
    | worker => exact nofun
    | sdl => exact nofun
    | others => trivial
  · intro p c t _ hrest
    cases p with
    | worker => exact workerMain_safe hrest
    | sdl => exact perform_safe c hrest
    | others => exact others_safe c t

/-! ## The results -/

/-- An end that is told has a reason and a sentence. -/
theorem Presented.Tells.shows {p : Presented} (h : p.Tells) : p.reason ≠ .none ∧ p.detail ≠ "" := by
  obtain ⟨k, -, -, ⟨wasActive, hreason, -⟩, hui, hdetail⟩ := h
  constructor
  · exact fun hnone => sessionTerminalReason_ne_none _ _ _ (hreason.symm.trans hnone)
  · rw [hdetail, hui]
    exact (sessionStatus_shows _ _ (sessionTerminalUiState_isTerminal ..)).1

/-- The stop is reported once and last, and a reconnect for every attempt but the last. -/
theorem Whole.counts {stop : Prop} {emitted : List RdpState} {outcomes : List (Option NativeError)}
    (h : Whole stop emitted outcomes) :
    emitted.getLast? = some .stopped ∧ emitted.count .stopped = 1 ∧
      emitted.count .reconnecting + 1 = outcomes.length ∧ outcomes.length ≤ maxSessionAttempts := by
  obtain ⟨before, earlier, last, reached, n, ending, rfl, hattempts, hlen, -, -, -, hending, rfl⟩ := h
  obtain ⟨hreconnects, hstopped⟩ := count_handedOff reached
  rw [← hattempts.reports] at hreconnects hstopped
  have htake : ∀ state ∉ establishing, (establishing.take n).count state = 0 :=
    fun state hstate => List.count_eq_zero.mpr fun hmem => hstate (List.mem_of_mem_take hmem)
  have hends : ending.getLast? = some .stopped ∧ ending.count .stopped = 1 ∧
      ending.count .reconnecting = 0 := by
    cases hending with
    | returned _ => decide
    | silenced _ _ => decide
    | failed f =>
      have hstate := f.ends_error
      generalize f.error.state = state at hstate
      rcases hstate with rfl | rfl | rfl | rfl <;> decide
  obtain ⟨hlast, hone, hnone⟩ := hends
  refine ⟨?_, ?_, ?_, ?_⟩
  · rw [List.getLast?_append, hlast, Option.some_or]
  · rw [List.count_append, List.count_append, List.count_eq_zero.mpr hstopped,
      htake _ (by decide), hone]
  · rw [List.count_append, List.count_append, hreconnects, hattempts.length,
      htake _ (by decide), hnone, List.length_append, List.length_singleton]
  · rw [List.length_append, List.length_singleton]
    omega

/-- In every run, what the slot's worker has reported is the beginning of a whole connection, and
all of it once the worker's thread has ended. Then each of at most three attempts has reported its
phases in order. A handover of the server ended all attempts but the last, and a reconnect was
reported behind each; the last one did not end with a handover that could have been answered,
unless the worker was told to stop. Its error was reported, unless it had none or was kept back,
and both happen only to a worker that was told to stop. The stop was reported once and last. -/
theorem worker_reports (h : (slotThreads active interactiveUi).Run tr s) :
    (s.shared.conn.thread = .running →
      Unfinished s.shared.conn.emitted s.shared.conn.outcomes) ∧
    (s.shared.desk.rdp = true → s.shared.conn.thread = .none →
      Whole (s.shared.conn.stop = true) s.shared.conn.emitted s.shared.conn.outcomes ∧
        s.shared.conn.emitted.getLast? = some .stopped ∧
        s.shared.conn.emitted.count .stopped = 1 ∧
        s.shared.conn.emitted.count .reconnecting + 1 = s.shared.conn.outcomes.length ∧
        s.shared.conn.outcomes.length ≤ maxSessionAttempts) := by
  have hsound : Sound s.shared := (kept_run h).inv
  refine ⟨hsound.unfinished, fun hrdp hnone => ?_⟩
  obtain ⟨hwhole, -⟩ := hsound.ended hrdp hnone
  exact ⟨hwhole, hwhole.counts⟩

/-- A session is handed off while it is active and cannot be connected again. -/
def lostTurns : List (Turn Party Answer Call) :=
  ([.call .sdl .connect] : List (Turn Party Answer Call)) ++ List.replicate 21 (.step .sdl {}) ++
    [.call .worker ()] ++ List.replicate 37 (.step .worker {}) ++
    List.replicate 7 (.step .worker { fails := some (.disconnect .serverInitiated "") }) ++
    List.replicate 27 (.step .worker { resolved := .error "" })

/-- The reports of that worker, which nobody told to stop. -/
theorem worker_reports_lost :
    ∃ tr s, (slotThreads true true).Run tr s ∧
      s.shared.conn.emitted = [.connecting, .tls, .credssp, .active, .reconnecting, .connecting,
        .networkError, .stopped] ∧
      s.shared.conn.outcomes =
        [some (Failure.disconnect .serverInitiated "").error, some (Failure.network "").error] ∧
      s.shared.conn.stop = false ∧
      Whole (s.shared.conn.stop = true) s.shared.conn.emitted s.shared.conn.outcomes := by
  have hrun := Machine.run_of_exec (M := slotThreads true true) lostTurns (by decide +kernel)
  exact ⟨_, _, hrun, by decide +kernel, by decide +kernel, by decide +kernel,
    ((worker_reports hrun).2 (by decide +kernel) (by decide +kernel)).1⟩

/-- In every run, a session that is flagged as ended has the state and the reason of the first
report on its connection. Whenever the SDL thread is between two calls, the end of a session whose
worker is gone is flagged, or the app is about to leave. All that the HUB was ever told of an end
is a first report, with a reason and a sentence, or a session that could not be started: the user's
own connect then comes with a sentence and no reason, when the failure is reported already and no
worker has said anything. -/
theorem ends_reported (h : (slotThreads active interactiveUi).Run tr s) :
    (s.shared.conn.sessionFailed = true → ∃ k, s.shared.conn.claim = some k ∧
      s.shared.conn.terminalState = k.state ∧
      Told k s.shared.conn s.shared.conn.terminalReason) ∧
    (s.running .sdl = none → s.shared.desk.rdp = true → s.shared.conn.thread = .none →
      s.shared.Settled) ∧
    ∀ p ∈ s.shared.desk.presented,
      (p.Tells ∧ p.reason ≠ .none ∨ p.Refused) ∧ p.detail ≠ "" := by
  have hkept := kept_run h
  have hsound : Sound s.shared := hkept.inv
  refine ⟨?_, ?_, ?_⟩
  · intro hfailed
    obtain ⟨k, hk, htold⟩ := hsound.published hfailed
    exact ⟨k, hk, (hsound.claimed k hk).1, htold⟩
  · intro hrest hrdp hnone
    have hminded : contract.Standing .sdl (s.running .sdl) s.shared := hkept.standing .sdl
    rw [hrest] at hminded
    obtain ⟨-, k, hk, hworker⟩ := hsound.ended hrdp hnone
    cases hclaimant : k.claimant with
    | worker => exact hworker hclaimant
    | sdl => exact hminded hrdp k hk hclaimant
    | others => exact absurd hclaimant (hsound.claimed k hk).2.2
  · intro p hp
    rcases hsound.presented p hp with htells | hrefused
    · obtain ⟨hreason, hdetail⟩ := htells.shows
      exact ⟨.inl ⟨htells, hreason⟩, hdetail⟩
    · exact ⟨.inr hrefused, by rw [hrefused.detail]; decide⟩

/-- The supervisor tells the HUB that the connection was lost, and the next one that the user asks
for cannot be started. -/
theorem ends_reported_lost :
    ∃ tr s, (slotThreads true true).Run tr s ∧
      s.shared.desk.presented.map (fun p => (p.ui, p.reason, p.detail)) =
        [(.interrupted, .connectionLost, "Connection lost; reason unknown."),
          (.error, .none, "Connection failed: start failed")] ∧
      ∀ p ∈ s.shared.desk.presented,
        (p.Tells ∧ p.reason ≠ .none ∨ p.Refused) ∧ p.detail ≠ "" := by
  have hrun := Machine.run_of_exec (M := slotThreads true true)
    (lostTurns ++ [.call .sdl .supervise] ++ List.replicate 16 (.step .sdl {}) ++
      [.call .sdl .connect] ++ List.replicate 30 (.step .sdl { starts := .noThread }))
    (by decide +kernel)
  exact ⟨_, _, hrun, by decide +kernel, (ends_reported hrun).2.2⟩

end Lgnome.Lifecycle
