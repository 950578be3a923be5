import Lgnome.Lifecycle.Working

/-!
# The worker's sessions, from their first report to the stop

Each attempt ends with a number of reported states. Another attempt follows a
handover of the server only, and the loop over the attempts always returns.
-/
namespace Lgnome.Lifecycle

open Lgnome.Native
open Lgnome.Worker (Failure NativeError maxSessionAttempts)
open Lgnome.Transition (Prog Contract)
open Lgnome.Transition.Contract (Safe)

/-- In this attempt, `n` states have been reported. -/
def Attempt (attempt n : Nat) (emitted : List RdpState) (outcomes : List (Option NativeError)) :
    Prop :=
  Reached n emitted outcomes ∧ outcomes.length + 1 = attempt

/-- An error is a handover of the server only if the user was authenticated. -/
def EndsAt (n : Nat) (result : Except NativeError Unit) : Prop :=
  ∀ e, result = .error e → ∃ f : Failure, e = f.error ∧ (e.retryHandoff = true → n = 3 ∨ n = 4)

/-- How an attempt can end: with some states reported, and without an error only for a stop. -/
def Over (attempt : Nat) (result : Except NativeError Unit) (s : State) : Prop :=
  ∃ n, 1 ≤ n ∧ n ≤ 4 ∧ Busy (result = .ok ()) (Attempt attempt n) s ∧ EndsAt n result

section

variable {P : List RdpState → List (Option NativeError) → Prop} {stop : Prop} {s : State}
  {attempt n : Nat}

theorem Attempt.unfinished (hn : n ≤ 4) (e : List RdpState) (r : List (Option NativeError))
    (h : Attempt attempt n e r) : Unfinished e r := h.1.unfinished hn

theorem Attempt.next {state : RdpState} (hstate : establishing[n]? = some state)
    (e : List RdpState) (r : List (Option NativeError)) (h : Attempt attempt n e r) :
    Attempt attempt (n + 1) (e ++ [state]) r := ⟨h.1.next hstate, h.2⟩

/-- Before the activation nothing is handed over. -/
theorem retry_stage {stage : Stage} {f : Failure} (h : stage.admits f = true)
    (hretry : f.error.retryHandoff = true) :
    stage = .activation ∨ stage = .active ∨ stage = .reactivation := by
  have hhandoff := Failure.isHandoff_of_retry hretry
  cases hhandoff <;> cases stage <;> first | decide | cases h

/-- A phase that fails ends the attempt. -/
theorem over_error {stage : Stage} {e : NativeError} (hn : 1 ≤ n) (hle : n ≤ 4)
    (h : Busy stop (Attempt attempt n) s)
    (hfails : Fails stage (.error e : Except NativeError Unit))
    (hstage : 3 ≤ n ∨ stage = .negotiation ∨ stage = .tls ∨ stage = .credssp) :
    Over attempt (.error e) s := by
  refine ⟨n, hn, hle, h.weaken nofun, ?_⟩
  rintro _ he
  obtain rfl := Except.error.inj he
  obtain ⟨f, rfl, hadmits⟩ := hfails e rfl
  refine ⟨f, rfl, fun hretry => ?_⟩
  rcases hstage with hthree | rfl | rfl | rfl
  · omega
  · exact absurd (retry_stage hadmits hretry) (by decide)
  · exact absurd (retry_stage hadmits hretry) (by decide)
  · exact absurd (retry_stage hadmits hretry) (by decide)

theorem over_ok (hn : 1 ≤ n) (hle : n ≤ 4) (h : Busy True (Attempt attempt n) s) :
    Over attempt (.ok ()) s := ⟨n, hn, hle, h.weaken fun _ => trivial, nofun⟩

/-! ## The active session -/

/-- The failures of a reactivation count as the active session's. -/
def FailsActive {α : Type} (result : Except NativeError α) : Prop :=
  ∃ stage, Fails stage result

theorem Busy.reportTerminal (h : Busy stop P s) {state : RdpState}
    (hstate : state.isTerminal = true) :
    contract.Safe .worker (Lifecycle.reportTerminal .worker state) (fun _ => Busy False P) s := by
  apply (reportTerminalReason_safe On.stable On.aside hstate _ _ h.toReady fun _ => h.tracked).mono
  rintro _ t ⟨hacting, hframe, hminded, k, hk⟩
  refine ⟨⟨hacting, hframe, hminded⟩, fun hnone => ?_, False.elim⟩
  rw [hk] at hnone
  cases hnone

theorem Busy.videoCallback (h : Busy stop P s) (unshowable : Option RdpState) :
    contract.Safe .worker (Lifecycle.videoCallback unshowable) (fun _ => Busy False P) s := by
  cases unshowable with
  | none => exact h.weaken False.elim
  | some state =>
    apply Safe.when
    · rintro (rfl | rfl)
      · exact h.reportTerminal rfl
      · exact h.reportTerminal rfl
    · exact fun _ => h.weaken False.elim

theorem Busy.serveRound (h : Busy stop P s) :
    contract.Safe .worker Lifecycle.serveRound
      (fun result t => Busy False P t ∧ FailsActive result) s := by
  apply Safe.bind
  apply (h.weaken False.elim).activeStep.mono
  rintro served t ⟨ht, hserved⟩
  split
  · exact ⟨ht, .active, hserved⟩
  have hlast : ∀ {u : State}, Busy False P u → contract.Safe .worker Lifecycle.activeStep
      (fun result v => Busy False P v ∧ FailsActive result) u :=
    fun hu => hu.activeStep.mono fun _ _ hv => ⟨hv.1, .active, hv.2⟩
  apply Safe.bind
  apply (ht.ask _).mono
  intro unshowable u hu
  apply Safe.bind
  apply (hu.videoCallback unshowable).mono
  intro _ v hv
  apply Safe.bind
  apply (hv.ask _).mono
  intro deactivated w hw
  split
  · apply Safe.bind
    apply (hw.phase .reactivation).mono
    rintro reactivated x ⟨hx, hfails⟩
    split
    · exact ⟨hx, .reactivation, hfails⟩
    · exact hlast hx
  · exact hlast hw

/-- A round goes on, or ends the session: with an error, or for a stop. -/
theorem Busy.activeRound (h : Busy stop P s) :
    contract.Safe .worker Lifecycle.activeRound
      (fun result t => Busy (result = .inr (.ok ())) P t ∧
        ∀ last, result = .inr last → FailsActive last) s := by
  have hfinished : ∀ {result last : Except NativeError Unit}, FailsActive result →
      (.inr result : Unit ⊕ Except NativeError Unit) = .inr last → FailsActive last := by
    rintro result last hfails hlast
    rwa [← Sum.inr.inj hlast]
  apply Safe.bind
  apply h.loadStop.mono
  intro stopped t ht
  split
  · rename_i hstopped
    exact ⟨ht.weaken fun _ => hstopped, fun last => hfinished ⟨.active, fails_ok _ _⟩⟩
  apply Safe.bind
  apply (ht.ask _).mono
  intro received u hu
  apply Safe.bind
  refine Safe.mono (?_ : contract.Safe .worker _ (fun _ => Busy False P) u) ?_
  · apply Safe.when
    · exact fun _ => hu.setStop.mono fun _ _ hv => hv.weaken False.elim
    · exact fun _ => hu.weaken False.elim
  intro _ v hv
  apply Safe.bind
  apply hv.activeStep.mono
  rintro drained w ⟨hw, hdrained⟩
  split
  · exact ⟨hw.weaken nofun, fun last => hfinished ⟨.active, hdrained⟩⟩
  apply Safe.bind
  apply hw.loadStop.mono
  intro stopped x hx
  split
  · rename_i hstopped
    exact ⟨hx.weaken fun _ => hstopped, fun last => hfinished ⟨.active, fails_ok _ _⟩⟩
  apply Safe.bind
  apply hx.serveRound.mono
  rintro served y ⟨hy, hserved⟩
  split
  · exact ⟨hy.weaken nofun, fun last => hfinished hserved⟩
  · exact ⟨hy.weaken nofun, nofun⟩

theorem runActive_safe (h : Busy stop (Attempt attempt 3) s) :
    contract.Safe .worker runActive (Over attempt) s := by
  apply Safe.bind
  apply h.activeStep.mono
  rintro image t ⟨ht, himage⟩
  split
  · exact over_error (by omega) (by omega) ht himage (.inl le_rfl)
  apply Safe.bind
  apply (ht.emitState (Attempt.next rfl) (Attempt.unfinished le_rfl)).mono
  rintro _ u ⟨hu, -⟩
  refine ⟨fun _ => Busy False (Attempt attempt 4),
    fun _ _ _ hrely hinv hs => hs.stable hrely hinv, hu.weaken False.elim, ?_⟩
  intro _ v _ hv
  apply hv.activeRound.mono
  rintro result w ⟨hw, hlast⟩
  cases result with
  | inl _ => exact hw.weaken False.elim
  | inr last =>
    cases last with
    | ok _ => exact over_ok (by omega) le_rfl (hw.weaken fun _ => rfl)
    | error e =>
      obtain ⟨stage, hfails⟩ := hlast _ rfl
      exact over_error (by omega) le_rfl hw hfails (.inl (by omega))

/-! ## An attempt -/

theorem runSecured_safe (h : Busy stop (Attempt attempt 1) s) :
    contract.Safe .worker runSecured (Over attempt) s := by
  apply Safe.bind
  apply (h.emitState (Attempt.next rfl) (Attempt.unfinished (by omega))).mono
  rintro _ t ⟨ht, -⟩
  apply Safe.bind
  apply (ht.phase .tls).mono
  rintro upgraded u ⟨hu, hupgraded⟩
  split
  · exact over_error (by omega) (by omega) hu hupgraded (.inr (.inr (.inl rfl)))
  apply Safe.bind
  apply (hu.ask _).mono
  intro credssp v hv
  split
  · exact over_error (by omega) (by omega) hv
      (fails_error .credssp (.protocol _) rfl) (.inr (.inr (.inr rfl)))
  apply Safe.bind
  apply (hv.emitState (Attempt.next rfl) (Attempt.unfinished (by omega))).mono
  rintro _ w ⟨hw, -⟩
  apply Safe.bind
  apply (hw.phase .credssp).mono
  rintro authenticated x ⟨hx, hauthenticated⟩
  split
  · exact over_error (by omega) (by omega) hx hauthenticated (.inl le_rfl)
  apply Safe.bind
  apply (hx.phase .activation).mono
  rintro activated y ⟨hy, hactivated⟩
  split
  · exact over_error (by omega) (by omega) hy hactivated (.inl le_rfl)
  · exact runActive_safe hy

theorem runSession_safe (h : Busy stop (Attempt attempt 0) s) :
    contract.Safe .worker runSession (Over attempt) s := by
  apply Safe.bind
  apply (h.emitState (Attempt.next rfl) (Attempt.unfinished (by omega))).mono
  rintro _ t ⟨ht, -⟩
  apply Safe.bind
  apply ht.connectTcp.mono
  rintro connected u ⟨hu, hconnected⟩
  split
  · exact over_error le_rfl (by omega) hu
      hconnected.error (.inr (.inr (.inl rfl)))
  · exact over_ok le_rfl (by omega) (hu.weaken fun _ => rfl)
  apply Safe.bind
  apply (hu.phase .negotiation).mono
  rintro negotiated v ⟨hv, hnegotiated⟩
  split
  · exact over_error le_rfl (by omega) hv hnegotiated (.inr (.inl rfl))
  apply Safe.bind
  apply (hv.ask _).mono
  intro received w hw
  apply Safe.bind
  apply (hw.drainCommands received).mono
  intro stopped x hx
  split
  · rename_i hstopped
    exact over_ok le_rfl (by omega) (hx.weaken fun _ => hstopped)
  · exact runSecured_safe hx

/-! ## All attempts -/

/-- This attempt is over, and its end is on record. -/
def Noted (attempt n : Nat) (last : Option NativeError) (emitted : List RdpState)
    (outcomes : List (Option NativeError)) : Prop :=
  Finished n last emitted outcomes ∧ outcomes.length = attempt

theorem attemptSession_safe (h : Busy stop (Attempt attempt 0) s) :
    contract.Safe .worker attemptSession
      (fun result t => ∃ n, 1 ≤ n ∧ n ≤ 4 ∧
        Busy (result = .ok ()) (Noted attempt n (attemptError result)) t ∧ EndsAt n result) s := by
  apply Safe.bind
  apply (runSession_safe h).mono
  rintro result t ⟨n, hn, hle, ht, hends⟩
  apply Safe.bind
  apply Safe.store
  intro u hrely hinv
  have hu := ht.stable hrely hinv
  obtain ⟨hreached, hattempt⟩ := hu.frame.words
  have hlast : ∀ e, attemptError result = some e → ∃ f : Failure, e = f.error := by
    intro e he
    cases result with
    | ok _ => cases he
    | error e' =>
      obtain ⟨f, rfl, -⟩ := hends e' rfl
      exact ⟨f, (Option.some.inj he).symm⟩
  obtain ⟨hsound, hguar, hready⟩ := hu.note (Q := Noted attempt n (attemptError result)) hinv
    u.conn.emitted (u.conn.outcomes ++ [attemptError result])
    ⟨hreached.finish _, by rw [List.length_append, List.length_singleton, hattempt]⟩
    (fun _ _ hq => hq.1.unfinished hn hle hlast) id
  exact ⟨hsound, hguar, n, hn, hle, ⟨hready, hu.tracked, hu.told⟩, hends⟩

/-- No attempt follows the one that has ended. -/
def Last (stop : Prop) (n : Nat) (last : Option NativeError) (emitted : List RdpState)
    (outcomes : List (Option NativeError)) : Prop :=
  Finished n last emitted outcomes ∧
    ∀ earlier, outcomes = earlier ++ [last] → GivenUp stop earlier last

/-- How the attempts end: with an error, or for a stop. -/
def RunOver (outcome : Outcome) (s : State) : Prop :=
  ∃ (n : Nat) (last : Option NativeError) (stop : Prop), 1 ≤ n ∧ n ≤ 4 ∧
    Busy stop (Last stop n last) s ∧
    (outcome = .returned ∧ last = none ∧ stop ∨
      ∃ f : Failure, outcome = .failed f.error ∧ last = some f.error)

/-- An error that could be retried is not, as the worker was told to stop. -/
theorem givenUp_of_not_retried {f : Failure} {stopping : Bool}
    (hretry : ¬f.error.shouldRetry attempt stopping = true) {earlier : List (Option NativeError)}
    (hlen : earlier.length + 1 = attempt) :
    GivenUp (stopping = true) earlier (some f.error) := by
  intro g hg hhandoff hlt
  rw [Option.some.inj hg, NativeError.shouldRetry, hhandoff.retry] at hretry
  cases stopping with
  | true => rfl
  | false => exact absurd (by simpa [← hlen] using hlt) hretry

theorem runAttempts_safe (left : Nat) (hleft : attempt + left = maxSessionAttempts + 1)
    (h : Busy stop (Attempt attempt 0) s) :
    contract.Safe .worker (runAttempts attempt left) RunOver s := by
  induction left generalizing stop s attempt with
  | zero =>
    obtain ⟨⟨-, -, -, hlen, -⟩, hattempt⟩ := h.frame.words
    omega
  | succ left ih =>
    apply Safe.bind
    apply (attemptSession_safe h).mono
    rintro result t ⟨n, hn, hle, ht, hresult⟩
    split
    · refine ⟨n, none, True, hn, hle, (ht.weaken fun _ => rfl).mono ?_, .inl ⟨rfl, rfl, trivial⟩⟩
      exact fun _ _ hq => ⟨hq.1, fun _ _ _ _ _ _ => trivial⟩
    rename_i e
    obtain ⟨f, rfl, hhandoff⟩ := hresult e rfl
    apply Safe.bind
    apply ht.loadStop.mono
    intro stopping u hu
    split
    · rename_i hretry
      obtain ⟨⟨hretry, -⟩, hlt⟩ : (f.error.retryHandoff = true ∧ (!stopping) = true) ∧
          attempt < maxSessionAttempts := by
        simpa [NativeError.shouldRetry] using hretry
      apply Safe.bind
      apply (hu.emitState (Q := Attempt (attempt + 1) 0) ?_ (Attempt.unfinished (by omega))).mono
      · rintro _ v ⟨hv, -⟩
        exact ih (by omega) hv
      · rintro emitted outcomes ⟨hfinished, hlen⟩
        exact ⟨hfinished.handOff (hhandoff hretry) (Failure.isHandoff_of_retry hretry)
          (by omega), by omega⟩
    · rename_i hretry
      refine ⟨n, some f.error, stopping = true, hn, hle, hu.mono ?_, .inr ⟨f, rfl, rfl⟩⟩
      rintro emitted outcomes ⟨hfinished, hlen⟩
      refine ⟨hfinished, fun earlier hearlier => givenUp_of_not_retried hretry ?_⟩
      rw [← hlen, hearlier, List.length_append, List.length_singleton]

end

end Lgnome.Lifecycle
