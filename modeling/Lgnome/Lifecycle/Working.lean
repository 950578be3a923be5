import Lgnome.Lifecycle.Record
import Lgnome.Lifecycle.Worker

/-!
# What a worker reports

The reports of a worker follow its attempts. Nothing it does between two of them
changes what it has reported, and what others do leaves it alone.
-/
namespace Lgnome.Lifecycle

open Lgnome.Native
open Lgnome.Worker (Failure NativeError maxSessionAttempts)
open Lgnome.Transition (Prog Contract)
open Lgnome.Transition.Contract (Safe)

/-- The worker runs, and its reports are as `P` says. -/
structure On (P : List RdpState → List (Option NativeError) → Prop) (s : State) : Prop where
  running : s.conn.thread = .running
  words : P s.conn.emitted s.conn.outcomes

/-- The worker between two reports, and what it knows of a stop. -/
structure Busy (stop : Prop) (P : List RdpState → List (Option NativeError) → Prop) (s : State) :
    Prop extends Ready .worker (On P) s where
  tracked : Tracked s
  told : stop → s.conn.stop = true

section

variable {P Q : List RdpState → List (Option NativeError) → Prop} {stop stop' : Prop} {s t : State}
  {α : Type}

theorem On.stable : contract.Stable .worker (On P) := by
  intro s t hrely _ h
  have hm : SdlMoves s t := hrely
  have hb := hm.beside (by rw [h.running]; decide)
  exact ⟨hb.thread.trans h.running, by rw [hb.emitted, hb.outcomes]; exact h.words⟩

theorem On.aside (s t : State) (haside : Aside s t) (h : On P s) : On P t :=
  ⟨haside.thread.trans h.running, by rw [haside.emitted, haside.outcomes]; exact h.words⟩

theorem On.mono (h : On P s) (hPQ : ∀ e r, P e r → Q e r) : On Q s := ⟨h.running, hPQ _ _ h.words⟩

theorem Busy.stable (h : Busy stop P s) (hrely : contract.rely .worker s t)
    (hinv : contract.inv t) : Busy stop P t := by
  have hm : SdlMoves s t := hrely
  have hb := hm.beside (by rw [h.frame.running]; decide)
  exact ⟨h.toReady.stable On.stable hrely hinv, h.tracked.stable hrely h.acting, hb.stop ∘ h.told⟩

theorem Busy.mono (h : Busy stop P s) (hPQ : ∀ e r, P e r → Q e r) : Busy stop Q s :=
  ⟨⟨h.acting, h.frame.mono hPQ, h.minded⟩, h.tracked, h.told⟩

theorem Busy.weaken (h : Busy stop P s) (hstop : stop' → stop) : Busy stop' P s :=
  ⟨h.toReady, h.tracked, h.told ∘ hstop⟩

/-- The flag stays set while the worker runs. -/
theorem Busy.loadStop (h : Busy stop P s) :
    contract.Safe .worker (Prog.load fun s => s.conn.stop : Action Bool)
      (fun stopped => Busy (stopped = true) P) s :=
  Safe.load fun _ hrely hinv =>
    ⟨(h.stable hrely hinv).toReady, (h.stable hrely hinv).tracked, id⟩

theorem Busy.ask (h : Busy stop P s) (f : Answer → α) :
    contract.Safe .worker (Prog.ask f : Action α) (fun _ => Busy stop P) s :=
  Safe.ask fun _ hrely hinv _ => h.stable hrely hinv

/-- The stop flag concerns no report. -/
theorem Busy.setStop (h : Busy stop P s) :
    contract.Safe .worker (Prog.store (State.onConn fun c => { c with stop := true }) : Action Unit)
      (fun _ => Busy True P) s := by
  apply Safe.store
  intro t hrely hinv
  have ht := h.stable hrely hinv
  have haside : Aside t (t.onConn fun c => { c with stop := true }) :=
    ⟨rfl, rfl, rfl, rfl, fun _ => rfl, rfl⟩
  obtain ⟨hsound, hguar, hready⟩ := ht.toReady.step On.aside hinv haside rfl rfl rfl rfl rfl rfl
  exact ⟨hsound, hguar, hready, ht.tracked.step haside rfl rfl, fun _ => rfl⟩

/-! ## Phases -/

/-- The result of a step that can fail in the ways of a phase. -/
def Fails (stage : Stage) (result : Except NativeError α) : Prop :=
  ∀ e, result = .error e → ∃ f : Failure, e = f.error ∧ stage.admits f = true

theorem fails_ok (stage : Stage) (a : α) : Fails stage (.ok a : Except NativeError α) := nofun

theorem fails_network (stage : Stage) (message : String) :
    Fails stage (.error (.network message) : Except NativeError α) := by
  rintro e he
  obtain rfl := Except.error.inj he
  exact ⟨.network message, rfl, by cases stage <;> rfl⟩

theorem fails_error (stage : Stage) (f : Failure) (h : stage.admits f = true) :
    Fails stage (.error f.error : Except NativeError α) := by
  rintro e he
  obtain rfl := Except.error.inj he
  exact ⟨f, rfl, h⟩

/-- An error does not depend on what the step would have given. -/
theorem Fails.error {β : Type} {stage : Stage} {e : NativeError}
    (h : Fails stage (.error e : Except NativeError α)) :
    Fails stage (.error e : Except NativeError β) :=
  fun e' he => h e' (by rw [Except.error.inj he])

/-- Commands that end the worker are a stop. -/
theorem Busy.drainCommands (h : Busy stop P s) (received : Bool) :
    contract.Safe .worker (Lifecycle.drainCommands received)
      (fun stopped => Busy (stopped = true) P) s := by
  apply Safe.bind
  apply h.loadStop.mono
  intro stopped t ht
  split
  · rename_i hstopped
    exact ht.weaken fun _ => hstopped
  split
  · apply Safe.bind
    apply ht.setStop.mono
    intro _ u hu
    exact hu.weaken fun _ => trivial
  · exact ht.weaken nofun

theorem Busy.phase (h : Busy stop P s) (stage : Stage) :
    contract.Safe .worker (Lifecycle.phase stage)
      (fun result t => Busy False P t ∧ Fails stage result) s := by
  refine ⟨fun _ => Busy False P, fun _ _ _ hrely hinv ht => ht.stable hrely hinv,
    h.weaken False.elim, ?_⟩
  intro _ t _ ht
  apply Safe.bind
  apply (ht.ask _).mono
  intro round u hu
  cases round with
  | done => exact ⟨hu, fails_ok stage ()⟩
  | fail failure =>
    dsimp only
    split
    · exact ⟨hu, fails_error _ _ ‹_›⟩
    · exact hu
  | poll received label =>
    apply Safe.bind
    apply (hu.drainCommands received).mono
    intro stopped v hv
    dsimp only
    split
    · exact ⟨hv.weaken False.elim, fails_network stage label⟩
    · exact hv.weaken False.elim

/-- Only a stop leaves the addresses without a connection or an error. -/
theorem Busy.connectAny (h : Busy stop P s) (addresses : Nat) :
    contract.Safe .worker (Lifecycle.connectAny addresses)
      (fun result t => Busy (result = .ok false) P t ∧ Fails .tls result) s := by
  induction addresses generalizing stop s with
  | zero => exact ⟨h.weaken nofun, fails_network .tls _⟩
  | succ addresses ih =>
    apply Safe.bind
    apply (h.ask _).mono
    intro expired t ht
    split
    · exact ⟨ht.weaken nofun, fails_network .tls _⟩
    apply Safe.bind
    apply (ht.ask _).mono
    intro received u hu
    apply Safe.bind
    apply (hu.drainCommands received).mono
    intro stopped v hv
    split
    · rename_i hstopped
      exact ⟨hv.weaken fun _ => hstopped, fails_ok .tls false⟩
    apply Safe.bind
    apply (hv.ask _).mono
    intro connects w hw
    split
    · apply Safe.bind
      apply (hw.ask _).mono
      intro configured x hx
      split
      · exact ⟨hx.weaken nofun, fails_ok .tls true⟩
      · exact ⟨hx.weaken nofun, fails_network .tls _⟩
    · exact ih hw

theorem Busy.connectTcp (h : Busy stop P s) :
    contract.Safe .worker Lifecycle.connectTcp
      (fun result t => Busy (result = .ok false) P t ∧ Fails .tls result) s := by
  apply Safe.bind
  apply (h.ask _).mono
  intro resolved t ht
  split
  · exact ⟨ht.weaken nofun, fails_network .tls _⟩
  · exact ⟨ht.weaken nofun, fails_network .tls _⟩
  · exact ht.connectAny _

theorem Busy.activeStep (h : Busy stop P s) :
    contract.Safe .worker Lifecycle.activeStep
      (fun result t => Busy stop P t ∧ Fails .active result) s := by
  apply Safe.bind
  apply Safe.ask
  intro t hrely hinv answer
  have ht := h.stable hrely hinv
  cases hfails : answer.fails.filter Stage.active.admits with
  | none => exact ⟨ht, fails_ok .active ()⟩
  | some failure => exact ⟨ht, fails_error _ _ (Option.filter_eq_some_iff.mp hfails).2⟩

/-! ## Reports -/

/-- A store to what the worker has emitted or how its attempts ended. -/
theorem Busy.note (h : Busy stop P s) (hinv : contract.inv s) (emitted : List RdpState)
    (outcomes : List (Option NativeError)) (hPQ : Q emitted outcomes)
    (hQ : ∀ e r, Q e r → Unfinished e r) (hgrows : .active ∈ s.conn.emitted → .active ∈ emitted) :
    contract.inv (s.onConn fun c => { c with emitted, outcomes }) ∧
      contract.guar .worker s (s.onConn fun c => { c with emitted, outcomes }) ∧
      Ready .worker (On Q) (s.onConn fun c => { c with emitted, outcomes }) := by
  have hsound : Sound s := hinv
  have hrunning := h.frame.running
  refine ⟨?_, ?_, ⟨h.acting, ⟨hrunning, hPQ⟩, h.minded⟩⟩
  · refine ⟨⟨hsound.claimed, hsound.unclaimed, ?_,
      fun hwas => (hsound.active hwas).imp_left hgrows, hsound.inherits⟩,
      (fun hspawned => nomatch hrunning.symm.trans hspawned),
      fun _ => hQ _ _ hPQ, (fun _ hnone => nomatch hrunning.symm.trans hnone), hsound.offline,
      hsound.presented⟩
    intro hfailed
    obtain ⟨k, hk, wasActive, htold, hactive, hworker⟩ := hsound.published hfailed
    exact ⟨k, hk, wasActive, htold, fun hwas => (hactive hwas).imp_left hgrows, hworker⟩
  · exact ⟨rfl, id, (fun hnone => nomatch hrunning.symm.trans hnone), .of_same rfl rfl rfl, id, rfl,
      fun hflagged => ⟨hflagged, rfl⟩⟩

/-- A report is added, and recorded as far as the connection is not claimed. -/
theorem Busy.emitState (h : Busy stop P s) {state : RdpState} {reason : RdpDisconnectReason}
    (hPQ : ∀ e r, P e r → Q (e ++ [state]) r) (hQ : ∀ e r, Q e r → Unfinished e r) :
    contract.Safe .worker (Lifecycle.emitState state reason)
      (fun _ t => Busy stop Q t ∧ (state.isTerminal = true → ∃ k, t.conn.claim = some k)) s := by
  have hstable : contract.Stable .worker fun u => On (fun e r => Q e r ∧ state ∈ e) u ∧
      (stop → u.conn.stop = true) := by
    rintro u v hrely hinv ⟨hon, htold⟩
    have hm : SdlMoves u v := hrely
    have hb := hm.beside (by rw [hon.running]; decide)
    exact ⟨On.stable u v hrely hinv hon, hb.stop ∘ htold⟩
  apply Safe.bind
  apply Safe.store
  intro t hrely hinv
  have ht := h.stable hrely hinv
  obtain ⟨hsound, hguar, hready⟩ := ht.note (Q := fun e r => Q e r ∧ state ∈ e) hinv
    (t.conn.emitted ++ [state]) t.conn.outcomes
    ⟨hPQ _ _ ht.frame.words, by simp⟩ (fun e r hq => hQ e r hq.1) (List.mem_append_left _)
  refine ⟨hsound, hguar, ?_⟩
  apply (recordState_safe hstable (fun u v haside hu =>
    ⟨On.aside u v haside hu.1, haside.stop ∘ hu.2⟩) state reason
    ⟨hready.acting, ⟨hready.frame, ht.told⟩, hready.minded⟩ ?_ ?_).mono
  · rintro _ u ⟨⟨hacting, ⟨hframe, htold⟩, hminded⟩, htracked, hclaimed⟩
    exact ⟨⟨⟨hacting, hframe.mono fun _ _ hq => hq.1, hminded⟩, htracked rfl, htold⟩, hclaimed⟩
  · rintro rfl
    exact ⟨rfl, fun u hu => hu.1.words.2⟩
  · intro _
    by_cases hactive : state = .active
    · exact .inl hactive
    · right
      intro hnone hemitted
      refine ht.tracked hnone ?_
      rcases List.mem_append.mp hemitted with hold | hnew
      · exact hold
      · exact absurd (List.mem_singleton.mp hnew).symm hactive

end

end Lgnome.Lifecycle
