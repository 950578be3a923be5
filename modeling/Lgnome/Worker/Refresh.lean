import Lgnome.Worker.Session

/-!
# Refreshes across buffering drains

A refresh makes the server send a whole frame, which a client that resumes a
session's display needs behind the resumption. The buffer holds one refresh at most
and keeps it where it came first.
-/
namespace Lgnome.Worker

open Lgnome.Transition

/-- A refresh was asked for behind the last display toggle. -/
def Refreshed (stream : List ControlCommand) : Prop :=
  (lastToggle stream).isSome ∧ .requestRefresh ∈ sinceToggle stream

/-- No refresh comes to a buffer that holds one in front of a toggle: the one buffered
would stand for it, and would be written before the toggle. -/
def RefreshKept (pending : List ControlCommand) : List ControlCommand → Prop
  | [] => True
  | control :: stream =>
    (control = .requestRefresh → .requestRefresh ∈ pending →
      .requestRefresh ∈ sinceToggle pending) ∧
    RefreshKept (bufferControl pending control) stream

instance RefreshKept.decide : ∀ pending stream, Decidable (RefreshKept pending stream)
  | _, [] => inferInstanceAs (Decidable True)
  | pending, control :: stream =>
    have := RefreshKept.decide (bufferControl pending control) stream
    inferInstanceAs (Decidable ((_ → _ → _) ∧ RefreshKept (bufferControl pending control) stream))

/-- What a buffering drain receives keeps its refreshes. -/
def KeepsRefresh (s : SessionState × Received) : SessionAction → Prop
  | .drain received => RefreshKept s.1.worker.pendingControl (controls (heard received))
  | _ => True

instance (s : SessionState × Received) : ∀ action, Decidable (KeepsRefresh s action)
  | .drain _ => inferInstanceAs (Decidable (RefreshKept _ _))
  | .activate | .drainInput _ | .deactivate | .reactivated | .handoff | .requestStop | .halt =>
    inferInstanceAs (Decidable True)

def orderedSession : Machine (SessionState × Received) SessionAction Unit :=
  workerSession.restrict KeepsRefresh

section Refreshes

variable {written pending stream : List ControlCommand}

theorem not_refreshed_suppress (allowDisplay : Bool) :
    ¬Refreshed (stream ++ [.suppressOutput allowDisplay]) := by
  simp [Refreshed]

/-- Whatever is written at once is written behind every earlier toggle. -/
theorem Refreshed.write (h : Refreshed stream → .requestRefresh ∈ sinceToggle written)
    (requests : List ControlCommand) (hrefreshed : Refreshed (stream ++ requests)) :
    .requestRefresh ∈ sinceToggle (written ++ requests) := by
  induction requests generalizing stream written with
  | nil =>
    rw [List.append_nil] at hrefreshed ⊢
    exact h hrefreshed
  | cons control requests ih =>
    rw [List.append_cons] at hrefreshed ⊢
    refine ih ?_ hrefreshed
    intro hone
    cases control with
    | suppressOutput allowDisplay => exact absurd hone (not_refreshed_suppress allowDisplay)
    | requestRefresh => simp

theorem Refreshed.buffer
    (h : Refreshed stream → .requestRefresh ∈ sinceToggle (written ++ pending))
    {requests : List ControlCommand} (hkept : RefreshKept pending requests)
    (hrefreshed : Refreshed (stream ++ requests)) :
    .requestRefresh ∈ sinceToggle (written ++ requests.foldl bufferControl pending) := by
  induction requests generalizing stream pending with
  | nil =>
    rw [List.append_nil] at hrefreshed
    exact h hrefreshed
  | cons control requests ih =>
    obtain ⟨hcontrol, hrest⟩ := hkept
    rw [List.append_cons] at hrefreshed
    refine ih ?_ hrest hrefreshed
    intro hone
    cases control with
    | suppressOutput allowDisplay => exact absurd hone (not_refreshed_suppress allowDisplay)
    | requestRefresh =>
      unfold bufferControl
      dsimp only
      split
      · rename_i hpending
        exact mem_sinceToggle_append (hcontrol rfl hpending)
      · rw [← List.append_assoc, sinceToggle_refresh]
        simp

end Refreshes

/-- What the session asked for last of the display is what its server was told last, or
will be, and a refresh asked for behind it comes behind it. -/
structure Announced (s : SessionState) (r : Received) : Prop where
  toggle : ∀ allowDisplay, lastToggle (controls r.session) = some allowDisplay →
    lastToggle s.active.outgoing = some allowDisplay
  refresh : Refreshed (controls r.session) → .requestRefresh ∈ sinceToggle s.active.outgoing

section Announcements

variable {s t : SessionState} {r : Received} {received : List WorkerCommand}

theorem lastToggle_extend {stream out : List ControlCommand}
    (h : ∀ allowDisplay, lastToggle stream = some allowDisplay → lastToggle out = some allowDisplay)
    (requests : List ControlCommand) (allowDisplay : Bool)
    (hlast : lastToggle (stream ++ requests) = some allowDisplay) :
    lastToggle (out ++ requests) = some allowDisplay := by
  rw [lastToggle_append] at hlast ⊢
  cases hrequests : lastToggle requests with
  | some wish => rwa [hrequests] at hlast
  | none =>
    rw [hrequests] at hlast
    exact h allowDisplay hlast

theorem Announced.buffer (hi : Announced s r)
    (hkept : RefreshKept s.worker.pendingControl (controls (heard received))) :
    Announced (s.withWorker (s.worker.bufferCommands received).1) (r.hear (heard received)) := by
  have houtgoing : (s.withWorker (s.worker.bufferCommands received).1).active.outgoing
      = controls s.active.wire
        ++ (controls (heard received)).foldl bufferControl s.worker.pendingControl := by
    show controls s.active.wire ++ (s.worker.bufferCommands received).1.pendingControl = _
    rw [bufferCommands_fst]
  have hsession : controls (r.hear (heard received)).session
      = controls r.session ++ controls (heard received) := controls_append
  refine ⟨?_, ?_⟩
  · intro allowDisplay hlast
    rw [hsession] at hlast
    rw [houtgoing, lastToggle_append, lastToggle_buffered, ← lastToggle_append,
      ← List.append_assoc]
    exact lastToggle_extend hi.toggle _ allowDisplay hlast
  · intro hrefreshed
    rw [hsession] at hrefreshed
    rw [houtgoing]
    exact Refreshed.buffer hi.refresh hkept hrefreshed

theorem Announced.drain (hi : Announced s r)
    (hkept : RefreshKept s.worker.pendingControl (controls (heard received))) :
    Announced (s.drain received) (if s.worker.stop then r else r.hear (heard received)) := by
  unfold SessionState.drain NativeWorker.drainCommands
  cases hstop : s.worker.stop with
  | true => exact ⟨hi.toggle, hi.refresh⟩
  | false =>
    have hbuffer := hi.buffer hkept
    exact ⟨hbuffer.toggle, hbuffer.refresh⟩

theorem Announced.drainInput (hi : Announced s r) :
    Announced { s with active := s.active.drainInput received, phase := .active }
      (r.hear (heard received)) := by
  obtain ⟨hcontrols, -, -, hpending, -⟩ := s.active.drainInput_spec received
  have houtgoing : (s.active.drainInput received).outgoing
      = s.active.outgoing ++ controls (heard received) := by
    rw [Active.outgoing, hpending, List.append_nil, hcontrols]
  have hsession : controls (r.hear (heard received)).session
      = controls r.session ++ controls (heard received) := controls_append
  refine ⟨?_, ?_⟩
  · intro allowDisplay hlast
    rw [hsession] at hlast
    rw [houtgoing]
    exact lastToggle_extend hi.toggle _ allowDisplay hlast
  · intro hrefreshed
    rw [hsession] at hrefreshed
    rw [houtgoing]
    exact Refreshed.write hi.refresh _ hrefreshed

/-- The latch adds its suppression only where the session asked for nothing. -/
theorem Announced.activate (hi : Announced s r) (hcarried : Carried s r)
    (hphase : s.phase = .connecting) :
    Announced { s.withWorker s.worker.beginActive with phase := .activated }
      { r with live := [] } := by
  obtain ⟨-, hsession⟩ := hcarried.connecting hphase
  have houtgoing (hsome : (lastToggle (controls r.session)).isSome) :
      (s.withWorker s.worker.beginActive).active.outgoing = s.active.outgoing := by
    show controls s.active.wire ++ s.worker.beginActive.pendingControl
      = controls s.active.wire ++ s.worker.pendingControl
    unfold NativeWorker.beginActive
    dsimp only
    rw [if_neg]
    intro hlatched
    have hnone := lastToggle_eq_none.mpr (by simpa using hlatched.2)
    rw [← hsession, hnone] at hsome
    cases hsome
  refine ⟨?_, ?_⟩
  · intro allowDisplay hlast
    exact (congrArg lastToggle (houtgoing (by rw [hlast]; rfl))).trans (hi.toggle _ hlast)
  · intro hrefreshed
    show .requestRefresh ∈ sinceToggle (s.withWorker s.worker.beginActive).active.outgoing
    rw [houtgoing hrefreshed.1]
    exact hi.refresh hrefreshed

theorem Announced.next (hi : Announced s r) (hcarried : Carried s r) {action : SessionAction}
    (hkept : KeepsRefresh (s, r) action) (hstep : s.next action = some t) :
    Announced t (r.update s action t ()) := by
  cases action with
  | drain received =>
    obtain ⟨-, rfl⟩ := Option.ite_some_none_eq_some.mp hstep
    exact hi.drain hkept
  | activate =>
    obtain ⟨hphase, rfl⟩ := Option.ite_some_none_eq_some.mp hstep
    exact hi.activate hcarried hphase
  | drainInput received =>
    obtain ⟨-, rfl⟩ := Option.ite_some_none_eq_some.mp hstep
    exact hi.drainInput
  | deactivate =>
    obtain ⟨-, rfl⟩ := Option.ite_some_none_eq_some.mp hstep
    exact ⟨hi.toggle, hi.refresh⟩
  | reactivated =>
    obtain ⟨-, rfl⟩ := Option.ite_some_none_eq_some.mp hstep
    exact ⟨hi.toggle, hi.refresh⟩
  | handoff =>
    obtain ⟨-, rfl⟩ := Option.ite_some_none_eq_some.mp hstep
    exact ⟨fun _ hlast => (by cases hlast), fun hrefreshed => (by cases hrefreshed.1)⟩
  | requestStop =>
    obtain rfl := Option.some.inj hstep
    exact ⟨hi.toggle, hi.refresh⟩
  | halt =>
    obtain rfl := Option.some.inj hstep
    exact ⟨hi.toggle, hi.refresh⟩

end Announcements

variable {rec : List (SessionAction × Unit)} {s : SessionState} {r : Received}

theorem announced_run (hrun : orderedSession.Run rec (s, r)) : Announced s r := by
  refine (hrun.invariant_of (I := fun state => Carried state.1 state.2)
    (J := fun state => Announced state.1 state.2) ?_ ?_ ?_ ?_)
  · exact carried_run (.refl _)
  · intro before action after e hi hstep
    obtain ⟨hnext, hreceived⟩ := workerSession_step.mp (Machine.restrict_step.mp hstep).2
    rw [hreceived]
    exact hi.next hnext
  · exact ⟨fun _ hlast => (by cases hlast), fun hrefreshed => (by cases hrefreshed.1)⟩
  · intro before action after e hcarried hi hstep
    obtain ⟨hkept, hworker⟩ := Machine.restrict_step.mp hstep
    obtain ⟨hnext, hreceived⟩ := workerSession_step.mp hworker
    rw [hreceived]
    exact hi.next hcarried hkept hnext

/-- **Worker drains.** In a run that meets the condition: the session's input reaches its
server in order with only superseded moves left out, and behind every drain of the
active session its display state is the one asked for last, and a refresh asked for
behind that comes behind it. -/
theorem worker_drains (hrun : orderedSession.Run rec (s, r)) :
    (s.phase ≠ .connecting → s.phase ≠ .ended →
      Thinned InputCommand.isMove (inputs r.live)
        (inputs s.active.wire ++ s.worker.pendingInput)) ∧
    ∀ before received, rec = before ++ [(.drainInput received, ())] →
      Thinned InputCommand.isMove (inputs r.live) (inputs s.active.wire) ∧
      s.active.told = (lastToggle (controls r.history)).getD true ∧
      ∀ allowDisplay, lastToggle (controls r.session) = some allowDisplay →
        lastToggle (controls s.active.wire) = some allowDisplay ∧
        (.requestRefresh ∈ sinceToggle (controls r.session) →
          .requestRefresh ∈ sinceToggle (controls s.active.wire)) := by
  have hworker := hrun.of_restrict
  have hcarried := carried_run hworker
  have hannounced := announced_run hrun
  refine ⟨hcarried.inputs, ?_⟩
  rintro before received rfl
  obtain ⟨hphase, hcontrol, hinput⟩ := drained hworker
  have hwire : s.active.outgoing = controls s.active.wire := by
    rw [Active.outgoing, show s.active.worker.pendingControl = [] from hcontrol, List.append_nil]
  have hconnecting : s.phase ≠ .connecting := by simp [hphase]
  have hended : s.phase ≠ .ended := by simp [hphase]
  refine ⟨?_, ?_, ?_⟩
  · have hinputs := hcarried.inputs hconnecting hended
    rwa [hinput, List.append_nil] at hinputs
  · have htold := hcarried.outgoing hconnecting hended
    rw [hwire] at htold
    exact htold.trans hcarried.wanted
  · intro allowDisplay hlast
    rw [← hwire]
    exact ⟨hannounced.toggle _ hlast,
      fun hrefresh => hannounced.refresh ⟨by rw [hlast]; rfl, hrefresh⟩⟩

/-- Deactivated, the worker receives moves, a suppression and the resumption with its refresh. -/
def resumed : List SessionAction :=
  [.drain [], .activate, .drainInput [], .deactivate,
    .drain [.input (.pointerMove 1 1), .control (.suppressOutput false),
      .input (.pointerMove 2 2), .input (.pointerButton 2 2 1 true)],
    .drain [.control (.suppressOutput true), .control .requestRefresh], .reactivated]

theorem resumed_accepted :
    (orderedSession.exec orderedSession.init (resumed ++ [.drainInput []])).isSome := by
  decide

theorem worker_drains_resumed : ∃ rec s r,
    orderedSession.Run (rec ++ [(.drainInput [], ())]) (s, r) ∧
      lastToggle (controls r.session) = some true ∧
      lastToggle (controls s.active.wire) = some true ∧
      .requestRefresh ∈ sinceToggle (controls s.active.wire) := by
  have hrun : orderedSession.Run
      ((resumed.map fun action => (action, ())) ++ [(.drainInput [], ())]) (_, _) :=
    Machine.run_of_exec _ resumed_accepted
  obtain ⟨-, -, hcontrols⟩ := (worker_drains hrun).2 _ _ rfl
  obtain ⟨htoggle, hrefresh⟩ := hcontrols true (by decide)
  exact ⟨_, _, _, hrun, by decide, htoggle, hrefresh (by decide)⟩

/-- A refresh is buffered, the session switched away and back, and refreshed again. -/
def refreshedTwice : List SessionAction :=
  [.drain [], .activate, .drainInput [], .deactivate,
    .drain [.control .requestRefresh, .control (.suppressOutput false),
      .control (.suppressOutput true), .control .requestRefresh], .reactivated]

theorem refreshedTwice_accepted :
    (workerSession.exec workerSession.init (refreshedTwice ++ [.drainInput []])).isSome := by
  decide

/-- The first refresh stands for the second and is written in front of the resumption. -/
theorem refresh_lost : ∃ rec s r,
    workerSession.Run (rec ++ [(.drainInput [], ())]) (s, r) ∧
      lastToggle (controls r.session) = some true ∧
      .requestRefresh ∈ sinceToggle (controls r.session) ∧
      .requestRefresh ∉ sinceToggle (controls s.active.wire) := by
  have hrun : workerSession.Run
      ((refreshedTwice.map fun action => (action, ())) ++ [(.drainInput [], ())]) (_, _) :=
    Machine.run_of_exec _ refreshedTwice_accepted
  exact ⟨_, _, _, hrun, by decide, by decide, by decide⟩

end Lgnome.Worker
