import Lgnome.Worker.Drain
import Lgnome.Transition.Machine

/-!
# The worker's sessions

One worker lives through several sessions: a server handoff ends a session and the
next attempt starts afresh, and within a session the desktop may be deactivated and
activated again. What the buffers hold and what the latch remembers has to carry the
client's wishes across all of it.
-/
namespace Lgnome.Worker

open Lgnome.Transition

inductive Phase
  | connecting
  | activated
  | active
  | reactivating
  | ended
  deriving DecidableEq, Repr

structure SessionState where
  active : Active
  attempt : Nat
  phase : Phase
  deriving DecidableEq, Repr

/-- What happens to the worker. A `halt` is every end that the worker does not retry,
a failed write among them. -/
inductive SessionAction
  | drain (received : List WorkerCommand)
  | activate
  | drainInput (received : List WorkerCommand)
  | deactivate
  | reactivated
  | handoff
  | requestStop
  | halt
  deriving DecidableEq, Repr

def maxSessionAttempts : Nat := 3

namespace SessionState

def new : SessionState where
  active := { worker := .new, wire := [] }
  attempt := 1
  phase := .connecting

def worker (s : SessionState) : NativeWorker := s.active.worker

def withWorker (s : SessionState) (worker : NativeWorker) : SessionState :=
  { s with active := { s.active with worker } }

/-- Stop ends a phase that polls it. -/
def drain (s : SessionState) (received : List WorkerCommand) : SessionState :=
  let result := s.worker.drainCommands received
  { s.withWorker result.1 with phase := if result.2 then .ended else s.phase }

/-- The next attempt connects to a server that was told nothing yet. -/
def retry (s : SessionState) : SessionState where
  active := { worker := s.worker.resetSessionState, wire := [] }
  attempt := s.attempt + 1
  phase := .connecting

def next (s : SessionState) : SessionAction → Option SessionState
  | .drain received =>
    if s.phase = .connecting ∨ s.phase = .reactivating then some (s.drain received) else none
  | .activate =>
    if s.phase = .connecting then
      some { s.withWorker s.worker.beginActive with phase := .activated }
    else none
  | .drainInput received =>
    if (s.phase = .activated ∨ s.phase = .active) ∧ s.worker.stop = false then
      some { s with active := s.active.drainInput received, phase := .active }
    else none
  | .deactivate => if s.phase = .active then some { s with phase := .reactivating } else none
  | .reactivated => if s.phase = .reactivating then some { s with phase := .active } else none
  | .handoff =>
    if s.phase ≠ .ended ∧ s.phase ≠ .activated ∧ s.worker.stop = false ∧
        s.attempt < maxSessionAttempts then some s.retry
    else none
  | .requestStop => some (s.withWorker { s.worker with stop := true })
  | .halt => some { s with phase := .ended }

end SessionState

/-- The commands received: since the worker started, since the current attempt began
and since the current session was activated. -/
structure Received where
  history : List WorkerCommand
  session : List WorkerCommand
  live : List WorkerCommand
  deriving DecidableEq, Repr

namespace Received

def empty : Received := ⟨[], [], []⟩

def hear (r : Received) (commands : List WorkerCommand) : Received where
  history := r.history ++ commands
  session := r.session ++ commands
  live := r.live ++ commands

/-- A drain of a stopped worker receives nothing. -/
def update (r : Received) (s : SessionState) (action : SessionAction) (_ : SessionState)
    (_ : Unit) : Received :=
  match action with
  | .drain received => if s.worker.stop then r else r.hear (heard received)
  | .drainInput received => r.hear (heard received)
  | .activate => { r with live := [] }
  | .handoff => { r with session := [], live := [] }
  | _ => r

end Received

def sessions : Machine SessionState SessionAction Unit where
  init := .new
  step s action := (s.next action).map fun t => (t, ())

def workerSession : Machine (SessionState × Received) SessionAction Unit :=
  sessions.withGhost .empty Received.update

theorem workerSession_step {s t : SessionState} {r r' : Received} {action : SessionAction} {e : Unit} :
    workerSession.step (s, r) action = some ((t, r'), e) ↔
      s.next action = some t ∧ r' = r.update s action t e := by
  rw [workerSession, Machine.withGhost_step]
  simp [sessions]

/-- The worker means the server to have the display state that was asked for last. In
an active session the server has it, or has it once the buffer is written. -/
structure Carried (s : SessionState) (r : Received) : Prop where
  wanted : s.worker.wanted = (lastToggle (controls r.history)).getD true
  outgoing : s.phase ≠ .connecting → s.phase ≠ .ended →
    (lastToggle s.active.outgoing).getD true = s.worker.wanted
  inputs : s.phase ≠ .connecting → s.phase ≠ .ended →
    Thinned InputCommand.isMove (inputs r.live)
      (Worker.inputs s.active.wire ++ s.worker.pendingInput)
  connecting : s.phase = .connecting → s.active.wire = [] ∧
    lastToggle s.worker.pendingControl = lastToggle (controls r.session)

section Steps

variable {s t : SessionState} {r : Received} {received : List WorkerCommand}

theorem thinned_buffered {live written buffer : List InputCommand}
    (h : Thinned InputCommand.isMove live (written ++ buffer)) (events : List InputCommand) :
    Thinned InputCommand.isMove (live ++ events)
      (written ++ events.foldl bufferInput buffer) := by
  induction events generalizing live buffer with
  | nil => simpa using h
  | cons input events ih =>
    have hone := h.coalesce input
    rw [← bufferInput_eq] at hone
    have hall := ih hone
    rwa [List.append_assoc, List.singleton_append] at hall

theorem wanted_bufferCommands (worker : NativeWorker) (received : List WorkerCommand) :
    (worker.bufferCommands received).1.wanted
      = (lastToggle (controls (heard received))).getD worker.wanted := by
  rw [bufferCommands_fst]
  show (lastToggle ((controls (heard received)).foldl bufferControl worker.pendingControl)).getD _
    = _
  rw [lastToggle_buffered, lastToggle_getD]
  rfl

/-- Nothing is asked of a worker that has ended but what it remembers. -/
theorem Carried.ended (hwanted : s.worker.wanted = (lastToggle (controls r.history)).getD true) :
    Carried { s with phase := .ended } r where
  wanted := hwanted
  outgoing _ hended := absurd rfl hended
  inputs _ hended := absurd rfl hended
  connecting hconnecting := by cases hconnecting

theorem Carried.buffer (hi : Carried s r) (received : List WorkerCommand) :
    Carried (s.withWorker (s.worker.bufferCommands received).1) (r.hear (heard received)) where
  wanted := by
    show (s.worker.bufferCommands received).1.wanted
      = (lastToggle (controls (r.history ++ heard received))).getD true
    rw [wanted_bufferCommands, hi.wanted, controls_append, lastToggle_getD]
  outgoing hconnecting hended := by
    show (lastToggle (controls s.active.wire
      ++ (s.worker.bufferCommands received).1.pendingControl)).getD true
        = (s.worker.bufferCommands received).1.wanted
    have hbefore := hi.outgoing hconnecting hended
    unfold Active.outgoing at hbefore
    rw [wanted_bufferCommands, ← hbefore, bufferCommands_fst, lastToggle_getD]
    dsimp only
    rw [lastToggle_buffered, lastToggle_getD, ← lastToggle_getD true]
    rfl
  inputs hconnecting hended := by
    show Thinned InputCommand.isMove (Worker.inputs (r.live ++ heard received))
      (Worker.inputs s.active.wire ++ (s.worker.bufferCommands received).1.pendingInput)
    rw [bufferCommands_fst, inputs_append]
    exact thinned_buffered (hi.inputs hconnecting hended) _
  connecting hconnecting := by
    obtain ⟨hwire, hpending⟩ := hi.connecting hconnecting
    refine ⟨hwire, ?_⟩
    show lastToggle (s.worker.bufferCommands received).1.pendingControl
      = lastToggle (controls (r.session ++ heard received))
    rw [bufferCommands_fst, controls_append]
    dsimp only
    rw [lastToggle_buffered, lastToggle_append, lastToggle_append, hpending]

theorem Carried.drain (hi : Carried s r) :
    Carried (s.drain received) (if s.worker.stop then r else r.hear (heard received)) := by
  unfold SessionState.drain NativeWorker.drainCommands
  cases hstop : s.worker.stop with
  | true => exact .ended hi.wanted
  | false =>
    have hbuffer := hi.buffer received
    cases hstopped : (s.worker.bufferCommands received).2 with
    | true => simpa [hstopped] using Carried.ended hbuffer.wanted
    | false =>
      simp only [hstopped, Bool.false_eq_true, if_false]
      exact hbuffer

/-- A drain of the active session leaves nothing to write. -/
theorem Carried.drainInput (hi : Carried s r) (hconnecting : s.phase ≠ .connecting)
    (hended : s.phase ≠ .ended) :
    Carried { s with active := s.active.drainInput received, phase := .active }
      (r.hear (heard received)) := by
  obtain ⟨hcontrols, hinputs, hlatched, hpending, hpendingInput⟩ :=
    s.active.drainInput_spec received
  have hwanted : (s.active.drainInput received).worker.wanted
      = (lastToggle (controls (heard received))).getD s.worker.wanted := by
    rw [NativeWorker.wanted, hpending]
    exact hlatched
  refine ⟨?_, ?_, ?_, fun hphase => by cases hphase⟩
  · show (s.active.drainInput received).worker.wanted
      = (lastToggle (controls (r.history ++ heard received))).getD true
    rw [hwanted, hi.wanted, controls_append, lastToggle_getD]
  · intro _ _
    show (lastToggle (controls (s.active.drainInput received).wire
      ++ (s.active.drainInput received).worker.pendingControl)).getD true
        = (s.active.drainInput received).worker.wanted
    rw [hpending, List.append_nil, hcontrols, lastToggle_getD, hi.outgoing hconnecting hended,
      hwanted]
  · intro _ _
    show Thinned InputCommand.isMove (Worker.inputs (r.live ++ heard received))
      (Worker.inputs (s.active.drainInput received).wire
        ++ (s.active.drainInput received).worker.pendingInput)
    rw [hpendingInput, List.append_nil, hinputs, inputs_append]
    exact (hi.inputs hconnecting hended).append (.refl _)

theorem Carried.activate (hi : Carried s r) (hphase : s.phase = .connecting) :
    Carried { s.withWorker s.worker.beginActive with phase := .activated } { r with live := [] } := by
  obtain ⟨hwire, -⟩ := hi.connecting hphase
  refine ⟨?_, ?_, ?_, fun hconnecting => by cases hconnecting⟩
  · exact (s.worker.wanted_beginActive).trans hi.wanted
  · intro _ _
    show (lastToggle (controls s.active.wire ++ s.worker.beginActive.pendingControl)).getD true
      = s.worker.beginActive.wanted
    rw [hwire]
    exact s.worker.beginActive_announces
  · intro _ _
    show Thinned InputCommand.isMove [] (Worker.inputs s.active.wire ++ [])
    rw [hwire]
    exact .nil

/-- Within an active session the phases do not matter. -/
theorem Carried.rephase (hi : Carried s r) (hconnecting : s.phase ≠ .connecting)
    (hended : s.phase ≠ .ended) {phase : Phase} (hphase : phase ≠ .connecting) :
    Carried { s with phase } r where
  wanted := hi.wanted
  outgoing _ _ := hi.outgoing hconnecting hended
  inputs _ _ := hi.inputs hconnecting hended
  connecting h := absurd h hphase

theorem Carried.retry (hi : Carried s r) :
    Carried s.retry { r with session := [], live := [] } where
  wanted := s.worker.wanted_resetSessionState.trans hi.wanted
  outgoing hconnecting := absurd rfl hconnecting
  inputs hconnecting := absurd rfl hconnecting
  connecting _ := ⟨rfl, rfl⟩

theorem Carried.next (hi : Carried s r) {action : SessionAction} (hstep : s.next action = some t) :
    Carried t (r.update s action t ()) := by
  cases action with
  | drain received =>
    obtain ⟨-, rfl⟩ := Option.ite_some_none_eq_some.mp hstep
    exact hi.drain
  | activate =>
    obtain ⟨hphase, rfl⟩ := Option.ite_some_none_eq_some.mp hstep
    exact hi.activate hphase
  | drainInput received =>
    obtain ⟨⟨hphase, -⟩, rfl⟩ := Option.ite_some_none_eq_some.mp hstep
    rcases hphase with hphase | hphase
    · exact hi.drainInput (by simp [hphase]) (by simp [hphase])
    · exact hi.drainInput (by simp [hphase]) (by simp [hphase])
  | deactivate =>
    obtain ⟨hphase, rfl⟩ := Option.ite_some_none_eq_some.mp hstep
    exact hi.rephase (by simp [hphase]) (by simp [hphase]) (by simp)
  | reactivated =>
    obtain ⟨hphase, rfl⟩ := Option.ite_some_none_eq_some.mp hstep
    exact hi.rephase (by simp [hphase]) (by simp [hphase]) (by simp)
  | handoff =>
    obtain ⟨-, rfl⟩ := Option.ite_some_none_eq_some.mp hstep
    exact hi.retry
  | requestStop =>
    obtain rfl := Option.some.inj hstep
    exact ⟨hi.wanted, hi.outgoing, hi.inputs, hi.connecting⟩
  | halt =>
    obtain rfl := Option.some.inj hstep
    exact .ended hi.wanted

end Steps

variable {rec : List (SessionAction × Unit)} {s : SessionState} {r : Received}

theorem carried_run (hrun : workerSession.Run rec (s, r)) : Carried s r := by
  refine hrun.invariant (I := fun state => Carried state.1 state.2) ?_ ?_
  · exact ⟨rfl, fun h => absurd rfl h, fun h => absurd rfl h, fun _ => ⟨rfl, rfl⟩⟩
  · intro before action after e hi hstep
    obtain ⟨hnext, hreceived⟩ := workerSession_step.mp hstep
    rw [hreceived]
    exact hi.next hnext

/-- A drain of the active session has written everything that was received. -/
theorem drained {received : List WorkerCommand}
    (hrun : workerSession.Run (rec ++ [(.drainInput received, ())]) (s, r)) :
    s.phase = .active ∧ s.worker.pendingControl = [] ∧ s.worker.pendingInput = [] := by
  obtain ⟨⟨before, _⟩, ⟨after, _⟩, -, hstep, hrest⟩ := hrun.split_at
  obtain ⟨hnext, -⟩ := workerSession_step.mp hstep
  obtain ⟨-, rfl⟩ := Option.ite_some_none_eq_some.mp hnext
  cases hrest.eq_of_nil
  obtain ⟨-, -, -, hcontrol, hinput⟩ := before.active.drainInput_spec received
  exact ⟨rfl, hcontrol, hinput⟩

/-- **Suppression survives.** Whenever an active session has drained its commands, its
server's display state is the one asked for last since the worker started. -/
theorem suppression_survives {received : List WorkerCommand}
    (hrun : workerSession.Run (rec ++ [(.drainInput received, ())]) (s, r)) :
    s.active.told = (lastToggle (controls r.history)).getD true := by
  have hi := carried_run hrun
  obtain ⟨hphase, hcontrol, -⟩ := drained hrun
  have houtgoing := hi.outgoing (by simp [hphase]) (by simp [hphase])
  rw [Active.outgoing, show s.active.worker.pendingControl = [] from hcontrol, List.append_nil]
    at houtgoing
  exact houtgoing.trans hi.wanted

/-- A suppression buffered while the first attempt connects, which the server hands off. -/
def handedOff : List SessionAction :=
  [.drain [.control (.suppressOutput true), .control (.suppressOutput false)], .handoff, .activate]

theorem handedOff_accepted :
    (workerSession.exec workerSession.init (handedOff ++ [.drainInput []])).isSome := by
  decide

/-- The second session's server learns of it in the first drain. -/
theorem suppression_survives_handoff : ∃ rec s r,
    workerSession.Run (rec ++ [(.drainInput [], ())]) (s, r) ∧
      s.active.wire = [.control (.suppressOutput false)] ∧
      s.active.told = (lastToggle (controls r.history)).getD true := by
  have hrun : workerSession.Run
      ((handedOff.map fun action => (action, ())) ++ [(.drainInput [], ())]) (_, _) :=
    Machine.run_of_exec _ handedOff_accepted
  exact ⟨_, _, _, hrun, by decide, suppression_survives hrun⟩

end Lgnome.Worker
