import Lgnome.Transition.Channel
import Lgnome.Transition.Machine
import Lgnome.Worker.Drain

/-!
# Backpressure on the worker's channel

The C side's calls put commands on a bounded channel that the worker's drains empty.
At a full channel a pointer move or a wake-up is shed and every other command waits
for room. Pointer positions travel with moves, buttons and the wheel.
-/
namespace Lgnome.Worker

open Lgnome.Transition

def inputQueueDepth : Nat := 1024

/-- What `enqueue_command` drops at a full channel. -/
def WorkerCommand.isShed : WorkerCommand → Bool
  | .input (.pointerMove _ _) => true
  | .mediaReady => true
  | _ => false

/-- Where a command puts the pointer. -/
def WorkerCommand.position? : WorkerCommand → Option (UInt16 × UInt16)
  | .input (.pointerMove x y) => some (x, y)
  | .input (.pointerButton x y _ _) => some (x, y)
  | .input (.pointerWheel x y _) => some (x, y)
  | _ => none

def lastPosition (commands : List WorkerCommand) : Option (UInt16 × UInt16) :=
  (commands.filterMap WorkerCommand.position?).getLast?

/-- The commands that must arrive. The stop that ends the session is not one of them. -/
def kept (commands : List WorkerCommand) : List WorkerCommand :=
  commands.filter fun command => !command.isShed && !command.isStop

/-- The commands but for the wake-ups, which other threads than the input's submit as well. -/
def asked (commands : List WorkerCommand) : List WorkerCommand :=
  commands.filter fun command => command ≠ .mediaReady

abbrev CommandChannel := BoundedChannel WorkerCommand inputQueueDepth

/-- The session handle: its channel, and whether `rdp_session_stop` was called. -/
structure RdpSession where
  channel : CommandChannel
  stopping : Bool

/-- One step at the channel, by the C side's input thread, by any thread that wakes
the worker, by the worker's drains or by its end. -/
inductive ChannelAction
  | enqueueCommand (command : WorkerCommand)
  | proceed
  | wake
  | sessionStop
  | tryRecv
  | workerExit
  deriving DecidableEq, Repr

/-- What became of the command of a step. -/
inductive ChannelSeen
  | sent (command : WorkerCommand)
  | shed (command : WorkerCommand)
  | waits (command : WorkerCommand)
  | disconnected
  | stopSent
  | delivered (command : WorkerCommand)
  | exited
  deriving DecidableEq, Repr

namespace RdpSession

def new : RdpSession where
  channel := .empty
  stopping := false

/-- `enqueue_command`. Only what may be shed does not wait for room. -/
def enqueueCommand (session : RdpSession) (command : WorkerCommand) : RdpSession × ChannelSeen :=
  match session.channel.trySend command with
  | (channel, .sent) => ({ session with channel }, .sent command)
  | (_, .disconnected) => (session, .disconnected)
  | (_, .full) =>
    if command.isShed then (session, .shed command)
    else ({ session with channel := session.channel.wait command }, .waits command)

/-- The end of `rdp_session_stop`'s use of the channel: its stop is not waited for. -/
def sessionStop (session : RdpSession) : RdpSession × ChannelSeen :=
  ({ channel := (session.channel.trySend .stop).1, stopping := true }, .stopSent)

/-- A sender that waits does nothing else, and nothing is enqueued on a stopped session. -/
def step (session : RdpSession) : ChannelAction → Option (RdpSession × ChannelSeen)
  | .enqueueCommand command =>
    if session.stopping = false ∧ session.channel.waiting = none ∧ command.isStop = false then
      some (session.enqueueCommand command)
    else none
  | .proceed =>
    session.channel.proceed.map fun r => ({ session with channel := r.1 }, .sent r.2)
  | .wake => if session.stopping then none else some (session.enqueueCommand .mediaReady)
  | .sessionStop =>
    if session.stopping = false ∧ session.channel.waiting = none then some session.sessionStop
    else none
  | .tryRecv =>
    if session.channel.connected then
      session.channel.tryRecv.map fun r => ({ session with channel := r.1 }, .delivered r.2)
    else none
  | .workerExit =>
    if session.channel.connected then
      some ({ session with channel := session.channel.disconnect }, .exited)
    else none

end RdpSession

/-- A call to a living worker is on record, whatever becomes of it. -/
def ChannelAction.calls (session : RdpSession) : ChannelAction → List WorkerCommand
  | .enqueueCommand command => if session.channel.connected then [command] else []
  | _ => []

/-- The commands that were called for while the worker lived, those whose call has returned by
then, and those the worker took. -/
structure Traffic where
  called : List WorkerCommand
  submitted : List WorkerCommand
  delivered : List WorkerCommand
  deriving DecidableEq, Repr

namespace Traffic

def empty : Traffic := ⟨[], [], []⟩

def update (traffic : Traffic) (session : RdpSession) (action : ChannelAction) (_ : RdpSession)
    (seen : ChannelSeen) : Traffic :=
  let called := traffic.called ++ action.calls session
  match seen with
  | .sent command => { traffic with called, submitted := traffic.submitted ++ [command] }
  | .shed command => { traffic with called, submitted := traffic.submitted ++ [command] }
  | .delivered command => { traffic with called, delivered := traffic.delivered ++ [command] }
  | _ => { traffic with called }

end Traffic

def commandChannel : Machine (RdpSession × Traffic) ChannelAction ChannelSeen :=
  (Machine.mk RdpSession.new RdpSession.step).withGhost .empty Traffic.update

/-- What the worker has taken or will find, oldest first. -/
def stream (s : RdpSession × Traffic) : List WorkerCommand :=
  s.2.delivered ++ s.1.channel.queue

/-- A move that a full channel sheds does not change the pointer's position. -/
def KeepsPosition (s : RdpSession × Traffic) : ChannelAction → Prop
  | .enqueueCommand command =>
    command.isShed = true → s.1.channel.connected = true →
      s.1.channel.queue.length = inputQueueDepth →
        command.position? = none ∨ lastPosition s.2.submitted = command.position?
  | _ => True

instance (s : RdpSession × Traffic) : ∀ action, Decidable (KeepsPosition s action)
  | .enqueueCommand _ => inferInstanceAs (Decidable (_ → _ → _ → _))
  | .proceed | .wake | .sessionStop | .tryRecv | .workerExit => inferInstanceAs (Decidable True)

def steadyChannel : Machine (RdpSession × Traffic) ChannelAction ChannelSeen :=
  commandChannel.restrict KeepsPosition

/-- All that a step can do to the stream and to what was submitted. -/
inductive Carries (s : RdpSession × Traffic) (action : ChannelAction) (t : RdpSession × Traffic) :
    Prop
  | quiet : stream t = stream s → t.2.submitted = s.2.submitted → Carries s action t
  | sent (command : WorkerCommand) : stream t = stream s ++ [command] →
      t.2.submitted = s.2.submitted ++ [command] → Carries s action t
  | shed (command : WorkerCommand) : command.isShed = true → stream t = stream s →
      t.2.submitted = s.2.submitted ++ [command] → s.1.channel.connected = true →
      s.1.channel.queue.length = inputQueueDepth →
      action = .enqueueCommand command ∨ command = .mediaReady → Carries s action t
  | stopped : stream t = stream s ++ [.stop] → t.2.submitted = s.2.submitted → Carries s action t

section Steps

variable {s t : RdpSession × Traffic} {action : ChannelAction} {seen : ChannelSeen}

theorem commandChannel_step :
    commandChannel.step s action = some (t, seen) ↔
      s.1.step action = some (t.1, seen) ∧ t.2 = s.2.update s.1 action t.1 seen := by
  rw [commandChannel, Machine.withGhost_step]

theorem carries_enqueue {session after : RdpSession} {traffic : Traffic} {command : WorkerCommand}
    (haction : action = .enqueueCommand command ∨ command = .mediaReady)
    (h : session.enqueueCommand command = (after, seen)) :
    Carries (session, traffic) action (after, traffic.update session action after seen) := by
  unfold RdpSession.enqueueCommand at h
  rcases session.channel.trySend_cases command with ⟨-, hsend⟩ | ⟨-, hroom, hsend⟩ |
    ⟨hconnected, hfull, hsend⟩
  · rw [hsend] at h
    obtain ⟨rfl, rfl⟩ := Prod.mk.inj h
    exact .quiet rfl rfl
  · rw [hsend] at h
    obtain ⟨rfl, rfl⟩ := Prod.mk.inj h
    exact .sent command (List.append_assoc ..).symm rfl
  · rw [hsend] at h
    dsimp only at h
    split at h
    · rename_i hshed
      obtain ⟨rfl, rfl⟩ := Prod.mk.inj h
      exact .shed command hshed rfl rfl hconnected hfull haction
    · obtain ⟨rfl, rfl⟩ := Prod.mk.inj h
      exact .quiet rfl rfl

theorem carries_sessionStop {session : RdpSession} {traffic : Traffic} :
    Carries (session, traffic) action (session.sessionStop.1,
      traffic.update session action session.sessionStop.1 .stopSent) := by
  unfold RdpSession.sessionStop
  rcases session.channel.trySend_cases .stop with ⟨-, hsend⟩ | ⟨-, hroom, hsend⟩ |
    ⟨-, -, hsend⟩
  · rw [hsend]
    exact .quiet rfl rfl
  · rw [hsend]
    exact .stopped (List.append_assoc ..).symm rfl
  · rw [hsend]
    exact .quiet rfl rfl

theorem carries_step (hstep : commandChannel.step s action = some (t, seen)) :
    Carries s action t := by
  obtain ⟨session, traffic⟩ := s
  obtain ⟨after, traffic'⟩ := t
  obtain ⟨hnext, htraffic⟩ := commandChannel_step.mp hstep
  dsimp only at hnext htraffic
  subst htraffic
  cases action with
  | enqueueCommand command => exact carries_enqueue (.inl rfl) (Option.ite_some_none_eq_some.mp hnext).2
  | proceed =>
    obtain ⟨⟨channel, command⟩, hproceed, hresult⟩ := Option.map_eq_some_iff.mp hnext
    obtain ⟨rfl, rfl⟩ := Prod.mk.inj hresult
    obtain ⟨-, -, hqueue, -⟩ := BoundedChannel.proceed_cases hproceed
    refine .sent command ?_ rfl
    show traffic.delivered ++ channel.queue = traffic.delivered ++ session.channel.queue ++ [command]
    rw [hqueue, List.append_assoc]
  | wake =>
    unfold RdpSession.step at hnext
    dsimp only at hnext
    split at hnext
    · cases hnext
    · exact carries_enqueue (.inr rfl) (Option.some.inj hnext)
  | sessionStop =>
    obtain ⟨-, hresult⟩ := Option.ite_some_none_eq_some.mp hnext
    obtain ⟨rfl, rfl⟩ := Prod.mk.inj hresult
    exact carries_sessionStop
  | tryRecv =>
    unfold RdpSession.step at hnext
    dsimp only at hnext
    split at hnext
    · obtain ⟨⟨channel, command⟩, hrecv, hresult⟩ := Option.map_eq_some_iff.mp hnext
      obtain ⟨rfl, rfl⟩ := Prod.mk.inj hresult
      obtain ⟨hqueue, -, -⟩ := BoundedChannel.tryRecv_cases hrecv
      refine .quiet ?_ rfl
      show traffic.delivered ++ [command] ++ channel.queue
        = traffic.delivered ++ session.channel.queue
      rw [hqueue, List.append_assoc, List.singleton_append]
    · cases hnext
  | workerExit =>
    obtain ⟨-, hresult⟩ := Option.ite_some_none_eq_some.mp hnext
    obtain ⟨rfl, rfl⟩ := Prod.mk.inj hresult
    exact .quiet rfl rfl

end Steps

section Runs

variable {rec : List (ChannelAction × ChannelSeen)} {s t : RdpSession × Traffic}

theorem kept_append (commands more : List WorkerCommand) :
    kept (commands ++ more) = kept commands ++ kept more :=
  List.filter_append ..

theorem kept_shed {command : WorkerCommand} (h : command.isShed = true) : kept [command] = [] := by
  simp [kept, h]

theorem lastPosition_append (commands : List WorkerCommand) (command : WorkerCommand) :
    lastPosition (commands ++ [command]) = command.position?.or (lastPosition commands) := by
  unfold lastPosition
  rw [List.filterMap_append, List.getLast?_append]
  cases hposition : command.position? <;> simp [hposition]

/-- Every call to the living worker has returned, or its sender waits; the end of the worker turns
that sender away. -/
structure Accounted (held : List WorkerCommand) (s : RdpSession × Traffic) : Prop where
  calls : asked s.2.called = asked (s.2.submitted ++ held)
  waiting : s.1.channel.connected = true → held = s.1.channel.waiting.toList
  one : held.length ≤ 1
  connected : s.1.channel.waiting.isSome → s.1.channel.connected = true

theorem asked_append (commands more : List WorkerCommand) :
    asked (commands ++ more) = asked commands ++ asked more := List.filter_append ..

theorem accounted_enqueue {session after : RdpSession} {traffic : Traffic}
    {command : WorkerCommand} {held : List WorkerCommand} {action : ChannelAction}
    {seen : ChannelSeen} (h : Accounted held (session, traffic))
    (haction : action = .enqueueCommand command ∧ session.channel.waiting = none ∨
      action = .wake ∧ command = .mediaReady)
    (hstep : session.enqueueCommand command = (after, seen)) :
    ∃ held', Accounted held' (after, traffic.update session action after seen) := by
  -- Only one sender waits, and a wake-up is not counted.
  have hcalls : session.channel.connected = true →
      asked (traffic.called ++ action.calls session) = asked traffic.called ++ asked [command] := by
    intro hconnected
    rw [asked_append]
    rcases haction with ⟨rfl, -⟩ | ⟨rfl, rfl⟩
    · rw [ChannelAction.calls, if_pos hconnected]
    · rfl
  have hpast : session.channel.connected = true → asked held ++ asked [command] =
      asked [command] ++ asked held := by
    intro hconnected
    rcases haction with ⟨-, hnone⟩ | ⟨-, rfl⟩
    · have hheld : held = [] := by rw [h.waiting hconnected, hnone]; rfl
      rw [hheld]
      exact (List.append_nil _).symm
    · exact List.append_nil _
  have hreturned : session.channel.connected = true →
      asked (traffic.called ++ action.calls session) =
        asked (traffic.submitted ++ [command] ++ held) := by
    intro hconnected
    rw [hcalls hconnected, h.calls, asked_append, asked_append, asked_append, List.append_assoc,
      hpast hconnected, List.append_assoc]
  unfold RdpSession.enqueueCommand at hstep
  rcases session.channel.trySend_cases command with ⟨hoff, hsend⟩ | ⟨hconnected, hroom, hsend⟩ |
    ⟨hconnected, hfull, hsend⟩
  · rw [hsend] at hstep
    obtain ⟨rfl, rfl⟩ := Prod.mk.inj hstep
    have hquiet : action.calls session = [] := by
      rcases haction with ⟨rfl, -⟩ | ⟨rfl, -⟩
      · rw [ChannelAction.calls, hoff]
        rfl
      · rfl
    refine ⟨held, ?_, h.waiting, h.one, h.connected⟩
    show asked (traffic.called ++ action.calls session) = asked (traffic.submitted ++ held)
    rw [hquiet, List.append_nil]
    exact h.calls
  · rw [hsend] at hstep
    obtain ⟨rfl, rfl⟩ := Prod.mk.inj hstep
    exact ⟨held, hreturned hconnected, h.waiting, h.one, h.connected⟩
  · rw [hsend] at hstep
    dsimp only at hstep
    split at hstep
    · obtain ⟨rfl, rfl⟩ := Prod.mk.inj hstep
      exact ⟨held, hreturned hconnected, h.waiting, h.one, h.connected⟩
    · rename_i hshed
      obtain ⟨rfl, rfl⟩ := Prod.mk.inj hstep
      have hnone : session.channel.waiting = none := by
        rcases haction with ⟨-, hnone⟩ | ⟨-, rfl⟩
        · exact hnone
        · exact absurd rfl hshed
      have hheld : held = [] := by rw [h.waiting hconnected, hnone]; rfl
      refine ⟨[command], ?_, fun _ => rfl, le_refl _, fun _ => hconnected⟩
      show asked (traffic.called ++ action.calls session) = asked (traffic.submitted ++ [command])
      rw [hreturned hconnected, hheld, List.append_nil]

theorem accounted_step {s t : RdpSession × Traffic} {action : ChannelAction} {seen : ChannelSeen}
    {held : List WorkerCommand} (h : Accounted held s)
    (hstep : commandChannel.step s action = some (t, seen)) : ∃ held', Accounted held' t := by
  obtain ⟨session, traffic⟩ := s
  obtain ⟨after, traffic'⟩ := t
  obtain ⟨hnext, htraffic⟩ := commandChannel_step.mp hstep
  dsimp only at hnext htraffic
  subst htraffic
  have hsame : ∀ more : List WorkerCommand, more = [] →
      asked (traffic.called ++ more) = asked (traffic.submitted ++ held) := by
    rintro _ rfl
    rw [List.append_nil]
    exact h.calls
  cases action with
  | enqueueCommand command =>
    obtain ⟨⟨-, hnone, -⟩, hresult⟩ := Option.ite_some_none_eq_some.mp hnext
    exact accounted_enqueue h (.inl ⟨rfl, hnone⟩) hresult
  | proceed =>
    obtain ⟨⟨channel, command⟩, hproceed, hresult⟩ := Option.map_eq_some_iff.mp hnext
    obtain ⟨rfl, rfl⟩ := Prod.mk.inj hresult
    obtain ⟨hwaiting, hnone, -, hconnection⟩ := BoundedChannel.proceed_cases hproceed
    have hconnected : session.channel.connected = true := h.connected (by
      show session.channel.waiting.isSome
      rw [hwaiting]
      rfl)
    have hheld : held = [command] := by
      rw [h.waiting hconnected, show session.channel.waiting = some command from hwaiting]
      rfl
    refine ⟨[], ?_, fun _ => by rw [hnone]; rfl, Nat.zero_le _, fun _ => hconnection.trans hconnected⟩
    have hreturned := hsame [] rfl
    rw [hheld] at hreturned
    rw [List.append_nil]
    exact hreturned
  | wake =>
    unfold RdpSession.step at hnext
    dsimp only at hnext
    split at hnext
    · cases hnext
    · exact accounted_enqueue h (.inr ⟨rfl, rfl⟩) (Option.some.inj hnext)
  | sessionStop =>
    obtain ⟨-, hresult⟩ := Option.ite_some_none_eq_some.mp hnext
    obtain ⟨rfl, rfl⟩ := Prod.mk.inj hresult
    refine ⟨held, hsame _ rfl, ?_, h.one, ?_⟩ <;>
      rcases session.channel.trySend_cases .stop with ⟨-, hsend⟩ | ⟨-, hroom, hsend⟩ |
        ⟨-, -, hsend⟩ <;> simp only [hsend]
    · exact h.waiting
    · exact h.waiting
    · exact h.waiting
    · exact h.connected
    · exact h.connected
    · exact h.connected
  | tryRecv =>
    unfold RdpSession.step at hnext
    dsimp only at hnext
    split at hnext
    · obtain ⟨⟨channel, command⟩, hrecv, hresult⟩ := Option.map_eq_some_iff.mp hnext
      obtain ⟨rfl, rfl⟩ := Prod.mk.inj hresult
      obtain ⟨-, hwaiting, hconnection⟩ := BoundedChannel.tryRecv_cases hrecv
      refine ⟨held, hsame _ rfl, ?_, h.one, ?_⟩
      · rw [hwaiting, hconnection]
        exact h.waiting
      · rw [hwaiting, hconnection]
        exact h.connected
    · cases hnext
  | workerExit =>
    obtain ⟨-, hresult⟩ := Option.ite_some_none_eq_some.mp hnext
    obtain ⟨rfl, rfl⟩ := Prod.mk.inj hresult
    refine ⟨held, hsame _ rfl, fun hconnected => ?_, h.one, fun hwaiting => ?_⟩
    · cases hconnected
    · cases hwaiting

theorem accounted_run (hrun : commandChannel.Run rec s) : ∃ held, Accounted held s := by
  refine hrun.invariant (I := fun s => ∃ held, Accounted held s) ?_ ?_
  · exact ⟨[], rfl, fun _ => rfl, Nat.zero_le _, nofun⟩
  · rintro s action t seen ⟨held, h⟩ hstep
    exact accounted_step h hstep

/-- Every command that may not be shed is in the stream, in order and once. -/
theorem kept_run (hrun : commandChannel.Run rec s) : kept (stream s) = kept s.2.submitted := by
  refine hrun.invariant (I := fun s => kept (stream s) = kept s.2.submitted) rfl ?_
  intro s action t seen hi hstep
  cases carries_step hstep with
  | quiet hstream hsubmitted => rw [hstream, hsubmitted, hi]
  | sent command hstream hsubmitted => rw [hstream, hsubmitted, kept_append, kept_append, hi]
  | shed command hshed hstream hsubmitted =>
    rw [hstream, hsubmitted, kept_append, kept_shed hshed, List.append_nil, hi]
  | stopped hstream hsubmitted =>
    rw [hstream, hsubmitted, kept_append, hi]
    exact List.append_nil _

theorem position_run (hrun : steadyChannel.Run rec s) :
    lastPosition (stream s) = lastPosition s.2.submitted := by
  refine hrun.invariant (I := fun s => lastPosition (stream s) = lastPosition s.2.submitted) rfl ?_
  intro s action t seen hi hstep
  obtain ⟨hkeeps, hchannel⟩ := Machine.restrict_step.mp hstep
  cases carries_step hchannel with
  | quiet hstream hsubmitted => rw [hstream, hsubmitted, hi]
  | sent command hstream hsubmitted =>
    rw [hstream, hsubmitted, lastPosition_append, lastPosition_append, hi]
  | shed command hshed hstream hsubmitted hconnected hfull haction =>
    rw [hstream, hsubmitted, lastPosition_append, hi]
    rcases haction with rfl | rfl
    · rcases hkeeps hshed hconnected hfull with hnone | hsame
      · rw [hnone]
        rfl
      · rw [← hsame]
        cases lastPosition s.2.submitted <;> rfl
    · rfl
  | stopped hstream hsubmitted =>
    rw [hstream, hsubmitted, lastPosition_append, hi]
    rfl

theorem steadyChannel_tryRecv {command : WorkerCommand} {rest : List WorkerCommand}
    (hconnected : s.1.channel.connected = true) (hqueue : s.1.channel.queue = command :: rest) :
    ∃ t, steadyChannel.step s .tryRecv = some (t, .delivered command) ∧
      t.1.channel.queue = rest ∧ t.1.channel.waiting = s.1.channel.waiting ∧
      t.1.channel.connected = true ∧ t.2.submitted = s.2.submitted := by
  obtain ⟨channel, hrecv⟩ := BoundedChannel.tryRecv_isSome hqueue
  obtain ⟨hcons, hwaiting, hconnection⟩ := BoundedChannel.tryRecv_cases hrecv
  have hrest : channel.queue = rest := (List.cons.inj (hcons.symm.trans hqueue)).2
  refine ⟨({ s.1 with channel }, s.2.update s.1 .tryRecv s.1 (.delivered command)),
    Machine.restrict_step.mpr ⟨trivial, commandChannel_step.mpr ⟨?_, rfl⟩⟩, hrest, hwaiting,
    hconnection.trans hconnected, rfl⟩
  simp [RdpSession.step, hconnected, hrecv]

theorem steadyChannel_proceed {command : WorkerCommand} (hqueue : s.1.channel.queue = [])
    (hwaiting : s.1.channel.waiting = some command) :
    ∃ t, steadyChannel.step s .proceed = some (t, .sent command) ∧
      t.1.channel.queue = [command] ∧ t.1.channel.waiting = none ∧
      t.1.channel.connected = s.1.channel.connected ∧
      t.2.submitted = s.2.submitted ++ [command] := by
  have hroom : s.1.channel.queue.length < inputQueueDepth := by
    rw [hqueue]
    decide
  obtain ⟨channel, hproceed⟩ := BoundedChannel.proceed_isSome hwaiting hroom
  obtain ⟨-, hnone, happend, hconnection⟩ := BoundedChannel.proceed_cases hproceed
  refine ⟨({ s.1 with channel }, s.2.update s.1 .proceed s.1 (.sent command)),
    Machine.restrict_step.mpr ⟨trivial, commandChannel_step.mpr ⟨?_, rfl⟩⟩,
    by rw [happend, hqueue]; rfl, hnone, hconnection, rfl⟩
  simp [RdpSession.step, hproceed]

/-- A worker that goes on receiving empties its channel. -/
theorem received_all (queue : List WorkerCommand) (s : RdpSession × Traffic)
    (hconnected : s.1.channel.connected = true) (hqueue : s.1.channel.queue = queue) :
    ∃ rec t, steadyChannel.Path s rec t ∧ (∀ x ∈ rec, x.1 = .tryRecv) ∧
      t.1.channel.queue = [] ∧ t.1.channel.waiting = s.1.channel.waiting ∧
      t.1.channel.connected = true ∧ t.2.submitted = s.2.submitted := by
  induction queue generalizing s with
  | nil => exact ⟨[], s, .refl s, by simp, hqueue, rfl, hconnected, rfl⟩
  | cons command rest ih =>
    obtain ⟨t, hstep, hrest, hwaiting, hconnection, hsubmitted⟩ :=
      steadyChannel_tryRecv hconnected hqueue
    obtain ⟨rec, u, hpath, hall, hempty, hwaiting', hconnection', hsubmitted'⟩ :=
      ih t hconnection hrest
    refine ⟨(.tryRecv, .delivered command) :: rec, u, .cons hstep hpath, ?_, hempty,
      hwaiting'.trans hwaiting, hconnection', hsubmitted'.trans hsubmitted⟩
    intro x hx
    rcases List.mem_cons.mp hx with rfl | hx
    · rfl
    · exact hall x hx

/-- Nothing but the worker's receiving is needed to deliver all that was called for. -/
theorem delivered_all (hconnected : s.1.channel.connected = true) :
    ∃ rec t, steadyChannel.Path s rec t ∧ (∀ x ∈ rec, x.1 = .tryRecv ∨ x.1 = .proceed) ∧
      t.1.channel.queue = [] ∧ t.1.channel.waiting = none ∧
      t.2.submitted = s.2.submitted ++ s.1.channel.waiting.toList := by
  obtain ⟨rec, t, hpath, hall, hempty, hwaiting, hconnection, hsubmitted⟩ :=
    received_all s.1.channel.queue s hconnected rfl
  cases hcall : s.1.channel.waiting with
  | none =>
    refine ⟨rec, t, hpath, fun x hx => .inl (hall x hx), hempty, hwaiting.trans hcall, ?_⟩
    simp [hsubmitted]
  | some command =>
    obtain ⟨u, hproceed, hone, hnone, hconnection', hsubmitted'⟩ :=
      steadyChannel_proceed hempty (hwaiting.trans hcall)
    obtain ⟨v, hrecv, hrest, hwaiting', -, hsubmitted''⟩ :=
      steadyChannel_tryRecv (hconnection'.trans hconnection) hone
    refine ⟨rec ++ [(.proceed, .sent command)] ++ [(.tryRecv, .delivered command)], v,
      .snoc (.snoc hpath hproceed) hrecv, ?_, hrest, hwaiting'.trans hnone, ?_⟩
    · intro x hx
      simp only [List.mem_append, List.mem_singleton] at hx
      rcases hx with (hx | rfl) | rfl
      · exact .inl (hall x hx)
      · exact .inr rfl
      · exact .inl rfl
    · rw [hsubmitted'', hsubmitted', hsubmitted]
      rfl

/-- **Backpressure.** In a run whose shed moves all repeat the pointer's position: every call to
the living worker has returned, but for that of a sender that waits or was turned away by the
worker's end; what the worker took and will find are all commands that must arrive, in order and
once; the pointer is where the last command put it; and a worker that goes on receiving takes
every one of them, a waiting sender's too. -/
theorem command_backpressure (hrun : steadyChannel.Run rec s) :
    (∃ held, asked s.2.called = asked (s.2.submitted ++ held) ∧ held.length ≤ 1 ∧
      (s.1.channel.connected = true → held = s.1.channel.waiting.toList)) ∧
    kept s.2.delivered ++ kept s.1.channel.queue = kept s.2.submitted ∧
    lastPosition (s.2.delivered ++ s.1.channel.queue) = lastPosition s.2.submitted ∧
    (s.1.channel.connected = true →
      ∃ rec' t, steadyChannel.Path s rec' t ∧ (∀ x ∈ rec', x.1 = .tryRecv ∨ x.1 = .proceed) ∧
        kept t.2.delivered = kept (s.2.submitted ++ s.1.channel.waiting.toList)) := by
  refine ⟨?_, ?_, position_run hrun, ?_⟩
  · obtain ⟨held, h⟩ := accounted_run hrun.of_restrict
    exact ⟨held, h.calls, h.one, h.waiting⟩
  · rw [← kept_append]
    exact kept_run hrun.of_restrict
  · intro hconnected
    obtain ⟨rec', t, hpath, hall, hempty, -, hsubmitted⟩ := delivered_all hconnected
    refine ⟨rec', t, hpath, hall, ?_⟩
    have hkept := kept_run (hrun.append hpath).of_restrict
    rw [stream, hempty, List.append_nil, hsubmitted] at hkept
    exact hkept

end Runs

/-- A click and a move after it, received. -/
def clicked : List ChannelAction :=
  [.enqueueCommand (.input (.pointerButton 5 5 1 true)), .wake,
    .enqueueCommand (.input (.pointerMove 6 7)), .tryRecv]

theorem clicked_accepted : (steadyChannel.exec steadyChannel.init clicked).isSome := by
  decide

theorem command_backpressure_clicked : ∃ rec s, steadyChannel.Run rec s ∧
    s.2.called = [.input (.pointerButton 5 5 1 true), .input (.pointerMove 6 7)] ∧
    s.2.delivered = [.input (.pointerButton 5 5 1 true)] ∧
    lastPosition (s.2.delivered ++ s.1.channel.queue) = some (6, 7) := by
  have hrun := Machine.run_of_exec clicked clicked_accepted
  exact ⟨_, _, hrun, by decide, by decide, (command_backpressure hrun).2.2.1.trans (by decide)⟩

/-- Wake-ups fill the channel of a worker that does not drain it. -/
theorem woken (count : Nat) (hcount : count ≤ inputQueueDepth) : ∃ rec s,
    commandChannel.Run rec s ∧ s.1.stopping = false ∧ s.1.channel.waiting = none ∧
      s.1.channel.connected = true ∧ s.1.channel.queue.length = count ∧
      lastPosition (stream s) = none := by
  induction count with
  | zero => exact ⟨[], _, .refl _, rfl, rfl, rfl, rfl, rfl⟩
  | succ count ih =>
    obtain ⟨rec, s, hrun, hstopping, hwaiting, hconnected, hlength, hposition⟩ := ih (by omega)
    have hroom : s.1.channel.queue.length < inputQueueDepth := by omega
    have hstep : commandChannel.step s .wake
        = some (({ s.1 with channel := s.1.channel.push .mediaReady hroom },
          s.2.update s.1 .wake s.1 (.sent .mediaReady)), .sent .mediaReady) := by
      refine commandChannel_step.mpr ⟨?_, rfl⟩
      have hsend := BoundedChannel.trySend_room hconnected hroom .mediaReady
      simp [RdpSession.step, RdpSession.enqueueCommand, hstopping, hsend]
    refine ⟨_, _, .snoc hrun hstep, hstopping, hwaiting, hconnected, ?_, ?_⟩
    · show (s.1.channel.queue ++ [WorkerCommand.mediaReady]).length = count + 1
      rw [List.length_append, List.length_singleton, hlength]
    · show lastPosition (s.2.delivered ++ (s.1.channel.queue ++ [.mediaReady])) = none
      rw [← List.append_assoc, lastPosition_append]
      exact hposition

/-- A move into the full channel is shed, and with it the only position submitted. -/
theorem last_move_shed : ∃ rec s, commandChannel.Run rec s ∧ s.1.channel.connected = true ∧
    lastPosition s.2.submitted = some (6, 7) ∧
    lastPosition (s.2.delivered ++ s.1.channel.queue) = none := by
  obtain ⟨rec, s, hrun, hstopping, hwaiting, hconnected, hlength, hposition⟩ :=
    woken inputQueueDepth (Nat.le_refl _)
  have hstep : commandChannel.step s (.enqueueCommand (.input (.pointerMove 6 7)))
      = some ((s.1, s.2.update s.1 (.enqueueCommand (.input (.pointerMove 6 7))) s.1
          (.shed (.input (.pointerMove 6 7)))), .shed (.input (.pointerMove 6 7))) := by
    have hsend := BoundedChannel.trySend_full hconnected hlength (.input (.pointerMove 6 7))
    refine commandChannel_step.mpr ⟨?_, ?_⟩
    · show (if _ then _ else _) = _
      rw [if_pos ⟨hstopping, hwaiting, rfl⟩]
      unfold RdpSession.enqueueCommand
      rw [hsend]
      rfl
    · rfl
  refine ⟨_, _, .snoc hrun hstep, hconnected, ?_, hposition⟩
  show lastPosition (s.2.submitted ++ [.input (.pointerMove 6 7)]) = some (6, 7)
  rw [lastPosition_append]
  rfl

end Lgnome.Worker
