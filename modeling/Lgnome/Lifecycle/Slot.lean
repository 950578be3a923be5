import Lgnome.Worker.Errors
import Lgnome.Transition.Parties

/-!
# A slot and its connections

A slot's worker reports how its session goes, from its own thread. The SDL thread
connects the slot, reports what it finds out itself, looks for sessions that have
ended and joins their workers. Both write the slot's atomics, one at a time, and
the rest of the app may quit meanwhile.
-/
namespace Lgnome.Lifecycle

open Lgnome.Native
open Lgnome.Worker (Failure NativeError)
open Lgnome.Transition (Prog)

inductive Party
  | worker
  | sdl
  | others
  deriving DecidableEq, Repr

/-- The worker's thread, which is gone once it has been joined. -/
inductive WorkerThread
  | none
  | spawned
  | running
  deriving DecidableEq, Repr

/-- The report that was first on a connection, with what the worker had reported by then. -/
structure Claim where
  claimant : Party
  state : RdpState
  reason : RdpDisconnectReason
  emitted : List RdpState
  deriving DecidableEq, Repr

/-- The atomics of a connection, its worker's thread and stop flag. What the worker has emitted,
how each of its attempts ended, the first report and whether the connection continues a session
are kept for the observer. -/
structure Connection where
  currentState : RdpState := .idle
  terminalState : RdpState := .idle
  terminalReason : RdpDisconnectReason := .none
  reconnecting : Bool := false
  wasActive : Bool := false
  sessionFailed : Bool := false
  thread : WorkerThread := .none
  stop : Bool := false
  emitted : List RdpState := []
  outcomes : List (Option NativeError) := []
  claim : Option Claim := none
  inherited : Bool := false
  deriving DecidableEq, Repr

/-- What the HUB was told of a connection's end, beside the first report on it by then. -/
structure Presented where
  ui : PreconnectSessionState
  reason : RdpDisconnectReason
  detail : String
  claim : Option Claim
  emitted : List RdpState
  inherited : Bool
  deriving DecidableEq, Repr

/-- What only the SDL thread touches: the handle, whether the slot is the active one, and the
HUB's clock for the session. -/
structure Desk where
  rdp : Bool := false
  active : Bool := false
  interactiveUi : Bool := true
  runtimeActive : Bool := false
  presented : List Presented := []
  deriving DecidableEq, Repr

structure State where
  conn : Connection := {}
  desk : Desk := {}
  running : Bool := true
  exitCode : Nat := 0
  deriving DecidableEq, Repr

namespace State

def onConn (f : Connection → Connection) (s : State) : State := { s with conn := f s.conn }

def onDesk (f : Desk → Desk) (s : State) : State := { s with desk := f s.desk }

@[simp] theorem onConn_conn (f : Connection → Connection) (s : State) :
    (s.onConn f).conn = f s.conn := rfl
@[simp] theorem onConn_desk (f : Connection → Connection) (s : State) :
    (s.onConn f).desk = s.desk := rfl
@[simp] theorem onConn_running (f : Connection → Connection) (s : State) :
    (s.onConn f).running = s.running := rfl
@[simp] theorem onDesk_conn (f : Desk → Desk) (s : State) : (s.onDesk f).conn = s.conn := rfl
@[simp] theorem onDesk_desk (f : Desk → Desk) (s : State) : (s.onDesk f).desk = f s.desk := rfl
@[simp] theorem onDesk_running (f : Desk → Desk) (s : State) :
    (s.onDesk f).running = s.running := rfl

/-- The end of the session is flagged for the SDL thread, or the app is about to leave. -/
def Settled (s : State) : Prop := s.conn.sessionFailed ∨ s.running = false

/-- The compare-and-exchange on `terminal_state`. -/
def claim (party : Party) (state : RdpState) (reason : RdpDisconnectReason) (s : State) :
    Bool × State :=
  if s.conn.terminalState = .idle then
    (true, s.onConn fun c =>
      { c with
        terminalState := state
        claim := some { claimant := party, state, reason, emitted := c.emitted } })
  else (false, s)

end State

/-- What a connection phase does next. -/
inductive Round
  /-- It polls for commands, and finds a stop or none. -/
  | poll (received : Bool) (label : String)
  | fail (failure : Failure)
  | done
  deriving DecidableEq, Repr

/-- What the network, the server, the user and the platform answer to a step. -/
structure Answer where
  resolved : Except String Nat := .ok 1
  expired : Bool := false
  /-- A stop is in the command channel, or the channel is closed. -/
  received : Bool := false
  connects : Bool := true
  round : Round := .done
  fails : Option Failure := none
  /-- A video callback cannot show what it is given. -/
  unshowable : Option RdpState := none
  deactivated : Bool := false
  starts : StartResult := .started
  /-- Another session takes the screen. -/
  survivor : Bool := false
  /-- A slot that leaves the screen is to be cached. -/
  snapshotWanted : Bool := false
  exitCode : Nat := 0

abbrev Action : Type → Type 1 := Prog Answer State

/-- The app is left with the exit code of the state, if that has one. -/
def leaveApp (exitCode : Nat) : Action Unit := do
  Prog.when (exitCode ≠ 0) (Prog.store fun s => { s with exitCode })
  Prog.store fun s => { s with running := false }

/-- How a session's end is dealt with: a failure of the shared decoder and the end of the only
session shown end the app, others are left to the SDL thread. -/
def flagEnd (state : RdpState) (exitCode : Nat) : Action Unit := do
  let active ← Prog.load fun s => s.desk.active
  if active && state.isNativeRuntimeFailure then leaveApp exitCode
  else
    let interactiveUi ← Prog.load fun s => s.desk.interactiveUi
    if !active || interactiveUi then
      Prog.store (State.onConn fun c => { c with sessionFailed := true })
    else leaveApp exitCode

/-- `native_slot_report_terminal_reason`. -/
def reportTerminalReason (party : Party) (state : RdpState) (reason : RdpDisconnectReason)
    (exitCode : Nat) : Action Unit := do
  let first ← Prog.act fun _ s => s.claim party state reason
  if first then
    let wasActive ← Prog.load fun s => s.conn.wasActive
    Prog.store (State.onConn fun c =>
      { c with terminalReason := sessionTerminalReason state reason wasActive })
    Prog.store (State.onConn fun c => { c with reconnecting := false })
    flagEnd state exitCode
  else pure ()

/-- The slot's note of a state. -/
def noteState (state : RdpState) : Action Unit := do
  Prog.store (State.onConn fun c => { c with currentState := state })
  if state = .reconnecting then
    Prog.store (State.onConn fun c => { c with reconnecting := true })
  else if state = .active then
    Prog.store (State.onConn fun c => { c with reconnecting := false })
    Prog.store (State.onConn fun c => { c with wasActive := true })
  else pure ()

/-- `native_slot_record_state`. -/
def recordState (party : Party) (state : RdpState) (reason : RdpDisconnectReason) :
    Action Unit := do
  let failed ← Prog.load fun s => s.conn.sessionFailed
  if failed then pure ()
  else
    let terminal ← Prog.load fun s => s.conn.terminalState
    if terminal ≠ .idle then pure ()
    else
      noteState state
      if state.isTerminal then reportTerminalReason party state reason state.exitCode
      else pure ()

/-! ## The SDL thread -/

/-- What the SDL thread finds out itself: a reconnect or a switch that failed, or a canvas that
cannot be drawn. -/
inductive Finding
  | networkError
  | decoderError
  deriving DecidableEq, Repr

def Finding.state : Finding → RdpState
  | networkError => .networkError
  | decoderError => .decoderError

/-- `native_slot_report_terminal`. -/
def reportTerminal (party : Party) (state : RdpState) : Action Unit :=
  reportTerminalReason party state .none state.exitCode

/-- `rdp_session_stop` returns once the worker's thread has ended. -/
def joinWorker : Action Unit :=
  Prog.iterate (fun _ : Unit =>
    Prog.load fun s => if s.conn.thread = .none then .inr () else .inl ()) ()

/-- The session is told to stop, and its handle given up when its worker is gone. -/
def endSession : Action Unit := do
  let rdp ← Prog.load fun s => s.desk.rdp
  if rdp then
    Prog.store (State.onConn fun c => { c with stop := true })
    joinWorker
    Prog.store (State.onDesk fun d => { d with rdp := false })
  else pure ()

/-- `native_stop_slot`. -/
def stopSlot : Action Unit := do
  endSession
  Prog.store (State.onConn fun c => { c with currentState := .idle })
  Prog.store (State.onConn fun c => { c with sessionFailed := false })
  Prog.store (State.onDesk fun d => { d with runtimeActive := false })

/-- `rdp_session_start` with the store of its handle, which only the SDL thread reads. A session
that does not start says so itself. -/
def sessionStart : Action Bool := do
  let starts ← Prog.ask Answer.starts
  match starts.failure with
  | none =>
    Prog.store fun s =>
      (s.onConn fun c => { c with thread := .spawned, stop := false }).onDesk fun d =>
        { d with rdp := true }
    pure true
  | some state =>
    recordState .sdl state .none
    pure false

/-- A connection starts without a report; it continues the session that was running. -/
def renewConnection (logical : Bool) : Action Unit := do
  Prog.store (State.onConn fun c => { c with terminalState := .idle, claim := none })
  Prog.store (State.onConn fun c => { c with terminalReason := .none })
  Prog.store (State.onConn fun c => { c with reconnecting := false })
  Prog.store (State.onConn fun c =>
    { c with wasActive := logical, inherited := logical, emitted := [], outcomes := [] })

/-- `native_slot_connect`. -/
def slotConnect : Action Bool := do
  let logical ← Prog.load fun s => s.desk.runtimeActive
  stopSlot
  renewConnection logical
  let active ← Prog.load fun s => s.desk.active
  Prog.when active (Prog.store fun s => { s with exitCode := 0 })
  let started ← sessionStart
  Prog.when started (Prog.store (State.onDesk fun d => { d with runtimeActive := logical }))
  pure started

/-- `native_slot_connect` with the report of a start that fails. -/
def reconnectSlot : Action Unit := do
  let started ← slotConnect
  if started then pure () else reportTerminal .sdl .networkError

/-- `native_background_slot`, as far as it connects: an active session that no refresh would get a
keyframe from is connected again, unless its server has been silenced. -/
def backgroundSlot : Action Unit := do
  let rdp ← Prog.load fun s => s.desk.rdp
  let snapshotWanted ← Prog.ask Answer.snapshotWanted
  let state ← Prog.load fun s => s.conn.currentState
  Prog.when (rdp ∧ snapshotWanted ∧ state = .active) reconnectSlot

/-- `native_preconnect_ui_set_slot_status`, with what had been reported on the connection. -/
def setSlotStatus (ui : PreconnectSessionState) (reason : RdpDisconnectReason) (detail : String) :
    Action Unit :=
  Prog.store fun s => s.onDesk fun d =>
    { d with
      presented := d.presented ++
        [{ ui, reason, detail
           claim := s.conn.claim, emitted := s.conn.emitted, inherited := s.conn.inherited }] }

/-- The HUB is told of a session's end. -/
def presentEnd : Action Unit := do
  let state ← Prog.load fun s => s.conn.terminalState
  let reason ← Prog.load fun s => s.conn.terminalReason
  let wasActive ← Prog.load fun s => s.conn.wasActive || s.desk.runtimeActive
  let reason := sessionTerminalReason state reason wasActive
  let ui := sessionTerminalUiState state reason
  setSlotStatus ui reason (sessionStatus ui reason).detail

def startError : String := "Connection failed: start failed"

/-- The connect of `native_hub_actions_drain_connect`: a new session, which the HUB is told of if
it cannot be started. -/
def hubConnect : Action Unit := do
  Prog.store (State.onDesk fun d => { d with runtimeActive := false })
  stopSlot
  Prog.store (State.onDesk fun d => { d with active := true })
  let started ← slotConnect
  if started then pure () else setSlotStatus .error .none startError

/-- The screen goes to another session, and the slot with it. -/
def yieldScreen : Action Unit := do
  Prog.store (State.onDesk fun d => { d with active := false })
  backgroundSlot

/-- The slot's turn in `native_session_supervisor_tick`. -/
def supervise : Action Unit := do
  let failed ← Prog.load fun s => s.conn.sessionFailed
  if failed then
    presentEnd
    let active ← Prog.load fun s => s.desk.active
    let survivor ← Prog.ask Answer.survivor
    Prog.when (active ∧ survivor) yieldScreen
    stopSlot
  else pure ()

/-- The slot's turn in `native_hub_runtime_publish`. -/
def publishRuntime : Action Unit := do
  let failed ← Prog.load fun s => s.conn.sessionFailed
  let state ← Prog.load fun s => s.conn.currentState
  Prog.store (State.onDesk fun d =>
    if !d.rdp || failed then { d with runtimeActive := false }
    else if state = .active then { d with runtimeActive := true }
    else d)

/-- What the SDL thread does with a slot. -/
inductive Duty
  | connect
  | reconnect
  | stop
  | supervise
  | publishRuntime
  | report (finding : Finding)
  | show (active : Bool)
  deriving DecidableEq, Repr

def Duty.perform : Duty → Action Unit
  | connect => hubConnect
  | reconnect => reconnectSlot
  | stop => stopSlot
  | supervise => Lifecycle.supervise
  | publishRuntime => Lifecycle.publishRuntime
  | report finding => reportTerminal .sdl finding.state
  | «show» active => Prog.store (State.onDesk fun d => { d with active })

end Lgnome.Lifecycle
