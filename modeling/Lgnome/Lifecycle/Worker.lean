import Lgnome.Lifecycle.Slot

/-!
# The worker's thread

It connects, negotiates, secures and activates a session and serves it, at most
three times. What it reports on the way goes through the slot's callbacks. A stop
is noticed wherever it polls for commands or looks at the flag.
-/
namespace Lgnome.Lifecycle

open Lgnome.Native
open Lgnome.Worker (Failure NativeError maxSessionAttempts)
open Lgnome.Transition (Prog)

/-- `emit_state_reason`, which ends in the slot's `on_state`. -/
def emitState (state : RdpState) (reason : RdpDisconnectReason := .none) : Action Unit := do
  Prog.store (State.onConn fun c => { c with emitted := c.emitted ++ [state] })
  recordState .worker state reason

/-- `drain_commands` as far as it answers whether to stop. -/
def drainCommands (received : Bool) : Action Bool := do
  let stopped ← Prog.load fun s => s.conn.stop
  if stopped then pure true
  else if received then
    Prog.store (State.onConn fun c => { c with stop := true })
    pure true
  else pure false

/-! ## Phases -/

/-- The phases of a session. -/
inductive Stage
  | negotiation
  | tls
  | credssp
  | activation
  | active
  | reactivation
  deriving DecidableEq, Repr

/-- How the steps of a phase can fail. -/
def Stage.admits : Stage → Failure → Bool
  | _, .network _ => true
  | .tls, _ => false
  | _, .protocol _ => true
  | .credssp, .denied _ => true
  | .activation, .connector _ _ => true
  | .reactivation, .connector _ _ => true
  | .active, .noAvc420 _ => true
  | .active, .disconnect _ _ => true
  | _, _ => false

/-- `send_x224_request`, `upgrade_tls`, `run_credssp`, `pump_connector` and `drive_reactivation`:
rounds of polling, reading and writing until the phase is done or has failed. -/
def phase (stage : Stage) : Action (Except NativeError Unit) :=
  Prog.iterate (fun _ : Unit => do
    let round ← Prog.ask Answer.round
    match round with
    | .done => pure (.inr (.ok ()))
    | .fail failure =>
      pure (if stage.admits failure then .inr (.error failure.error) else .inl ())
    | .poll received label => do
      let stopped ← drainCommands received
      pure (if stopped then .inr (.error (.network label)) else .inl ())) ()

/-- The addresses of `connect_tcp`, one after another. -/
def connectAny : Nat → Action (Except NativeError Bool)
  | 0 => pure (.error (.network "TCP connect failed"))
  | addresses + 1 => do
    let expired ← Prog.ask Answer.expired
    if expired then pure (.error (.network "TCP connect: connection phase deadline exceeded"))
    else
      let received ← Prog.ask Answer.received
      let stopped ← drainCommands received
      if stopped then pure (.ok false)
      else
        let connects ← Prog.ask Answer.connects
        if connects then
          let configured ← Prog.ask fun a => a.fails.isNone
          pure (if configured then .ok true else .error (.network "set socket option"))
        else connectAny addresses

/-- `connect_tcp`; the flag is whether there is a connection, or a stop came first. -/
def connectTcp : Action (Except NativeError Bool) := do
  let resolved ← Prog.ask Answer.resolved
  match resolved with
  | .error message => pure (.error (.network message))
  | .ok 0 => pure (.error (.network "resolve returned no addresses"))
  | .ok (addresses + 1) => connectAny (addresses + 1)

/-- A step of the active session that may fail. -/
def activeStep : Action (Except NativeError Unit) := do
  let failure ← Prog.ask fun a => a.fails.filter Stage.active.admits
  match failure with
  | some failure => pure (.error failure.error)
  | none => pure (.ok ())

/-- A video callback that cannot show what it is given reports that itself. -/
def videoCallback : Option RdpState → Action Unit
  | none => pure ()
  | some state =>
    Prog.when (state = .decoderError ∨ state = .protocolError) (reportTerminal .worker state)

/-- Input, media and graphics of one round of the active session. -/
def serveRound : Action (Except NativeError Unit) := do
  let served ← activeStep
  match served with
  | .error e => pure (.error e)
  | .ok () =>
    let unshowable ← Prog.ask Answer.unshowable
    videoCallback unshowable
    let deactivated ← Prog.ask Answer.deactivated
    if deactivated then
      let reactivated ← phase .reactivation
      match reactivated with
      | .error e => pure (.error e)
      | .ok () => activeStep
    else activeStep

/-- A round of `run_active`. -/
def activeRound : Action (Unit ⊕ Except NativeError Unit) := do
  let stopped ← Prog.load fun s => s.conn.stop
  if stopped then pure (.inr (.ok ()))
  else
    let received ← Prog.ask Answer.received
    Prog.when received (Prog.store (State.onConn fun c => { c with stop := true }))
    let drained ← activeStep
    match drained with
    | .error e => pure (.inr (.error e))
    | .ok () =>
      let stopped ← Prog.load fun s => s.conn.stop
      if stopped then pure (.inr (.ok ()))
      else
        let served ← serveRound
        match served with
        | .error e => pure (.inr (.error e))
        | .ok () => pure (.inl ())

/-- `run_active`. -/
def runActive : Action (Except NativeError Unit) := do
  let image ← activeStep
  match image with
  | .error e => pure (.error e)
  | .ok () =>
    emitState .active
    Prog.iterate (fun _ : Unit => activeRound) ()

/-! ## Sessions -/

/-- From the security upgrade to the end of the session. -/
def runSecured : Action (Except NativeError Unit) := do
  emitState .tls
  let upgraded ← phase .tls
  match upgraded with
  | .error e => pure (.error e)
  | .ok () =>
    let credssp ← Prog.ask fun a => a.connects
    if !credssp then pure (.error (.protocol "server did not select CredSSP/NLA"))
    else
      emitState .credssp
      let authenticated ← phase .credssp
      match authenticated with
      | .error e => pure (.error e)
      | .ok () =>
        let activated ← phase .activation
        match activated with
        | .error e => pure (.error e)
        | .ok () => runActive

/-- `run_session`. -/
def runSession : Action (Except NativeError Unit) := do
  emitState .connecting
  let connected ← connectTcp
  match connected with
  | .error e => pure (.error e)
  | .ok false => pure (.ok ())
  | .ok true =>
    let negotiated ← phase .negotiation
    match negotiated with
    | .error e => pure (.error e)
    | .ok () =>
      let received ← Prog.ask Answer.received
      let stopped ← drainCommands received
      if stopped then pure (.ok ()) else runSecured

/-- How `run` ends. -/
inductive Outcome
  | returned
  | failed (e : NativeError)
  /-- The loop over the attempts is left without a return. -/
  | unreachable
  deriving DecidableEq, Repr

/-- The error that ended an attempt, if one did. -/
def attemptError : Except NativeError Unit → Option NativeError
  | .ok () => none
  | .error e => some e

/-- An attempt, and the observer's note of how it ended. -/
def attemptSession : Action (Except NativeError Unit) := do
  let ended ← runSession
  Prog.store (State.onConn fun c => { c with outcomes := c.outcomes ++ [attemptError ended] })
  pure ended

/-- The attempts of `run` from one on. -/
def runAttempts (attempt : Nat) : Nat → Action Outcome
  | 0 => pure .unreachable
  | left + 1 => do
    let ended ← attemptSession
    match ended with
    | .ok () => pure .returned
    | .error e =>
      let stopping ← Prog.load fun s => s.conn.stop
      if e.shouldRetry attempt stopping then
        emitState .reconnecting
        runAttempts (attempt + 1) left
      else pure (.failed e)

/-- `run`. -/
def run : Action Outcome := runAttempts 1 maxSessionAttempts

/-- The last error is reported unless the thread was told to stop. -/
def reportOutcome : Outcome → Action Unit
  | .returned => pure ()
  | .unreachable => pure ()
  | .failed e => do
    let stopped ← Prog.load fun s => s.conn.stop
    if stopped then pure () else emitState e.state e.reason

/-- `worker_main` on the thread that was spawned for it. -/
def workerMain : Action Unit := do
  let spawned ← Prog.act fun _ s =>
    if s.conn.thread = .spawned then
      (true, s.onConn fun c => { c with thread := .running })
    else (false, s)
  if spawned then
    let outcome ← run
    reportOutcome outcome
    emitState .stopped
    Prog.store (State.onConn fun c => { c with thread := .none })
  else pure ()

end Lgnome.Lifecycle
