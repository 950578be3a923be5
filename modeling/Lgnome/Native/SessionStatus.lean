import Lgnome.Native.App

/-!
# Why a session ended, and what the HUB says of it

A session ends with a state and a reason. A reason that the worker could not
name follows from the state and from whether the session had been active. The
HUB shows a badge, a title and a sentence for each of them.
-/
namespace Lgnome.Native

inductive RdpDisconnectReason where
  | none
  | peerDisconnected
  | userDisconnect
  | userLogoff
  | adminDisconnect
  | adminLogoff
  | sessionReplaced
  | idleTimeout
  | sessionTimeout
  | serverShutdown
  | serverReboot
  | serverError
  | accessDenied
  | licenseError
  | brokerError
  | connectionFailed
  | connectionLost
  | protocolError
  | graphicsError
  deriving DecidableEq, Repr

/-- The states that end a connection. -/
def RdpState.isTerminal (state : RdpState) : Bool :=
  state.isTerminalError || state = .disconnected || state = .stopped

/-- `rdp_state_exit_code`. -/
def RdpState.exitCode : RdpState → Nat
  | .noAvc420 => 10
  | .decoderError => 11
  | .networkError => 12
  | .protocolError => 13
  | _ => 0

inductive PreconnectSessionState where
  | notSetUp
  | offline
  | connecting
  | connected
  | error
  | disconnected
  | interrupted
  | reconnecting
  deriving DecidableEq, Repr

/-- `native_ui_session_terminal`. -/
def PreconnectSessionState.isTerminal (state : PreconnectSessionState) : Bool :=
  state = .error || state = .disconnected || state = .interrupted

/-- `native_session_terminal_reason`. -/
def sessionTerminalReason (state : RdpState) (reason : RdpDisconnectReason) (wasActive : Bool) :
    RdpDisconnectReason :=
  if reason ≠ .none then reason
  else
    match state with
    | .networkError => if wasActive then .connectionLost else .connectionFailed
    | .protocolError => .protocolError
    | .noAvc420 => .graphicsError
    | .decoderError => .graphicsError
    | _ => .peerDisconnected

/-- `native_session_terminal_ui_state`. -/
def sessionTerminalUiState (state : RdpState) (reason : RdpDisconnectReason) :
    PreconnectSessionState :=
  if state = .networkError ∨ reason = .sessionReplaced ∨ reason = .idleTimeout ∨
      reason = .sessionTimeout then .interrupted
  else if state.isTerminalError then .error
  else .disconnected

structure SessionStatus where
  badge : String
  title : String
  detail : String
  action : String
  color : UInt32
  error : Bool
  deriving DecidableEq, Repr

/-- What a session without a known reason is shown as; the flag is whether a reason is looked at. -/
def sessionStatusBase : PreconnectSessionState → SessionStatus × Bool
  | .notSetUp => (⟨"NOT SET UP", "Not set up", "", "Set up", 0x8a909b, false⟩, false)
  | .offline => (⟨"OFFLINE", "Offline", "", "Connect", 0x8a909b, false⟩, false)
  | .connecting =>
    (⟨"CONNECTING", "Connecting...", "", "Connecting...", 0xe8c15a, false⟩, false)
  | .reconnecting =>
    (⟨"RETRYING", "Reconnecting...", "", "Reconnecting...", 0xe8c15a, false⟩, false)
  | .connected => (⟨"CONNECTED", "Connected", "", "Resume", 0x43d47e, false⟩, false)
  | .error => (⟨"ERROR", "Connection error", "Connection failed.", "Retry", 0xe35d55, true⟩, true)
  | .interrupted =>
    (⟨"LOST", "Connection lost", "Connection lost; reason unknown.", "Retry", 0xe8c15a, false⟩,
      true)
  | .disconnected =>
    (⟨"CLOSED", "Disconnected", "The session was closed.", "Connect", 0x8a909b, false⟩, true)

/-- What a known reason changes of it. -/
def SessionStatus.explain (status : SessionStatus) : RdpDisconnectReason → SessionStatus
  | .serverShutdown =>
    { status with
      badge := "SHUTDOWN"
      title := "Server shutdown"
      detail := "Last disconnect: the server reported it was shutting down." }
  | .serverReboot =>
    { status with
      badge := "REBOOT"
      title := "Server restart"
      detail := "Last disconnect: the server reported it was restarting." }
  | .userLogoff =>
    { status with
      badge := "SIGNED OUT", title := "Signed out", detail := "Signed out on the server." }
  | .adminLogoff =>
    { status with
      badge := "SIGNED OUT"
      title := "Signed out"
      detail := "An administrator signed you out." }
  | .userDisconnect =>
    { status with detail := "The session was disconnected by a user action." }
  | .adminDisconnect => { status with detail := "An administrator disconnected the session." }
  | .sessionReplaced =>
    { status with
      badge := "REPLACED"
      title := "Session replaced"
      action := "Connect"
      detail := "Another connection replaced this session." }
  | .idleTimeout =>
    { status with
      badge := "TIMED OUT"
      title := "Session limit reached"
      action := "Connect"
      detail := "The server's idle session limit was reached." }
  | .sessionTimeout =>
    { status with
      badge := "TIMED OUT"
      title := "Session limit reached"
      action := "Connect"
      detail := "The server's session time limit was reached." }
  | .connectionFailed =>
    { status with
      badge := "FAILED"
      title := "Connection failed"
      detail := "Could not connect to the server." }
  | .protocolError =>
    { status with
      title := "Protocol error"
      detail := "The RDP session ended because of a protocol error." }
  | .graphicsError =>
    { status with
      title := "Graphics error"
      detail := "The graphics pipeline could not display the session." }
  | .accessDenied =>
    { status with
      title := "Connection denied"
      detail := "The server denied access. Check your credentials and permissions." }
  | .serverError =>
    { status with title := "Server error", detail := "The server reported a session failure." }
  | .licenseError =>
    { status with
      title := "License error"
      detail := "The server reported a Remote Desktop licensing error." }
  | .brokerError =>
    { status with
      title := "Connection broker error"
      detail := "The server could not route the connection to a desktop." }
  | _ => status

/-- `native_session_status`. -/
def sessionStatus (state : PreconnectSessionState) (reason : RdpDisconnectReason) :
    SessionStatus :=
  let base := sessionStatusBase state
  if base.2 then base.1.explain reason else base.1

/-! ## What is always shown -/

variable (state : RdpState) (reason : RdpDisconnectReason) (wasActive : Bool)

/-- The HUB never has to show a session that ended for no reason. -/
theorem sessionTerminalReason_ne_none : sessionTerminalReason state reason wasActive ≠ .none := by
  unfold sessionTerminalReason
  split
  · assumption
  · cases state <;> cases wasActive <;> decide

/-- Asking again changes nothing, whatever became of the session meanwhile. -/
theorem sessionTerminalReason_again (later : Bool) :
    sessionTerminalReason state (sessionTerminalReason state reason wasActive) later
      = sessionTerminalReason state reason wasActive :=
  if_pos (sessionTerminalReason_ne_none state reason wasActive)

theorem sessionTerminalUiState_isTerminal : (sessionTerminalUiState state reason).isTerminal := by
  unfold sessionTerminalUiState
  split
  · rfl
  · split <;> rfl

/-- A session that ended is shown with a sentence and an action, and as an error only where the
connection or the protocol failed. -/
theorem sessionStatus_shows (ui : PreconnectSessionState) (h : ui.isTerminal) :
    (sessionStatus ui reason).detail ≠ "" ∧ (sessionStatus ui reason).action ≠ "" ∧
      ((sessionStatus ui reason).error ↔ ui = .error) := by
  revert h
  cases ui <;> cases reason <;> decide

end Lgnome.Native
