import Lgnome.Native.SessionStatus
import Lgnome.Worker.Session

/-!
# How the worker classifies the end of a session

Every error of the worker carries the state it is reported with, a reason where the
server named one, and whether the server may have handed the session over to another
daemon. Only such a handover is answered with another attempt.
-/
namespace Lgnome.Worker

open Lgnome.Native

structure NativeError where
  state : RdpState
  reason : RdpDisconnectReason := .none
  retryHandoff : Bool := false
  message : String
  deriving DecidableEq, Repr

/-- The codes that are told apart. -/
inductive ProtocolIndependentCode
  | rpcInitiatedDisconnect
  | rpcInitiatedLogoff
  | idleTimeout
  | logonTimeout
  | disconnectedByOtherconnection
  | rpcInitiatedDisconnectByuser
  | logoffByUser
  | serverShutdown
  | serverReboot
  | serverDeniedConnection
  | serverInsufficientPrivileges
  | serverFreshCredentialsRequired
  | other (code : UInt32)
  deriving DecidableEq, Repr

/-- The server's error info. -/
inductive ErrorInfo
  | protocolIndependentCode (code : ProtocolIndependentCode)
  | protocolIndependentLicensingCode (code : UInt32)
  | protocolIndependentConnectionBrokerCode (code : UInt32)
  | rdpSpecificCode (code : UInt32)
  deriving DecidableEq, Repr

inductive GracefulDisconnectReason
  | userInitiated
  | serverInitiated
  | errorInfo (info : ErrorInfo)
  | other (description : String)
  deriving DecidableEq, Repr

inductive ConnectorErrorKind
  | serverErrorInfo (info : ErrorInfo)
  | accessDenied
  | other
  deriving DecidableEq, Repr

namespace NativeError

/-- `with_state`. -/
def withState (state : RdpState) (message : String) : NativeError := { state, message }

def network (message : String) : NativeError := withState .networkError message

def protocol (message : String) : NativeError := withState .protocolError message

def noAvc420 (message : String) : NativeError := withState .noAvc420 message

/-- `should_retry`. -/
def shouldRetry (e : NativeError) (attempt : Nat) (stopping : Bool) : Bool :=
  e.retryHandoff && !stopping && attempt < maxSessionAttempts

/-- The reason that the server's error info names, and whether the session came to a normal end. -/
def infoReason : ErrorInfo → RdpDisconnectReason × Bool
  | .protocolIndependentCode code =>
    match code with
    | .rpcInitiatedDisconnect => (.adminDisconnect, true)
    | .rpcInitiatedLogoff => (.adminLogoff, true)
    | .idleTimeout => (.idleTimeout, true)
    | .logonTimeout => (.sessionTimeout, true)
    | .disconnectedByOtherconnection => (.sessionReplaced, true)
    | .rpcInitiatedDisconnectByuser => (.userDisconnect, true)
    | .logoffByUser => (.userLogoff, true)
    | .serverShutdown => (.serverShutdown, true)
    | .serverReboot => (.serverReboot, true)
    | .serverDeniedConnection => (.accessDenied, false)
    | .serverInsufficientPrivileges => (.accessDenied, false)
    | .serverFreshCredentialsRequired => (.accessDenied, false)
    | .other _ => (.serverError, false)
  | .protocolIndependentLicensingCode _ => (.licenseError, false)
  | .protocolIndependentConnectionBrokerCode _ => (.brokerError, false)
  | .rdpSpecificCode _ => (.serverError, false)

/-- `server_error_info`; the text is what the protocol library prints of the code. -/
def serverErrorInfo (info : ErrorInfo) (text : String) : NativeError where
  state := if (infoReason info).2 then .disconnected else .protocolError
  reason := (infoReason info).1
  retryHandoff := info = .protocolIndependentCode .rpcInitiatedDisconnect
  message := "server error info " ++ text

/-- `disconnect`. -/
def disconnect (reason : GracefulDisconnectReason) (text : String) : NativeError :=
  match reason with
  | .errorInfo info => serverErrorInfo info text
  | other =>
    { state := .disconnected
      reason := .peerDisconnected
      retryHandoff := other = .userInitiated ∨ other = .serverInitiated
      message := "server disconnected: " ++ text }

/-- `connector`. -/
def connector (kind : ConnectorErrorKind) (text : String) : NativeError :=
  match kind with
  | .serverErrorInfo info => serverErrorInfo info text
  | .accessDenied => { protocol text with reason := .accessDenied }
  | .other => protocol text

end NativeError

/-- The ways in which a step of a session fails. -/
inductive Failure
  | network (message : String)
  | protocol (message : String)
  | noAvc420 (message : String)
  | disconnect (reason : GracefulDisconnectReason) (text : String)
  | connector (kind : ConnectorErrorKind) (text : String)
  /-- The server authenticated the user and denied the account remote access. -/
  | denied (message : String)
  deriving DecidableEq, Repr

namespace Failure

def error : Failure → NativeError
  | network message => .network message
  | protocol message => .protocol message
  | noAvc420 message => .noAvc420 message
  | disconnect reason text => .disconnect reason text
  | connector kind text => .connector kind text
  | denied message => { NativeError.protocol message with reason := .accessDenied }

/-- The two disconnects that do not say why, and an administrator's: a daemon may have handed the
session to another one. -/
inductive IsHandoff : Failure → Prop
  | userInitiated (text : String) : IsHandoff (disconnect .userInitiated text)
  | serverInitiated (text : String) : IsHandoff (disconnect .serverInitiated text)
  | disconnected (text : String) :
    IsHandoff (disconnect (.errorInfo (.protocolIndependentCode .rpcInitiatedDisconnect)) text)
  | refused (text : String) :
    IsHandoff (connector (.serverErrorInfo (.protocolIndependentCode .rpcInitiatedDisconnect)) text)

theorem serverErrorInfo_retry {info : ErrorInfo} {text : String}
    (h : (NativeError.serverErrorInfo info text).retryHandoff = true) :
    info = .protocolIndependentCode .rpcInitiatedDisconnect :=
  of_decide_eq_true h

/-- Only such an end is answered with another attempt. -/
theorem isHandoff_of_retry {f : Failure} (h : f.error.retryHandoff = true) : f.IsHandoff := by
  cases f with
  | network message => cases h
  | protocol message => cases h
  | noAvc420 message => cases h
  | denied message => cases h
  | disconnect reason text =>
    cases reason with
    | userInitiated => exact .userInitiated text
    | serverInitiated => exact .serverInitiated text
    | other description => exact absurd h (by simp [error, NativeError.disconnect])
    | errorInfo info =>
      obtain rfl := serverErrorInfo_retry h
      exact .disconnected text
  | connector kind text =>
    cases kind with
    | accessDenied => cases h
    | other => cases h
    | serverErrorInfo info =>
      obtain rfl := serverErrorInfo_retry h
      exact .refused text

theorem IsHandoff.retry {f : Failure} (h : f.IsHandoff) : f.error.retryHandoff = true := by
  cases h with
  | userInitiated text => rfl
  | serverInitiated text => rfl
  | disconnected text => rfl
  | refused text => rfl

/-- The states an attempt can end with. -/
def Ends (state : RdpState) : Prop :=
  state = .disconnected ∨ state = .networkError ∨ state = .protocolError ∨ state = .noAvc420

theorem ends_serverErrorInfo (info : ErrorInfo) (text : String) :
    Ends (NativeError.serverErrorInfo info text).state := by
  unfold NativeError.serverErrorInfo
  cases (NativeError.infoReason info).2 with
  | true => exact .inl rfl
  | false => exact .inr (.inr (.inl rfl))

theorem ends_error (f : Failure) : Ends f.error.state := by
  cases f with
  | network message => exact .inr (.inl rfl)
  | protocol message => exact .inr (.inr (.inl rfl))
  | noAvc420 message => exact .inr (.inr (.inr rfl))
  | denied message => exact .inr (.inr (.inl rfl))
  | disconnect reason text =>
    cases reason with
    | errorInfo info => exact ends_serverErrorInfo info text
    | userInitiated => exact .inl rfl
    | serverInitiated => exact .inl rfl
    | other description => exact .inl rfl
  | connector kind text =>
    cases kind with
    | serverErrorInfo info => exact ends_serverErrorInfo info text
    | accessDenied => exact .inr (.inr (.inl rfl))
    | other => exact .inr (.inr (.inl rfl))

end Failure

end Lgnome.Worker
