import Lgnome.Transport.Wire
import Lgnome.Credssp.Client

/-!
# The phases of a session on the stream

Negotiation in the clear, the TLS handshake, CredSSP, the early authorization result, the
activation of the desktop, the active session and its reactivations. They share one buffer:
what a phase leaves in it is there for the next one, also what came in the clear before the
TLS handshake.
-/
namespace Lgnome.Transport

open Lgnome.Credssp (Crypto CredsspClient CredsspConfig)
open Lgnome.Worker (NativeError GracefulDisconnectReason ConnectorErrorKind maxSessionAttempts)
open Lgnome.Transition (Prog)

/-- What the active stage answers to a frame. -/
inductive Output
  | responseFrame (frame : Bytes)
  | terminate (reason : GracefulDisconnectReason) (text : String)
  | deactivateAll
  /-- Graphics and the pointer, which go to the callbacks. -/
  | other

/-- An error of the protocol library, with its text. -/
abbrev ConnectorError := ConnectorErrorKind × String

/-- The protocol library: the connector, the active stage and the activation sequence. -/
structure Library where
  Connector : Type
  new : Connector
  nextPduHint : Connector → Option (Framer String)
  step : Connector → Bytes → Except ConnectorError (Connector × Bytes)
  stepNoInput : Connector → Except ConnectorError (Connector × Bytes)
  shouldPerformSecurityUpgrade : Connector → Bool
  markSecurityUpgradeAsDone : Connector → Connector
  shouldPerformCredssp : Connector → Bool
  selectsHybridEx : Connector → Bool
  markCredsspAsDone : Connector → Connector
  Active : Type
  /-- The active stage of a connector that is connected. -/
  connected : Connector → Option Active
  findSize : Framer String
  process : Active → Bytes → Except String (Active × List Output)
  /-- What a bitmap recovery asks for, if one was requested. -/
  requestFullRedraw : Active → Except String (Active × List Bytes)
  Activation : Type
  /-- A new activation sequence, if there is a factory for it. -/
  createActivation : Active → Option Activation
  activationHint : Activation → Option (Framer String)
  activationStep : Activation → Bytes → Except ConnectorError (Activation × Bytes)
  activationStepNoInput : Activation → Except ConnectorError (Activation × Bytes)
  isFinalized : Activation → Bool
  reactivate : Active → Activation → Option Active

variable (lib : Library)

/-- An error of the protocol library under a label. -/
def labelled {α : Type} (label : String) : Except ConnectorError α → Except NativeError α
  | .error e => .error (.protocol (label ++ ": " ++ e.2))
  | .ok a => .ok a

/-- `NativeError::connector`. -/
def connectorError {α : Type} : Except ConnectorError α → Except NativeError α
  | .error e => .error (.connector e.1 e.2)
  | .ok a => .ok a

def protocolError {α : Type} (label : String) : Except String α → Except NativeError α
  | .error e => .error (.protocol (label ++ ": " ++ e))
  | .ok a => .ok a

/-- `read_connector_pdu` and `read_activation_pdu`. -/
def readPdu (hint : Option (Framer String)) (missing label : String) : Attempt Bytes :=
  match hint with
  | none => Prog.result (.error (.protocol missing))
  | some hint => readHintedPdu hint label

/-- `send_x224_request`. -/
def sendX224Request (connector : lib.Connector) : Attempt lib.Connector :=
  (Prog.result (labelled "X.224 negotiation request" (lib.stepNoInput connector))).andThen
    fun (connector, out) =>
  (writeAll out "X.224 negotiation request").andThen fun _ =>
  (readPdu (lib.nextPduHint connector) "X.224 negotiation response: connector has no PDU hint"
    "X.224 negotiation response").andThen fun confirm =>
  (Prog.result (labelled "X.224 negotiation response" (lib.step connector confirm))).andThen
    fun (connector, out) =>
  (writeAll out "X.224 negotiation follow-up").andThen fun _ =>
  Prog.result
    (if lib.shouldPerformSecurityUpgrade connector then .ok connector
    else .error (.protocol "server did not select enhanced TLS security"))

/-- `upgrade_tls`: the key of the server's certificate. The buffer is left as it is. -/
def upgradeTls : Attempt Bytes :=
  Prog.repeatUntil (fun _ : Unit =>
    (checkPhaseDeadline "TLS handshake").andThen fun _ =>
      (pollStop "TLS handshake stopped").andThen fun _ =>
        (Prog.ask Answer.handshake).bind fun
          | .goesOn => Prog.result (.ok (.inl ()))
          | .done publicKey => Prog.result (.ok (.inr publicKey))
          | .failed message => Prog.result (.error (.network ("TLS handshake: " ++ message)))) ()

/-- The rest of `run_credssp` once the exchange is done. -/
def credsspDone (connector : lib.Connector) : Attempt lib.Connector :=
  if lib.selectsHybridEx connector then
    readEarlyUserAuthResult.andThen fun _ => Prog.result (.ok (lib.markCredsspAsDone connector))
  else Prog.result (.ok (lib.markCredsspAsDone connector))

/-- A round of `run_credssp`. -/
def credsspRound (crypto : Crypto) (connector : lib.Connector) (client : CredsspClient) :
    Attempt (CredsspClient ⊕ lib.Connector) :=
  if client.isDone then Prog.result (.ok (.inr connector))
  else
    readTsRequest.andThen fun request => (Prog.ask Answer.now).bind fun now =>
      let answer := client.processServer crypto now request
      (Prog.result (protocolError "CredSSP" answer.2)).andThen fun (next, done) =>
        (writeAll next "CredSSP response").andThen fun _ =>
          if done then (credsspDone lib connector).andThen fun connector =>
            Prog.result (.ok (.inr connector))
          else Prog.result (.ok (.inl answer.1))

/-- `run_credssp`. -/
def runCredssp (crypto : Crypto) (config : CredsspConfig) (connector : lib.Connector)
    (publicKey : Bytes) : Attempt lib.Connector :=
  (Prog.ask Answer.entropy).bind fun
    | .error e => Prog.result (.error (.network ("entropy unavailable: " ++ e)))
    | .ok entropy =>
      let client : CredsspClient :=
        { config :=
            { config with
              publicKey
              clientChallenge := entropy.clientChallenge
              keyExchKey := entropy.keyExchKey
              clientNonce := entropy.clientNonce } }
      (writeAll client.firstMessage.2 "CredSSP negotiate").andThen fun _ =>
        Prog.repeatUntil (credsspRound lib crypto connector) client.firstMessage.1

/-- A round of `pump_connector`. -/
def connectorRound (connector : lib.Connector) : Attempt (lib.Connector ⊕ lib.Active) :=
  (checkPhaseDeadline "RDP activation").andThen fun _ =>
  (pollStop "stopped before ActiveStage").andThen fun _ =>
  match lib.connected connector with
  | some active => Prog.result (.ok (.inr active))
  | none =>
    (match lib.nextPduHint connector with
      | some hint =>
        (readHintedPdu hint "connector input").andThen fun pdu =>
          Prog.result (connectorError (lib.step connector pdu))
      | none => Prog.result (connectorError (lib.stepNoInput connector))).andThen
        fun (connector, out) =>
    (writeAll out "connector output").andThen fun _ => Prog.result (.ok (.inl connector))

/-- `pump_connector`. -/
def pumpConnector (connector : lib.Connector) : Attempt lib.Active :=
  Prog.repeatUntil (connectorRound lib) connector

/-! ## The active session -/

/-- A round of `drive_reactivation`. -/
def reactivationRound (active : lib.Active) (seq : lib.Activation) :
    Attempt (lib.Activation ⊕ lib.Active) :=
  (checkPhaseDeadline "reactivation").andThen fun _ =>
  (pollStop "reactivation stopped").andThen fun _ =>
  if lib.isFinalized seq then
    match lib.reactivate active seq with
    | none => Prog.result (.error (.protocol
        "reactivation offered an unusable static channel chunk size"))
    | some active => Prog.result (.ok (.inr active))
  else
    (match lib.activationHint seq with
      | some hint =>
        (readHintedPdu hint "reactivation input").andThen fun pdu =>
          Prog.result (connectorError (lib.activationStep seq pdu))
      | none => Prog.result (connectorError (lib.activationStepNoInput seq))).andThen
        fun (seq, out) =>
    (writeAll out "reactivation output").andThen fun _ => Prog.result (.ok (.inl seq))

/-- `drive_reactivation`. -/
def driveReactivation (active : lib.Active) : Attempt lib.Active :=
  match lib.createActivation active with
  | none => Prog.result (.error (.protocol "deactivate-all with no activation factory"))
  | some seq => Prog.repeatUntil (reactivationRound lib active) seq

/-- `handle_active_outputs`: whether the server deactivates the desktop. -/
def handleActiveOutputs (deactivate : Bool) : List Output → Attempt Bool
  | [] => Prog.result (.ok deactivate)
  | .responseFrame frame :: outputs =>
    (writeAll frame "active response").andThen fun _ => handleActiveOutputs deactivate outputs
  | .terminate reason text :: _ => Prog.result (.error (.disconnect reason text))
  | .deactivateAll :: outputs => handleActiveOutputs true outputs
  | .other :: outputs => handleActiveOutputs deactivate outputs

/-- What input, media or graphics do in a round: they may fail, and they send their frames. -/
def drain (label : String) : Attempt Unit :=
  (Prog.ask fun i => (i.fails, i.outgoing)).bind fun
    | (some e, _) => Prog.result (.error e)
    | (none, frames) => writeFrames label frames

/-- A frame of the active session. -/
def frameRound (active : lib.Active) : Attempt (lib.Active ⊕ lib.Active) :=
  (takeMessage lib.findSize (fun e => .protocol ("active PDU size: " ++ e)) none).andThen fun
    | none => Prog.result (.ok (.inr active))
    | some frame =>
      (Prog.result (protocolError "active stage process" (lib.process active frame))).andThen
        fun (active, outputs) =>
      (handleActiveOutputs false outputs).andThen fun deactivate =>
      (drain "graphics").andThen fun _ =>
      (Prog.result (protocolError "bitmap recovery" (lib.requestFullRedraw active))).andThen
        fun (active, frames) =>
      (writeFrames "bitmap recovery" frames).andThen fun _ =>
      if deactivate then (driveReactivation lib active).andThen fun active =>
        Prog.result (.ok (.inl active))
      else Prog.result (.ok (.inl active))

/-- The part of a round of `run_active` that follows the drains. -/
def servedRound (active : lib.Active) : Attempt (lib.Active ⊕ Unit) :=
  (drain "graphics").andThen fun _ =>
  (Prog.repeatUntil (frameRound lib) active).andThen fun active =>
  (readStream "RDP server closed the TLS stream" "active read: ").andThen fun _ =>
  Prog.result (.ok (.inl active))

/-- A round of `run_active`. -/
def activeRound (active : lib.Active) : Attempt (lib.Active ⊕ Unit) :=
  drainCommands.bind fun stop =>
  if stop then Prog.result (.ok (.inr ()))
  else
    (drain "fast-path input").andThen fun _ =>
    (drain "media").andThen fun _ => drainCommands.bind fun stop =>
    if stop then Prog.result (.ok (.inr ())) else servedRound lib active

/-- `run_active`. -/
def runActive (active : lib.Active) : Attempt Unit := Prog.repeatUntil (activeRound lib) active

/-! ## Sessions -/

/-- From the security upgrade on. -/
def runSecured (crypto : Crypto) (config : CredsspConfig) (connector : lib.Connector) :
    Attempt Unit :=
  upgradeTls.andThen fun publicKey =>
    let connector := lib.markSecurityUpgradeAsDone connector
    if lib.shouldPerformCredssp connector then
      (runCredssp lib crypto config connector publicKey).andThen fun connector =>
        (pumpConnector lib connector).andThen fun active => runActive lib active
    else Prog.result (.error (.protocol "server did not select CredSSP/NLA"))

/-- `run_session`. -/
def runSession (crypto : Crypto) (config : CredsspConfig) : Attempt Unit :=
  (Prog.ask Answer.connects).bind fun
    | .error e => Prog.result (.error e)
    | .ok false => Prog.result (.ok ())
    | .ok true =>
      (sendX224Request lib lib.new).andThen fun connector => drainCommands.bind fun stop =>
        if stop then Prog.result (.ok ()) else runSecured lib crypto config connector

/-- `reset_session_state` as far as the buffer goes. The observer starts anew with it: the next
connection is another stream. -/
def resetSessionState : Action Unit :=
  Prog.store fun w =>
    { w with inbuf := [], received := [], taken := [], frames := [], sent := [] }

/-- The attempts of `run` from one on. -/
def runAttempts (crypto : Crypto) (config : CredsspConfig) (attempt : Nat) : Nat → Action Unit
  | 0 => pure ()
  | left + 1 =>
    (runSession lib crypto config).bind fun
      | .ok () => pure ()
      | .error e => drainCommands.bind fun stopping =>
        if e.shouldRetry attempt stopping then
          resetSessionState.bind fun _ => runAttempts crypto config (attempt + 1) left
        else pure ()

/-- `run`, on a worker of its own, with an empty buffer. -/
def run (crypto : Crypto) (config : CredsspConfig) : Action Unit :=
  resetSessionState.bind fun _ => runAttempts lib crypto config 1 maxSessionAttempts

end Lgnome.Transport
