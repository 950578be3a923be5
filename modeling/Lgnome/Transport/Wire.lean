import Lgnome.Transition.Fallible
import Lgnome.Transport.Framer
import Lgnome.Credssp.Reader
import Lgnome.Worker.Errors

/-!
# The worker's end of the connection

The worker reads from the stream into one buffer, out of which every phase takes its messages,
and writes frames as fast as the stream takes them. Whether to stop, the clock and the socket
answer every step anew.
-/
namespace Lgnome.Transport

open Lgnome.Credssp (Chunk maxTransportBufferSize)
open Lgnome.Worker (NativeError)
open Lgnome.Transition (Prog)

/-- The buffer of what was read. The bytes read, the messages taken, the frames to be written and
the bytes that the stream took of them are kept for the observer. -/
structure Wire where
  inbuf : Bytes := []
  received : Bytes := []
  taken : List (Framer String × Bytes) := []
  frames : List Bytes := []
  sent : Bytes := []

inductive ReadResult
  | bytes (chunk : Chunk)
  | closed
  | timeout
  | failed (message : String)

inductive WriteResult
  | wrote (n : Nat)
  | timeout
  | failed (message : String)

/-- A round of the TLS handshake. -/
inductive HandshakeRound
  | goesOn
  | done (publicKey : Bytes)
  | failed (message : String)

/-- What the random source gives for one CredSSP exchange. -/
structure Entropy where
  clientChallenge : Bytes
  keyExchKey : Bytes
  clientNonce : Bytes

/-- What is answered to a step: by the app, the clock, the stream, the TLS library and the random
source, and what input, media and graphics have to send in a round of the active session. -/
structure Answer where
  stop : Bool := false
  expired : Bool := false
  read : ReadResult := .timeout
  write : WriteResult := .timeout
  connects : Except NativeError Bool := .ok true
  handshake : HandshakeRound := .done []
  entropy : Except String Entropy := .error ""
  now : UInt64 := 0
  outgoing : List Bytes := []
  fails : Option NativeError := none

abbrev Action : Type → Type 1 := Prog Answer Wire

/-- An action that may fail. -/
abbrev Attempt (α : Type) : Type 1 := Action (Except NativeError α)

/-- `drain_commands` as far as it answers whether to stop. -/
def drainCommands : Action Bool := Prog.ask Answer.stop

def pollStop (message : String) : Action (Except NativeError Unit) := do
  let stop ← drainCommands
  Prog.result (if stop then .error (.network message) else .ok ())

def checkPhaseDeadline (label : String) : Action (Except NativeError Unit) := do
  let expired ← Prog.ask Answer.expired
  Prog.result
    (if expired then .error (.network (label ++ ": connection phase deadline exceeded"))
    else .ok ())

/-! ## Reading -/

/-- `append_input`. -/
def appendInput (inbuf bytes : Bytes) : Except NativeError Bytes :=
  if maxTransportBufferSize < inbuf.length + bytes.length then
    .error (.protocol "incoming transport buffer exceeds the size limit")
  else .ok (inbuf ++ bytes)

/-- What a read of the stream does to the buffer. -/
def Wire.read (closed failed : String) (answer : ReadResult) (w : Wire) :
    Except NativeError Unit × Wire :=
  match answer with
  | .closed => (.error (.network closed), w)
  | .timeout => (.ok (), w)
  | .failed message => (.error (.network (failed ++ message)), w)
  | .bytes chunk =>
    match appendInput w.inbuf chunk.bytes with
    | .error e => (.error e, w)
    | .ok inbuf => (.ok (), { w with inbuf, received := w.received ++ chunk.bytes })

def readStream (closed failed : String) : Attempt Unit :=
  Prog.act fun i w => w.read closed failed i.read

/-- `read_more`. -/
def readMore (label : String) : Attempt Unit :=
  (checkPhaseDeadline label).andThen fun _ =>
    readStream (label ++ ": peer closed connection") (label ++ ": read: ")

/-- A message is taken from the buffer if it holds a whole one. -/
def Wire.take (f : Framer String) (invalid : String → NativeError) (tooLong : Option NativeError)
    (w : Wire) : Except NativeError (Option Bytes) × Wire :=
  match f.size w.inbuf with
  | .error e => (.error (invalid e), w)
  | .ok none => (.ok none, w)
  | .ok (some size) =>
    match tooLong.filter fun _ => maxTransportBufferSize < size with
    | some e => (.error e, w)
    | none =>
      if size ≤ w.inbuf.length then
        (.ok (some (w.inbuf.take size)),
          { w with
            inbuf := w.inbuf.drop size
            taken := w.taken ++ [(f, w.inbuf.take size)] })
      else (.ok none, w)

def takeMessage (f : Framer String) (invalid : String → NativeError)
    (tooLong : Option NativeError) : Attempt (Option Bytes) :=
  Prog.act fun _ w => w.take f invalid tooLong

/-- `read_hinted_pdu`. -/
def readHintedPdu (hint : Framer String) (label : String) : Attempt Bytes :=
  Prog.repeatUntil (fun _ : Unit =>
    (pollStop (label ++ ": stopped")).andThen fun _ =>
      (checkPhaseDeadline label).andThen fun _ =>
        (takeMessage hint (fun e => .protocol (label ++ ": PDU size: " ++ e))
          (some (.protocol (label ++ ": PDU exceeds the size limit")))).andThen fun
          | some pdu => Prog.result (.ok (.inr pdu))
          | none => (readMore label).andThen fun _ => Prog.result (.ok (.inl ()))) ()

/-- `ts_request_len` as a framer. -/
def tsRequestFramer : Framer String where
  size := Credssp.tsRequestLen
  stable _ b h := Credssp.tsRequestLen_stable b h

/-- `read_ts_request`. -/
def readTsRequest : Attempt Bytes :=
  Prog.repeatUntil (fun _ : Unit =>
    (pollStop "CredSSP stopped").andThen fun _ =>
      (takeMessage tsRequestFramer .protocol none).andThen fun
        | some request => Prog.result (.ok (.inr request))
        | none => (readMore "CredSSP TSRequest").andThen fun _ => Prog.result (.ok (.inl ()))) ()

/-- What the server says of the user's authorization. -/
def authorization (result : Nat) : Except NativeError Unit :=
  if result = 0 then .ok ()
  else if result = 5 then
    .error (Worker.Failure.error (.denied
      "the server authenticated the credentials but denied this account remote access"))
  else .error (.protocol "unexpected early user authorization result")

/-- `read_early_user_auth_result`. -/
def readEarlyUserAuthResult : Attempt Unit :=
  (Prog.repeatUntil (fun _ : Unit =>
    (takeMessage (Framer.fixed 4) .protocol none).andThen fun
      | some bytes => Prog.result (.ok (.inr bytes))
      | none =>
        (pollStop "early user authorization result: stopped").andThen fun _ =>
          (readMore "early user authorization result").andThen fun _ =>
            Prog.result (.ok (.inl ()))) ()).andThen fun bytes =>
    Prog.result (authorization (readLe32 bytes 0))

/-! ## Writing -/

/-- What the stream takes of the bytes that are still to be written. -/
def Wire.write (label : String) (answer : WriteResult) (pending : Bytes) (w : Wire) :
    Except NativeError (Bytes ⊕ Unit) × Wire :=
  match answer with
  | .timeout => (.ok (.inl pending), w)
  | .failed message => (.error (.network (label ++ ": write/flush: " ++ message)), w)
  | .wrote n =>
    if pending = [] then (.ok (.inr ()), w)
    else if n = 0 then (.error (.network (label ++ ": write returned zero")), w)
    else (.ok (.inl (pending.drop n)), { w with sent := w.sent ++ pending.take n })

def checkWriteDeadline (label : String) : Action (Except NativeError Unit) := do
  let expired ← Prog.ask Answer.expired
  Prog.result
    (if expired then .error (.network (label ++ ": write deadline exceeded")) else .ok ())

/-- A round of `write_all`. -/
def writeRound (label : String) (pending : Bytes) : Attempt (Bytes ⊕ Unit) :=
  (pollStop (label ++ ": stopped")).andThen fun _ =>
    (checkWriteDeadline label).andThen fun _ => Prog.act fun i w => w.write label i.write pending

/-- `write_all`. -/
def writeAll (bytes : Bytes) (label : String) : Action (Except NativeError Unit) :=
  if bytes = [] then Prog.result (.ok ())
  else do
    Prog.store fun w => { w with frames := w.frames ++ [bytes] }
    Prog.repeatUntil (writeRound label) bytes

/-- Frames, one after another. -/
def writeFrames (label : String) : List Bytes → Attempt Unit
  | [] => Prog.result (.ok ())
  | frame :: frames => (writeAll frame label).andThen fun _ => writeFrames label frames

end Lgnome.Transport
