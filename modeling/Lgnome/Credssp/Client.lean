import Lgnome.Credssp.Ntlm
import Lgnome.Credssp.TsRequest
import Lgnome.Transition.Machine

/-!
# The CredSSP client

Two server messages drive the client: the NTLM challenge, answered with the
AUTHENTICATE message and the sealed public-key binding, and the server's own
binding, answered with the sealed credentials. Every message may be anything.
-/
namespace Lgnome.Credssp

open Lgnome.Transition

def clientServerHashMagic : Bytes := Ntlm.magic "CredSSP Client-To-Server Binding Hash"
def serverClientHashMagic : Bytes := Ntlm.magic "CredSSP Server-To-Client Binding Hash"

inductive HandshakeState where
  | challenge
  | pubKey
  | done
  deriving DecidableEq, Repr

/-- What the caller passes to `CredsspClient::new`. -/
structure CredsspConfig where
  publicKey : Bytes
  user : Text
  domain : Text
  password : Text
  clientChallenge : Bytes
  keyExchKey : Bytes
  clientNonce : Bytes
  deriving DecidableEq

structure CredsspClient where
  config : CredsspConfig
  ntlm : NtlmClient := {}
  peerVersion : UInt32 := tsRequestVersion
  state : HandshakeState := .challenge
  deriving DecidableEq

/-- `{:08x}`. -/
def hex08 (n : UInt32) : String :=
  let digits := Nat.toDigits 16 n.toNat
  String.ofList (List.replicate (8 - digits.length) '0' ++ digits)

namespace CredsspClient

variable (crypto : Crypto)

/-- The first client message, with the NTLM NEGOTIATE. -/
def firstMessage (c : CredsspClient) : CredsspClient × Bytes :=
  let nego := c.ntlm.buildNegotiate
  ({ c with ntlm := nego.1 }, encodeTsRequest tsRequestVersion (some nego.2) none none none)

def isDone (c : CredsspClient) : Bool := c.state = .done

def pubkeyHash (config : CredsspConfig) (magic : Bytes) : Bytes :=
  crypto.sha256 (magic ++ config.clientNonce ++ config.publicKey)

/-- What the client seals for the server. -/
def clientBinding (config : CredsspConfig) (version : UInt32) : Bytes :=
  if 5 ≤ version then pubkeyHash crypto config clientServerHashMagic else config.publicKey

/-- The public key with its first byte incremented, which is all a legacy server proves. -/
def incrementFirst : Bytes → Bytes
  | [] => []
  | b :: rest => (b + 1) :: rest

/-- What the server has to answer for this client's nonce and key. -/
def expectedPubKeyAuth (config : CredsspConfig) (version : UInt32) : Bytes :=
  if 5 ≤ version then pubkeyHash crypto config serverClientHashMagic
  else incrementFirst config.publicKey

def mismatch (version : UInt32) : String :=
  if 5 ≤ version then "CredSSP: server public-key hash mismatch (possible MITM)"
  else "CredSSP: server public-key echo mismatch (possible MITM)"

/-- The `Challenge` arm. The peer version and the NTLM client change before the
arm can still fail; the handshake state changes only when it succeeds. -/
def processChallenge (c : CredsspClient) (now : UInt64) (parsed : ParsedTsRequest) :
    CredsspClient × Except String (Bytes × Bool) :=
  let c := { c with peerVersion := parsed.version }
  match parsed.negoToken with
  | none => (c, .error "CredSSP: server TSRequest missing negoTokens (challenge)")
  | some challenge =>
    match c.ntlm.readChallenge now challenge with
    | (ntlm, .error e) => ({ c with ntlm }, .error e)
    | (ntlm, .ok ()) =>
      match ntlm.buildAuthenticate crypto c.config.user c.config.domain c.config.password
          c.config.clientChallenge c.config.keyExchKey with
      | (ntlm, .error e) => ({ c with ntlm }, .error e)
      | (ntlm, .ok auth) =>
        match ntlm.encrypt crypto (clientBinding crypto c.config c.peerVersion) with
        | (ntlm, .error e) => ({ c with ntlm }, .error e)
        | (ntlm, .ok pubKeyAuth) =>
          ({ c with ntlm, state := .pubKey },
            .ok (encodeTsRequest tsRequestVersion (some auth) none (some pubKeyAuth)
              (if 5 ≤ c.peerVersion then some c.config.clientNonce else none), false))

/-- The `PubKey` arm. The credentials are sealed only behind the comparison. -/
def processPubKey (c : CredsspClient) (parsed : ParsedTsRequest) :
    CredsspClient × Except String (Bytes × Bool) :=
  match parsed.pubKeyAuth with
  | none => (c, .error "CredSSP: server TSRequest missing pubKeyAuth")
  | some serverPub =>
    match c.ntlm.decrypt crypto serverPub with
    | (ntlm, .error e) => ({ c with ntlm }, .error e)
    | (ntlm, .ok decrypted) =>
      if decrypted ≠ expectedPubKeyAuth crypto c.config c.peerVersion then
        ({ c with ntlm }, .error (mismatch c.peerVersion))
      else
        match ntlm.encrypt crypto
            (encodeTsCredentials c.config.domain c.config.user c.config.password) with
        | (ntlm, .error e) => ({ c with ntlm }, .error e)
        | (ntlm, .ok authInfo) =>
          ({ c with ntlm, state := .done },
            .ok (encodeTsRequest tsRequestVersion none (some authInfo) none none, true))

/-- One server message: parsed, checked for an error code, then taken by the
arm of the handshake state. -/
def processServer (c : CredsspClient) (now : UInt64) (serverTs : Bytes) :
    CredsspClient × Except String (Bytes × Bool) :=
  match parseTsRequest serverTs with
  | .error e => (c, .error e)
  | .ok parsed =>
    match parsed.errorCode.filter (· ≠ 0) with
    | some code => (c, .error ("CredSSP server returned NTSTATUS 0x" ++ hex08 code))
    | none =>
      match c.state with
      | .challenge => c.processChallenge crypto now parsed
      | .pubKey => c.processPubKey crypto parsed
      | .done => (c, .error "CredSSP already complete")

end CredsspClient

inductive CredsspAction where
  | firstMessage
  | server (now : UInt64) (serverTs : Bytes)
  deriving DecidableEq

/-- What a call gives the caller to send, with the flag that nothing follows. -/
abbrev CredsspReply := Except String (Bytes × Bool)

abbrev CredsspEvent := CredsspAction × CredsspReply

/-- Every sequence of calls on one client. -/
def credsspMachine (crypto : Crypto) (config : CredsspConfig) :
    Machine CredsspClient CredsspAction CredsspReply where
  init := { config }
  step c
    | .firstMessage => let r := c.firstMessage; some (r.1, .ok (r.2, false))
    | .server now serverTs => some (c.processServer crypto now serverTs)

end Lgnome.Credssp
