import Lgnome.Credssp.Crypto

/-!
# The NTLMv2 client

NEGOTIATE, CHALLENGE and AUTHENTICATE, and the signing and sealing of the
session they set up. A method returns the client it leaves behind next to its
result, because some of them change the client before they fail.
-/
namespace Lgnome.Credssp

namespace Ntlm

def flagUnicode : UInt32 := 0x00000001
def flagOem : UInt32 := 0x00000002
def flagRequestTarget : UInt32 := 0x00000004
def flagSign : UInt32 := 0x00000010
def flagSeal : UInt32 := 0x00000020
def flagLmKey : UInt32 := 0x00000080
def flagNtlm : UInt32 := 0x00000200
def flagDomainSupplied : UInt32 := 0x00001000
def flagAlwaysSign : UInt32 := 0x00008000
def flagExtendedSessionSecurity : UInt32 := 0x00080000
def flagTargetInfo : UInt32 := 0x00800000
def flagVersion : UInt32 := 0x02000000
def flagNegotiate128 : UInt32 := 0x20000000
def flagKeyExch : UInt32 := 0x40000000
def flagNegotiate56 : UInt32 := 0x80000000

def ntlmVersion : Bytes := [0x0a, 0x00, 0x63, 0x45, 0x00, 0x00, 0x00, 0x0f]

/-- `b"NTLMSSP\0"`. -/
def signature : Bytes := [0x4e, 0x54, 0x4c, 0x4d, 0x53, 0x53, 0x50, 0x00]

/-- A byte-string literal with its closing zero. -/
def magic (s : String) : Bytes := s.toList.map (fun c => UInt8.ofNat c.toNat) ++ [0]

def clientSignMagic : Bytes := magic "session key to client-to-server signing key magic constant"
def serverSignMagic : Bytes := magic "session key to server-to-client signing key magic constant"
def clientSealMagic : Bytes := magic "session key to client-to-server sealing key magic constant"
def serverSealMagic : Bytes := magic "session key to server-to-client sealing key magic constant"

/-- Length, the same length again, and the buffer offset. -/
def field (len : UInt16) (offset : UInt32) : Bytes :=
  leBytes16 len ++ leBytes16 len ++ leBytes32 offset

/-- The walk over the AV pairs, one pair for each unit of fuel. -/
def findTimestamp : Nat → Bytes → Option UInt64
  | 0, _ => none
  | fuel + 1, ti =>
    if ti.length < 4 then none
    else
      let t := readLe16 ti 0
      let l := readLe16 ti 2
      let rest := ti.drop 4
      if t = 0 then none
      else if rest.length < l then none
      else if t = 7 ∧ l = 8 then some (UInt64.ofNat (readLe64 rest 0))
      else findTimestamp fuel (rest.drop l)

/-- Every pair takes at least four bytes, so the length is fuel enough. -/
def timestampFromTargetInfo (ti : Bytes) : Option UInt64 := findTimestamp ti.length ti

/-- The pairs before the end marker, as far as they are complete. -/
def copyTargetInfo : Nat → Bytes → Bytes
  | 0, _ => []
  | fuel + 1, ti =>
    if ti.length < 4 then []
    else
      let l := readLe16 ti 2
      if readLe16 ti 0 = 0 then []
      else if ti.length < 4 + l then []
      else ti.take (4 + l) ++ copyTargetInfo fuel (ti.drop (4 + l))

/-- The challenge's pairs, the flag that announces the MIC, and the end marker
with four reserved bytes. -/
def buildAuthenticateTargetInfo (challengeTi : Bytes) : Bytes :=
  copyTargetInfo challengeTi.length challengeTi ++ leBytes16 6 ++ leBytes16 4 ++ leBytes32 2 ++
    List.replicate 8 0

end Ntlm

variable (crypto : Crypto)

/-- HMAC-MD5 keyed by MD4 of the password, over the upper-case user and the domain. -/
def ntlmv2Hash (user domain password : Text) : Bytes :=
  crypto.hmacMd5 (crypto.md4 (utf16le password))
    (utf16le (crypto.toUppercase user) ++ utf16le domain)

def md5With (key magic : Bytes) : Bytes := crypto.md5 (key ++ magic)

structure NtlmClient where
  negotiateMsg : Bytes := []
  challengeMsg : Bytes := []
  serverChallenge : Bytes := List.replicate 8 0
  challengeTargetInfo : Bytes := []
  challengeFlags : UInt32 := 0
  keyExchange : Bool := false
  timestamp : UInt64 := 0
  exportedSessionKey : Bytes := List.replicate 16 0
  sendSigningKey : Bytes := List.replicate 16 0
  recvSigningKey : Bytes := List.replicate 16 0
  sendSealing : Option Rc4 := none
  recvSealing : Option Rc4 := none
  sendSeq : UInt32 := 0
  recvSeq : UInt32 := 0
  deriving DecidableEq

namespace NtlmClient

open Ntlm

def buildNegotiate (c : NtlmClient) : NtlmClient × Bytes :=
  let flags := flagNegotiate56 ||| flagOem ||| flagNegotiate128 ||| flagAlwaysSign |||
    flagExtendedSessionSecurity ||| flagNtlm ||| flagRequestTarget ||| flagUnicode |||
    flagVersion ||| flagLmKey ||| flagSeal ||| flagKeyExch ||| flagSign
  let msg := signature ++ leBytes32 1 ++ leBytes32 flags ++ field 0 40 ++ field 0 40 ++ ntlmVersion
  ({ c with negotiateMsg := msg }, msg)

/-- Everything is checked before the first field is written. `now` is the time
used when the challenge carries none. -/
def readChallenge (c : NtlmClient) (now : UInt64) (msg : Bytes) :
    NtlmClient × Except String Unit :=
  if msg.length < 48 then (c, .error "NTLM challenge too short")
  else if slice msg 0 8 ≠ signature then (c, .error "bad NTLM signature")
  else if readLe32 msg 8 ≠ 2 then (c, .error "not an NTLM CHALLENGE")
  else
    let tiLen := readLe16 msg 40
    let tiOff := readLe32 msg 44
    if msg.length < tiOff + tiLen then
      (c, .error "NTLM challenge target info out of bounds")
    else
      let ti := slice msg tiOff (tiOff + tiLen)
      ({ c with
          timestamp := (timestampFromTargetInfo ti).getD now
          challengeTargetInfo := ti
          serverChallenge := slice msg 24 32
          challengeFlags := UInt32.ofNat (readLe32 msg 20)
          challengeMsg := msg }, .ok ())

/-- The flags of the AUTHENTICATE message. -/
def authenticateFlags (c : NtlmClient) (domain : Text) : UInt32 :=
  let flags := flagNegotiate56 ||| flagNegotiate128 ||| flagAlwaysSign |||
    flagExtendedSessionSecurity ||| flagNtlm ||| flagRequestTarget ||| flagUnicode |||
    flagTargetInfo ||| flagVersion ||| flagSeal ||| flagSign
  let flags := if c.challengeFlags &&& flagKeyExch ≠ 0 then flags ||| flagKeyExch else flags
  if domain.isEmpty then flags else flags ||| flagDomainSupplied

def lmResponse (c : NtlmClient) (ntHash clientChallenge : Bytes) : Bytes :=
  crypto.hmacMd5 ntHash (c.serverChallenge ++ clientChallenge) ++ clientChallenge

/-- The part of the NTLMv2 response that follows the proof. -/
def responseTemp (c : NtlmClient) (clientChallenge : Bytes) : Bytes :=
  [1, 1] ++ List.replicate 2 0 ++ List.replicate 4 0 ++ leBytes64 c.timestamp ++ clientChallenge ++
    List.replicate 4 0 ++ buildAuthenticateTargetInfo c.challengeTargetInfo

def ntProof (c : NtlmClient) (ntHash clientChallenge : Bytes) : Bytes :=
  crypto.hmacMd5 ntHash (c.serverChallenge ++ c.responseTemp clientChallenge)

/-- The message with sixteen zero bytes in the place of the MIC. -/
def authenticateUnsigned (flags : UInt32) (domainB userB lm nt encryptedSessionKey : Bytes) :
    Bytes :=
  let base : UInt32 := 88
  let userOff := base + UInt32.ofNat domainB.length
  let wsOff := userOff + UInt32.ofNat userB.length
  let ntOff := wsOff + UInt32.ofNat lm.length
  let eskOff := ntOff + UInt32.ofNat nt.length
  let exchanged := flags &&& flagKeyExch ≠ 0
  signature ++ leBytes32 3 ++
    field (UInt16.ofNat lm.length) wsOff ++ field (UInt16.ofNat nt.length) ntOff ++
    field (UInt16.ofNat domainB.length) base ++ field (UInt16.ofNat userB.length) userOff ++
    field 0 wsOff ++ field (if exchanged then 16 else 0) eskOff ++ leBytes32 flags ++
    ntlmVersion ++ List.replicate 16 0 ++ domainB ++ userB ++ lm ++ nt ++
    if exchanged then encryptedSessionKey else []

/-- The AUTHENTICATE message, and a client with the session keys in place and
both sequence numbers at zero. -/
def buildAuthenticate (c : NtlmClient) (user domain password : Text)
    (clientChallenge keyExchSessionKey : Bytes) : NtlmClient × Except String Bytes :=
  if c.challengeMsg = [] then (c, .error "read_challenge must be called first")
  else
    let ntHash := ntlmv2Hash crypto user domain password
    let proof := c.ntProof crypto ntHash clientChallenge
    let keyExchangeKey := crypto.hmacMd5 ntHash proof
    let flags := c.authenticateFlags domain
    let exchanged := flags &&& flagKeyExch ≠ 0
    let sessionKey := if exchanged then keyExchSessionKey else keyExchangeKey
    let msg := authenticateUnsigned flags (utf16le domain) (utf16le user)
      (c.lmResponse crypto ntHash clientChallenge) (proof ++ c.responseTemp clientChallenge)
      ((Rc4.new keyExchangeKey).process sessionKey).2
    let mic := crypto.hmacMd5 sessionKey (c.negotiateMsg ++ c.challengeMsg ++ msg)
    ({ c with
        exportedSessionKey := sessionKey
        keyExchange := decide exchanged
        sendSigningKey := md5With crypto sessionKey clientSignMagic
        recvSigningKey := md5With crypto sessionKey serverSignMagic
        sendSealing := some (Rc4.new (md5With crypto sessionKey clientSealMagic))
        recvSealing := some (Rc4.new (md5With crypto sessionKey serverSealMagic))
        sendSeq := 0
        recvSeq := 0 },
      .ok (msg.take 72 ++ mic ++ msg.drop 88))

/-- The checksum bytes: the digest's first eight, sealed after key exchange. -/
def checksum (exchanged : Bool) (sealing : Rc4) (digest : Bytes) : Rc4 × Bytes :=
  if exchanged then sealing.process (digest.take 8) else (sealing, digest.take 8)

/-- A signature: version one, the checksum, the sequence number. -/
def signatureOf (check : Bytes) (seq : UInt32) : Bytes := leBytes32 1 ++ check ++ leBytes32 seq

/-- EncryptMessage. The sequence number moves even when no key is there yet. -/
def encrypt (c : NtlmClient) (plaintext : Bytes) : NtlmClient × Except String Bytes :=
  let seq := c.sendSeq
  let c := { c with sendSeq := c.sendSeq + 1 }
  match c.sendSealing with
  | none => (c, .error "not authenticated")
  | some sealing =>
    let digest := crypto.hmacMd5 c.sendSigningKey (leBytes32 seq ++ plaintext)
    let sealed := sealing.process plaintext
    let check := checksum c.keyExchange sealed.1 digest
    ({ c with sendSealing := some check.1 }, .ok (signatureOf check.2 seq ++ sealed.2))

/-- DecryptMessage. A long enough message uses up a sequence number and
keystream, also when its signature turns out wrong. -/
def decrypt (c : NtlmClient) (msg : Bytes) : NtlmClient × Except String Bytes :=
  if msg.length < 16 then (c, .error "NTLM message too short")
  else
    let seq := c.recvSeq
    let c := { c with recvSeq := c.recvSeq + 1 }
    match c.recvSealing with
    | none => (c, .error "not authenticated")
    | some sealing =>
      let data := sealing.process (msg.drop 16)
      let digest := crypto.hmacMd5 c.recvSigningKey (leBytes32 seq ++ data.2)
      let check := checksum c.keyExchange data.1 digest
      let c := { c with recvSealing := some check.1 }
      if msg.take 16 ≠ signatureOf check.2 seq then
        (c, .error "NTLM signature verification failed")
      else (c, .ok data.2)

variable {crypto} {n m : NtlmClient} {r : Rc4}

theorem checksum_length (exchanged : Bool) (sealing : Rc4) {digest : Bytes}
    (h : digest.length = 16) : (checksum exchanged sealing digest).2.length = 8 := by
  unfold checksum
  cases exchanged <;> simp [h]

theorem signatureOf_length {check : Bytes} (h : check.length = 8) (seq : UInt32) :
    (signatureOf check seq).length = 16 := by
  simp [signatureOf, h]

/-- Two ends that share the keys of one direction, its keystream position and
its sequence number: what one seals, the other unseals. -/
theorem decrypt_encrypt (hm : m.sendSealing = some r) (hn : n.recvSealing = some r)
    (hk : n.recvSigningKey = m.sendSigningKey) (hx : n.keyExchange = m.keyExchange)
    (hq : n.recvSeq = m.sendSeq) (plaintext : Bytes) :
    ∃ token, (m.encrypt crypto plaintext).2 = .ok token ∧
      token.length = 16 + plaintext.length ∧ (n.decrypt crypto token).2 = .ok plaintext := by
  have hdata := r.process_process plaintext
  have hstate : (r.process (r.process plaintext).2).1 = (r.process plaintext).1 :=
    r.process_state (by rw [Rc4.process_length])
  have hdigest := crypto.hmacMd5_length m.sendSigningKey (leBytes32 m.sendSeq ++ plaintext)
  generalize hcheck : checksum m.keyExchange (r.process plaintext).1
    (crypto.hmacMd5 m.sendSigningKey (leBytes32 m.sendSeq ++ plaintext)) = check
  have hsig : (signatureOf check.2 m.sendSeq).length = 16 := by
    rw [← hcheck]
    exact signatureOf_length (checksum_length _ _ hdigest) _
  refine ⟨signatureOf check.2 m.sendSeq ++ (r.process plaintext).2, ?_, ?_, ?_⟩
  · simp only [encrypt, hm, hcheck]
  · rw [List.length_append, hsig, Rc4.process_length]
  · have htake : (signatureOf check.2 m.sendSeq ++ (r.process plaintext).2).take 16 =
        signatureOf check.2 m.sendSeq := List.take_left' hsig
    have hdrop : (signatureOf check.2 m.sendSeq ++ (r.process plaintext).2).drop 16 =
        (r.process plaintext).2 := List.drop_left' hsig
    have hlong : ¬(signatureOf check.2 m.sendSeq ++ (r.process plaintext).2).length < 16 := by
      rw [List.length_append]
      omega
    unfold decrypt
    rw [if_neg hlong]
    simp only [hn, hdrop, hdata, hstate, hx, hk, hq, hcheck, htake]
    simp

/-- A key for sending is all that sealing needs. -/
theorem encrypt_length (crypto : Crypto) (hm : m.sendSealing = some r) (plaintext : Bytes) :
    ∃ token, (m.encrypt crypto plaintext).2 = .ok token ∧ token.length = 16 + plaintext.length := by
  -- Its own counterpart could unseal the token.
  obtain ⟨token, henc, hlen, -⟩ :
      ∃ token, (m.encrypt crypto plaintext).2 = .ok token ∧
        token.length = 16 + plaintext.length ∧ _ :=
    decrypt_encrypt (n := { keyExchange := m.keyExchange, recvSigningKey := m.sendSigningKey,
                            recvSealing := some r, recvSeq := m.sendSeq })
      hm rfl rfl rfl rfl plaintext
  exact ⟨token, henc, hlen⟩

/-- Unsealing leaves the sending half alone. -/
theorem decrypt_sendSealing (crypto : Crypto) (n : NtlmClient) (token : Bytes) :
    (n.decrypt crypto token).1.sendSealing = n.sendSealing := by
  unfold decrypt
  split
  · rfl
  · cases n.recvSealing with
    | none => rfl
    | some sealing =>
      simp only
      split <;> rfl

end NtlmClient

end Lgnome.Credssp
