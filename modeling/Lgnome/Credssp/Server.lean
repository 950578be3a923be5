import Lgnome.Credssp.AuthenticateLayout
import Lgnome.Credssp.Sealing

/-!
# A server that knows the account

The other end of the handshake, as far as it has to follow the client: it takes AUTHENTICATE
apart by its descriptors, proves the password with its own digests, gets at the session key,
and reads the credentials that it opens.
-/
namespace Lgnome.Credssp

open Ntlm NtlmClient

structure Account where
  user : Text
  domain : Text
  password : Text
  deriving DecidableEq

def CredsspConfig.account (config : CredsspConfig) : Account :=
  ⟨config.user, config.domain, config.password⟩

/-- The bytes that a descriptor announces. -/
def fieldBytes (msg : Bytes) (pos : Nat) : Bytes :=
  slice msg (fieldOffset msg pos) (fieldOffset msg pos + fieldLength msg pos)

/-- The flags stand behind the six descriptors. -/
def flagsOf (msg : Bytes) : UInt32 := UInt32.ofNat (readLe32 msg 60)

def withoutMic (msg : Bytes) : Bytes := msg.take 72 ++ List.replicate 16 0 ++ msg.drop 88

/-- The session key of an AUTHENTICATE message and the mode it asks for, if the message was made
with the account's password for this challenge and nothing in the three messages was changed. -/
def Account.sessionKey (crypto : Crypto) (account : Account) (negotiate challenge msg : Bytes) :
    Option (Bytes × Bool) :=
  let ntHash := ntlmv2Hash crypto account.user account.domain account.password
  let response := fieldBytes msg 20
  if fieldBytes msg 28 ≠ utf16le account.domain ∨ fieldBytes msg 36 ≠ utf16le account.user then none
  else if crypto.hmacMd5 ntHash (slice challenge 24 32 ++ response.drop 16) ≠ response.take 16 then
    none
  else
    let keyExchangeKey := crypto.hmacMd5 ntHash (response.take 16)
    let exchanged := decide (flagsOf msg &&& flagKeyExch ≠ 0)
    let key :=
      if exchanged then ((Rc4.new keyExchangeKey).process (fieldBytes msg 52)).2 else keyExchangeKey
    if crypto.hmacMd5 key (negotiate ++ challenge ++ withoutMic msg) ≠ slice msg 72 88 then none
    else some (key, exchanged)

/-- TSPasswordCreds, the texts in UTF-16LE. -/
def readPasswordCreds (buf : Bytes) : Except String (Bytes × Bytes × Bytes) := do
  let body ← unwrap 0x30 buf
  let first := (Der.new body).readTag 0xA0
  let domain ← first.2
  let second := first.1.readTag 0xA1
  let user ← second.2
  let third := second.1.readTag 0xA2
  let password ← third.2
  return (← unwrap 0x04 domain, ← unwrap 0x04 user, ← unwrap 0x04 password)

/-- TSCredentials with a password. -/
def readTsCredentials (buf : Bytes) : Except String (Bytes × Bytes × Bytes) := do
  let body ← unwrap 0x30 buf
  let first := (Der.new body).readTag 0xA0
  let type ← unwrap 0x02 (← first.2)
  let type ← intFromBytes type
  let second := first.1.readTag 0xA1
  let credentials ← unwrap 0x04 (← second.2)
  if type = tsPasswordCreds then readPasswordCreds credentials
  else .error "TSCredentials without a password"

/-! ## The credentials -/

section Credentials

variable {domain user password : Text}

theorem readPasswordCreds_encode {domainB userB passwordB : Bytes}
    (h : (sequence (context 0 (octetString domainB) ++ context 1 (octetString userB) ++
      context 2 (octetString passwordB))).length < 2 ^ 32) :
    readPasswordCreds (sequence (context 0 (octetString domainB) ++ context 1 (octetString userB) ++
      context 2 (octetString passwordB))) = .ok (domainB, userB, passwordB) := by
  have hbody := (length_le_tlv _ _).trans_lt h
  have hwhole := unwrap_tlv hbody (h.trans (by omega))
  have h0 : context 0 (octetString domainB) = tlv 0xA0 (octetString domainB) := rfl
  have h1 : context 1 (octetString userB) = tlv 0xA1 (octetString userB) := rfl
  have h2 : context 2 (octetString passwordB) = tlv 0xA2 (octetString passwordB) := rfl
  rw [h0, h1, h2] at hbody hwhole ⊢
  have hdomain := length_le_tlv 0xA0 (octetString domainB)
  have huser := length_le_tlv 0xA1 (octetString userB)
  have hpassword := length_le_tlv 0xA2 (octetString passwordB)
  simp only [List.length_append] at hbody
  have r0 := readTag_cursor 0xA0 (octetString domainB) []
    (tlv 0xA1 (octetString userB) ++ tlv 0xA2 (octetString passwordB)) (by omega)
    (by rw [List.nil_append]; omega)
  rw [List.nil_append, Der.cursor_nil] at r0
  have r1 := readTag_cursor 0xA1 (octetString userB) (tlv 0xA0 (octetString domainB))
    (tlv 0xA2 (octetString passwordB)) (by omega) (by rw [List.length_append]; omega)
  have r2 := readTag_cursor 0xA2 (octetString passwordB)
    (tlv 0xA0 (octetString domainB) ++ tlv 0xA1 (octetString userB)) [] (by omega)
    (by simp only [List.length_append]; omega)
  rw [List.append_nil] at r2
  unfold readPasswordCreds
  rw [sequence, hwhole, List.append_assoc]
  simp only [bind, Except.bind, pure, Except.pure, r0, r1, r2,
    unwrap_octetString (v := domainB) (by omega), unwrap_octetString (v := userB) (by omega),
    unwrap_octetString (v := passwordB) (by omega)]

/-- What the client encodes is read back as it was configured. -/
theorem readTsCredentials_encode (h : (encodeTsCredentials domain user password).length < 2 ^ 32) :
    readTsCredentials (encodeTsCredentials domain user password) =
      .ok (utf16le domain, utf16le user, utf16le password) := by
  unfold encodeTsCredentials at h ⊢
  dsimp only at h ⊢
  generalize hcreds : sequence (context 0 (octetString (utf16le domain)) ++
    context 1 (octetString (utf16le user)) ++ context 2 (octetString (utf16le password))) = creds
    at h ⊢
  have hbody := (length_le_tlv _ _).trans_lt h
  have hwhole := unwrap_tlv hbody (h.trans (by omega))
  have h0 : context 0 (integer tsPasswordCreds) = tlv 0xA0 (integer tsPasswordCreds) := rfl
  have h1 : context 1 (octetString creds) = tlv 0xA1 (octetString creds) := rfl
  rw [h0, h1] at hbody hwhole ⊢
  have hocts := length_le_tlv 0xA1 (octetString creds)
  have hlen : creds.length ≤ (octetString creds).length := length_le_tlv 0x04 creds
  obtain ⟨hint, hshort⟩ := unwrap_integer tsPasswordCreds
  simp only [List.length_append] at hbody
  have r0 := readTag_cursor 0xA0 (integer tsPasswordCreds) [] (tlv 0xA1 (octetString creds))
    (by omega) (by rw [List.nil_append]; omega)
  rw [List.nil_append, Der.cursor_nil] at r0
  have r1 := readTag_cursor 0xA1 (octetString creds) (tlv 0xA0 (integer tsPasswordCreds)) []
    (by omega) (by rw [List.length_append]; omega)
  rw [List.append_nil] at r1
  have hinner : readPasswordCreds creds =
      .ok (utf16le domain, utf16le user, utf16le password) := by
    rw [← hcreds]
    apply readPasswordCreds_encode
    rw [hcreds]
    omega
  cases htype : unwrap 0x02 (integer tsPasswordCreds) with
  | error e =>
    rw [htype] at hint
    cases hint
  | ok type =>
    rw [htype] at hint
    have hok : intFromBytes type = .ok tsPasswordCreds := hint
    unfold readTsCredentials
    rw [sequence, hwhole]
    simp only [bind, Except.bind, r0, htype, hok, r1, unwrap_octetString (v := creds) (by omega),
      if_true, hinner]

end Credentials

/-! ## The session key -/

section SessionKey

variable {crypto : Crypto} {c done : NtlmClient} {user domain password : Text}
  {clientChallenge sessionKey mic msg : Bytes}

theorem Delimits.fieldBytes {pos : Nat} {bytes : Bytes} (h : Delimits msg pos bytes) :
    Credssp.fieldBytes msg pos = bytes := h.content

theorem flagsOf_authenticateMessage (crypto : Crypto) (c : NtlmClient)
    (user domain password : Text) (clientChallenge sessionKey mic : Bytes) :
    flagsOf (authenticateMessage crypto c user domain password clientChallenge sessionKey mic) =
      c.authenticateFlags domain := by
  have hwhole := Holds.whole
    (authenticateMessage crypto c user domain password clientChallenge sessionKey mic)
  have hflags : Holds _ 60 (leBytes32 (c.authenticateFlags domain)) :=
    hwhole.left.right.right.right.right.right.right.right.right.left
  rw [flagsOf, hflags.readLe32]
  exact UInt32.ofNat_toNat

/-- The server gets at the client's session key, and takes its mode. -/
theorem sessionKey_of_layout {negotiate challenge : Bytes}
    (hlayout : Layout crypto c done user domain password clientChallenge msg)
    (hflags : flagsOf msg = c.authenticateFlags domain)
    (hexchange : done.keyExchange = decide (c.authenticateFlags domain &&& flagKeyExch ≠ 0))
    (hkey : done.keyExchange = false → done.exportedSessionKey =
      crypto.hmacMd5 (ntlmv2Hash crypto user domain password)
        (c.ntProof crypto (ntlmv2Hash crypto user domain password) clientChallenge))
    (hnegotiate : c.negotiateMsg = negotiate) (hchallenge : c.challengeMsg = challenge)
    (hserver : c.serverChallenge = slice challenge 24 32) :
    Account.sessionKey crypto ⟨user, domain, password⟩ negotiate challenge msg =
      some (done.exportedSessionKey, done.keyExchange) := by
  have hproof : (c.ntProof crypto (ntlmv2Hash crypto user domain password)
      clientChallenge).length = 16 := crypto.hmacMd5_length _ _
  have htake : (c.ntProof crypto (ntlmv2Hash crypto user domain password) clientChallenge ++
      c.responseTemp clientChallenge).take 16 = _ := List.take_left' hproof
  have hdrop : (c.ntProof crypto (ntlmv2Hash crypto user domain password) clientChallenge ++
      c.responseTemp clientChallenge).drop 16 = _ := List.drop_left' hproof
  have hmic := hlayout.mic
  have hsealed := hlayout.sessionKeyField.fieldBytes
  unfold Account.sessionKey
  simp only [hlayout.domainField.fieldBytes, hlayout.userField.fieldBytes,
    hlayout.ntField.fieldBytes, htake, hdrop, hflags, ← hexchange]
  rw [if_neg (by simp), if_neg (by rw [← hserver]; exact not_not.mpr rfl)]
  have hsession : (if done.keyExchange = true then ((Rc4.new (crypto.hmacMd5
      (ntlmv2Hash crypto user domain password)
      (c.ntProof crypto (ntlmv2Hash crypto user domain password) clientChallenge))).process
        (fieldBytes msg 52)).2
      else crypto.hmacMd5 (ntlmv2Hash crypto user domain password)
        (c.ntProof crypto (ntlmv2Hash crypto user domain password) clientChallenge)) =
      done.exportedSessionKey := by
    cases hmode : done.keyExchange with
    | false =>
      rw [if_neg Bool.false_ne_true]
      exact (hkey hmode).symm
    | true =>
      rw [hmode] at hsealed
      rw [if_pos rfl, hsealed, if_pos rfl]
      exact Rc4.process_process _ _
  rw [hsession, if_neg]
  rw [not_not, hmic, hnegotiate, hchallenge]
  rfl

end SessionKey

end Lgnome.Credssp
