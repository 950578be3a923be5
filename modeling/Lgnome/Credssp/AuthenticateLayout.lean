import Lgnome.Credssp.TargetInfo
import Lgnome.Credssp.Release

/-!
# The layout of AUTHENTICATE

Six descriptors, each a 16-bit length written twice and an offset, announce the
fields behind the MIC. The offsets come from the lengths as they are, and the
lengths are cut to sixteen bits.
-/
namespace Lgnome.Credssp

open Ntlm NtlmClient

/-- The six descriptors: LM response, NT response, domain, user, workstation,
session key. -/
def descriptors : List Nat := [12, 20, 28, 36, 44, 52]

def fieldLength (msg : Bytes) (pos : Nat) : Nat := readLe16 msg pos

def fieldOffset (msg : Bytes) (pos : Nat) : Nat := readLe32 msg (pos + 4)

/-- The descriptor at a position delimits exactly these bytes. -/
structure Delimits (msg : Bytes) (pos : Nat) (bytes : Bytes) : Prop where
  len : fieldLength msg pos = bytes.length
  maxLen : readLe16 msg (pos + 2) = bytes.length
  inside : fieldOffset msg pos + fieldLength msg pos ≤ msg.length
  content : slice msg (fieldOffset msg pos) (fieldOffset msg pos + fieldLength msg pos) = bytes

/-- Two descriptors' fields do not overlap. -/
def Apart (msg : Bytes) (p q : Nat) : Prop :=
  fieldOffset msg p + fieldLength msg p ≤ fieldOffset msg q ∨
    fieldOffset msg q + fieldLength msg q ≤ fieldOffset msg p

/-- The layout a receiver relies on. `c` has read the challenge and `done` is
the client behind `msg`, with the session key in place. -/
structure Layout (crypto : Crypto) (c done : NtlmClient) (user domain password : Text)
    (clientChallenge msg : Bytes) : Prop where
  lmField : Delimits msg 12 (c.lmResponse crypto (ntlmv2Hash crypto user domain password)
    clientChallenge)
  ntField : Delimits msg 20 (c.ntProof crypto (ntlmv2Hash crypto user domain password)
    clientChallenge ++ c.responseTemp clientChallenge)
  domainField : Delimits msg 28 (utf16le domain)
  userField : Delimits msg 36 (utf16le user)
  workstationField : Delimits msg 44 []
  sessionKeyField : Delimits msg 52 (if done.keyExchange then
    ((Rc4.new (crypto.hmacMd5 (ntlmv2Hash crypto user domain password)
      (c.ntProof crypto (ntlmv2Hash crypto user domain password) clientChallenge))).process
        done.exportedSessionKey).2 else [])
  apart : descriptors.Pairwise (Apart msg)
  behindMic : ∀ pos ∈ descriptors, 88 ≤ fieldOffset msg pos
  mic : slice msg 72 88 = crypto.hmacMd5 done.exportedSessionKey (c.negotiateMsg ++
    c.challengeMsg ++ (msg.take 72 ++ List.replicate 16 0 ++ msg.drop 88))

/-- These bytes stand at this place. -/
def Holds (msg : Bytes) (pos : Nat) (bytes : Bytes) : Prop :=
  ∃ front back, msg = front ++ (bytes ++ back) ∧ front.length = pos

section Descriptors

variable {msg a b bytes : Bytes} {pos before : Nat} {len : UInt16} {off : UInt32}

theorem Holds.whole (msg : Bytes) : Holds msg 0 msg :=
  ⟨[], [], (List.append_nil msg).symm, rfl⟩

theorem Holds.left (h : Holds msg pos (a ++ b)) : Holds msg pos a := by
  obtain ⟨front, back, hmsg, hpos⟩ := h
  exact ⟨front, b ++ back, by rw [hmsg, List.append_assoc], hpos⟩

theorem Holds.right (h : Holds msg pos (a ++ b)) : Holds msg (pos + a.length) b := by
  obtain ⟨front, back, hmsg, hpos⟩ := h
  exact ⟨front ++ a, back, by rw [hmsg, List.append_assoc, List.append_assoc],
    by rw [List.length_append, hpos]⟩

theorem Holds.inside (h : Holds msg pos bytes) : pos + bytes.length ≤ msg.length := by
  obtain ⟨front, back, rfl, rfl⟩ := h
  rw [List.length_append, List.length_append]
  omega

theorem Holds.slice (h : Holds msg pos bytes) :
    slice msg pos (pos + bytes.length) = bytes := by
  obtain ⟨front, back, rfl, rfl⟩ := h
  exact slice_append _ _ _ rfl rfl

theorem Holds.readLe16 (h : Holds msg pos (leBytes16 len)) : readLe16 msg pos = len.toNat := by
  obtain ⟨front, back, rfl, hpos⟩ := h
  rw [readLe16_append _ _ hpos, readLe16_leBytes16]

theorem Holds.readLe32 (h : Holds msg pos (leBytes32 off)) : readLe32 msg pos = off.toNat := by
  obtain ⟨front, back, rfl, hpos⟩ := h
  rw [readLe32_append _ _ hpos, readLe32_leBytes32]

/-- A length that is delimited fits sixteen bits. -/
theorem Delimits.length_lt (h : Delimits msg pos bytes) : bytes.length < 2 ^ 16 :=
  h.len ▸ readLe16_lt msg pos

/-- A descriptor written from the length and the place of the bytes delimits them. -/
theorem delimits_field (hfield : Holds msg pos (field len off)) (hdata : Holds msg before bytes)
    (hlen : len.toNat = bytes.length) (hoff : off.toNat = before) :
    Delimits msg pos bytes ∧ fieldOffset msg pos = before := by
  have hl : fieldLength msg pos = bytes.length := hfield.left.left.readLe16.trans hlen
  have hm : Lgnome.readLe16 msg (pos + 2) = bytes.length := hfield.left.right.readLe16.trans hlen
  have ho : fieldOffset msg pos = before := hfield.right.readLe32.trans hoff
  refine ⟨⟨hl, hm, ?_, ?_⟩, ho⟩
  · rw [hl, ho]
    exact hdata.inside
  · rw [hl, ho]
    exact hdata.slice

theorem offset_add (base : UInt32) (n : Nat) (h : base.toNat + n < 2 ^ 32) :
    (base + UInt32.ofNat n).toNat = base.toNat + n := by
  have hn : (UInt32.ofNat n).toNat = n := Nat.mod_eq_of_lt (by omega)
  rw [UInt32.toNat_add, hn]
  exact Nat.mod_eq_of_lt h

end Descriptors

section Message

variable (flags : UInt32) (domainB userB lm nt key mic : Bytes)

/-- Header, descriptors, flags and version: what stands in front of the MIC. -/
def authenticateFront : Bytes :=
  let userOff := 88 + UInt32.ofNat domainB.length
  let wsOff := userOff + UInt32.ofNat userB.length
  let ntOff := wsOff + UInt32.ofNat lm.length
  let eskOff := ntOff + UInt32.ofNat nt.length
  signature ++ (leBytes32 3 ++ (field (UInt16.ofNat lm.length) wsOff ++
    (field (UInt16.ofNat nt.length) ntOff ++ (field (UInt16.ofNat domainB.length) 88 ++
      (field (UInt16.ofNat userB.length) userOff ++ (field 0 wsOff ++
        (field (if flags &&& flagKeyExch ≠ 0 then 16 else 0) eskOff ++ (leBytes32 flags ++
          ntlmVersion))))))))

/-- The fields behind the MIC. -/
def authenticateFields : Bytes :=
  domainB ++ (userB ++ (lm ++ (nt ++ if flags &&& flagKeyExch ≠ 0 then key else [])))

/-- The message with some MIC in its place. -/
def authenticateWith : Bytes :=
  authenticateFront flags domainB userB lm nt ++
    (mic ++ authenticateFields flags domainB userB lm nt key)

theorem authenticateFront_length : (authenticateFront flags domainB userB lm nt).length = 72 := by
  simp only [authenticateFront, field, List.length_append, leBytes16_length, leBytes32_length]
  rfl

theorem authenticateUnsigned_eq :
    authenticateUnsigned flags domainB userB lm nt key =
      authenticateWith flags domainB userB lm nt key (List.replicate 16 0) := by
  simp only [authenticateUnsigned, authenticateWith, authenticateFront, authenticateFields,
    List.append_assoc]

variable {mic}

theorem authenticateWith_take :
    (authenticateWith flags domainB userB lm nt key mic).take 72 =
      authenticateFront flags domainB userB lm nt :=
  List.take_left' (authenticateFront_length flags domainB userB lm nt)

theorem authenticateWith_drop (hmic : mic.length = 16) :
    (authenticateWith flags domainB userB lm nt key mic).drop 88 =
      authenticateFields flags domainB userB lm nt key := by
  have hlen : (authenticateFront flags domainB userB lm nt ++ mic).length = 88 := by
    rw [List.length_append, authenticateFront_length, hmic]
  rw [authenticateWith, ← List.append_assoc]
  exact List.drop_left' hlen

theorem authenticateWith_mic (hmic : mic.length = 16) :
    slice (authenticateWith flags domainB userB lm nt key mic) 72 88 = mic :=
  slice_append _ _ _ (authenticateFront_length flags domainB userB lm nt) (by rw [hmic])

/-- Where the lengths fit sixteen bits, the six descriptors delimit the fields,
which follow each other behind the MIC. -/
theorem authenticateWith_delimits (hmic : mic.length = 16) (hdomain : domainB.length < 2 ^ 16)
    (huser : userB.length < 2 ^ 16) (hlm : lm.length < 2 ^ 16) (hnt : nt.length < 2 ^ 16)
    (hkey : key.length = 16) {msg : Bytes}
    (hmsg : msg = authenticateWith flags domainB userB lm nt key mic) :
    (Delimits msg 12 lm ∧ Delimits msg 20 nt ∧ Delimits msg 28 domainB ∧ Delimits msg 36 userB ∧
      Delimits msg 44 [] ∧
      Delimits msg 52 (if flags &&& flagKeyExch ≠ 0 then key else [])) ∧
      descriptors.Pairwise (Apart msg) ∧ ∀ pos ∈ descriptors, 88 ≤ fieldOffset msg pos := by
  have hfront := authenticateFront_length flags domainB userB lm nt
  have hoff1 : (88 + UInt32.ofNat domainB.length).toNat = 88 + domainB.length :=
    offset_add 88 _ (by simp; omega)
  have hoff2 : (88 + UInt32.ofNat domainB.length + UInt32.ofNat userB.length).toNat =
      88 + domainB.length + userB.length := by
    rw [offset_add _ _ (by omega), hoff1]
  have hoff3 : (88 + UInt32.ofNat domainB.length + UInt32.ofNat userB.length +
      UInt32.ofNat lm.length).toNat = 88 + domainB.length + userB.length + lm.length := by
    rw [offset_add _ _ (by omega), hoff2]
  have hoff4 : (88 + UInt32.ofNat domainB.length + UInt32.ofNat userB.length +
      UInt32.ofNat lm.length + UInt32.ofNat nt.length).toNat =
        88 + domainB.length + userB.length + lm.length + nt.length := by
    rw [offset_add _ _ (by omega), hoff3]
  have hword : ∀ {n : Nat}, n < 2 ^ 16 → (UInt16.ofNat n).toNat = n := fun h => Nat.mod_eq_of_lt h
  subst hmsg
  have hwhole := Holds.whole (authenticateWith flags domainB userB lm nt key mic)
  have hfields := (hwhole.right.right : Holds _ (0 + _ + _) _)
  rw [hfront, hmic] at hfields
  have f12 : Holds _ 12 (field _ _) := hwhole.left.right.right.left
  have f20 : Holds _ 20 (field _ _) := hwhole.left.right.right.right.left
  have f28 : Holds _ 28 (field _ _) := hwhole.left.right.right.right.right.left
  have f36 : Holds _ 36 (field _ _) := hwhole.left.right.right.right.right.right.left
  have f44 : Holds _ 44 (field _ _) := hwhole.left.right.right.right.right.right.right.left
  have f52 : Holds _ 52 (field _ _) := hwhole.left.right.right.right.right.right.right.right.left
  obtain ⟨dlm, olm⟩ := delimits_field f12 hfields.right.right.left (hword hlm) hoff2
  obtain ⟨dnt, ont⟩ := delimits_field f20 hfields.right.right.right.left (hword hnt) hoff3
  obtain ⟨ddomain, odomain⟩ := delimits_field f28 hfields.left (hword hdomain) rfl
  obtain ⟨duser, ouser⟩ := delimits_field f36 hfields.right.left (hword huser) hoff1
  have hempty : Holds _ _ (([] : Bytes) ++ _) := hfields.right.right
  obtain ⟨dws, ows⟩ := delimits_field f44 hempty.left rfl hoff2
  have hkeyLength : (if flags &&& flagKeyExch ≠ 0 then (16 : UInt16) else 0).toNat =
      (if flags &&& flagKeyExch ≠ 0 then key else []).length := by
    split
    · exact hkey.symm
    · rfl
  obtain ⟨dkey, okey⟩ := delimits_field f52 hfields.right.right.right.right hkeyLength hoff4
  refine ⟨⟨dlm, dnt, ddomain, duser, dws, dkey⟩, ?_, ?_⟩
  · simp only [descriptors, List.pairwise_cons, List.mem_cons, List.not_mem_nil, or_false,
      forall_eq_or_imp, forall_eq, List.Pairwise.nil, false_imp_iff, implies_true, and_true, Apart,
      olm, ont, odomain, ouser, ows, okey, dlm.len, dnt.len, ddomain.len, duser.len, dws.len,
      dkey.len, List.length_nil]
    omega
  · simp only [descriptors, List.mem_cons, List.not_mem_nil, or_false, forall_eq_or_imp, forall_eq,
      olm, ont, odomain, ouser, ows, okey]
    omega

end Message

section Client

variable {crypto : Crypto} {c c' done : NtlmClient} {user domain password : Text}
  {clientChallenge key msg challenge ti : Bytes} {now : UInt64} {pairs : List AvPair}

theorem lmResponse_length (hc : clientChallenge.length = 8) (ntHash : Bytes) :
    (c.lmResponse crypto ntHash clientChallenge).length = 24 := by
  rw [lmResponse, List.length_append, crypto.hmacMd5_length, hc]

/-- The NT response is sixty bytes longer than the copied pairs. -/
theorem ntResponse_length (hc : clientChallenge.length = 8)
    (hpairs : Complete c.challengeTargetInfo pairs) (ntHash : Bytes) :
    (c.ntProof crypto ntHash clientChallenge ++ c.responseTemp clientChallenge).length =
      (encodePairs pairs).length + 60 := by
  have hmic : (encodePairs [AvPair.micFlags]).length = 8 := rfl
  simp only [ntProof, responseTemp, hpairs.build, encodePairs_append, List.length_append,
    crypto.hmacMd5_length, List.length_replicate, leBytes64_length, hc, hmic, List.length_cons,
    List.length_nil]
  omega

/-- The session key sealed with the key exchange key. -/
def encryptedKey (crypto : Crypto) (c : NtlmClient) (user domain password : Text)
    (clientChallenge sessionKey : Bytes) : Bytes :=
  ((Rc4.new (crypto.hmacMd5 (ntlmv2Hash crypto user domain password)
    (c.ntProof crypto (ntlmv2Hash crypto user domain password) clientChallenge))).process
      sessionKey).2

/-- AUTHENTICATE with some MIC, for the session key that was chosen. -/
def authenticateMessage (crypto : Crypto) (c : NtlmClient) (user domain password : Text)
    (clientChallenge sessionKey mic : Bytes) : Bytes :=
  authenticateWith (c.authenticateFlags domain) (utf16le domain) (utf16le user)
    (c.lmResponse crypto (ntlmv2Hash crypto user domain password) clientChallenge)
    (c.ntProof crypto (ntlmv2Hash crypto user domain password) clientChallenge ++
      c.responseTemp clientChallenge)
    (encryptedKey crypto c user domain password clientChallenge sessionKey) mic

/-- Behind a challenge the message is built, whatever the lengths are. -/
theorem buildAuthenticate_eq (crypto : Crypto) (user domain password : Text)
    (clientChallenge : Bytes) (hread : c.challengeMsg ≠ []) (hkey : key.length = 16) :
    ∃ done mic, c.buildAuthenticate crypto user domain password clientChallenge key =
        (done, .ok (authenticateMessage crypto c user domain password clientChallenge
          done.exportedSessionKey mic)) ∧
      done.exportedSessionKey.length = 16 ∧
      done.keyExchange = decide (c.authenticateFlags domain &&& flagKeyExch ≠ 0) ∧
      mic = crypto.hmacMd5 done.exportedSessionKey (c.negotiateMsg ++ c.challengeMsg ++
        authenticateMessage crypto c user domain password clientChallenge
          done.exportedSessionKey (List.replicate 16 0)) := by
  unfold buildAuthenticate
  rw [if_neg hread]
  dsimp only
  rw [authenticateUnsigned_eq, authenticateWith_take,
    authenticateWith_drop _ _ _ _ _ _ List.length_replicate, List.append_assoc]
  refine ⟨_, _, rfl, ?_, rfl, rfl⟩
  dsimp only
  split
  · exact hkey
  · exact crypto.hmacMd5_length _ _

/-- Where a receiver can find every field: the three unbounded ones fit their lengths. -/
theorem layout_of_fits (hc : clientChallenge.length = 8) {sessionKey mic : Bytes}
    (hkey : sessionKey.length = 16) (hmic : mic = crypto.hmacMd5 sessionKey (c.negotiateMsg ++
      c.challengeMsg ++ authenticateMessage crypto c user domain password clientChallenge sessionKey
        (List.replicate 16 0)))
    (hdone : done.exportedSessionKey = sessionKey)
    (hexchange : done.keyExchange = decide (c.authenticateFlags domain &&& flagKeyExch ≠ 0))
    (hdomain : (utf16le domain).length < 2 ^ 16) (huser : (utf16le user).length < 2 ^ 16)
    (hnt : (c.ntProof crypto (ntlmv2Hash crypto user domain password) clientChallenge ++
      c.responseTemp clientChallenge).length < 2 ^ 16) :
    Layout crypto c done user domain password clientChallenge
      (authenticateMessage crypto c user domain password clientChallenge sessionKey mic) := by
  subst hdone
  have hlen : mic.length = 16 := by
    rw [hmic]
    exact crypto.hmacMd5_length _ _
  have hsealed : (encryptedKey crypto c user domain password clientChallenge
      done.exportedSessionKey).length = 16 := by
    rw [encryptedKey, Rc4.process_length, hkey]
  have hlm := @lmResponse_length crypto c clientChallenge hc
    (ntlmv2Hash crypto user domain password)
  obtain ⟨⟨dlm, dnt, ddomain, duser, dws, dkey⟩, hapart, hbehind⟩ :=
    authenticateWith_delimits (c.authenticateFlags domain) (utf16le domain) (utf16le user) _ _
      (encryptedKey crypto c user domain password clientChallenge done.exportedSessionKey) hlen
      hdomain huser (hlm.trans_lt (by decide)) hnt hsealed rfl
  refine ⟨dlm, dnt, ddomain, duser, dws, ?_, hapart, hbehind, ?_⟩
  · have hcond : (done.keyExchange = true) = (c.authenticateFlags domain &&& flagKeyExch ≠ 0) := by
      rw [hexchange, decide_eq_true_eq]
    simp only [hcond]
    exact dkey
  · have hzero : (authenticateMessage crypto c user domain password clientChallenge
        done.exportedSessionKey mic).take 72 ++ List.replicate 16 0 ++
          (authenticateMessage crypto c user domain password clientChallenge
            done.exportedSessionKey mic).drop 88 =
        authenticateMessage crypto c user domain password clientChallenge
          done.exportedSessionKey (List.replicate 16 0) := by
      rw [authenticateMessage, authenticateWith_take, authenticateWith_drop _ _ _ _ _ _ hlen,
        List.append_assoc]
      rfl
    rw [hzero, ← hmic]
    exact authenticateWith_mic _ _ _ _ _ _ hlen

theorem readChallenge_ne_nil (h : c.readChallenge now challenge = (c', .ok ())) :
    c'.challengeMsg ≠ [] := by
  obtain ⟨hlong, hmsg, -, -⟩ := readChallenge_ok h
  intro hnil
  rw [← hmsg, hnil] at hlong
  exact absurd hlong (by decide)

/-- The lengths are written in sixteen bits and the NT response is sixty bytes
longer than the pairs it copies: the message has the layout exactly when the
pairs leave that room and both names fit. -/
theorem authenticate_layout_iff (crypto : Crypto) (user domain password : Text)
    (hread : c.readChallenge now challenge = (c', .ok ())) (hc : clientChallenge.length = 8)
    (hkey : key.length = 16) :
    ∃ done msg, c'.buildAuthenticate crypto user domain password clientChallenge key =
        (done, .ok msg) ∧
      (Layout crypto c' done user domain password clientChallenge msg ↔
        (utf16le domain).length < 2 ^ 16 ∧ (utf16le user).length < 2 ^ 16 ∧
          ∀ pairs, Complete c'.challengeTargetInfo pairs →
            (encodePairs pairs).length + 60 < 2 ^ 16) := by
  have hsome := readChallenge_ne_nil hread
  obtain ⟨done, mic, hbuild, hsession, hexchange, hmic⟩ :=
    buildAuthenticate_eq crypto user domain password clientChallenge hsome hkey
  refine ⟨done, _, hbuild, ?_⟩
  constructor
  · intro h
    refine ⟨h.domainField.length_lt, h.userField.length_lt, fun pairs hpairs => ?_⟩
    rw [← ntResponse_length hc hpairs]
    exact h.ntField.length_lt
  · rintro ⟨hdomain, huser, hpairs⟩
    obtain ⟨pairs, hcomplete⟩ := complete_exists c'.challengeTargetInfo
    refine layout_of_fits hc hsession hmic rfl hexchange hdomain huser ?_
    rw [ntResponse_length hc hcomplete]
    exact hpairs pairs hcomplete

/-- A client that read the sample challenge, whose target info is just an end. -/
theorem authenticate_layout_iff_sample : ∃ c' done msg,
    ({} : NtlmClient).readChallenge 0 sampleChallenge = (c', .ok ()) ∧
      c'.buildAuthenticate sampleCrypto ['u'] ['d'] ['p'] (List.replicate 8 1)
        (List.replicate 16 2) = (done, .ok msg) ∧
      Layout sampleCrypto c' done ['u'] ['d'] ['p'] (List.replicate 8 1) msg := by
  have hread : ({} : NtlmClient).readChallenge 0 sampleChallenge =
      ((({} : NtlmClient).readChallenge 0 sampleChallenge).1, .ok ()) := by decide +kernel
  have hclient : (List.replicate 8 (1 : UInt8)).length = 8 := rfl
  have hkey : (List.replicate 16 (2 : UInt8)).length = 16 := rfl
  obtain ⟨done, msg, hbuild, hiff⟩ :=
    authenticate_layout_iff sampleCrypto ['u'] ['d'] ['p'] hread hclient hkey
  refine ⟨_, done, msg, hread, hbuild, hiff.2 ⟨by decide, by decide, fun pairs hpairs => ?_⟩⟩
  have hend : Complete (({} : NtlmClient).readChallenge 0 sampleChallenge).1.challengeTargetInfo
      [] := ⟨_, rfl, .inr (.inl (by decide +kernel))⟩
  rw [hpairs.unique hend]
  decide

/-- A CHALLENGE that carries this target info behind its header. -/
def challengeWith (ti : Bytes) : Bytes :=
  signature ++ (leBytes32 2 ++ (field 0 48 ++ (leBytes32 flagKeyExch ++ (List.replicate 8 0x11 ++
    (List.replicate 8 0 ++ (field (UInt16.ofNat ti.length) 48 ++ ti))))))

theorem readChallenge_challengeWith (c : NtlmClient) (now : UInt64) (hti : ti.length < 2 ^ 16) :
    ∃ c', c.readChallenge now (challengeWith ti) = (c', .ok ()) ∧ c'.challengeTargetInfo = ti := by
  have hwhole := Holds.whole (challengeWith ti)
  have hsignature : slice (challengeWith ti) 0 8 = signature := hwhole.left.slice
  have hkind : readLe32 (challengeWith ti) 8 = 2 := hwhole.right.left.readLe32
  have hfield : Holds (challengeWith ti) 40 (field (UInt16.ofNat ti.length) 48) :=
    hwhole.right.right.right.right.right.right.left
  have hbody : Holds (challengeWith ti) 48 ti := hwhole.right.right.right.right.right.right.right
  have hlen : readLe16 (challengeWith ti) 40 = ti.length :=
    hfield.left.left.readLe16.trans (Nat.mod_eq_of_lt hti)
  have hoff : readLe32 (challengeWith ti) 44 = 48 := hfield.right.readLe32
  have hinside := hbody.inside
  have hheader : ¬(challengeWith ti).length < 48 := by omega
  have hbounds : ¬(challengeWith ti).length < 48 + ti.length := by omega
  unfold readChallenge
  rw [if_neg hheader, if_neg (not_not.2 hsignature), if_neg (not_not.2 hkind)]
  simp only [hlen, hoff, hbody.slice, if_neg hbounds]
  exact ⟨_, rfl, rfl⟩

end Client

/-- A domain name pair of a given size. -/
def namePair (size : Nat) (h : size < 2 ^ 16) : AvPair where
  id := 2
  value := List.replicate size 0
  started := by decide
  fits := by
    rw [List.length_replicate]
    exact h

theorem namePair_length (size : Nat) (h : size < 2 ^ 16) :
    (namePair size h).encode.length = 4 + size := by
  rw [AvPair.encode_length, namePair, List.length_replicate]

/-- A complete pair of the largest target info size leaves no room for the
sixty bytes around it. -/
theorem not_layout_of_largest (p : AvPair) (hp : p.encode.length = 65535) : ∃ c' done msg,
    ({} : NtlmClient).readChallenge 0 (challengeWith p.encode) = (c', .ok ()) ∧
      c'.buildAuthenticate sampleCrypto ['u'] [] ['p'] (List.replicate 8 1)
        (List.replicate 16 2) = (done, .ok msg) ∧
      ¬Layout sampleCrypto c' done ['u'] [] ['p'] (List.replicate 8 1) msg := by
  have hone : encodePairs [p] = p.encode := List.append_nil _
  have hsize : p.encode.length < 2 ^ 16 := by omega
  obtain ⟨c', hread, hti⟩ := readChallenge_challengeWith {} 0 hsize
  have hpairs : Complete c'.challengeTargetInfo [p] :=
    ⟨[], by rw [hti, List.append_nil, hone], .inl (by decide)⟩
  have hsome : c'.challengeMsg ≠ [] := readChallenge_ne_nil hread
  have hkey : (List.replicate 16 (2 : UInt8)).length = 16 := rfl
  obtain ⟨done, mic, hbuild, -⟩ :=
    buildAuthenticate_eq sampleCrypto ['u'] [] ['p'] (List.replicate 8 1) hsome hkey
  refine ⟨c', done, _, hread, hbuild, fun h => ?_⟩
  have hcut := h.ntField.length_lt
  rw [ntResponse_length rfl hpairs, hone] at hcut
  omega

/-- The NT response to it is 65595 bytes long and announced as 59. -/
theorem nt_response_length_cut : ∃ c' done msg,
    ({} : NtlmClient).readChallenge 0 (challengeWith (namePair 65531 (by decide)).encode) =
        (c', .ok ()) ∧
      c'.buildAuthenticate sampleCrypto ['u'] [] ['p'] (List.replicate 8 1)
        (List.replicate 16 2) = (done, .ok msg) ∧
      ¬Layout sampleCrypto c' done ['u'] [] ['p'] (List.replicate 8 1) msg :=
  not_layout_of_largest _ (namePair_length 65531 (by decide))

end Lgnome.Credssp
