import Lgnome.Credssp.Release

/-!
# Two ends of one sealed session

Each end seals and unseals in any order. The two directions share nothing but
the mode, so an end is followed through the calls of its own program, and the
messages of one end are what the other one is given. Payload and checksum come
off one keystream, and both ends stay at one position of it. Nothing is assumed
of the digests.
-/
namespace Lgnome.Credssp

open Ntlm

/-- One call of an end's program. -/
inductive Call where
  | encrypt (plaintext : Bytes)
  | decrypt (msg : Bytes)
  deriving DecidableEq

namespace Call

variable (crypto : Crypto)

def answer (c : NtlmClient) : Call → NtlmClient × Except String Bytes
  | encrypt plaintext => c.encrypt crypto plaintext
  | decrypt msg => c.decrypt crypto msg

/-- The end after a row of calls. -/
def after (c : NtlmClient) : List Call → NtlmClient
  | [] => c
  | call :: calls => after (call.answer crypto c).1 calls

/-- What the encrypt calls returned, in order. -/
def tokens (c : NtlmClient) : List Call → List (Except String Bytes)
  | [] => []
  | encrypt plaintext :: calls =>
    (c.encrypt crypto plaintext).2 :: tokens (c.encrypt crypto plaintext).1 calls
  | decrypt msg :: calls => tokens (c.decrypt crypto msg).1 calls

/-- What the decrypt calls returned, in order. -/
def openings (c : NtlmClient) : List Call → List (Except String Bytes)
  | [] => []
  | encrypt plaintext :: calls => openings (c.encrypt crypto plaintext).1 calls
  | decrypt msg :: calls =>
    (c.decrypt crypto msg).2 :: openings (c.decrypt crypto msg).1 calls

/-- What was given to the encrypt calls. -/
def plaintexts : List Call → List Bytes
  | [] => []
  | encrypt plaintext :: calls => plaintext :: plaintexts calls
  | decrypt _ :: calls => plaintexts calls

/-- What was given to the decrypt calls. -/
def incoming : List Call → List Bytes
  | [] => []
  | encrypt _ :: calls => incoming calls
  | decrypt msg :: calls => msg :: incoming calls

/-- One end sealed as many messages as the other one took off the keystream,
of the same lengths. A message without room for a signature takes nothing. -/
def InStep (sender receiver : List Call) : Prop :=
  ((incoming receiver).filter fun msg => 16 ≤ msg.length).map List.length =
    (plaintexts sender).map fun plaintext => 16 + plaintext.length

end Call

open Call

variable {crypto : Crypto} {a b m n : NtlmClient} {r : Rc4}

/-- What `m` seals is for `n`: one signing key, one mode, one keystream position
and one sequence number. -/
structure Paired (m n : NtlmClient) : Prop where
  sealing : ∃ r, m.sendSealing = some r ∧ n.recvSealing = some r
  key : n.recvSigningKey = m.sendSigningKey
  exchange : n.keyExchange = m.keyExchange
  seq : n.recvSeq = m.sendSeq

/-- Two ends that hold one session's keys. -/
def Peers (a b : NtlmClient) : Prop := Paired a b ∧ Paired b a

/-- What the signature of a plaintext is computed from at one keystream
position: the sealing handle after the payload, and the digest. -/
def sealedCheck (crypto : Crypto) (m : NtlmClient) (r : Rc4) (plaintext : Bytes) : Rc4 × Bytes :=
  NtlmClient.checksum m.keyExchange (r.process plaintext).1
    (crypto.hmacMd5 m.sendSigningKey (leBytes32 m.sendSeq ++ plaintext))

theorem sealedCheck_length (crypto : Crypto) (m : NtlmClient) (r : Rc4) (plaintext : Bytes) :
    (sealedCheck crypto m r plaintext).2.length = 8 :=
  NtlmClient.checksum_length _ _ (crypto.hmacMd5_length _ _)

/-- The keystream a message uses depends on its length alone. -/
theorem sealedCheck_state (crypto : Crypto) (m n : NtlmClient) (r : Rc4)
    (hx : n.keyExchange = m.keyExchange) {p q : Bytes} (h : p.length = q.length) :
    (sealedCheck crypto m r p).1 = (sealedCheck crypto n r q).1 := by
  unfold sealedCheck NtlmClient.checksum
  rw [hx, r.process_state h]
  cases m.keyExchange with
  | false => rfl
  | true =>
    refine Rc4.process_state _ ?_
    rw [List.length_take, List.length_take, crypto.hmacMd5_length, crypto.hmacMd5_length]

theorem encrypt_eq (hm : m.sendSealing = some r) (p : Bytes) :
    m.encrypt crypto p =
      ({ m with
          sendSeq := m.sendSeq + 1
          sendSealing := some (sealedCheck crypto m r p).1 },
        .ok (NtlmClient.signatureOf (sealedCheck crypto m r p).2 m.sendSeq ++
          (r.process p).2)) := by
  simp only [NtlmClient.encrypt, hm, sealedCheck]

theorem decrypt_short {msg : Bytes} (h : msg.length < 16) :
    n.decrypt crypto msg = (n, .error "NTLM message too short") := by
  rw [NtlmClient.decrypt, if_pos h]

/-- Unsealing a long enough message in the terms of the end that sealed it. -/
theorem Paired.decrypt_eq (h : Paired m n) (hm : m.sendSealing = some r) {msg : Bytes}
    (hlen : 16 ≤ msg.length) :
    n.decrypt crypto msg =
      ({ n with
          recvSeq := n.recvSeq + 1
          recvSealing := some (sealedCheck crypto m r (r.process (msg.drop 16)).2).1 },
        if msg.take 16 ≠ NtlmClient.signatureOf
            (sealedCheck crypto m r (r.process (msg.drop 16)).2).2 m.sendSeq then
          .error "NTLM signature verification failed"
        else .ok (r.process (msg.drop 16)).2) := by
  obtain ⟨r', hr', hn⟩ := h.sealing
  obtain rfl : r' = r := Option.some.inj (hr'.symm.trans hm)
  have hstate : (r'.process (r'.process (msg.drop 16)).2).1 = (r'.process (msg.drop 16)).1 :=
    r'.process_state (Rc4.process_length _ _)
  rw [NtlmClient.decrypt, if_neg (Nat.not_lt.2 hlen)]
  simp only [hn, h.key, h.exchange, h.seq, sealedCheck, hstate]
  split <;> rfl

/-- Acceptance at one position: the byte strings that unseal are the other
end's sealings. -/
theorem Paired.accepts (h : Paired m n) (msg p : Bytes) :
    (n.decrypt crypto msg).2 = .ok p ↔ (m.encrypt crypto p).2 = .ok msg := by
  obtain ⟨r, hm, hn⟩ := h.sealing
  constructor
  · intro hok
    by_cases hlen : msg.length < 16
    · rw [decrypt_short hlen] at hok
      cases hok
    · rw [h.decrypt_eq hm (Nat.not_lt.1 hlen)] at hok
      dsimp only at hok
      split at hok
      · cases hok
      · rename_i hsig
        obtain rfl : (r.process (msg.drop 16)).2 = p := Except.ok.inj hok
        rw [encrypt_eq hm]
        dsimp only
        rw [r.process_process, ← not_not.1 hsig, List.take_append_drop]
  · intro hok
    obtain ⟨token, htoken, -, hplain⟩ :=
      NtlmClient.decrypt_encrypt hm hn h.key h.exchange h.seq p
    obtain rfl : token = msg := Except.ok.inj (htoken.symm.trans hok)
    exact hplain

theorem Paired.rejects (h : Paired m n) {msg : Bytes}
    (hmsg : ∀ p, (m.encrypt crypto p).2 ≠ .ok msg) :
    (n.decrypt crypto msg).2 =
      .error (if msg.length < 16 then "NTLM message too short"
        else "NTLM signature verification failed") := by
  obtain ⟨r, hm, -⟩ := h.sealing
  by_cases hlen : msg.length < 16
  · rw [decrypt_short hlen, if_pos hlen]
  · have heq := @decrypt_eq crypto m n r h hm msg (Nat.not_lt.1 hlen)
    rw [if_neg hlen]
    by_cases hsig : msg.take 16 = NtlmClient.signatureOf
        (sealedCheck crypto m r (r.process (msg.drop 16)).2).2 m.sendSeq
    · have hok : (n.decrypt crypto msg).2 = .ok (r.process (msg.drop 16)).2 := by
        rw [heq]
        exact if_neg (not_not.2 hsig)
      exact absurd ((h.accepts msg _).1 hok) (hmsg _)
    · rw [heq]
      exact if_pos hsig

/-- One message at each end, of one length: the ends stay together, whether it
was the message that was sealed or not. -/
theorem Paired.next (h : Paired m n) {p msg : Bytes} (hlen : msg.length = 16 + p.length) :
    Paired (m.encrypt crypto p).1 (n.decrypt crypto msg).1 := by
  obtain ⟨r, hm, -⟩ := h.sealing
  have hdata : p.length = (r.process (msg.drop 16)).2.length := by
    rw [Rc4.process_length, List.length_drop]
    omega
  rw [encrypt_eq hm, h.decrypt_eq hm (by omega)]
  constructor
  · exact ⟨_, rfl, congrArg some (sealedCheck_state crypto m m r rfl hdata).symm⟩
  · exact h.key
  · exact h.exchange
  · exact congrArg (· + 1) h.seq

/-- A message without room for a signature moves nothing. -/
theorem Paired.short (h : Paired m n) {msg : Bytes} (hlen : msg.length < 16) :
    Paired m (n.decrypt crypto msg).1 := by
  rw [decrypt_short hlen]
  exact h

/-- Unsealing leaves the sending half alone. -/
theorem decrypt_sending (crypto : Crypto) (m : NtlmClient) (msg : Bytes) :
    (m.decrypt crypto msg).1.sendSealing = m.sendSealing ∧
      (m.decrypt crypto msg).1.sendSigningKey = m.sendSigningKey ∧
      (m.decrypt crypto msg).1.keyExchange = m.keyExchange ∧
      (m.decrypt crypto msg).1.sendSeq = m.sendSeq := by
  unfold NtlmClient.decrypt
  split
  · exact ⟨rfl, rfl, rfl, rfl⟩
  · cases m.recvSealing with
    | none => exact ⟨rfl, rfl, rfl, rfl⟩
    | some sealing =>
      dsimp only
      split <;> exact ⟨rfl, rfl, rfl, rfl⟩

/-- The sender's unsealing belongs to the other direction. -/
theorem Paired.decrypt_sender (h : Paired m n) (msg : Bytes) :
    Paired (m.decrypt crypto msg).1 n := by
  obtain ⟨hs, hk, hx, hq⟩ := decrypt_sending crypto m msg
  constructor
  · rw [hs]
    exact h.sealing
  · rw [hk]
    exact h.key
  · rw [hx]
    exact h.exchange
  · rw [hq]
    exact h.seq

/-- The receiver's sealing belongs to the other direction. -/
theorem Paired.encrypt_receiver (h : Paired m n) (p : Bytes) :
    Paired m (n.encrypt crypto p).1 := by
  obtain ⟨hx, hk, hs, hq⟩ := Receiving.mk.inj (encrypt_receiving crypto n p)
  constructor
  · rw [hs]
    exact h.sealing
  · rw [hk]
    exact h.key
  · rw [hx]
    exact h.exchange
  · rw [hq]
    exact h.seq

theorem Paired.encrypt_length (h : Paired m n) {p token : Bytes}
    (htoken : (m.encrypt crypto p).2 = .ok token) : token.length = 16 + p.length := by
  obtain ⟨r, hm, -⟩ := h.sealing
  rw [encrypt_eq hm] at htoken
  rw [← Except.ok.inj htoken, List.length_append, Rc4.process_length,
    NtlmClient.signatureOf_length (sealedCheck_length crypto m r p)]

/-- Ends in step are paired, by the calls of both in their own order. -/
theorem Paired.run {a b : NtlmClient} (h : Paired a b) (sender receiver : List Call)
    (hstep : InStep sender receiver) :
    Paired (after crypto a sender) (after crypto b receiver) := by
  match sender, receiver, hstep with
  | .decrypt msg :: sender, receiver, hstep =>
    exact Paired.run (h.decrypt_sender msg) sender receiver hstep
  | sender, .encrypt p :: receiver, hstep =>
    exact Paired.run (h.encrypt_receiver p) sender receiver hstep
  | [], [], _ => exact h
  | .encrypt p :: sender, [], hstep => simp [InStep, incoming, plaintexts] at hstep
  | [], .decrypt msg :: receiver, hstep =>
    have hlen : msg.length < 16 := by
      by_contra hlong
      simp [InStep, incoming, plaintexts, Nat.not_lt.1 hlong] at hstep
    refine Paired.run (h.short hlen) [] receiver ?_
    simpa [InStep, incoming, Nat.not_le.2 hlen] using hstep
  | .encrypt p :: sender, .decrypt msg :: receiver, hstep =>
    by_cases hlen : msg.length < 16
    · refine Paired.run (h.short hlen) (.encrypt p :: sender) receiver ?_
      simpa [InStep, incoming, Nat.not_le.2 hlen] using hstep
    · simp only [InStep, incoming, plaintexts, Nat.not_lt.1 hlen, List.filter_cons, decide_true,
        if_true, List.map_cons, List.cons.injEq] at hstep
      exact Paired.run (h.next hstep.1) sender receiver hstep.2
termination_by sender.length + receiver.length

/-- What was sealed arrives in order: each opening gives back its plaintext. -/
theorem Paired.opens {a b : NtlmClient} (h : Paired a b) (sender receiver : List Call)
    (hsent : (incoming receiver).map .ok <+: tokens crypto a sender) :
    openings crypto b receiver =
      ((plaintexts sender).take (incoming receiver).length).map .ok := by
  match sender, receiver, hsent with
  | .decrypt msg :: sender, receiver, hsent =>
    exact Paired.opens (h.decrypt_sender msg) sender receiver hsent
  | sender, .encrypt p :: receiver, hsent =>
    exact Paired.opens (h.encrypt_receiver p) sender receiver hsent
  | _, [], _ => rfl
  | [], .decrypt msg :: receiver, hsent =>
    exact absurd (List.prefix_nil.1 hsent) (List.cons_ne_nil _ _)
  | .encrypt p :: sender, .decrypt msg :: receiver, hsent =>
    obtain ⟨htoken, hrest⟩ := List.cons_prefix_cons.1 hsent
    have hopen : (b.decrypt crypto msg).2 = .ok p := (h.accepts msg p).2 htoken.symm
    have hnext := Paired.opens (h.next (h.encrypt_length htoken.symm)) sender receiver hrest
    simp only [openings, plaintexts, incoming, List.length_cons, List.take_succ_cons,
      List.map_cons, hopen, hnext]
termination_by sender.length + receiver.length

/-- Every token is sixteen bytes longer than its plaintext. -/
theorem tokens_length {a : NtlmClient} (ha : a.sendSealing = some r) (sender : List Call) :
    (tokens crypto a sender).map (Except.map List.length) =
      (plaintexts sender).map fun p => .ok (16 + p.length) := by
  induction sender generalizing a r with
  | nil => rfl
  | cons call sender ih =>
    cases call with
    | decrypt msg => exact ih ((NtlmClient.decrypt_sendSealing crypto a msg).trans ha)
    | encrypt p =>
      have hsig := NtlmClient.signatureOf_length (sealedCheck_length crypto a r p) a.sendSeq
      have hlen : (NtlmClient.signatureOf (sealedCheck crypto a r p).2 a.sendSeq ++
          (r.process p).2).length = 16 + p.length := by
        rw [List.length_append, hsig, Rc4.process_length]
      simp only [tokens, plaintexts, List.map_cons, encrypt_eq ha, Except.map, hlen]
      exact congrArg _ (ih rfl)

/-- An end that was given what the other one sealed is in step with it. -/
theorem Paired.inStep (h : Paired a b) {sender receiver : List Call}
    (hsent : (incoming receiver).map .ok = tokens crypto a sender) : InStep sender receiver := by
  obtain ⟨r, ha, -⟩ := h.sealing
  have hlengths : (incoming receiver).map List.length =
      (plaintexts sender).map fun p => 16 + p.length := by
    have htokens := @tokens_length crypto r a ha sender
    rw [← hsent, List.map_map] at htokens
    have hok : Function.Injective (List.map (Except.ok (ε := String) (α := Nat))) :=
      List.map_injective_iff.2 fun _ _ => Except.ok.inj
    refine hok ?_
    rw [List.map_map, List.map_map]
    exact htokens
  have hlong : ∀ msg ∈ incoming receiver, 16 ≤ msg.length := by
    intro msg hmsg
    have hmem := List.mem_map_of_mem (f := List.length) hmsg
    rw [hlengths] at hmem
    obtain ⟨p, -, hp⟩ := List.mem_map.1 hmem
    omega
  unfold InStep
  rw [List.filter_eq_self.2 fun msg hmsg => decide_eq_true (hlong msg hmsg), hlengths]

/-- Sequence numbers count the sealed messages, modulo their width. -/
theorem after_sendSeq {a : NtlmClient} (ha : a.sendSealing = some r) (sender : List Call) :
    (after crypto a sender).sendSeq = a.sendSeq + UInt32.ofNat (plaintexts sender).length := by
  induction sender generalizing a r with
  | nil => simp [after, plaintexts]
  | cons call sender ih =>
    cases call with
    | decrypt msg =>
      obtain ⟨hs, -, -, hq⟩ := decrypt_sending crypto a msg
      have hstep := ih (hs.trans ha)
      rw [hq] at hstep
      exact hstep
    | encrypt p =>
      have hstep := ih (a := (a.encrypt crypto p).1) (by rw [encrypt_eq ha])
      refine hstep.trans ?_
      rw [encrypt_eq ha]
      simp only [plaintexts, List.length_cons, UInt32.ofNat_add, UInt32.ofNat_one]
      rw [UInt32.add_assoc, UInt32.add_comm 1]

/-- What one direction of a session promises, whatever both ends do meanwhile. -/
structure Agrees (crypto : Crypto) (a b : NtlmClient) : Prop where
  /-- Messages that arrive in order open to exactly what was sealed. -/
  inOrder : ∀ sender receiver, (incoming receiver).map .ok <+: tokens crypto a sender →
    openings crypto b receiver = ((plaintexts sender).take (incoming receiver).length).map .ok
  /-- An end that was given every message sealed so far is in step. -/
  delivered : ∀ sender receiver, (incoming receiver).map .ok = tokens crypto a sender →
    InStep sender receiver
  /-- Ends in step are at one sequence number, the number of messages. -/
  position : ∀ sender receiver, InStep sender receiver →
    (after crypto b receiver).recvSeq = (after crypto a sender).sendSeq ∧
      (after crypto a sender).sendSeq = a.sendSeq + UInt32.ofNat (plaintexts sender).length
  /-- There a byte string opens exactly when the other end could seal it. -/
  accepts : ∀ sender receiver, InStep sender receiver → ∀ msg p,
    ((after crypto b receiver).decrypt crypto msg).2 = .ok p ↔
      ((after crypto a sender).encrypt crypto p).2 = .ok msg
  /-- Any other one is an error. -/
  rejects : ∀ sender receiver, InStep sender receiver → ∀ msg,
    (∀ p, ((after crypto a sender).encrypt crypto p).2 ≠ .ok msg) →
      ((after crypto b receiver).decrypt crypto msg).2 =
        .error (if msg.length < 16 then "NTLM message too short"
          else "NTLM signature verification failed")

theorem Paired.agrees (h : Paired a b) : Agrees crypto a b where
  inOrder := h.opens
  delivered _ _ hsent := h.inStep hsent
  position sender receiver hstep := by
    obtain ⟨r, ha, -⟩ := h.sealing
    exact ⟨(h.run sender receiver hstep).seq, after_sendSeq ha sender⟩
  accepts sender receiver hstep := (h.run sender receiver hstep).accepts
  rejects sender receiver hstep _ := (h.run sender receiver hstep).rejects

/-- The server's end of a session: its keys are those of the client, crossed. -/
def serverEnd (crypto : Crypto) (sessionKey : Bytes) (exchanged : Bool) : NtlmClient where
  keyExchange := exchanged
  exportedSessionKey := sessionKey
  sendSigningKey := md5With crypto sessionKey serverSignMagic
  recvSigningKey := md5With crypto sessionKey clientSignMagic
  sendSealing := some (Rc4.new (md5With crypto sessionKey serverSealMagic))
  recvSealing := some (Rc4.new (md5With crypto sessionKey clientSealMagic))

/-- The keys of AUTHENTICATE pair the client with a server that derives them
from the same session key, in the mode the challenge asked for. -/
theorem buildAuthenticate_peers (crypto : Crypto) (hc : m.challengeMsg ≠ [])
    (user domain password : Text) (clientChallenge key : Bytes)
    (hn : (m.buildAuthenticate crypto user domain password clientChallenge key).1 = n) :
    Peers n (serverEnd crypto n.exportedSessionKey n.keyExchange) := by
  unfold NtlmClient.buildAuthenticate at hn
  rw [if_neg hc] at hn
  subst hn
  exact ⟨⟨⟨_, rfl, rfl⟩, rfl, rfl, rfl⟩, ⟨⟨_, rfl, rfl⟩, rfl, rfl, rfl⟩⟩

/-- Both directions of a session, in both modes. -/
theorem sealing_agrees (crypto : Crypto) (h : Peers a b) :
    Agrees crypto a b ∧ Agrees crypto b a :=
  ⟨h.1.agrees, h.2.agrees⟩

/-- A client behind its AUTHENTICATE seals, and the server, which has sealed a
message of its own meanwhile, opens. -/
theorem sealing_agrees_sample :
    ∃ (client : NtlmClient) (token : Bytes),
      (client.encrypt sampleCrypto [1, 2, 3]).2 = .ok token ∧
      openings sampleCrypto (serverEnd sampleCrypto client.exportedSessionKey client.keyExchange)
        [.encrypt [9], .decrypt token] = [.ok [1, 2, 3]] := by
  have hpeers := buildAuthenticate_peers sampleCrypto (m := { challengeMsg := [0] }) (by decide)
    ['u'] [] ['p'] (List.replicate 8 1) (List.replicate 16 2) rfl
  obtain ⟨r, hr, -⟩ := hpeers.1.sealing
  refine ⟨_, _, congrArg Prod.snd (encrypt_eq hr [1, 2, 3]), ?_⟩
  refine ((sealing_agrees sampleCrypto hpeers).1.inOrder [.encrypt [1, 2, 3]] _ ?_).trans rfl
  simp only [incoming, tokens, encrypt_eq hr, List.map_cons, List.map_nil]
  exact List.prefix_refl _

end Lgnome.Credssp
