import Lgnome.Credssp.Server

/-!
# The handshake with a server that knows the account

Whatever was refused before, a server that knows the account and holds the key of the
connection gets through the handshake: it can check everything the client sends, the client
takes its binding, and the credentials it opens are the configured ones.
-/
namespace Lgnome.Credssp

open Ntlm NtlmClient
open Lgnome.Transition

/-- The server's turn after AUTHENTICATE: it checks the message, opens the client's binding,
compares it with what it expects and seals its own. -/
def Account.answer (crypto : Crypto) (account : Account)
    (negotiate challenge expected own auth token : Bytes) : Option (NtlmClient × Bytes) :=
  match account.sessionKey crypto negotiate challenge auth with
  | none => none
  | some (key, exchanged) =>
    match (serverEnd crypto key exchanged).decrypt crypto token with
    | (_, .error _) => none
    | (server, .ok binding) =>
      if binding ≠ expected then none
      else
        match server.encrypt crypto own with
        | (_, .error _) => none
        | (server, .ok reply) => some (server, reply)

/-- The server opens the credentials. -/
def openCredentials (crypto : Crypto) (server : NtlmClient) (authInfo : Bytes) :
    Option (Bytes × Bytes × Bytes) :=
  match (server.decrypt crypto authInfo).2 with
  | .error _ => none
  | .ok credentials => (readTsCredentials credentials).toOption

/-- NEGOTIATE, which is always the same. -/
def negotiateMessage : Bytes := ({} : NtlmClient).buildNegotiate.2

/-- The client's own sizes are those of its types, and nothing it has to send is too long for the
lengths it is announced with. -/
structure Fits (config : CredsspConfig) (challenge targetInfo : Bytes) : Prop where
  clientChallenge : config.clientChallenge.length = 8
  keyExchKey : config.keyExchKey.length = 16
  domain : (utf16le config.domain).length < 2 ^ 16
  user : (utf16le config.user).length < 2 ^ 16
  pairs : ∀ pairs, Complete targetInfo pairs → (encodePairs pairs).length + 60 < 2 ^ 16
  challenge : challenge.length < 2 ^ 31
  publicKey : config.publicKey.length < 2 ^ 31
  credentials : (encodeTsCredentials config.domain config.user config.password).length < 2 ^ 32

/-! ## NEGOTIATE is kept -/

section Negotiate

variable {crypto : Crypto} {config : CredsspConfig} {c c' : CredsspClient}

theorem encrypt_negotiateMsg (crypto : Crypto) (n : NtlmClient) (plaintext : Bytes) :
    (n.encrypt crypto plaintext).1.negotiateMsg = n.negotiateMsg := by
  unfold NtlmClient.encrypt
  cases n.sendSealing <;> rfl

theorem decrypt_negotiateMsg (crypto : Crypto) (n : NtlmClient) (token : Bytes) :
    (n.decrypt crypto token).1.negotiateMsg = n.negotiateMsg := by
  unfold NtlmClient.decrypt
  split
  · rfl
  · cases n.recvSealing with
    | none => rfl
    | some sealing =>
      dsimp only
      split <;> rfl

theorem readChallenge_negotiateMsg (n : NtlmClient) (now : UInt64) (msg : Bytes) :
    (n.readChallenge now msg).1.negotiateMsg = n.negotiateMsg := by
  unfold readChallenge
  split
  · rfl
  split
  · rfl
  split
  · rfl
  dsimp only
  split <;> rfl

theorem buildAuthenticate_negotiateMsg (crypto : Crypto) (n : NtlmClient)
    (user domain password : Text) (clientChallenge key : Bytes) :
    (n.buildAuthenticate crypto user domain password clientChallenge key).1.negotiateMsg =
      n.negotiateMsg := by
  unfold buildAuthenticate
  split <;> rfl

theorem processChallenge_negotiateMsg (crypto : Crypto) (c : CredsspClient) (now : UInt64)
    (parsed : ParsedTsRequest) :
    (c.processChallenge crypto now parsed).1.ntlm.negotiateMsg = c.ntlm.negotiateMsg := by
  unfold CredsspClient.processChallenge
  cases parsed.negoToken with
  | none => rfl
  | some challenge =>
    dsimp only
    have hkept := readChallenge_negotiateMsg c.ntlm now challenge
    rcases hread : c.ntlm.readChallenge now challenge with ⟨n₁, _ | _⟩ <;> rw [hread] at hkept
    · exact hkept
    have hauth := buildAuthenticate_negotiateMsg crypto n₁ c.config.user c.config.domain
      c.config.password c.config.clientChallenge c.config.keyExchKey
    dsimp only
    rcases hbuild : n₁.buildAuthenticate crypto c.config.user c.config.domain c.config.password
      c.config.clientChallenge c.config.keyExchKey with ⟨n₂, _ | auth⟩ <;> rw [hbuild] at hauth
    · exact hauth.trans hkept
    have hsealed := encrypt_negotiateMsg crypto n₂
      (CredsspClient.clientBinding crypto c.config parsed.version)
    dsimp only
    rcases hseal : n₂.encrypt crypto (CredsspClient.clientBinding crypto c.config parsed.version)
      with ⟨n₃, _ | token⟩ <;> rw [hseal] at hsealed
    · exact hsealed.trans (hauth.trans hkept)
    · exact hsealed.trans (hauth.trans hkept)

theorem processPubKey_negotiateMsg (crypto : Crypto) (c : CredsspClient)
    (parsed : ParsedTsRequest) :
    (c.processPubKey crypto parsed).1.ntlm.negotiateMsg = c.ntlm.negotiateMsg := by
  unfold CredsspClient.processPubKey
  cases parsed.pubKeyAuth with
  | none => rfl
  | some token =>
    dsimp only
    have hkept := decrypt_negotiateMsg crypto c.ntlm token
    rcases hopen : c.ntlm.decrypt crypto token with ⟨n₁, _ | plain⟩ <;> rw [hopen] at hkept
    · exact hkept
    dsimp only
    split
    · exact hkept
    have hsealed := encrypt_negotiateMsg crypto n₁
      (encodeTsCredentials c.config.domain c.config.user c.config.password)
    rcases hseal : n₁.encrypt crypto
      (encodeTsCredentials c.config.domain c.config.user c.config.password)
      with ⟨n₂, _ | authInfo⟩ <;> rw [hseal] at hsealed
    · exact hsealed.trans hkept
    · exact hsealed.trans hkept

theorem processServer_negotiateMsg (crypto : Crypto) (c : CredsspClient) (now : UInt64)
    (msg : Bytes) : (c.processServer crypto now msg).1.ntlm.negotiateMsg = c.ntlm.negotiateMsg := by
  unfold CredsspClient.processServer
  split
  · rfl
  split
  · rfl
  cases c.state with
  | challenge => exact processChallenge_negotiateMsg crypto c now _
  | pubKey => exact processPubKey_negotiateMsg crypto c _
  | done => rfl

/-- Once sent, NEGOTIATE is what the MIC is computed over. -/
theorem run_negotiateMsg {tr : List CredsspEvent} (hr : (credsspMachine crypto config).Run tr c)
    (hsent : ∃ x ∈ tr, x.1 = .firstMessage) : c.ntlm.negotiateMsg = negotiateMessage := by
  induction hr with
  | refl =>
    obtain ⟨x, hx, -⟩ := hsent
    exact absurd hx List.not_mem_nil
  | @snoc t u tr act reply hpre hstep ih =>
    cases act with
    | firstMessage =>
      obtain ⟨rfl, -⟩ := Prod.mk.inj (Option.some.inj hstep)
      rfl
    | server now msg =>
      have hkept := processServer_negotiateMsg crypto t now msg
      rw [Option.some.inj hstep] at hkept
      refine hkept.trans (ih ?_)
      obtain ⟨x, hx, hfirst⟩ := hsent
      rcases List.mem_append.mp hx with hx | hx
      · exact ⟨x, hx, hfirst⟩
      · rw [List.mem_singleton.mp hx] at hfirst
        cases hfirst

end Negotiate

/-! ## The exchange -/

section Exchange

variable {crypto : Crypto} {config : CredsspConfig} {c : CredsspClient} {n done : NtlmClient}
  {now now' : UInt64} {challenge : Bytes} {version : UInt32}

/-- Without key exchange the session key is the key exchange key. -/
theorem buildAuthenticate_plain {user domain password : Text} {clientChallenge key : Bytes}
    {result : Except String Bytes} (hread : n.challengeMsg ≠ [])
    (h : n.buildAuthenticate crypto user domain password clientChallenge key = (done, result))
    (hmode : done.keyExchange = false) :
    done.exportedSessionKey = crypto.hmacMd5 (ntlmv2Hash crypto user domain password)
      (n.ntProof crypto (ntlmv2Hash crypto user domain password) clientChallenge) := by
  unfold buildAuthenticate at h
  rw [if_neg hread] at h
  obtain ⟨rfl, -⟩ := Prod.mk.inj h
  exact if_neg (of_decide_eq_false hmode)

/-- What a paired end seals is opened at the other end, and the ends stay paired both ways. -/
theorem Peers.exchange {a b : NtlmClient} (h : Peers a b) (crypto : Crypto) (p : Bytes) :
    ∃ token a' b', a.encrypt crypto p = (a', .ok token) ∧ b.decrypt crypto token = (b', .ok p) ∧
      token.length = 16 + p.length ∧ Peers a' b' := by
  obtain ⟨r, ha, -⟩ := h.1.sealing
  obtain ⟨token, htoken⟩ : ∃ token, (a.encrypt crypto p).2 = .ok token :=
    ⟨_, congrArg Prod.snd (encrypt_eq ha p)⟩
  have hopen := (h.1.accepts token p).2 htoken
  have hlen := h.1.encrypt_length htoken
  refine ⟨token, (a.encrypt crypto p).1, (b.decrypt crypto token).1, Prod.ext rfl htoken,
    Prod.ext rfl hopen, hlen, h.1.next hlen, ?_⟩
  exact (h.2.decrypt_sender token).encrypt_receiver p

/-- The client answers the challenge with messages that the server can check. -/
theorem challenge_answered (crypto : Crypto) (version : UInt32) (hstate : c.state = .challenge) (hown : c.config = config)
    (hread : c.ntlm.readChallenge now challenge = (n, .ok ()))
    (hfits : Fits config challenge n.challengeTargetInfo) :
    ∃ auth token done server,
      c.processServer crypto now (encodeTsRequest version (some challenge) none none none) =
        ({ c with peerVersion := version, ntlm := done, state := .pubKey },
          .ok (encodeTsRequest tsRequestVersion (some auth) none (some token)
            (if 5 ≤ version then some config.clientNonce else none), false)) ∧
      config.account.sessionKey crypto c.ntlm.negotiateMsg challenge auth =
        some (done.exportedSessionKey, done.keyExchange) ∧
      (serverEnd crypto done.exportedSessionKey done.keyExchange).decrypt crypto token =
        (server, .ok (CredsspClient.clientBinding crypto config version)) ∧
      Peers done server := by
  obtain ⟨-, hmsg, hserver, -⟩ := readChallenge_ok hread
  have hsome := readChallenge_ne_nil hread
  have hnegotiate : n.negotiateMsg = c.ntlm.negotiateMsg := by
    have hkept := readChallenge_negotiateMsg c.ntlm now challenge
    rw [hread] at hkept
    exact hkept
  obtain ⟨ready, mic, hbuild, hsession, hexchange, hmic⟩ := buildAuthenticate_eq crypto config.user
    config.domain config.password config.clientChallenge hsome hfits.keyExchKey
  obtain ⟨pairs, hcomplete⟩ := complete_exists n.challengeTargetInfo
  have hlayout := layout_of_fits hfits.clientChallenge hsession hmic rfl hexchange hfits.domain
    hfits.user (by rw [ntResponse_length hfits.clientChallenge hcomplete]; exact hfits.pairs _ hcomplete)
  have hkey := sessionKey_of_layout hlayout (flagsOf_authenticateMessage ..) hexchange
    (buildAuthenticate_plain hsome hbuild) hnegotiate hmsg (hserver.trans rfl)
  have hpeers : Peers ready (serverEnd crypto ready.exportedSessionKey ready.keyExchange) :=
    buildAuthenticate_peers crypto hsome config.user config.domain config.password
      config.clientChallenge config.keyExchKey (congrArg Prod.fst hbuild)
  obtain ⟨token, done, server, hseal, hopen, -, hpeers'⟩ :=
    hpeers.exchange crypto (CredsspClient.clientBinding crypto config version)
  have hkept : done.exportedSessionKey = ready.exportedSessionKey ∧
      done.keyExchange = ready.keyExchange := by
    obtain ⟨r, hr, -⟩ := hpeers.1.sealing
    rw [encrypt_eq hr] at hseal
    obtain ⟨rfl, -⟩ := Prod.mk.inj hseal
    exact ⟨rfl, rfl⟩
  have hsize : (encodeTsRequest version (some challenge) none none none).length < 2 ^ 32 := by
    have hlen := encodeTsRequest_length version (some challenge) none none
    have hshort := hfits.challenge
    simp only [Option.getD_some, Option.getD_none, List.length_nil] at hlen
    omega
  have hparse := parseTsRequest_encode hsize
  refine ⟨authenticateMessage crypto n config.user config.domain config.password
    config.clientChallenge ready.exportedSessionKey mic, token, done, server, ?_, ?_, ?_, hpeers'⟩
  · unfold CredsspClient.processServer
    rw [hparse]
    dsimp only [Option.filter_none]
    rw [hstate]
    dsimp only
    unfold CredsspClient.processChallenge
    dsimp only
    rw [hown, hread]
    dsimp only
    rw [hbuild]
    dsimp only
    rw [hseal]
  · rw [hkept.1, hkept.2]
    exact hkey
  · rw [hkept.1, hkept.2]
    exact hopen

theorem expectedPubKeyAuth_length (crypto : Crypto) (config : CredsspConfig) (version : UInt32) :
    (CredsspClient.expectedPubKeyAuth crypto config version).length ≤
      max 32 config.publicKey.length := by
  unfold CredsspClient.expectedPubKeyAuth
  split
  · rw [CredsspClient.pubkeyHash, crypto.sha256_length]
    exact Nat.le_max_left _ _
  · cases config.publicKey with
    | nil => exact Nat.zero_le _
    | cons b rest => exact Nat.le_max_right _ (b :: rest).length

/-- The client answers the server's binding with credentials that the server opens. -/
theorem binding_answered (crypto : Crypto) (now' : UInt64) (version : UInt32)
    {server : NtlmClient} (hstate : c.state = .pubKey)
    (hown : c.config = config) (hpeers : Peers c.ntlm server)
    (hkey : config.publicKey.length < 2 ^ 31)
    (hcreds : (encodeTsCredentials config.domain config.user config.password).length < 2 ^ 32) :
    ∃ server' binding authInfo c',
      server.encrypt crypto (CredsspClient.expectedPubKeyAuth crypto config c.peerVersion) =
        (server', .ok binding) ∧
      c.processServer crypto now' (encodeTsRequest version none none (some binding) none) =
        (c', .ok (encodeTsRequest tsRequestVersion none (some authInfo) none none, true)) ∧
      c'.isDone ∧
      openCredentials crypto server' authInfo =
        some (utf16le config.domain, utf16le config.user, utf16le config.password) := by
  have hback : Peers server c.ntlm := ⟨hpeers.2, hpeers.1⟩
  obtain ⟨binding, server', n₁, hbinds, hbound, hlen, hpeers₁⟩ :=
    hback.exchange crypto (CredsspClient.expectedPubKeyAuth crypto config c.peerVersion)
  have hforth : Peers n₁ server' := ⟨hpeers₁.2, hpeers₁.1⟩
  obtain ⟨authInfo, n₂, last, hseal, hopen, -, -⟩ :=
    hforth.exchange crypto (encodeTsCredentials config.domain config.user config.password)
  have hsize : (encodeTsRequest version none none (some binding) none).length < 2 ^ 32 := by
    have hwhole := encodeTsRequest_length version none none (some binding)
    have hmax := expectedPubKeyAuth_length crypto config c.peerVersion
    simp only [Option.getD_some, Option.getD_none, List.length_nil] at hwhole
    omega
  have hparse := parseTsRequest_encode hsize
  refine ⟨server', binding, authInfo, { c with ntlm := n₂, state := .done }, hbinds, ?_, ?_, ?_⟩
  · unfold CredsspClient.processServer
    rw [hparse]
    dsimp only [Option.filter_none]
    rw [hstate]
    dsimp only
    unfold CredsspClient.processPubKey
    dsimp only
    rw [hown, hbound]
    dsimp only
    rw [if_neg (not_not.mpr rfl), hseal]
  · exact decide_eq_true rfl
  · unfold openCredentials
    rw [hopen]
    dsimp only
    rw [readTsCredentials_encode hcreds]
    rfl

end Exchange

/-- Whatever has been refused in the run so far: a server that knows the account, challenges the
client and answers as it has to, can check AUTHENTICATE and the client's binding, has its own
binding taken, and opens the configured domain, user and password. -/
theorem handshake_completes {crypto : Crypto} {config : CredsspConfig} {tr : List CredsspEvent}
    {c : CredsspClient} {n : NtlmClient} {now : UInt64} {challenge : Bytes}
    (hr : (credsspMachine crypto config).Run tr c) (hsent : ∃ x ∈ tr, x.1 = .firstMessage)
    (hstate : c.state = .challenge) (hread : c.ntlm.readChallenge now challenge = (n, .ok ()))
    (hfits : Fits config challenge n.challengeTargetInfo) (version : UInt32) (now' : UInt64) :
    ∃ auth token server binding authInfo c',
      config.account.answer crypto negotiateMessage challenge
        (CredsspClient.clientBinding crypto config version)
        (CredsspClient.expectedPubKeyAuth crypto config version) auth token =
          some (server, binding) ∧
      (credsspMachine crypto config).Run (tr ++
        [(.server now (encodeTsRequest version (some challenge) none none none),
          .ok (encodeTsRequest tsRequestVersion (some auth) none (some token)
            (if 5 ≤ version then some config.clientNonce else none), false)),
        (.server now' (encodeTsRequest version none none (some binding) none),
          .ok (encodeTsRequest tsRequestVersion none (some authInfo) none none, true))]) c' ∧
      c'.isDone ∧
      openCredentials crypto server authInfo =
        some (utf16le config.domain, utf16le config.user, utf16le config.password) := by
  have hown := (run_guarded hr).own
  obtain ⟨auth, token, ready, opened, hfirst, hkey, hopen, hpeers⟩ :=
    challenge_answered crypto version hstate hown hread hfits
  rw [run_negotiateMsg hr hsent] at hkey
  obtain ⟨server, binding, authInfo, c', hbinds, hsecond, hdone, hcreds⟩ :=
    binding_answered crypto now' version
      (c := { c with peerVersion := version, ntlm := ready, state := .pubKey })
      rfl hown hpeers hfits.publicKey hfits.credentials
  refine ⟨auth, token, server, binding, authInfo, c', ?_, ?_, hdone, hcreds⟩
  · unfold Account.answer
    rw [hkey]
    dsimp only
    rw [hopen]
    dsimp only
    rw [if_neg (not_not.mpr rfl), hbinds]
  · have hone : (credsspMachine crypto config).step c
        (.server now (encodeTsRequest version (some challenge) none none none)) = some (_, _) :=
      congrArg some hfirst
    have htwo : (credsspMachine crypto config).step
        { c with peerVersion := version, ntlm := ready, state := .pubKey }
        (.server now' (encodeTsRequest version none none (some binding) none)) = some (_, _) :=
      congrArg some hsecond
    have hrun := (hr.snoc hone).snoc htwo
    rw [List.append_assoc] at hrun
    exact hrun

/-- The sample client, which has refused an empty message before it is challenged. -/
theorem handshake_completes_sample :
    ∃ tr server authInfo c', (credsspMachine sampleCrypto sampleConfig).Run tr c' ∧
      (tr.map Prod.snd).getLast? =
        some (.ok (encodeTsRequest tsRequestVersion none (some authInfo) none none, true)) ∧
      openCredentials sampleCrypto server authInfo = some ([], [0x75, 0], [0x70, 0]) := by
  have hrun := Machine.run_of_exec (M := credsspMachine sampleCrypto sampleConfig)
    [.firstMessage, .server 0 []] (by decide +kernel)
  have hread : (CredsspClient.firstMessage { config := sampleConfig }).1.ntlm.readChallenge 0
      sampleChallenge = (((CredsspClient.firstMessage { config := sampleConfig }).1.ntlm.readChallenge
        0 sampleChallenge).1, .ok ()) := by decide +kernel
  have hend : Complete ((CredsspClient.firstMessage { config := sampleConfig }).1.ntlm.readChallenge
      0 sampleChallenge).1.challengeTargetInfo [] := ⟨_, rfl, .inr (.inl (by decide +kernel))⟩
  have hfits : Fits sampleConfig sampleChallenge ((CredsspClient.firstMessage
      { config := sampleConfig }).1.ntlm.readChallenge 0 sampleChallenge).1.challengeTargetInfo := by
    refine ⟨rfl, rfl, by decide, by decide, fun pairs hpairs => ?_, by decide +kernel, by decide,
      by decide +kernel⟩
    rw [hpairs.unique hend]
    decide
  obtain ⟨auth, token, server, binding, authInfo, c', -, hafter, -, hcreds⟩ :=
    handshake_completes hrun ⟨_, List.mem_cons_self, rfl⟩ (by decide +kernel) hread hfits 6 0
  exact ⟨_, server, authInfo, c', hafter, by simp, hcreds⟩

end Lgnome.Credssp
