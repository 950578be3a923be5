import Lgnome.Credssp.Client

/-!
# When the credentials leave

The server chooses every byte of every message, repeats steps and mixes
versions. Over all such runs the sealed credentials leave at most once, and
only behind a server binding that was unsealed at its place in the sealed
stream and equals the value for this client's own nonce and key. Nothing is
assumed of the digests.
-/
namespace Lgnome.Credssp

open Lgnome.Transition

variable {crypto : Crypto} {config : CredsspConfig}

/-- The part of the NTLM client that unsealing reads and writes. -/
structure Receiving where
  exchanged : Bool
  signingKey : Bytes
  sealing : Option Rc4
  seq : UInt32

def NtlmClient.receiving (n : NtlmClient) : Receiving :=
  ⟨n.keyExchange, n.recvSigningKey, n.recvSealing, n.recvSeq⟩

section Receiving

variable {n m : NtlmClient}

/-- Unsealing depends on the receiving half only, and so does what it leaves of it. -/
theorem decrypt_congr (h : n.receiving = m.receiving) (token : Bytes) :
    (n.decrypt crypto token).2 = (m.decrypt crypto token).2 ∧
      (n.decrypt crypto token).1.receiving = (m.decrypt crypto token).1.receiving := by
  obtain ⟨hx, hk, hs, hq⟩ := Receiving.mk.inj h
  unfold NtlmClient.decrypt
  rw [hx, hk, hs, hq]
  split
  · exact ⟨rfl, h⟩
  · cases m.recvSealing with
    | none => exact ⟨rfl, rfl⟩
    | some sealing =>
      simp only
      split <;> exact ⟨rfl, rfl⟩

/-- Sealing leaves the receiving half alone. -/
theorem encrypt_receiving (crypto : Crypto) (n : NtlmClient) (plaintext : Bytes) :
    (n.encrypt crypto plaintext).1.receiving = n.receiving := by
  unfold NtlmClient.encrypt
  cases n.sendSealing <;> rfl

/-- A long enough token moves the sequence number by one, valid or not. -/
theorem decrypt_seq (n : NtlmClient) (token : Bytes) :
    (n.decrypt crypto token).1.recvSeq =
      n.recvSeq + if 16 ≤ token.length then 1 else 0 := by
  unfold NtlmClient.decrypt
  by_cases hlen : token.length < 16
  · have hn : ¬16 ≤ token.length := by omega
    simp [hlen, hn]
  · have hp : 16 ≤ token.length := by omega
    simp only [if_neg hlen, if_pos hp]
    cases n.recvSealing with
    | none => rfl
    | some sealing =>
      simp only
      split <;> rfl

/-- What unseals carries the signature of the expected sequence number. -/
theorem decrypt_signed {token plain : Bytes} (h : (n.decrypt crypto token).2 = .ok plain) :
    ∃ check, token.take 16 = NtlmClient.signatureOf check n.recvSeq := by
  unfold NtlmClient.decrypt at h
  split at h
  · cases h
  · cases hs : n.recvSealing with
    | none => simp [hs] at h
    | some sealing =>
      simp only [hs] at h
      split at h
      · cases h
      · rename_i hsig
        exact ⟨_, not_not.mp hsig⟩

/-- The receiving half after a row of attempts to unseal. -/
def afterAttempts (crypto : Crypto) (n : NtlmClient) (tokens : List Bytes) : NtlmClient :=
  tokens.foldl (fun n token => (n.decrypt crypto token).1) n

theorem afterAttempts_seq (crypto : Crypto) (n : NtlmClient) (tokens : List Bytes) :
    (afterAttempts crypto n tokens).recvSeq =
      n.recvSeq + UInt32.ofNat (tokens.countP fun token => 16 ≤ token.length) := by
  induction tokens using List.reverseRecOn with
  | nil => simp [afterAttempts]
  | append_singleton tokens token ih =>
    have hstep : afterAttempts crypto n (tokens ++ [token]) =
        ((afterAttempts crypto n tokens).decrypt crypto token).1 := by
      simp [afterAttempts]
    rw [hstep, decrypt_seq, ih, List.countP_append]
    by_cases hlen : 16 ≤ token.length
    · simp [hlen, UInt32.ofNat_add, UInt32.add_assoc]
    · simp [hlen]

end Receiving

/-- The binding a message brings past the parser and the error code, if any. -/
def attemptToken : CredsspAction → Option Bytes
  | .firstMessage => none
  | .server _ msg =>
    match parseTsRequest msg with
    | .error _ => none
    | .ok parsed =>
      match parsed.errorCode.filter (· ≠ 0) with
      | some _ => none
      | none => parsed.pubKeyAuth

/-- The bindings tried in a stretch of a run. -/
def attempts (tr : List CredsspEvent) : List Bytes := tr.filterMap fun x => attemptToken x.1

/-- A request without credentials. -/
def Bare (bytes : Bytes) : Prop :=
  ∃ version negoToken pubKeyAuth clientNonce,
    bytes = encodeTsRequest version negoToken none pubKeyAuth clientNonce

/-- Every reply counts that is anything else than a request without credentials. -/
def Releases (reply : CredsspReply) : Prop := ∃ bytes fin, reply = .ok (bytes, fin) ∧ ¬Bare bytes

/-- So every request that carries credentials counts, whatever else it carries. -/
theorem releases_authInfo {version : UInt32} {nt pk nonce : Option Bytes} {authInfo : Bytes}
    {fin : Bool} (h : (encodeTsRequest version nt (some authInfo) pk nonce).length < 2 ^ 64) :
    Releases (.ok (encodeTsRequest version nt (some authInfo) pk nonce, fin)) := by
  refine ⟨_, _, rfl, ?_⟩
  rintro ⟨_, _, _, _, hbare⟩
  exact encodeTsRequest_authInfo_ne h hbare

/-- Every server message of the stretch was refused. -/
def AllRefused (tr : List CredsspEvent) : Prop :=
  ∀ x ∈ tr, (∃ now msg, x.1 = .server now msg) → ∃ e, x.2 = .error e

/-- Fresh session keys, both derived from one session key, at sequence number zero. -/
def FreshKeys (crypto : Crypto) (n : NtlmClient) : Prop :=
  n.recvSeq = 0 ∧
    n.recvSigningKey = md5With crypto n.exportedSessionKey Ntlm.serverSignMagic ∧
    n.recvSealing = some (Rc4.new (md5With crypto n.exportedSessionKey Ntlm.serverSealMagic))

section Steps

variable {c c' : CredsspClient} {now : UInt64} {msg : Bytes} {reply : CredsspReply}

/-- The receiving half after a message in the `PubKey` state that did not release. -/
def afterMessage (crypto : Crypto) (n : NtlmClient) (msg : Bytes) : NtlmClient :=
  match attemptToken (.server 0 msg) with
  | none => n
  | some token => (n.decrypt crypto token).1

/-- The checks a message has to pass: it parses, brings no error code, and its
token is what the handshake state waits for. -/
def Passes (crypto : Crypto) (c : CredsspClient) (now : UInt64) (msg : Bytes) : Prop :=
  ∃ parsed, parseTsRequest msg = .ok parsed ∧ parsed.errorCode.filter (· ≠ 0) = none ∧
    match c.state with
    | .challenge => ∃ token, parsed.negoToken = some token ∧
        (c.ntlm.readChallenge now token).2 = .ok ()
    | .pubKey => ∃ token, parsed.pubKeyAuth = some token ∧
        (c.ntlm.decrypt crypto token).2 =
          .ok (CredsspClient.expectedPubKeyAuth crypto c.config c.peerVersion)
    | .done => False

/-- All a server message can do. -/
inductive ServerStep (crypto : Crypto) (c c' : CredsspClient) (now : UInt64) (msg : Bytes) :
    CredsspReply → Prop
  | refused (e : String) (hconfig : c'.config = c.config) (hstate : c'.state = c.state)
      (hkept : c.state = .pubKey → c'.peerVersion = c.peerVersion ∧
        c'.ntlm.receiving = (afterMessage crypto c.ntlm msg).receiving) :
      ServerStep crypto c c' now msg (.error e)
  | challenged (parsed : ParsedTsRequest) (auth pubKeyAuth : Bytes) (nonce : Option Bytes)
      (hstate : c.state = .challenge) (hstate' : c'.state = .pubKey)
      (hconfig : c'.config = c.config) (hparsed : parseTsRequest msg = .ok parsed)
      (hversion : c'.peerVersion = parsed.version) (hkeys : FreshKeys crypto c'.ntlm)
      (hpasses : Passes crypto c now msg) :
      ServerStep crypto c c' now msg
        (.ok (encodeTsRequest tsRequestVersion (some auth) none (some pubKeyAuth) nonce, false))
  | released (parsed : ParsedTsRequest) (token authInfo : Bytes)
      (hstate : c.state = .pubKey) (hstate' : c'.state = .done) (hconfig : c'.config = c.config)
      (hparsed : parseTsRequest msg = .ok parsed) (htoken : parsed.pubKeyAuth = some token)
      (hbound : (c.ntlm.decrypt crypto token).2 =
        .ok (CredsspClient.expectedPubKeyAuth crypto c.config c.peerVersion))
      (hpasses : Passes crypto c now msg) :
      ServerStep crypto c c' now msg
        (.ok (encodeTsRequest tsRequestVersion none (some authInfo) none none, true))

/-- The keys come with the AUTHENTICATE message. -/
theorem buildAuthenticate_freshKeys {n n' : NtlmClient} {user domain password : Text}
    {challenge key auth : Bytes}
    (h : n.buildAuthenticate crypto user domain password challenge key = (n', .ok auth)) :
    FreshKeys crypto n' := by
  unfold NtlmClient.buildAuthenticate at h
  split at h
  · cases h
  · obtain ⟨rfl, -⟩ := Prod.mk.inj h
    exact ⟨rfl, rfl, rfl⟩

theorem encrypt_freshKeys {n : NtlmClient} (h : FreshKeys crypto n) (plaintext : Bytes) :
    FreshKeys crypto (n.encrypt crypto plaintext).1 := by
  unfold NtlmClient.encrypt
  cases n.sendSealing <;> exact h

theorem processChallenge_cases (hs : c.state = .challenge) {parsed : ParsedTsRequest}
    (hp : parseTsRequest msg = .ok parsed) (hcode : parsed.errorCode.filter (· ≠ 0) = none) :
    ServerStep crypto c (c.processChallenge crypto now parsed).1 now msg
      (c.processChallenge crypto now parsed).2 := by
  have hne : c.state ≠ .pubKey := by rw [hs]; decide
  unfold CredsspClient.processChallenge
  cases htoken : parsed.negoToken with
  | none => exact .refused _ rfl rfl (absurd · hne)
  | some challenge =>
    simp only
    rcases hread : c.ntlm.readChallenge now challenge with ⟨n₁, _ | _⟩
    · exact .refused _ rfl rfl (absurd · hne)
    simp only
    rcases hauth : n₁.buildAuthenticate crypto c.config.user c.config.domain c.config.password
      c.config.clientChallenge c.config.keyExchKey with ⟨n₂, _ | auth⟩
    · exact .refused _ rfl rfl (absurd · hne)
    have hkeys := encrypt_freshKeys (buildAuthenticate_freshKeys hauth)
      (CredsspClient.clientBinding crypto c.config parsed.version)
    simp only
    rcases henc : n₂.encrypt crypto (CredsspClient.clientBinding crypto c.config parsed.version)
      with ⟨n₃, _ | pubKeyAuth⟩
    · exact .refused _ rfl rfl (absurd · hne)
    · rw [henc] at hkeys
      have hpasses : Passes crypto c now msg := by
        refine ⟨parsed, hp, hcode, ?_⟩
        rw [hs]
        exact ⟨challenge, htoken, by rw [hread]⟩
      exact .challenged parsed auth pubKeyAuth _ hs rfl rfl hp rfl hkeys hpasses

theorem processPubKey_cases (hs : c.state = .pubKey) {parsed : ParsedTsRequest}
    (hp : parseTsRequest msg = .ok parsed) (hcode : parsed.errorCode.filter (· ≠ 0) = none) :
    ServerStep crypto c (c.processPubKey crypto parsed).1 now msg
      (c.processPubKey crypto parsed).2 := by
  have hafter : (afterMessage crypto c.ntlm msg) =
      match parsed.pubKeyAuth with
      | none => c.ntlm
      | some token => (c.ntlm.decrypt crypto token).1 := by
    simp only [afterMessage, attemptToken, hp, hcode]
  unfold CredsspClient.processPubKey
  cases htoken : parsed.pubKeyAuth with
  | none =>
    rw [htoken] at hafter
    exact .refused _ rfl rfl fun _ => ⟨rfl, by rw [hafter]⟩
  | some token =>
    rw [htoken] at hafter
    simp only at hafter ⊢
    rcases hdec : c.ntlm.decrypt crypto token with ⟨n₁, _ | plain⟩
    · exact .refused _ rfl rfl fun _ => ⟨rfl, by rw [hafter, hdec]⟩
    simp only
    by_cases hplain : plain = CredsspClient.expectedPubKeyAuth crypto c.config c.peerVersion
    · rw [if_neg (not_not.mpr hplain)]
      have hbound : (c.ntlm.decrypt crypto token).2 =
          .ok (CredsspClient.expectedPubKeyAuth crypto c.config c.peerVersion) := by
        rw [hdec, hplain]
      have hkept := encrypt_receiving crypto n₁
        (encodeTsCredentials c.config.domain c.config.user c.config.password)
      rcases henc : n₁.encrypt crypto
        (encodeTsCredentials c.config.domain c.config.user c.config.password) with
        ⟨n₂, _ | authInfo⟩
      · rw [henc] at hkept
        exact .refused _ rfl rfl fun _ => ⟨rfl, by rw [hafter, hdec]; exact hkept⟩
      · have hpasses : Passes crypto c now msg := by
          refine ⟨parsed, hp, hcode, ?_⟩
          rw [hs]
          exact ⟨token, htoken, hbound⟩
        exact .released parsed token authInfo hs rfl rfl hp htoken hbound hpasses
    · rw [if_pos hplain]
      exact .refused _ rfl rfl fun _ => ⟨rfl, by rw [hafter, hdec]⟩

theorem processServer_cases (crypto : Crypto) (c : CredsspClient) (now : UInt64) (msg : Bytes) :
    ServerStep crypto c (c.processServer crypto now msg).1 now msg
      (c.processServer crypto now msg).2 := by
  unfold CredsspClient.processServer
  cases hp : parseTsRequest msg with
  | error e =>
    exact .refused _ rfl rfl fun _ => ⟨rfl, by simp only [afterMessage, attemptToken, hp]⟩
  | ok parsed =>
    simp only
    cases hcode : parsed.errorCode.filter (· ≠ 0) with
    | some code =>
      exact .refused _ rfl rfl fun _ => ⟨rfl, by simp only [afterMessage, attemptToken, hp, hcode]⟩
    | none =>
      cases hs : c.state with
      | challenge => exact processChallenge_cases hs hp hcode
      | pubKey => exact processPubKey_cases hs hp hcode
      | done =>
        have hne : c.state ≠ .pubKey := by rw [hs]; decide
        exact .refused _ rfl rfl (absurd · hne)

/-- A server that binds itself gets the credentials. -/
theorem releases_of_bound {parsed : ParsedTsRequest} {token : Bytes} (hs : c.state = .pubKey)
    (hp : parseTsRequest msg = .ok parsed) (hcode : parsed.errorCode = none)
    (htoken : parsed.pubKeyAuth = some token) (hkey : c.ntlm.sendSealing.isSome)
    (hbound : (c.ntlm.decrypt crypto token).2 =
      .ok (CredsspClient.expectedPubKeyAuth crypto c.config c.peerVersion))
    (hfits : (encodeTsCredentials c.config.domain c.config.user c.config.password).length < 2 ^ 32) :
    Releases (c.processServer crypto now msg).2 := by
  obtain ⟨sealing, hsealing⟩ := Option.isSome_iff_exists.mp hkey
  have hkept := NtlmClient.decrypt_sendSealing crypto c.ntlm token
  rcases hdec : c.ntlm.decrypt crypto token with ⟨n, result⟩
  rw [hdec] at hbound hkept
  obtain rfl : result = _ := hbound
  have hsend : n.sendSealing = some sealing := hkept.trans hsealing
  obtain ⟨authInfo, henc, hlen⟩ := NtlmClient.encrypt_length crypto hsend
    (encodeTsCredentials c.config.domain c.config.user c.config.password)
  have hsize := encodeTsRequest_length tsRequestVersion none (some authInfo) none
  simp only [Option.getD_none, Option.getD_some, List.length_nil] at hsize
  have harm : c.processServer crypto now msg = c.processPubKey crypto parsed := by
    simp only [CredsspClient.processServer, hp, hcode, hs, Option.filter_none]
  have hreply : (c.processPubKey crypto parsed).2 =
      .ok (encodeTsRequest tsRequestVersion none (some authInfo) none none, true) := by
    simp only [CredsspClient.processPubKey, htoken, hdec, ne_eq, not_true_eq_false, if_false]
    rcases hsealed : n.encrypt crypto
      (encodeTsCredentials c.config.domain c.config.user c.config.password) with ⟨n₂, outcome⟩
    rw [hsealed] at henc
    obtain rfl : outcome = _ := henc
    rfl
  rw [harm, hreply]
  exact releases_authInfo (by omega)

theorem ServerStep.not_releases_of_ne (h : ServerStep crypto c c' now msg reply)
    (hs : c.state ≠ .pubKey) : ¬Releases reply := by
  rintro ⟨bytes, fin, hreply, hbare⟩
  cases h with
  | refused => cases hreply
  | challenged =>
    obtain ⟨rfl, -⟩ := Prod.mk.inj (Except.ok.inj hreply)
    exact hbare ⟨_, _, _, _, rfl⟩
  | released _ _ _ hstate => exact hs hstate

end Steps

section Runs

variable {c : CredsspClient} {tr : List CredsspEvent}

theorem firstMessage_not_releases (c : CredsspClient) :
    ¬Releases (.ok (c.firstMessage.2, false)) := by
  rintro ⟨bytes, fin, hreply, hbare⟩
  obtain ⟨rfl, -⟩ := Prod.mk.inj (Except.ok.inj hreply)
  exact hbare ⟨_, _, _, _, rfl⟩

theorem attempts_snoc (tr : List CredsspEvent) (x : CredsspEvent) :
    attempts (tr ++ [x]) = attempts tr ++ (attemptToken x.1).toList := by
  unfold attempts
  rw [List.filterMap_append]
  cases h : attemptToken x.1 <;> simp [h]

theorem afterAttempts_message (n : NtlmClient) (tr : List CredsspEvent) (now : UInt64)
    (msg : Bytes) (reply : CredsspReply) :
    afterAttempts crypto n (attempts (tr ++ [(.server now msg, reply)])) =
      afterMessage crypto (afterAttempts crypto n (attempts tr)) msg := by
  have htoken : attemptToken (.server now msg) = attemptToken (.server 0 msg) := rfl
  rw [attempts_snoc]
  unfold afterAttempts afterMessage
  rw [List.foldl_append, htoken]
  cases attemptToken (.server 0 msg) <;> rfl

theorem afterMessage_congr {n m : NtlmClient} (h : n.receiving = m.receiving) (msg : Bytes) :
    (afterMessage crypto n msg).receiving = (afterMessage crypto m msg).receiving := by
  unfold afterMessage
  cases attemptToken (.server 0 msg) with
  | none => exact h
  | some token => exact (decrypt_congr h token).2

theorem AllRefused.nil : AllRefused [] := fun _ hx => absurd hx List.not_mem_nil

theorem AllRefused.snoc (h : AllRefused tr) {x : CredsspEvent}
    (hx : (∃ now msg, x.1 = .server now msg) → ∃ e, x.2 = .error e) : AllRefused (tr ++ [x]) := by
  intro y hy
  rcases List.mem_append.mp hy with hy | hy
  · exact h y hy
  · rw [List.mem_singleton.mp hy]
    exact hx

/-- A record in which one challenge was taken and every other server message was refused. -/
structure Challenged (crypto : Crypto) (config : CredsspConfig) (tr : List CredsspEvent) where
  before : List CredsspEvent
  now : UInt64
  challenge : Bytes
  reply : Bytes × Bool
  mid : List CredsspEvent
  split : tr = before ++ (.server now challenge, .ok reply) :: mid
  beforeRefused : AllRefused before
  midRefused : AllRefused mid
  parsed : ParsedTsRequest
  parses : parseTsRequest challenge = .ok parsed
  fresh : CredsspClient
  reached : (credsspMachine crypto config).Run
    (before ++ [(.server now challenge, .ok reply)]) fresh
  keys : FreshKeys crypto fresh.ntlm

/-- The negotiated keys after every binding tried since the challenge. -/
def Challenged.sealing (w : Challenged crypto config tr) : NtlmClient :=
  afterAttempts crypto w.fresh.ntlm (attempts w.mid)

/-- Each binding tried since the challenge has used up one sequence number. -/
theorem Challenged.sealing_seq (w : Challenged crypto config tr) :
    w.sealing.recvSeq =
      UInt32.ofNat ((attempts w.mid).countP fun token => 16 ≤ token.length) := by
  have hseq := afterAttempts_seq crypto w.fresh.ntlm (attempts w.mid)
  rw [w.keys.1, UInt32.zero_add] at hseq
  exact hseq

/-- One more refused call. -/
def Challenged.snoc (w : Challenged crypto config tr) (x : CredsspEvent)
    (hx : (∃ now msg, x.1 = .server now msg) → ∃ e, x.2 = .error e) :
    Challenged crypto config (tr ++ [x]) :=
  { w with
    mid := w.mid ++ [x]
    split := (congrArg (· ++ [x]) w.split).trans (List.append_assoc ..)
    midRefused := w.midRefused.snoc hx }

/-- What the handshake state says about the record. -/
structure Guarded (crypto : Crypto) (config : CredsspConfig) (tr : List CredsspEvent)
    (c : CredsspClient) : Prop where
  own : c.config = config
  waiting : c.state = .challenge → AllRefused tr
  awaiting : c.state = .pubKey → ∃ w : Challenged crypto config tr,
    c.peerVersion = w.parsed.version ∧ c.ntlm.receiving = w.sealing.receiving

/-- One call keeps what the handshake state says. -/
theorem step_guarded {c c' : CredsspClient} {act : CredsspAction} {reply : CredsspReply}
    (hr : (credsspMachine crypto config).Run tr c) (h : Guarded crypto config tr c)
    (hstep : (credsspMachine crypto config).step c act = some (c', reply)) :
    Guarded crypto config (tr ++ [(act, reply)]) c' := by
  cases act with
  | firstMessage =>
    obtain ⟨rfl, rfl⟩ := Prod.mk.inj (Option.some.inj hstep)
    have hserver : (∃ now msg, CredsspAction.firstMessage = .server now msg) →
        ∃ e, (Except.ok (c.firstMessage.2, false) : CredsspReply) = .error e := by
      rintro ⟨_, _, hact⟩
      cases hact
    refine ⟨h.own, fun hs => (h.waiting hs).snoc hserver, fun hs => ?_⟩
    obtain ⟨w, hv, hrec⟩ := h.awaiting hs
    refine ⟨w.snoc _ hserver, hv, ?_⟩
    have hsame : attempts (w.mid ++ [(.firstMessage, .ok (c.firstMessage.2, false))]) =
        attempts w.mid := by
      rw [attempts_snoc]
      exact List.append_nil _
    show c.ntlm.receiving = (afterAttempts crypto w.fresh.ntlm (attempts (w.mid ++ _))).receiving
    rw [hsame]
    exact hrec
  | server now msg =>
    have hcases := processServer_cases crypto c now msg
    rw [Option.some.inj hstep] at hcases
    generalize hreply : reply = r at hcases
    cases hcases with
    | refused e hconfig hstate hkept =>
      subst hreply
      have hserver : (∃ now' msg', CredsspAction.server now msg = .server now' msg') →
          ∃ e', (Except.error e : CredsspReply) = .error e' := fun _ => ⟨e, rfl⟩
      refine ⟨hconfig.trans h.own, fun hs => (h.waiting (hstate ▸ hs)).snoc hserver, fun hs => ?_⟩
      have hs₀ : c.state = .pubKey := hstate ▸ hs
      obtain ⟨hversion, hreceives⟩ := hkept hs₀
      obtain ⟨w, hv, hrec⟩ := h.awaiting hs₀
      refine ⟨w.snoc _ hserver, hversion.trans hv, ?_⟩
      show c'.ntlm.receiving = (afterAttempts crypto w.fresh.ntlm (attempts (w.mid ++ _))).receiving
      rw [afterAttempts_message, hreceives]
      exact afterMessage_congr hrec msg
    | challenged parsed auth pubKeyAuth nonce hstate hstate' hconfig hparsed hversion hkeys =>
      subst hreply
      refine ⟨hconfig.trans h.own, fun hs => ?_, fun _ => ?_⟩
      · rw [hstate'] at hs
        cases hs
      · exact ⟨⟨tr, now, msg, _, [], rfl, h.waiting hstate, .nil, parsed, hparsed, c',
          .snoc hr hstep, hkeys⟩, hversion, rfl⟩
    | released parsed token authInfo hstate hstate' hconfig =>
      refine ⟨hconfig.trans h.own, fun hs => ?_, fun hs => ?_⟩
      · rw [hstate'] at hs
        cases hs
      · rw [hstate'] at hs
        cases hs

theorem run_guarded (hr : (credsspMachine crypto config).Run tr c) :
    Guarded crypto config tr c := by
  induction hr with
  | refl => exact ⟨rfl, fun _ => .nil, fun hs => by cases hs⟩
  | snoc hpre hstep ih => exact step_guarded hpre ih hstep

/-- A finished handshake stays finished and releases nothing more. -/
theorem done_path {c c' : CredsspClient} (h : (credsspMachine crypto config).Path c tr c')
    (hdone : c.state = .done) : c'.state = .done ∧ ∀ x ∈ tr, ¬Releases x.2 := by
  induction h with
  | refl => exact ⟨hdone, fun _ hx => absurd hx List.not_mem_nil⟩
  | @snoc t u tr act reply _ hstep ih =>
    have hs := ih.1
    have hne : t.state ≠ .pubKey := by rw [hs]; decide
    have hlast : u.state = .done ∧ ¬Releases reply := by
      cases act with
      | firstMessage =>
        obtain ⟨rfl, rfl⟩ := Prod.mk.inj (Option.some.inj hstep)
        exact ⟨hs, firstMessage_not_releases t⟩
      | server now msg =>
        have hcases := processServer_cases crypto t now msg
        rw [Option.some.inj hstep] at hcases
        refine ⟨?_, hcases.not_releases_of_ne hne⟩
        cases hcases with
        | refused _ _ hstate => exact hstate.trans hs
        | challenged _ _ _ _ hstate => rw [hs] at hstate; cases hstate
        | released _ _ _ hstate => exact absurd hstate hne
    refine ⟨hlast.1, fun x hx => ?_⟩
    rcases List.mem_append.mp hx with hx | hx
    · exact ih.2 x hx
    · rw [List.mem_singleton.mp hx]
      exact hlast.2

/-- A call that releases takes a server message in the `PubKey` state, whose
binding unseals to the expected value, and ends the handshake. -/
theorem releases_step {c c' : CredsspClient} {act : CredsspAction} {reply : CredsspReply}
    (hstep : (credsspMachine crypto config).step c act = some (c', reply))
    (hrel : Releases reply) :
    ∃ now msg parsed token, act = .server now msg ∧ c.state = .pubKey ∧ c'.state = .done ∧
      parseTsRequest msg = .ok parsed ∧ parsed.pubKeyAuth = some token ∧
      (c.ntlm.decrypt crypto token).2 =
        .ok (CredsspClient.expectedPubKeyAuth crypto c.config c.peerVersion) := by
  cases act with
  | firstMessage =>
    obtain ⟨rfl, rfl⟩ := Prod.mk.inj (Option.some.inj hstep)
    exact absurd hrel (firstMessage_not_releases c)
  | server now msg =>
    have hcases := processServer_cases crypto c now msg
    rw [Option.some.inj hstep] at hcases
    by_cases hs : c.state = .pubKey
    · cases hcases with
      | refused =>
        obtain ⟨_, _, hreply, -⟩ := hrel
        cases hreply
      | challenged _ _ _ _ hstate => rw [hs] at hstate; cases hstate
      | released parsed token _ _ hstate' _ hparsed htoken hbound =>
        exact ⟨now, msg, parsed, token, rfl, hs, hstate', hparsed, htoken, hbound⟩
    · exact absurd hrel (hcases.not_releases_of_ne hs)

/-- The binding that `msg` brings is the server's answer for this client: it
carries the expected sequence number and unseals, under the keys negotiated in
the challenge step, to the value for the version fixed there. -/
def BindsServer (crypto : Crypto) (config : CredsspConfig) {tr : List CredsspEvent}
    (w : Challenged crypto config tr) (msg : Bytes) : Prop :=
  ∃ parsed token check, parseTsRequest msg = .ok parsed ∧ parsed.pubKeyAuth = some token ∧
    token.take 16 = NtlmClient.signatureOf check
      (UInt32.ofNat ((attempts w.mid).countP fun token => 16 ≤ token.length)) ∧
    (w.sealing.decrypt crypto token).2 =
      .ok (CredsspClient.expectedPubKeyAuth crypto config w.parsed.version)

/-- A message that fails a check is answered with an error alone, and leaves the
handshake where it was. -/
theorem refused_step {c c' : CredsspClient} {now : UInt64} {msg : Bytes} {reply : CredsspReply}
    (hstep : (credsspMachine crypto config).step c (.server now msg) = some (c', reply))
    (hfails : ¬Passes crypto c now msg) : (∃ e, reply = .error e) ∧ c'.state = c.state := by
  have hcases := processServer_cases crypto c now msg
  rw [Option.some.inj hstep] at hcases
  cases hcases with
  | refused e _ hstate => exact ⟨⟨e, rfl⟩, hstate⟩
  | challenged => exact absurd ‹Passes crypto c now msg› hfails
  | released => exact absurd ‹Passes crypto c now msg› hfails

/-- In every sequence of calls, the sealed credentials leave in one reply at
most, and that reply answers a server message that binds the server. A message
that fails any check is answered with an error alone, and the handshake stays. -/
theorem credentials_release_guarded (hr : (credsspMachine crypto config).Run tr c) :
    (∀ pre act reply post, tr = pre ++ (act, reply) :: post → Releases reply →
      (∀ x ∈ pre ++ post, ¬Releases x.2) ∧
        ∃ now msg, act = .server now msg ∧
          ∃ w : Challenged crypto config pre, BindsServer crypto config w msg) ∧
    ∀ pre now msg reply post, tr = pre ++ (.server now msg, reply) :: post →
      ∃ c₀ c₁, (credsspMachine crypto config).Run pre c₀ ∧
        (credsspMachine crypto config).step c₀ (.server now msg) = some (c₁, reply) ∧
        (¬Passes crypto c₀ now msg → (∃ e, reply = .error e) ∧ c₁.state = c₀.state) := by
  constructor
  · rintro pre act reply post rfl hrel
    obtain ⟨c₀, c₁, hpre, hstep, hpost⟩ := hr.split_at
    obtain ⟨now, msg, parsed, token, rfl, hs, hs', hparsed, htoken, hbound⟩ :=
      releases_step hstep hrel
    have hguard := run_guarded hpre
    refine ⟨fun x hx => ?_, now, msg, rfl, ?_⟩
    · rcases List.mem_append.mp hx with hx | hx
      · intro hearlier
        obtain ⟨before, mid, rfl⟩ := List.append_of_mem hx
        obtain ⟨d₀, d₁, -, hd, hmid⟩ := hpre.split_at
        obtain ⟨_, _, _, _, -, -, hdone, -⟩ := releases_step hd hearlier
        have hstill := (done_path hmid hdone).1
        rw [hs] at hstill
        cases hstill
      · exact (done_path hpost hs').2 x hx
    · obtain ⟨w, hversion, hreceives⟩ := hguard.awaiting hs
      rw [hguard.own, hversion, (decrypt_congr hreceives token).1] at hbound
      obtain ⟨check, hsigned⟩ := decrypt_signed hbound
      rw [w.sealing_seq] at hsigned
      exact ⟨w, parsed, token, check, hparsed, htoken, hsigned, hbound⟩
  · rintro pre now msg reply post rfl
    obtain ⟨c₀, c₁, hpre, hstep, -⟩ := hr.split_at
    exact ⟨c₀, c₁, hpre, hstep, refused_step hstep⟩

end Runs

section Sample

/-- A digest written as one number. -/
def digestOf (size n : Nat) : Bytes :=
  (List.range size).map fun i => UInt8.ofNat (n / 256 ^ (size - 1 - i))

def sampleConfig : CredsspConfig where
  publicKey := [1, 2, 3]
  user := ['u']
  domain := []
  password := ['p']
  clientChallenge := List.replicate 8 0xaa
  keyExchKey := List.replicate 16 0x55
  clientNonce := List.replicate 32 0x33

/-- The digests of everything the handshake below hashes. -/
def sampleCrypto : Crypto where
  md4 data := digestOf 16 (if data = utf16le ['p'] then 0x2468c466f4666005a06b2792513d98e8 else 0)
  md5 data := digestOf 16
    (if data = sampleConfig.keyExchKey ++ Ntlm.clientSignMagic then
      0x4788dc861b4782f35d43fd98fe1a2d39
    else if data = sampleConfig.keyExchKey ++ Ntlm.serverSignMagic then
      0xd04d6f10741041d1d246d64188d7a8ad
    else if data = sampleConfig.keyExchKey ++ Ntlm.clientSealMagic then
      0x59f600973cc4960a25480a7c196e4c58
    else if data = sampleConfig.keyExchKey ++ Ntlm.serverSealMagic then
      0x9355f3a957c1583d25c4c2f11e40390e
    else 0)
  hmacMd5 key data := digestOf 16
    (if key = digestOf 16 0x2468c466f4666005a06b2792513d98e8 then
      0x74cb9d09b7208675bb16a85a65d6207c
    else if key = digestOf 16 0x74cb9d09b7208675bb16a85a65d6207c then
      if data.length ≠ 16 then 0x6e4115cbcce2f99b00802600e7935b83
      else if data.take 8 = List.replicate 8 0x11 then 0x1391a94349e07bdc01e919e47b98d22
      else 0x960b977d4785ae5fe4f9e96958f47f75
    else if key = sampleConfig.keyExchKey then 0x10720e4692f969aa1fe6bb8e2eaf9bbc
    else if key = digestOf 16 0xd04d6f10741041d1d246d64188d7a8ad then
      0x423f07e9e8de05e9ceb9a2f7acd3dd4c
    else if data.length = 36 then 0x10ea309993acf309a79c9297fcd7631a
    else 0x337b52edb8574bdb13de2fb4b38da0bc)
  sha256 data := digestOf 32
    (if data = clientServerHashMagic ++ sampleConfig.clientNonce ++ sampleConfig.publicKey then
      0x01b7b98cb800027f1c9af732c23ca84c88f4f00f55eb7ebb22b15fe071899f8f
    else 0xd44728b48a03fd467f3805b6b13e30ded0a9857ade72d12790d2ba7c8592ce30)
  toUppercase text := text.map Char.toUpper
  md4_length _ := by simp [digestOf]
  md5_length _ := by simp [digestOf]
  hmacMd5_length _ _ := by simp [digestOf]
  sha256_length _ := by simp [digestOf]

/-- A CHALLENGE with key exchange and a target info of the end marker alone. -/
def sampleChallenge : Bytes :=
  Ntlm.signature ++ leBytes32 2 ++ Ntlm.field 0 48 ++ leBytes32 Ntlm.flagKeyExch ++
    List.replicate 8 0x11 ++ List.replicate 8 0 ++ Ntlm.field 4 48 ++ List.replicate 4 0

/-- The client after NEGOTIATE and this challenge. -/
def sampleChallenged : CredsspClient × CredsspReply :=
  (CredsspClient.firstMessage { config := sampleConfig }).1.processServer sampleCrypto 0
    (encodeTsRequest 6 (some sampleChallenge) none none none)

theorem credentials_release_guarded_sample :
    ∃ (pre : List CredsspEvent) (msg : Bytes) (w : Challenged sampleCrypto sampleConfig pre),
      BindsServer sampleCrypto sampleConfig w msg := by
  have hstate : sampleChallenged.1.state = .pubKey := by decide +kernel
  have hsend : sampleChallenged.1.ntlm.sendSealing.isSome := by rfl
  -- The server holds the other end of the same key and has sealed nothing yet.
  obtain ⟨token, -, hlen, hbound⟩ := NtlmClient.decrypt_encrypt (n := sampleChallenged.1.ntlm)
    (m := { keyExchange := true
            sendSigningKey := md5With sampleCrypto sampleConfig.keyExchKey Ntlm.serverSignMagic
            sendSealing :=
              some (Rc4.new (md5With sampleCrypto sampleConfig.keyExchKey Ntlm.serverSealMagic)) })
    rfl rfl rfl rfl rfl
    (CredsspClient.expectedPubKeyAuth sampleCrypto sampleChallenged.1.config
      sampleChallenged.1.peerVersion)
  have hsize : (CredsspClient.expectedPubKeyAuth sampleCrypto sampleChallenged.1.config
      sampleChallenged.1.peerVersion).length = 32 := sampleCrypto.sha256_length _
  rw [hsize] at hlen
  have hfits : (encodeTsRequest 6 none none (some token) none).length < 2 ^ 32 := by
    have hversion : (integer 6).length = 3 := by decide
    simp [encodeTsRequest, sequence, context, tlv, octetString, derLen, hlen, hversion]
  have hparsed := parseTsRequest_encode hfits
  have hrelease : Releases (sampleChallenged.1.processServer sampleCrypto 0
      (encodeTsRequest 6 none none (some token) none)).2 :=
    releases_of_bound hstate hparsed rfl rfl hsend hbound (by decide +kernel)
  have hfirst : (credsspMachine sampleCrypto sampleConfig).step { config := sampleConfig }
      .firstMessage = some ((CredsspClient.firstMessage { config := sampleConfig }).1,
        .ok ((CredsspClient.firstMessage { config := sampleConfig }).2, false)) := rfl
  have hsecond : (credsspMachine sampleCrypto sampleConfig).step
      (CredsspClient.firstMessage { config := sampleConfig }).1
      (.server 0 (encodeTsRequest 6 (some sampleChallenge) none none none)) =
        some (sampleChallenged.1, sampleChallenged.2) := rfl
  obtain ⟨⟨last, reply⟩, hreply⟩ : ∃ r, sampleChallenged.1.processServer sampleCrypto 0
      (encodeTsRequest 6 none none (some token) none) = r := ⟨_, rfl⟩
  rw [hreply] at hrelease
  have hthird : (credsspMachine sampleCrypto sampleConfig).step sampleChallenged.1
      (.server 0 (encodeTsRequest 6 none none (some token) none)) = some (last, reply) :=
    congrArg some hreply
  have hrun := ((Machine.Path.single hfirst).snoc hsecond).snoc hthird
  obtain ⟨-, now, msg, -, w, hw⟩ := (credentials_release_guarded hrun).1 _ _ _ [] rfl hrelease
  exact ⟨_, msg, w, hw⟩

end Sample

end Lgnome.Credssp
