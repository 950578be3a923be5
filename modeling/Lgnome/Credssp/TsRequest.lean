import Lgnome.Credssp.Der
import Lgnome.Credssp.Crypto

/-!
# TSRequest and TSCredentials

The two structures CredSSP exchanges, as far as this client writes and reads
them.
-/
namespace Lgnome.Credssp

def tsRequestVersion : UInt32 := 6
def tsPasswordCreds : UInt32 := 1

/-- A field is written when it has a value, and the nonce from version five on only. -/
def encodeTsRequest (version : UInt32) (negoToken authInfo pubKeyAuth clientNonce : Option Bytes) :
    Bytes :=
  sequence
    (context 0 (integer version) ++
      (negoToken.elim [] fun nt =>
        context 1 (sequence (sequence (context 0 (octetString nt))))) ++
      (authInfo.elim [] fun ai => context 2 (octetString ai)) ++
      (pubKeyAuth.elim [] fun pk => context 3 (octetString pk)) ++
      (if 5 ≤ version then clientNonce.elim [] fun nonce => context 5 (octetString nonce)
        else []))

structure ParsedTsRequest where
  version : UInt32 := 0
  negoToken : Option Bytes := none
  authInfo : Option Bytes := none
  pubKeyAuth : Option Bytes := none
  errorCode : Option UInt32 := none
  deriving DecidableEq, Repr

/-- An optional field: absent, or unwrapped by the given reader, whose error is final. -/
def readField {α : Type} (content : Option Bytes) (read : Bytes → Except String α) :
    Except String (Option α) :=
  match content with
  | none => .ok none
  | some c => (read c).map some

/-- `Der::new(c).read_tag(tag)`. -/
def unwrap (tag : UInt8) (c : Bytes) : Except String Bytes := ((Der.new c).readTag tag).2

def readNegoToken (c1 : Bytes) : Except String Bytes := do
  let seq1 ← unwrap 0x30 c1
  let seq2 ← unwrap 0x30 seq1
  let t0 ← unwrap 0xA0 seq2
  unwrap 0x04 t0

def readErrorCode (c4 : Bytes) : Except String UInt32 := do
  let iv ← unwrap 0x02 c4
  intFromBytes iv

/-- The optional fields are looked for in order, and whatever follows them is ignored. -/
def parseTsRequest (buf : Bytes) : Except String ParsedTsRequest := do
  let body ← unwrap 0x30 buf
  let first := (Der.new body).readTag 0xA0
  let v ← first.2
  let iv ← unwrap 0x02 v
  let version ← intFromBytes iv
  let r1 := first.1.tryContext 1
  let negoToken ← readField r1.2 readNegoToken
  let r2 := r1.1.tryContext 2
  let authInfo ← readField r2.2 (unwrap 0x04)
  let r3 := r2.1.tryContext 3
  let pubKeyAuth ← readField r3.2 (unwrap 0x04)
  let r4 := r3.1.tryContext 4
  let errorCode ← readField r4.2 readErrorCode
  return { version, negoToken, authInfo, pubKeyAuth, errorCode }

/-- TSCredentials around TSPasswordCreds, the texts in UTF-16LE. -/
def encodeTsCredentials (domain user password : Text) : Bytes :=
  let tsPasswordCredsBytes := sequence
    (context 0 (octetString (utf16le domain)) ++ context 1 (octetString (utf16le user)) ++
      context 2 (octetString (utf16le password)))
  sequence
    (context 0 (integer tsPasswordCreds) ++ context 1 (octetString tsPasswordCredsBytes))

section RoundTrip

/-- A single value is read back out of its own bytes. -/
theorem unwrap_tlv {tag : UInt8} {content : Bytes} (h : content.length < 2 ^ 32)
    (hsize : (tlv tag content).length < 2 ^ 64) : unwrap tag (tlv tag content) = .ok content := by
  have hread := readTag_cursor tag content [] [] h hsize
  rw [List.append_nil] at hread
  rw [unwrap, ← Der.cursor_nil, hread]

/-- The tag of the next byte, if there is one. -/
theorem Der.cursor_peek (before rest : Bytes) :
    (Der.cursor before rest).peekTag = rest.head? := by
  cases rest <;> simp [Der.cursor, Der.peekTag]

/-- An optional field as the encoder writes it. -/
def optionalField (n : UInt8) (wrap : Bytes → Bytes) (value : Option Bytes) : Bytes :=
  value.elim [] fun v => context n (wrap v)

theorem tryContext_absent {n : UInt8} (before : Bytes) {rest : Bytes}
    (hrest : rest.head? ≠ some (0xA0 ||| n)) :
    (Der.cursor before rest).tryContext n = (Der.cursor before rest, none) := by
  have hpeek : (Der.cursor before rest).peekTag ≠ some (0xA0 ||| n) := by
    rw [Der.cursor_peek]
    exact hrest
  rw [Der.tryContext, if_neg hpeek]

/-- An optional field is read back; one that was not written reads as absent, as
long as what follows does not start with its tag. -/
theorem tryContext_cursor (n : UInt8) (wrap : Bytes → Bytes) (value : Option Bytes)
    (before rest : Bytes) (hfit : ∀ v ∈ value, (wrap v).length < 2 ^ 32)
    (hsize : (before ++ optionalField n wrap value).length < 2 ^ 64)
    (hrest : rest.head? ≠ some (0xA0 ||| n)) :
    (Der.cursor before (optionalField n wrap value ++ rest)).tryContext n =
      (Der.cursor (before ++ optionalField n wrap value) rest, value.map wrap) := by
  cases value with
  | none =>
    simp only [optionalField, Option.elim_none, List.nil_append, List.append_nil, Option.map_none]
    exact tryContext_absent before hrest
  | some v =>
    have hpeek : (Der.cursor before (context n (wrap v) ++ rest)).peekTag = some (0xA0 ||| n) := by
      rw [Der.cursor_peek]
      rfl
    have hread := readTag_cursor (0xA0 ||| n) (wrap v) before rest (hfit v rfl) hsize
    simp only [optionalField, Option.elim_some, Option.map_some]
    rw [Der.tryContext, if_pos hpeek, context]
    rw [hread]

theorem length_le_tlv (tag : UInt8) (content : Bytes) :
    content.length ≤ (tlv tag content).length := by
  simp only [tlv, List.length_cons, List.length_append]
  omega

theorem head_optionalField {n tag : UInt8} {wrap : Bytes → Bytes} {value : Option Bytes}
    {rest : Bytes} (h : 0xA0 ||| n ≠ tag) (hrest : rest.head? ≠ some tag) :
    (optionalField n wrap value ++ rest).head? ≠ some tag := by
  cases value with
  | none => exact hrest
  | some v => simpa [optionalField, context, tlv] using h

def wrapToken (nt : Bytes) : Bytes := sequence (sequence (context 0 (octetString nt)))

theorem readNegoToken_wrap {nt : Bytes} (h : (wrapToken nt).length < 2 ^ 32) :
    readNegoToken (wrapToken nt) = .ok nt := by
  have h1 := length_le_tlv 0x30 (sequence (context 0 (octetString nt)))
  have h2 := length_le_tlv 0x30 (context 0 (octetString nt))
  have h3 := length_le_tlv (0xA0 ||| 0) (octetString nt)
  have h4 := length_le_tlv 0x04 nt
  simp only [wrapToken, sequence, context, octetString] at h h1 h2 h3 h4 ⊢
  unfold readNegoToken
  rw [unwrap_tlv (by omega) (by omega)]
  simp only [bind, Except.bind]
  rw [unwrap_tlv (by omega) (by omega)]
  simp only
  rw [show (0xA0 : UInt8) ||| 0 = 0xA0 from rfl] at *
  rw [unwrap_tlv (by omega) (by omega)]
  simp only
  rw [unwrap_tlv (by omega) (by omega)]

theorem encodeTsRequest_eq (version : UInt32) (nt ai pk nonce : Option Bytes) :
    encodeTsRequest version nt ai pk nonce = sequence (context 0 (integer version) ++
      (optionalField 1 wrapToken nt ++ (optionalField 2 octetString ai ++
        (optionalField 3 octetString pk ++
          optionalField 5 octetString (if 5 ≤ version then nonce else none))))) := by
  unfold encodeTsRequest optionalField wrapToken
  by_cases hv : 5 ≤ version
  · simp only [if_pos hv, List.append_assoc]
  · simp only [if_neg hv, List.append_assoc, Option.elim_none]

theorem unwrap_integer (version : UInt32) :
    (unwrap 0x02 (integer version)).bind intFromBytes = .ok version ∧
      (integer version).length ≤ 7 := by
  obtain ⟨content, hform, hlen, hread⟩ := integer_read version
  have hshort : (derLen content.length).length = 1 := by
    rw [derLen, if_pos (by omega)]
    rfl
  have hsize : (tlv 0x02 content).length ≤ 7 := by
    simp only [tlv, List.length_cons, List.length_append, hshort]
    omega
  rw [hform, unwrap_tlv (by omega) (by omega)]
  exact ⟨hread, hsize⟩

theorem readField_map (value : Option Bytes) (wrap : Bytes → Bytes)
    (read : Bytes → Except String Bytes) (h : ∀ v ∈ value, read (wrap v) = .ok v) :
    readField (value.map wrap) read = .ok value := by
  cases value with
  | none => rfl
  | some v =>
    show (read (wrap v)).map some = _
    rw [h v rfl]
    rfl

/-- What stands behind an optional field does not depend on the field. -/
theorem optionalField_cancel {n : UInt8} {wrap : Bytes → Bytes} {x y : Option Bytes}
    {r r' : Bytes} (hx : (optionalField n wrap x).length < 2 ^ 64)
    (hy : (optionalField n wrap y).length < 2 ^ 64) (hr : r.head? ≠ some (0xA0 ||| n))
    (hr' : r'.head? ≠ some (0xA0 ||| n))
    (h : optionalField n wrap x ++ r = optionalField n wrap y ++ r') : r = r' := by
  have hvalue : ∀ v, (optionalField n wrap (some v)).length < 2 ^ 64 →
      Ber.IsTlv 8 (0xA0 ||| n) (wrap v) (optionalField n wrap (some v)) := by
    intro v hv
    have hle := length_le_tlv (0xA0 ||| n) (wrap v)
    rw [optionalField, Option.elim_some, context] at hv
    exact isTlv_tlv _ le_rfl (by omega)
  cases x with
  | none =>
    cases y with
    | none => exact h
    | some v' =>
      rw [show r = _ from h] at hr
      exact absurd (hvalue v' hy).head hr
  | some v =>
    cases y with
    | none =>
      rw [show r' = _ from h.symm] at hr'
      exact absurd (hvalue v hx).head hr'
    | some v' => exact ((hvalue v hx).prefix_free (hvalue v' hy) h).2.2.2

theorem optionalField_fits (n : UInt8) {wrap : Bytes → Bytes} {value : Option Bytes}
    (hlen : (optionalField n wrap value).length < 2 ^ 32) :
    ∀ v ∈ value, (wrap v).length < 2 ^ 32 := by
  rintro v rfl
  have hle := length_le_tlv (0xA0 ||| n) (wrap v)
  simp only [optionalField, Option.elim_some, context] at hlen
  omega

theorem optionalField_octetString_length (n : UInt8) (value : Option Bytes) :
    (optionalField n octetString value).length ≤ (value.getD []).length + 20 := by
  cases value with
  | none => exact Nat.zero_le _
  | some v =>
    have h1 := tlv_length_le 0x04 v
    have h2 := tlv_length_le (0xA0 ||| n) (octetString v)
    simp only [optionalField, Option.elim_some, Option.getD_some, context, octetString] at h1 h2 ⊢
    omega

/-- A request is little longer than what it carries. -/
theorem encodeTsRequest_length (version : UInt32) (token authInfo binding : Option Bytes) :
    (encodeTsRequest version token authInfo binding none).length ≤
      (token.getD []).length + (authInfo.getD []).length + (binding.getD []).length + 117 := by
  have hversion := (unwrap_integer version).2
  have h0 := tlv_length_le (0xA0 ||| 0) (integer version)
  have htoken : (optionalField 1 wrapToken token).length ≤ (token.getD []).length + 50 := by
    cases token with
    | none => exact Nat.zero_le _
    | some nt =>
      have h1 := tlv_length_le 0x04 nt
      have h2 := tlv_length_le (0xA0 ||| 0) (octetString nt)
      have h3 := tlv_length_le 0x30 (context 0 (octetString nt))
      have h4 := tlv_length_le 0x30 (sequence (context 0 (octetString nt)))
      have h5 := tlv_length_le (0xA0 ||| 1) (wrapToken nt)
      simp only [optionalField, Option.elim_some, Option.getD_some, wrapToken, sequence, context,
        octetString] at h1 h2 h3 h4 h5 ⊢
      omega
  have hauthInfo := optionalField_octetString_length 2 authInfo
  have hbinding := optionalField_octetString_length 3 binding
  have hnonce : (if 5 ≤ version then none else none : Option Bytes) = none := by split <;> rfl
  have hnone : (optionalField 5 octetString none).length = 0 := rfl
  have houter := tlv_length_le 0x30 (context 0 (integer version) ++
    (optionalField 1 wrapToken token ++ (optionalField 2 octetString authInfo ++
      (optionalField 3 octetString binding ++ optionalField 5 octetString none))))
  rw [encodeTsRequest_eq, hnonce]
  simp only [List.length_append, sequence, context] at houter h0 ⊢
  omega

/-- A request with credentials is no request without them, whatever else the two carry. -/
theorem encodeTsRequest_authInfo_ne {version version' : UInt32} {ai : Bytes}
    {nt nt' pk pk' nonce nonce' : Option Bytes}
    (hsize : (encodeTsRequest version nt (some ai) pk nonce).length < 2 ^ 64) :
    encodeTsRequest version nt (some ai) pk nonce ≠ encodeTsRequest version' nt' none pk' nonce' := by
  intro h
  have hsize' := hsize
  rw [h] at hsize'
  rw [encodeTsRequest_eq] at h hsize
  rw [encodeTsRequest_eq] at h hsize'
  have hlen := (length_le_tlv _ _).trans_lt hsize
  have hlen' := (length_le_tlv _ _).trans_lt hsize'
  have hversion : ∀ v : UInt32, Ber.IsTlv 8 0xA0 (integer v) (context 0 (integer v)) := fun v =>
    isTlv_tlv 0xA0 le_rfl ((unwrap_integer v).2.trans_lt (by decide))
  obtain ⟨-, -, -, hfields⟩ :=
    (hversion version).prefix_free (hversion version') (tlv_injective h)
  simp only [List.length_append] at hlen hlen'
  -- The field with the credentials comes next on one side, a later one on the other.
  have hlater : ∀ tag, (0xA0 : UInt8) ||| 3 ≠ tag → (0xA0 : UInt8) ||| 5 ≠ tag →
      (optionalField 3 octetString pk' ++
        optionalField 5 octetString (if 5 ≤ version' then nonce' else none)).head? ≠ some tag := by
    intro tag h3 h5
    refine head_optionalField h3 ?_
    rw [← List.append_nil (optionalField 5 _ _)]
    exact head_optionalField h5 (by simp)
  have hhere : ∀ r, (optionalField 2 octetString (some ai) ++ r).head? = some (0xA0 ||| 2) :=
    fun r => rfl
  have hrest := optionalField_cancel (by omega) (by omega) (by rw [hhere]; decide)
    (hlater _ (by decide) (by decide)) hfields
  exact hlater (0xA0 ||| 2) (by decide) (by decide) ((congrArg List.head? hrest).symm.trans (hhere _))

theorem unwrap_octetString {v : Bytes} (h : (octetString v).length < 2 ^ 32) :
    unwrap 0x04 (octetString v) = .ok v := by
  have hle := length_le_tlv 0x04 v
  rw [octetString] at h ⊢
  exact unwrap_tlv (by omega) (by omega)

/-- What this client writes is read back field by field. -/
theorem parseTsRequest_encode {version : UInt32} {nt ai pk nonce : Option Bytes}
    (h : (encodeTsRequest version nt ai pk nonce).length < 2 ^ 32) :
    parseTsRequest (encodeTsRequest version nt ai pk nonce) =
      .ok { version, negoToken := nt, authInfo := ai, pubKeyAuth := pk } := by
  obtain ⟨hint, hshort⟩ := unwrap_integer version
  have hv0 : context 0 (integer version) = tlv 0xA0 (integer version) := rfl
  rw [encodeTsRequest_eq, hv0] at h ⊢
  generalize hrest : optionalField 5 octetString (if 5 ≤ version then nonce else none) = rest
    at h ⊢
  have hhead : ∀ tag, (0xA0 : UInt8) ||| 5 ≠ tag → rest.head? ≠ some tag := by
    intro tag htag
    have hlast : (optionalField 5 octetString (if 5 ≤ version then nonce else none) ++ []).head? ≠
        some tag := head_optionalField htag (by simp)
    rwa [List.append_nil, hrest] at hlast
  have hlen := (length_le_tlv _ _).trans_lt h
  have hwhole := unwrap_tlv hlen (h.trans (by omega))
  simp only [List.length_append] at hlen
  have r0 := readTag_cursor 0xA0 (integer version) []
    (optionalField 1 wrapToken nt ++ (optionalField 2 octetString ai ++
      (optionalField 3 octetString pk ++ rest))) (by omega) (by rw [List.nil_append]; omega)
  rw [List.nil_append, Der.cursor_nil] at r0
  have r1 := tryContext_cursor 1 wrapToken nt (tlv 0xA0 (integer version))
    (optionalField 2 octetString ai ++ (optionalField 3 octetString pk ++ rest))
    (optionalField_fits 1 (by omega)) (by rw [List.length_append]; omega)
    (head_optionalField (by decide) (head_optionalField (by decide) (hhead _ (by decide))))
  have r2 := tryContext_cursor 2 octetString ai
    (tlv 0xA0 (integer version) ++ optionalField 1 wrapToken nt)
    (optionalField 3 octetString pk ++ rest)
    (optionalField_fits 2 (by omega)) (by simp only [List.length_append]; omega)
    (head_optionalField (by decide) (hhead _ (by decide)))
  have r3 := tryContext_cursor 3 octetString pk
    (tlv 0xA0 (integer version) ++ optionalField 1 wrapToken nt ++
      optionalField 2 octetString ai) rest
    (optionalField_fits 3 (by omega)) (by simp only [List.length_append]; omega)
    (hhead _ (by decide))
  have r4 := tryContext_absent (n := 4)
    (tlv 0xA0 (integer version) ++ optionalField 1 wrapToken nt ++
      optionalField 2 octetString ai ++ optionalField 3 octetString pk) (hhead _ (by decide))
  have f1 := readField_map nt wrapToken readNegoToken
    fun v hmem => readNegoToken_wrap (optionalField_fits 1 (by omega) v hmem)
  have f2 := readField_map ai octetString (unwrap 0x04)
    fun v hmem => unwrap_octetString (optionalField_fits 2 (by omega) v hmem)
  have f3 := readField_map pk octetString (unwrap 0x04)
    fun v hmem => unwrap_octetString (optionalField_fits 3 (by omega) v hmem)
  cases hiv : unwrap 0x02 (integer version) with
  | error e =>
    rw [hiv] at hint
    cases hint
  | ok iv =>
    rw [hiv] at hint
    have hok : intFromBytes iv = .ok version := hint
    unfold parseTsRequest
    rw [sequence, hwhole]
    simp only [bind, Except.bind, r0, hiv, hok, r1, f1, r2, f2, r3, f3, r4]
    rfl

end RoundTrip

end Lgnome.Credssp
