import Lgnome.Credssp.TsRequest

/-!
# Framing of TSRequests

The transport cuts the byte stream into messages by the outer DER header alone.
It reads the same length octets as the parser, with its own code.
-/
namespace Lgnome.Credssp

def maxTsRequestSize : Nat := 1024 * 1024

/-- `usize::checked_mul`. -/
def checkedMul (a b : Nat) : Option Nat := if a * b < 2 ^ 64 then some (a * b) else none

/-- `usize::checked_add`. -/
def checkedAdd (a b : Nat) : Option Nat := if a + b < 2 ^ 64 then some (a + b) else none

/-- The loop over the bytes of a long length. -/
def longLength (length : Nat) : Bytes → Except String Nat
  | [] => .ok length
  | byte :: bytes =>
    match (checkedMul length 256).bind fun v => checkedAdd v byte.toNat with
    | none => .error "CredSSP TSRequest length overflow"
    | some length => longLength length bytes

/-- The end of `ts_request_len`: header and content, up to the size limit. -/
def requestTotal (headerLen length : Nat) : Except String (Option Nat) :=
  match (checkedAdd headerLen length).filter fun total => total ≤ maxTsRequestSize with
  | none => .error "CredSSP TSRequest exceeds the message size limit"
  | some total => .ok (some total)

/-- The length of the message that the buffer starts with, once its header is there. -/
def tsRequestLen (buf : Bytes) : Except String (Option Nat) :=
  if buf.isEmpty then .ok none
  else if buf.getD 0 0 ≠ 0x30 then .error "CredSSP TSRequest has an invalid DER tag"
  else if buf.length < 2 then .ok none
  else if buf.getD 1 0 < 0x80 then requestTotal 2 (buf.getD 1 0).toNat
  else
    let n := (buf.getD 1 0 &&& 0x7f).toNat
    if n = 0 ∨ 4 < n then .error "CredSSP TSRequest has an invalid DER length"
    else if buf.length < 2 + n then .ok none
    else if buf.getD 2 0 = 0 then .error "CredSSP TSRequest has a nonminimal DER length"
    else
      match longLength 0 (slice buf 2 (2 + n)) with
      | .error e => .error e
      | .ok length =>
        if length < 128 then .error "CredSSP TSRequest has a nonminimal DER length"
        else requestTotal (2 + n) length

section Header

theorem requestTotal_fits {headerLen length : Nat} (h : headerLen + length ≤ maxTsRequestSize) :
    requestTotal headerLen length = .ok (some (headerLen + length)) := by
  have hword : headerLen + length < 2 ^ 64 := by
    unfold maxTsRequestSize at h
    omega
  have hfilter : (checkedAdd headerLen length).filter (fun total => total ≤ maxTsRequestSize) =
      some (headerLen + length) := by
    rw [checkedAdd, if_pos hword]
    exact Option.filter_some_pos (decide_eq_true h)
  rw [requestTotal, hfilter]

/-- Four bytes never overflow. -/
theorem longLength_value (bytes : Bytes) (length k : Nat) (hlength : length < 256 ^ k)
    (hfit : k + bytes.length ≤ 4) :
    longLength length bytes = .ok (bytes.foldl (fun v b => v * 256 + b.toNat) length) := by
  induction bytes generalizing length k with
  | nil => rfl
  | cons b bytes ih =>
    rw [List.length_cons] at hfit
    have hroom : 256 ^ k ≤ 256 ^ 3 := Nat.pow_le_pow_right (by omega) (by omega)
    have hb := b.toNat_lt
    have hadded : (checkedMul length 256).bind (fun v => checkedAdd v b.toNat) =
        some (length * 256 + b.toNat) := by
      rw [checkedMul, if_pos (by omega), Option.bind_some, checkedAdd, if_pos (by omega)]
    rw [longLength, hadded, List.foldl_cons]
    exact ih _ (k + 1) (by rw [Nat.pow_succ]; omega) (by omega)

/-- The top byte of a length is not zero. -/
theorem lowBytes_getLast (fuel : Nat) {n : Nat} (hn : n ≠ 0) (h : n < 256 ^ fuel) :
    (lowBytes fuel n).getLast? ≠ some 0 ∧ lowBytes fuel n ≠ [] := by
  induction fuel generalizing n with
  | zero =>
    exfalso
    omega
  | succ fuel ih =>
    have hform : lowBytes (fuel + 1) n = UInt8.ofNat n :: lowBytes fuel (n / 256) := by
      rw [lowBytes, if_neg hn]
    rw [hform]
    refine ⟨?_, List.cons_ne_nil _ _⟩
    by_cases hdiv : n / 256 = 0
    · have hrest : lowBytes fuel (n / 256) = [] := by
        cases fuel with
        | zero => rfl
        | succ fuel => rw [lowBytes, if_pos hdiv]
      rw [hrest, List.getLast?_singleton]
      intro hzero
      have hbyte := congrArg UInt8.toNat (Option.some.inj hzero)
      rw [UInt8.toNat_ofNat'] at hbyte
      change n % 256 = 0 at hbyte
      omega
    · have hlt : n / 256 < 256 ^ fuel := by
        rw [Nat.div_lt_iff_lt_mul (by omega)]
        rwa [Nat.pow_succ] at h
      obtain ⟨hlast, hne⟩ := ih hdiv hlt
      rw [List.getLast?_cons_of_ne_nil hne]
      exact hlast

/-- A buffer with the right tag and a first length byte. -/
theorem tsRequestLen_cons (b : UInt8) (rest : Bytes) (n : Nat) (hn : (b &&& 0x7f).toNat = n) :
    tsRequestLen (0x30 :: b :: rest) =
      if b < 0x80 then requestTotal 2 b.toNat
      else if n = 0 ∨ 4 < n then .error "CredSSP TSRequest has an invalid DER length"
      else if rest.length < n then .ok none
      else if rest.getD 0 0 = 0 then .error "CredSSP TSRequest has a nonminimal DER length"
      else (longLength 0 (rest.take n)).bind fun length =>
        if length < 128 then .error "CredSSP TSRequest has a nonminimal DER length"
        else requestTotal (2 + n) length := by
  subst hn
  have hlen : ¬(0x30 :: b :: rest).length < 2 := by
    simp only [List.length_cons]
    omega
  have hwait : (0x30 :: b :: rest).length < 2 + (b &&& 0x7f).toNat ↔
      rest.length < (b &&& 0x7f).toNat := by
    simp only [List.length_cons]
    omega
  have hslice : slice (0x30 :: b :: rest) 2 (2 + (b &&& 0x7f).toNat) =
      rest.take (b &&& 0x7f).toNat := by
    rw [slice, Nat.add_sub_cancel_left]
    rfl
  unfold tsRequestLen
  simp only [List.isEmpty_cons, Bool.false_eq_true, if_false, if_neg hlen, hwait, hslice,
    List.getD_cons_zero, List.getD_cons_succ, ne_eq, not_true_eq_false]
  cases longLength 0 (rest.take (b &&& 0x7f).toNat) with
  | error e => rfl
  | ok length => rfl

/-- The framer reads the header that the encoder writes. -/
theorem tsRequestLen_header {n : Nat} (more : Bytes)
    (hlimit : (0x30 :: derLen n).length + n ≤ maxTsRequestSize) :
    tsRequestLen (0x30 :: (derLen n ++ more)) = .ok (some ((0x30 :: derLen n).length + n)) := by
  by_cases hn : n < 0x80
  · have hb : (UInt8.ofNat n).toNat = n := by
      rw [UInt8.toNat_ofNat']
      omega
    have hlt : UInt8.ofNat n < 0x80 := by
      rw [UInt8.lt_iff_toNat_lt, hb]
      exact hn
    have hform : derLen n = [UInt8.ofNat n] := if_pos hn
    rw [hform] at hlimit ⊢
    rw [List.singleton_append, tsRequestLen_cons _ _ _ rfl, if_pos hlt, hb]
    exact requestTotal_fits hlimit
  · have hsmall : n < 256 ^ 3 := by
      unfold maxTsRequestSize at hlimit
      omega
    have hform : derLen n =
        (0x80 ||| UInt8.ofNat (lowBytes 8 n).reverse.length) :: (lowBytes 8 n).reverse :=
      if_neg hn
    have hval : (lowBytes 8 n).reverse.foldl (fun v b => v * 256 + b.toNat) 0 = n := by
      rw [List.foldl_reverse]
      exact lowBytes_value 8 (by omega)
    have hle : (lowBytes 8 n).reverse.length ≤ 4 := by
      rw [List.length_reverse]
      exact lowBytes_length_le 8 (by omega)
    obtain ⟨hlast, hne⟩ := lowBytes_getLast 8 (n := n) (by omega) (by omega)
    rw [← List.head?_reverse] at hlast
    have hne : (lowBytes 8 n).reverse ≠ [] := fun h => hne (List.reverse_eq_nil_iff.mp h)
    rw [hform] at hlimit ⊢
    generalize (lowBytes 8 n).reverse = bytes at hlimit hval hle hlast hne ⊢
    have hcount : ¬(0x80 ||| UInt8.ofNat bytes.length) < 0x80 ∧
        ((0x80 ||| UInt8.ofNat bytes.length) &&& 0x7f).toNat = bytes.length := by
      have hcases : bytes.length = 0 ∨ bytes.length = 1 ∨ bytes.length = 2 ∨ bytes.length = 3 ∨
          bytes.length = 4 := by omega
      rcases hcases with hk | hk | hk | hk | hk <;> rw [hk] <;> decide
    have hpos := List.length_pos_iff.mpr hne
    have hfirst : (bytes ++ more).getD 0 0 ≠ 0 := by
      cases bytes with
      | nil => exact absurd rfl hne
      | cons b rest =>
        intro hzero
        exact hlast (congrArg some hzero)
    have hok : ¬(bytes.length = 0 ∨ 4 < bytes.length) := by omega
    have hthere : ¬(bytes ++ more).length < bytes.length := by
      rw [List.length_append]
      omega
    have hlong := longLength_value bytes 0 0 (by decide) (by omega)
    rw [hval] at hlong
    have hlarge : ¬n < 128 := hn
    have htotal : 2 + bytes.length + n ≤ maxTsRequestSize := by
      simp only [List.length_cons] at hlimit
      omega
    rw [List.cons_append, tsRequestLen_cons _ _ _ hcount.2, if_neg hcount.1, if_neg hok,
      if_neg hthere, if_neg hfirst, List.take_left, hlong]
    show (if n < 128 then _ else requestTotal (2 + bytes.length) n) = _
    rw [if_neg hlarge, requestTotal_fits htotal]
    simp only [List.length_cons]
    rw [Nat.add_comm 2]

/-- Tag and length octets of the outer SEQUENCE. -/
def outerHeader (content : Bytes) : Bytes := 0x30 :: derLen content.length

theorem sequence_eq (content : Bytes) : sequence content = outerHeader content ++ content := rfl

/-- The framer needs no more than the header of what it has received. -/
theorem tsRequestLen_received {content received : Bytes}
    (hlimit : (sequence content).length ≤ maxTsRequestSize) (hreceived : received <+: sequence content)
    (hheader : (outerHeader content).length ≤ received.length) :
    tsRequestLen received = .ok (some (sequence content).length) := by
  obtain ⟨more, rfl⟩ : outerHeader content <+: received := by
    apply List.prefix_of_prefix_length_le _ hreceived hheader
    exact ⟨content, rfl⟩
  rw [sequence_eq, List.length_append] at hlimit ⊢
  exact tsRequestLen_header more hlimit

end Header

section Result

theorem foldr_value_lt (bytes : Bytes) :
    bytes.foldr (fun b v => v * 256 + b.toNat) 0 < 256 ^ bytes.length := by
  induction bytes with
  | nil => decide
  | cons b bytes ih =>
    have hb := b.toNat_lt
    rw [List.foldr_cons, List.length_cons, Nat.pow_succ]
    omega

/-- A length of five bytes and more is written but not read. -/
theorem readLen_too_long {n : Nat} (hlow : 2 ^ 32 ≤ n) (hword : n < 2 ^ 64) (before rest : Bytes) :
    (Der.cursor before (derLen n ++ rest)).readLen.2 = .error "der: unsupported length form" := by
  have hform : derLen n =
      (0x80 ||| UInt8.ofNat (lowBytes 8 n).reverse.length) :: (lowBytes 8 n).reverse :=
    if_neg (by omega)
  have hval := lowBytes_value 8 (n := n) (by omega)
  have hle : (lowBytes 8 n).length ≤ 8 := lowBytes_length_le 8 (by omega)
  have hlong : 4 < (lowBytes 8 n).length := by
    by_contra hshort
    have hvalue := foldr_value_lt (lowBytes 8 n)
    have hpow : 256 ^ (lowBytes 8 n).length ≤ 256 ^ 4 := Nat.pow_le_pow_right (by omega) (by omega)
    omega
  rw [hform, List.cons_append, Der.readLen, Der.cursor_byte, List.length_reverse]
  generalize (lowBytes 8 n).length = k at hle hlong ⊢
  have hcount : ¬(0x80 ||| UInt8.ofNat k) < 0x80 ∧ ((0x80 ||| UInt8.ofNat k) &&& 0x7f).toNat = k := by
    have hcases : k = 5 ∨ k = 6 ∨ k = 7 ∨ k = 8 := by omega
    rcases hcases with rfl | rfl | rfl | rfl <;> decide
  have hform : k = 0 ∨ 4 < k := .inr hlong
  simp only [if_neg hcount.1, hcount.2, if_pos hform]

/-- What is encoded is parsed, integers are read back, lengths are as far as four
bytes go, and the framer finds the end of every request within the size limit. -/
theorem ts_request_round_trip :
    (∀ version negoToken authInfo pubKeyAuth clientNonce,
      (encodeTsRequest version negoToken authInfo pubKeyAuth clientNonce).length < 2 ^ 32 →
      parseTsRequest (encodeTsRequest version negoToken authInfo pubKeyAuth clientNonce) =
        .ok { version, negoToken, authInfo, pubKeyAuth }) ∧
    (∀ n before rest, n < 2 ^ 32 → (Der.cursor before (derLen n ++ rest)).readLen =
      (Der.cursor (before ++ derLen n) rest, .ok n)) ∧
    (∀ n before rest, 2 ^ 32 ≤ n → n < 2 ^ 64 →
      (Der.cursor before (derLen n ++ rest)).readLen.2 = .error "der: unsupported length form") ∧
    (∀ value before rest, (before ++ integer value).length < 2 ^ 64 →
      ∃ content, (Der.cursor before (integer value ++ rest)).readTag 0x02 =
        (Der.cursor (before ++ integer value) rest, .ok content) ∧
      intFromBytes content = .ok value) ∧
    ∀ version negoToken authInfo pubKeyAuth clientNonce content received,
      encodeTsRequest version negoToken authInfo pubKeyAuth clientNonce = sequence content →
      (sequence content).length ≤ maxTsRequestSize → received <+: sequence content →
      (outerHeader content).length ≤ received.length →
      tsRequestLen received = .ok (some (sequence content).length) := by
  refine ⟨?_, ?_, ?_, ?_, ?_⟩
  · intro version nt ai pk nonce h
    exact parseTsRequest_encode h
  · intro n before rest h
    exact readLen_cursor h before rest
  · intro n before rest hlow hword
    exact readLen_too_long hlow hword before rest
  · intro value before rest hsize
    obtain ⟨content, hform, hlen, hread⟩ := integer_read value
    rw [hform] at hsize ⊢
    exact ⟨content, readTag_cursor 0x02 content before rest (by omega) hsize, hread⟩
  · intro version nt ai pk nonce content received _ hlimit hreceived hheader
    exact tsRequestLen_received hlimit hreceived hheader

/-- A token of 200 bytes: its wrappers need a second length byte, and three bytes are
enough to frame the request. -/
theorem ts_request_round_trip_sample :
    parseTsRequest (encodeTsRequest 0x80 (some (List.replicate 200 7)) none (some [1]) none) =
        .ok { version := 0x80, negoToken := some (List.replicate 200 7), pubKeyAuth := some [1] } ∧
      tsRequestLen [0x30, 0x81, 226] = .ok (some 229) := by
  obtain ⟨hparse, -, -, -, hframe⟩ := ts_request_round_trip
  refine ⟨hparse 0x80 (some (List.replicate 200 7)) none (some [1]) none (by decide +kernel), ?_⟩
  have htotal : (encodeTsRequest 0x80 (some (List.replicate 200 7)) none (some [1]) none).length =
      229 := by decide +kernel
  rw [← htotal]
  exact hframe 0x80 (some (List.replicate 200 7)) none (some [1]) none _ [0x30, 0x81, 226] rfl
    (by decide +kernel) (by decide +kernel) (by decide +kernel)

/-- Five length bytes are more than the reader takes. -/
theorem derLen_not_read :
    (Der.new (derLen (2 ^ 32))).readLen.2 = .error "der: unsupported length form" := by
  decide

end Result

end Lgnome.Credssp
