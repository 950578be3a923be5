import Lgnome.Bytes.Ber

/-!
# Definite-length DER

The encoder builds values inside out. The reader is a buffer with a position,
and like the source it keeps what it has consumed when a read fails: a caller
that swallows the error goes on from there.
-/
namespace Lgnome.Credssp

open Ber (bigEndian LengthOctets IsTlv Begins)

/-- The bytes of a length, lowest first, as the loop pushes them. A `usize` has eight. -/
def lowBytes : Nat → Nat → Bytes
  | 0, _ => []
  | fuel + 1, v => if v = 0 then [] else UInt8.ofNat v :: lowBytes fuel (v / 256)

def derLen (n : Nat) : Bytes :=
  if n < 0x80 then [UInt8.ofNat n]
  else
    let be := (lowBytes 8 n).reverse
    (0x80 ||| UInt8.ofNat be.length) :: be

def tlv (tag : UInt8) (content : Bytes) : Bytes := tag :: (derLen content.length ++ content)

/-- Drops leading zero bytes while more than one byte is left. -/
def stripZeros : Bytes → Bytes
  | 0 :: b :: rest => stripZeros (b :: rest)
  | bytes => bytes

/-- Minimal big-endian, with a leading zero byte if the top bit is set. -/
def integer (value : UInt32) : Bytes :=
  let bytes := stripZeros (beBytes32 value)
  tlv 0x02 (if bytes.getD 0 0 &&& 0x80 ≠ 0 then 0 :: bytes else bytes)

def octetString (data : Bytes) : Bytes := tlv 0x04 data

def sequence (content : Bytes) : Bytes := tlv 0x30 content

/-- The explicit context tag `[n]`. -/
def context (n : UInt8) (content : Bytes) : Bytes := tlv (0xA0 ||| n) content

structure Der where
  buf : Bytes
  pos : Nat := 0
  deriving DecidableEq, Repr

namespace Der

def new (buf : Bytes) : Der := { buf }

def peekTag (d : Der) : Option UInt8 := d.buf[d.pos]?

/-- The `n` length bytes of the long form, on top of what was read before. -/
def readLenBytes : Nat → Nat → Der → Der × Except String Nat
  | 0, len, d => (d, .ok len)
  | n + 1, len, d =>
    match d.buf[d.pos]? with
    | none => (d, .error "der: eof in long length")
    | some x => readLenBytes n (len * 256 + x.toNat) { d with pos := d.pos + 1 }

def readLen (d : Der) : Der × Except String Nat :=
  match d.buf[d.pos]? with
  | none => (d, .error "der: eof at length")
  | some b =>
    let d := { d with pos := d.pos + 1 }
    if b < 0x80 then (d, .ok b.toNat)
    else
      let n := (b &&& 0x7f).toNat
      if n = 0 ∨ 4 < n then (d, .error "der: unsupported length form")
      else readLenBytes n 0 d

/-- Reads a TLV with the expected tag and returns its content. -/
def readTag (d : Der) (tag : UInt8) : Der × Except String Bytes :=
  match d.buf[d.pos]? with
  | none => (d, .error "der: eof at tag")
  | some t =>
    if t ≠ tag then (d, .error "der: unexpected tag")
    else
      match { d with pos := d.pos + 1 }.readLen with
      | (d, .error e) => (d, .error e)
      | (d, .ok len) =>
        if 2 ^ 64 ≤ d.pos + len then (d, .error "der: length overflow")
        else if d.buf.length < d.pos + len then (d, .error "der: content past end")
        else ({ d with pos := d.pos + len }, .ok (slice d.buf d.pos (d.pos + len)))

/-- An optional context tag. A malformed one reads as absent, but its bytes are consumed. -/
def tryContext (d : Der) (n : UInt8) : Der × Option Bytes :=
  if d.peekTag = some (0xA0 ||| n) then
    match d.readTag (0xA0 ||| n) with
    | (d, .ok content) => (d, some content)
    | (d, .error _) => (d, none)
  else (d, none)

end Der

/-- The value bytes of an INTEGER, already unwrapped, as a `u32`. -/
def intFromBytes (content : Bytes) : Except String UInt32 :=
  let bytes := if 1 < content.length ∧ content.getD 0 0 = 0 then content.tail else content
  if 4 < bytes.length then .error "der: integer too large for u32"
  else .ok (bytes.foldl (fun v b => v <<< 8 ||| b.toUInt32) 0)

section Lengths

/-- One more content byte never makes the length octets shorter. -/
theorem lowBytes_length_mono (fuel : Nat) {m n : Nat} (h : m ≤ n) :
    (lowBytes fuel m).length ≤ (lowBytes fuel n).length := by
  induction fuel generalizing m n with
  | zero => exact le_rfl
  | succ fuel ih =>
    by_cases hm : m = 0
    · simp [lowBytes, hm]
    · have hn : n ≠ 0 := by omega
      simp only [lowBytes, hm, hn, if_false, List.length_cons]
      exact Nat.succ_le_succ (ih (Nat.div_le_div_right h))

theorem derLen_length_mono {m n : Nat} (h : m ≤ n) :
    (derLen m).length ≤ (derLen n).length := by
  unfold derLen
  by_cases hm : m < 0x80
  · rw [if_pos hm]
    split <;> simp
  · have hn : ¬n < 0x80 := by omega
    rw [if_neg hm, if_neg hn]
    simpa using lowBytes_length_mono 8 h

theorem lowBytes_length_fuel (fuel n : Nat) : (lowBytes fuel n).length ≤ fuel := by
  induction fuel generalizing n with
  | zero => exact le_rfl
  | succ fuel ih =>
    unfold lowBytes
    split
    · exact Nat.zero_le _
    · exact Nat.succ_le_succ (ih _)

theorem derLen_length_le (n : Nat) : (derLen n).length ≤ 9 := by
  have hlow := lowBytes_length_fuel 8 n
  unfold derLen
  split
  · exact Nat.le_of_ble_eq_true rfl
  · rw [List.length_cons, List.length_reverse]
    omega

theorem tlv_length_le (tag : UInt8) (content : Bytes) :
    (tlv tag content).length ≤ content.length + 10 := by
  have hlen := derLen_length_le content.length
  rw [tlv, List.length_cons, List.length_append]
  omega

/-- A TLV determines its content. -/
theorem tlv_injective {tag : UInt8} {c c' : Bytes} (h : tlv tag c = tlv tag c') : c = c' := by
  have htail : derLen c.length ++ c = derLen c'.length ++ c' := (List.cons.inj h).2
  have hlen := congrArg List.length htail
  rw [List.length_append, List.length_append] at hlen
  have heq : c.length = c'.length := by
    rcases Nat.lt_trichotomy c.length c'.length with hlt | he | hgt
    · have hm := derLen_length_mono hlt.le
      omega
    · exact he
    · have hm := derLen_length_mono hgt.le
      omega
  rw [heq] at htail
  exact List.append_cancel_left htail

end Lengths

section Reading

variable {d d' : Der} {tag : UInt8} {content : Bytes} {n len : Nat}

/-- What is left to read. -/
def Der.rest (d : Der) : Bytes := d.buf.drop d.pos

def Der.advance (d : Der) (n : Nat) : Der := { d with pos := d.pos + n }

@[simp] theorem Der.advance_pos (d : Der) (n : Nat) : (d.advance n).pos = d.pos + n := rfl

@[simp] theorem Der.advance_buf (d : Der) (n : Nat) : (d.advance n).buf = d.buf := rfl

theorem Der.advance_advance (d : Der) (m n : Nat) : (d.advance m).advance n = d.advance (m + n) := by
  simp [Der.advance, Nat.add_assoc]

theorem Der.next_eq (d : Der) : d.buf[d.pos]? = d.rest.head? := by
  rw [Der.rest, List.head?_drop]

theorem Der.peekTag_eq (d : Der) : d.peekTag = d.rest.head? := d.next_eq

theorem Der.rest_advance {r r' : Bytes} (h : d.rest = r ++ r') : (d.advance r.length).rest = r' := by
  have hdrop : (d.advance r.length).rest = d.rest.drop r.length := by
    simp [Der.rest, Der.advance, List.drop_drop]
  rw [hdrop, h, List.drop_left]

/-- The part of the buffer that was advanced over. -/
theorem Der.slice_rest {r r' : Bytes} (h : d.rest = r ++ r') :
    slice d.buf d.pos (d.pos + r.length) = r := by
  show (d.buf.drop d.pos).take (d.pos + r.length - d.pos) = r
  rw [Nat.add_sub_cancel_left]
  exact (congrArg (List.take r.length) h).trans List.take_left

theorem Der.rest_length_le {r r' : Bytes} (h : d.rest = r ++ r') (hsome : r ≠ []) :
    d.pos + r.length ≤ d.buf.length := by
  have hlen := congrArg List.length h
  have hpos := List.length_pos_iff.mpr hsome
  rw [Der.rest, List.length_drop, List.length_append] at hlen
  omega

theorem readLenBytes_ok {v : Nat} (h : Der.readLenBytes n len d = (d', .ok v)) :
    ∃ octets r, octets.length = n ∧ d.rest = octets ++ r ∧ d' = d.advance n ∧
      v = octets.foldl (fun v b => v * 256 + b.toNat) len := by
  induction n generalizing len d with
  | zero =>
    obtain ⟨rfl, hv⟩ := Prod.mk.inj h
    exact ⟨[], d.rest, rfl, rfl, rfl, (Except.ok.inj hv).symm⟩
  | succ n ih =>
    rw [Der.readLenBytes, Der.next_eq] at h
    cases hrest : d.rest with
    | nil =>
      rw [hrest] at h
      cases h
    | cons x rest =>
      rw [hrest] at h
      obtain ⟨octets, r, rfl, hafter, rfl, rfl⟩ := ih h
      have hone : (d.advance 1).rest = rest := Der.rest_advance (r := [x]) hrest
      refine ⟨x :: octets, r, rfl, ?_, ?_, rfl⟩
      · rw [List.cons_append, ← hafter]
        exact congrArg (x :: ·) hone.symm
      · exact (Der.advance_advance d 1 octets.length).trans
          (congrArg d.advance (Nat.add_comm 1 octets.length))

theorem readLenBytes_octets (octets : Bytes) {r : Bytes} (h : d.rest = octets ++ r) :
    Der.readLenBytes octets.length len d =
      (d.advance octets.length, .ok (octets.foldl (fun v b => v * 256 + b.toNat) len)) := by
  induction octets generalizing len d with
  | nil => rfl
  | cons x octets ih =>
    have hone : (d.advance 1).rest = octets ++ r := Der.rest_advance (r := [x]) h
    have hhere : Der.readLenBytes octets.length (len * 256 + x.toNat) (d.advance 1) =
        ((d.advance 1).advance octets.length,
          .ok (octets.foldl (fun v b => v * 256 + b.toNat) (len * 256 + x.toNat))) := ih hone
    rw [List.length_cons, Der.readLenBytes, Der.next_eq, h, List.cons_append, List.head?_cons]
    refine hhere.trans ?_
    rw [Der.advance_advance, Nat.add_comm 1]
    rfl

theorem long_form {b : UInt8} (h : ¬b < 0x80) :
    b.toNat = 128 + (b &&& 0x7f).toNat := by
  have hb := b.toNat_lt
  have hlow : ¬b.toNat < 128 := fun hlt => h (UInt8.lt_iff_toNat_lt.mpr hlt)
  have hmask : (b &&& 0x7f).toNat = b.toNat % 128 := by
    rw [UInt8.toNat_and]
    exact Nat.and_two_pow_sub_one_eq_mod b.toNat 7
  omega

/-- The reader takes the length octets that stand in front of it. -/
theorem readLen_ok (h : d.readLen = (d', .ok n)) :
    ∃ octets r, LengthOctets 4 octets n ∧ d.rest = octets ++ r ∧ d' = d.advance octets.length := by
  rw [Der.readLen, Der.next_eq] at h
  cases hrest : d.rest with
  | nil =>
    rw [hrest] at h
    cases h
  | cons b rest =>
    rw [hrest] at h
    dsimp only [List.head?_cons] at h
    by_cases hshort : b < 0x80
    · rw [if_pos hshort] at h
      obtain ⟨rfl, hn⟩ := Prod.mk.inj h
      obtain rfl := Except.ok.inj hn
      exact ⟨[b], rest, .short (UInt8.lt_iff_toNat_lt.mp hshort), rfl, rfl⟩
    · rw [if_neg hshort] at h
      by_cases hform : (b &&& 0x7f).toNat = 0 ∨ 4 < (b &&& 0x7f).toNat
      · rw [if_pos hform] at h
        cases h
      · rw [if_neg hform] at h
        obtain ⟨octets, r, hcount, hafter, rfl, rfl⟩ := readLenBytes_ok h
        have hone : (d.advance 1).rest = rest := Der.rest_advance (r := [b]) hrest
        have hsome : octets ≠ [] := by
          rintro rfl
          have hzero : 0 = (b &&& 0x7f).toNat := hcount
          omega
        refine ⟨b :: octets, r, .long ?_ hsome (by omega), ?_, ?_⟩
        · rw [long_form hshort, hcount]
        · rw [List.cons_append, ← hafter]
          exact congrArg (b :: ·) hone.symm
        · rw [List.length_cons, hcount]
          exact (Der.advance_advance d 1 _).trans (congrArg d.advance (Nat.add_comm 1 _))

theorem readLen_octets {octets r : Bytes} (hlen : LengthOctets 4 octets n)
    (h : d.rest = octets ++ r) : d.readLen = (d.advance octets.length, .ok n) := by
  cases hlen with
  | @short b hb =>
    have hshort : b < 0x80 := UInt8.lt_iff_toNat_lt.mpr hb
    rw [Der.readLen, Der.next_eq, h]
    dsimp only [List.cons_append, List.head?_cons]
    rw [if_pos hshort]
    rfl
  | @long b octets hb hsome hfour =>
    have hlong : ¬b < 0x80 := by
      intro hlt
      have hlt : b.toNat < 128 := UInt8.lt_iff_toNat_lt.mp hlt
      omega
    have hcount : (b &&& 0x7f).toNat = octets.length := by
      have hform := long_form hlong
      omega
    have hpos := List.length_pos_iff.mpr hsome
    have hform : ¬((b &&& 0x7f).toNat = 0 ∨ 4 < (b &&& 0x7f).toNat) := by omega
    have hone : (d.advance 1).rest = octets ++ r := Der.rest_advance (r := [b]) h
    rw [Der.readLen, Der.next_eq, h]
    dsimp only [List.cons_append, List.head?_cons]
    rw [if_neg hlong, if_neg hform, hcount]
    refine (readLenBytes_octets octets hone).trans ?_
    rw [Der.advance_advance, Nat.add_comm 1]
    rfl

theorem readTag_eq {r : Bytes} (h : d.rest = tag :: r) :
    d.readTag tag =
      match (d.advance 1).readLen with
      | (d, .error e) => (d, .error e)
      | (d, .ok len) =>
        if 2 ^ 64 ≤ d.pos + len then (d, .error "der: length overflow")
        else if d.buf.length < d.pos + len then (d, .error "der: content past end")
        else (d.advance len, .ok (slice d.buf d.pos (d.pos + len))) := by
  rw [Der.readTag, Der.next_eq, h]
  dsimp only [List.head?_cons]
  rw [if_neg (not_not.mpr rfl)]
  rfl

theorem readTag_head (h : d.readTag tag = (d', .ok content)) : ∃ r, d.rest = tag :: r := by
  rw [Der.readTag, Der.next_eq] at h
  cases hrest : d.rest with
  | nil =>
    rw [hrest] at h
    cases h
  | cons t r =>
    rw [hrest] at h
    dsimp only [List.head?_cons] at h
    by_cases htag : t = tag
    · exact ⟨r, by rw [htag]⟩
    · rw [if_pos htag] at h
      cases h

/-- Whatever the reader returns is the content of a value in front of it. -/
theorem readTag_ok (h : d.readTag tag = (d', .ok content)) :
    ∃ value r, IsTlv 4 tag content value ∧ d.rest = value ++ r ∧ d' = d.advance value.length := by
  obtain ⟨rest, hrest⟩ := readTag_head h
  have hone : (d.advance 1).rest = rest := Der.rest_advance (r := [tag]) hrest
  rw [readTag_eq hrest] at h
  rcases hread : (d.advance 1).readLen with ⟨d₁, _ | len⟩
  · rw [hread] at h
    cases h
  · rw [hread] at h
    dsimp only at h
    obtain ⟨octets, r, hlen, hafter, hd₁⟩ := readLen_ok hread
    have hat : d₁.rest = r := by
      rw [hd₁]
      exact Der.rest_advance hafter
    split at h
    · cases h
    · split at h
      · cases h
      · rename_i hin
        obtain ⟨rfl, hcontent⟩ := Prod.mk.inj h
        have htake : content = r.take len := by
          rw [← Except.ok.inj hcontent, slice, Nat.add_sub_cancel_left]
          exact congrArg (List.take len) hat
        have hsize : (r.take len).length = len := by
          rw [← hat, List.length_take, Der.rest, List.length_drop]
          omega
        refine ⟨tag :: (octets ++ content), r.drop len, ⟨octets, ?_, rfl⟩, ?_, ?_⟩
        · rwa [htake, hsize]
        · rw [hrest, htake, List.cons_append, List.append_assoc, List.take_append_drop, ← hafter,
            hone]
        · rw [hd₁, Der.advance_advance, Der.advance_advance, htake, List.length_cons,
            List.length_append, hsize]
          exact congrArg d.advance (by omega)

/-- A value in front of the reader is read. -/
theorem readTag_value {value r : Bytes} (hvalue : IsTlv 4 tag content value)
    (h : d.rest = value ++ r) (hsize : d.pos + value.length < 2 ^ 64) :
    d.readTag tag = (d.advance value.length, .ok content) := by
  obtain ⟨octets, hlen, rfl⟩ := hvalue
  have hform : d.rest = [tag] ++ (octets ++ (content ++ r)) := by
    rw [h]
    simp
  have hone : (d.advance 1).rest = octets ++ (content ++ r) := Der.rest_advance (r := [tag]) hform
  have hat : ((d.advance 1).advance octets.length).rest = content ++ r := Der.rest_advance hone
  have hend := Der.rest_length_le h (List.cons_ne_nil _ _)
  simp only [List.length_cons, List.length_append] at hend hsize
  rw [readTag_eq hform, readLen_octets hlen hone]
  dsimp only
  rw [if_neg (by simp only [Der.advance_pos]; omega),
    if_neg (by simp only [Der.advance_pos, Der.advance_buf]; omega), Der.slice_rest hat,
    Der.advance_advance, Der.advance_advance, List.length_cons, List.length_append]
  exact congrArg (fun n => (d.advance n, Except.ok content)) (by omega)

end Reading

section RoundTrip

/-- A reader behind what it has read and in front of what is left. -/
def Der.cursor (before rest : Bytes) : Der := { buf := before ++ rest, pos := before.length }

@[simp] theorem Der.cursor_nil (rest : Bytes) : Der.cursor [] rest = Der.new rest := rfl

theorem Der.cursor_byte (before rest : Bytes) (b : UInt8) :
    (Der.cursor before (b :: rest)).buf[(Der.cursor before (b :: rest)).pos]? = some b := by
  simp [Der.cursor]

theorem Der.cursor_rest (before rest : Bytes) : (Der.cursor before rest).rest = rest :=
  List.drop_left

theorem Der.cursor_advance (before value rest : Bytes) :
    (Der.cursor before (value ++ rest)).advance value.length =
      Der.cursor (before ++ value) rest := by
  simp [Der.cursor, Der.advance]

theorem lowBytes_value (fuel : Nat) {n : Nat} (h : n < 256 ^ fuel) :
    (lowBytes fuel n).foldr (fun b v => v * 256 + b.toNat) 0 = n := by
  induction fuel generalizing n with
  | zero =>
    have hz : n = 0 := by omega
    simp [lowBytes, hz]
  | succ fuel ih =>
    by_cases hn : n = 0
    · simp [lowBytes, hn]
    · have hdiv : n / 256 < 256 ^ fuel := by
        rw [Nat.div_lt_iff_lt_mul (by omega)]
        rwa [Nat.pow_succ] at h
      simp only [lowBytes, hn, if_false, List.foldr_cons, ih hdiv]
      have hb : (UInt8.ofNat n).toNat = n % 256 := UInt8.toNat_ofNat'
      rw [hb]
      omega

theorem lowBytes_length_le (fuel : Nat) {n k : Nat} (h : n < 256 ^ k) :
    (lowBytes fuel n).length ≤ k := by
  induction fuel generalizing n k with
  | zero => simp [lowBytes]
  | succ fuel ih =>
    by_cases hn : n = 0
    · simp [lowBytes, hn]
    · cases k with
      | zero => omega
      | succ k =>
        have hdiv : n / 256 < 256 ^ k := by
          rw [Nat.div_lt_iff_lt_mul (by omega)]
          rwa [Nat.pow_succ] at h
        simp only [lowBytes, hn, if_false, List.length_cons]
        exact Nat.succ_le_succ (ih hdiv)

/-- The encoder writes length octets, no more than the length needs. -/
theorem lengthOctets_derLen {n k : Nat} (hk : k ≤ 8) (h : n < 256 ^ k) :
    LengthOctets k (derLen n) n := by
  have hword : n < 256 ^ 8 := h.trans_le (Nat.pow_le_pow_right (by omega) hk)
  by_cases hn : n < 0x80
  · have hb : (UInt8.ofNat n).toNat = n := by
      rw [UInt8.toNat_ofNat']
      omega
    have hshort : LengthOctets k [UInt8.ofNat n] (UInt8.ofNat n).toNat := .short (by omega)
    rw [hb] at hshort
    rwa [derLen, if_pos hn]
  · have hval : bigEndian (lowBytes 8 n).reverse = n := by
      rw [bigEndian, List.foldl_reverse]
      exact lowBytes_value 8 hword
    have hle : (lowBytes 8 n).reverse.length ≤ k := by
      rw [List.length_reverse]
      exact lowBytes_length_le 8 h
    have hsome : (lowBytes 8 n).reverse ≠ [] := by
      intro hnil
      rw [hnil] at hval
      simp only [bigEndian, List.foldl_nil] at hval
      omega
    rw [derLen, if_neg hn]
    generalize (lowBytes 8 n).reverse = octets at hval hle hsome
    subst hval
    refine .long ?_ hsome hle
    have hcases : octets.length = 0 ∨ octets.length = 1 ∨ octets.length = 2 ∨ octets.length = 3 ∨
        octets.length = 4 ∨ octets.length = 5 ∨ octets.length = 6 ∨ octets.length = 7 ∨
        octets.length = 8 := by omega
    rcases hcases with hc | hc | hc | hc | hc | hc | hc | hc | hc <;> rw [hc] <;> decide

theorem isTlv_tlv (tag : UInt8) {content : Bytes} {k : Nat} (hk : k ≤ 8)
    (h : content.length < 256 ^ k) : IsTlv k tag content (tlv tag content) :=
  ⟨derLen content.length, lengthOctets_derLen hk h, rfl⟩

/-- Four length bytes are as many as the reader takes. -/
theorem readLen_cursor {n : Nat} (h : n < 2 ^ 32) (before rest : Bytes) :
    (Der.cursor before (derLen n ++ rest)).readLen =
      (Der.cursor (before ++ derLen n) rest, .ok n) := by
  rw [← Der.cursor_advance]
  exact readLen_octets (lengthOctets_derLen (by omega) (by omega)) (Der.cursor_rest _ _)

/-- A TLV that was written is read back, wherever it stands in the buffer. -/
theorem readTag_cursor (tag : UInt8) (content before rest : Bytes)
    (h : content.length < 2 ^ 32) (hsize : (before ++ tlv tag content).length < 2 ^ 64) :
    (Der.cursor before (tlv tag content ++ rest)).readTag tag =
      (Der.cursor (before ++ tlv tag content) rest, .ok content) := by
  rw [← Der.cursor_advance]
  refine readTag_value (isTlv_tlv tag (by omega) (by omega)) (Der.cursor_rest _ _) ?_
  rw [List.length_append] at hsize
  exact hsize

end RoundTrip

section Integers

/-- A byte more, as long as there is room for it. -/
theorem shiftIn_toNat {v : UInt32} (h : v.toNat < 2 ^ 24) (b : UInt8) :
    (v <<< 8 ||| b.toUInt32).toNat = v.toNat * 256 + b.toNat := by
  have hb : b.toNat < 2 ^ 8 := b.toNat_lt
  have hshift : v.toNat <<< 8 % 2 ^ 32 = v.toNat <<< 8 := by
    rw [Nat.shiftLeft_eq]
    omega
  rw [UInt32.toNat_or, UInt32.toNat_shiftLeft, UInt8.toNat_toUInt32]
  show v.toNat <<< 8 % 2 ^ 32 ||| b.toNat = _
  rw [hshift, ← Nat.shiftLeft_add_eq_or_of_lt hb, Nat.shiftLeft_eq]

theorem foldl_shiftIn (bytes : Bytes) (v : UInt32) (k : Nat) (hv : v.toNat < 256 ^ k)
    (hfit : k + bytes.length ≤ 4) :
    (bytes.foldl (fun (v : UInt32) b => v <<< 8 ||| b.toUInt32) v).toNat =
      bytes.foldl (fun v b => v * 256 + b.toNat) v.toNat := by
  induction bytes generalizing v k with
  | nil => rfl
  | cons b bytes ih =>
    rw [List.length_cons] at hfit
    have hroom : v.toNat < 2 ^ 24 := by
      have hle : 256 ^ k ≤ 256 ^ 3 := Nat.pow_le_pow_right (by omega) (by omega)
      omega
    have hstep := shiftIn_toNat hroom b
    have hb := b.toNat_lt
    rw [List.foldl_cons, List.foldl_cons, ih _ (k + 1) (by rw [hstep, Nat.pow_succ]; omega) (by omega),
      hstep]

theorem stripZeros_value (bytes : Bytes) :
    (stripZeros bytes).foldl (fun v b => v * 256 + b.toNat) 0 =
      bytes.foldl (fun v b => v * 256 + b.toNat) 0 := by
  fun_induction stripZeros bytes with
  | case1 b rest ih =>
    simpa using ih
  | case2 bytes _ => rfl

theorem stripZeros_length (bytes : Bytes) (h : bytes ≠ []) :
    1 ≤ (stripZeros bytes).length ∧ (stripZeros bytes).length ≤ bytes.length := by
  fun_induction stripZeros bytes with
  | case1 b rest ih =>
    obtain ⟨h1, h2⟩ := ih (List.cons_ne_nil b rest)
    exact ⟨h1, h2.trans (Nat.le_succ _)⟩
  | case2 bytes _ => exact ⟨List.length_pos_iff.mpr h, Nat.le_refl _⟩

/-- More than one byte is left only with a first byte that is not zero. -/
theorem stripZeros_head (bytes : Bytes) (h : 1 < (stripZeros bytes).length) :
    (stripZeros bytes).getD 0 0 ≠ 0 := by
  fun_induction stripZeros bytes with
  | case1 b rest ih => exact ih h
  | case2 bytes hno =>
    cases bytes with
    | nil => cases h
    | cons a rest =>
      cases rest with
      | nil => simp at h
      | cons b rest =>
        intro hzero
        exact hno b rest (congrArg (· :: b :: rest) hzero)

theorem beBytes32_value (v : UInt32) :
    (beBytes32 v).foldl (fun v b => v * 256 + b.toNat) 0 = v.toNat := by
  have hlt : v.toNat < 4294967296 := v.toNat_lt
  simp only [beBytes32, List.foldl_cons, List.foldl_nil, UInt32.toNat_toUInt8,
    UInt32.toNat_shiftRight, UInt32.reduceToNat, Nat.shiftRight_eq_div_pow, Nat.reduceMod, Nat.reducePow]
  omega

theorem intFromBytes_value {bytes : Bytes} {value : UInt32} (hlen : bytes.length ≤ 4)
    (hvalue : bytes.foldl (fun v b => v * 256 + b.toNat) 0 = value.toNat) :
    bytes.foldl (fun (v : UInt32) b => v <<< 8 ||| b.toUInt32) 0 = value := by
  apply UInt32.toNat.inj
  rw [← hvalue]
  exact foldl_shiftIn bytes 0 0 (by decide) (by omega)

/-- Every integer is read back, with its sign byte or without. -/
theorem integer_read (value : UInt32) :
    ∃ content, integer value = tlv 0x02 content ∧ content.length ≤ 5 ∧
      intFromBytes content = .ok value := by
  have hvalue : (stripZeros (beBytes32 value)).foldl (fun v b => v * 256 + b.toNat) 0 =
      value.toNat := (stripZeros_value _).trans (beBytes32_value value)
  obtain ⟨hone, hfour⟩ := stripZeros_length (beBytes32 value) (by simp [beBytes32])
  have hhead := stripZeros_head (beBytes32 value)
  have hfour : (stripZeros (beBytes32 value)).length ≤ 4 := hfour
  refine ⟨_, rfl, ?_, ?_⟩
  · split
    · rw [List.length_cons]
      omega
    · omega
  · generalize stripZeros (beBytes32 value) = bytes at hvalue hone hfour hhead ⊢
    have hok : ¬4 < bytes.length := by omega
    have hread := intFromBytes_value hfour hvalue
    by_cases hsign : bytes.getD 0 0 &&& 0x80 ≠ 0
    · have hstrip : 1 < ((0 : UInt8) :: bytes).length ∧ ((0 : UInt8) :: bytes).getD 0 0 = 0 :=
        ⟨by rw [List.length_cons]; omega, rfl⟩
      rw [if_pos hsign, intFromBytes, if_pos hstrip, List.tail_cons, if_neg hok, hread]
    · have hplain : ¬(1 < bytes.length ∧ bytes.getD 0 0 = 0) := fun h => hhead h.1 h.2
      rw [if_neg hsign, intFromBytes, if_neg hplain, if_neg hok, hread]
end Integers

end Lgnome.Credssp
