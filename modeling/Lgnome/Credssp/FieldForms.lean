import Lgnome.Credssp.TsRequest

/-!
# What the fields of a TSRequest have to look like

Said by BER alone. Of a content the readers check no more than its beginning: `Opens` is what
they see of `FieldValid`.
-/
namespace Lgnome.Credssp

open Ber (bigEndian IsTlv Begins Items ItemAt IsInteger)

/-! ## Requests -/

def fieldTag (n : Nat) : UInt8 := 0xA0 ||| UInt8.ofNat n

/-- A number of 32 bits, with a zero octet in front of them or without. -/
def Fits32 (content : Bytes) : Prop :=
  content.length ≤ 4 ∨ content.length = 5 ∧ content.head? = some 0

/-- The content of field `[n + 1]`: tokens, an OCTET STRING or a number, and nothing behind. -/
def FieldValid : Nat → Bytes → Prop
  | 0, c => ∃ tokens items, IsTlv 4 0x30 tokens c ∧ Items 4 tokens items ∧ items ≠ [] ∧
      ∀ item ∈ items, item.1 = 0x30 ∧ ∃ t nt, IsTlv 4 0xA0 t item.2 ∧ IsTlv 4 0x04 nt t
  | 3, c => ∃ iv, IsTlv 4 0x02 iv c ∧ IsInteger iv ∧ Fits32 iv
  | _, c => ∃ v, IsTlv 4 0x04 v c

/-- The bytes start with a field `[n + 1]` that does not fit or has no valid content. -/
def FieldMalformed (n : Nat) (bytes : Bytes) : Prop :=
  bytes.head? = some (fieldTag (n + 1)) ∧
    ∀ content, Begins 4 (fieldTag (n + 1)) content bytes → ¬FieldValid n content

/-- The outer SEQUENCE has a malformed field `[1]` to `[4]`. -/
def Malformed (buf : Bytes) : Prop :=
  ∃ body, Begins 4 0x30 body buf ∧
    ∃ bytes n, n < 4 ∧ ItemAt 4 body bytes ∧ FieldMalformed n bytes

/-- A version and valid fields in the order of their tags. -/
structure WellFormed (buf version : Bytes) (fields : List (UInt8 × Bytes)) : Prop where
  outer : ∃ body, IsTlv 4 0x30 body buf ∧ Items 4 body ((0xA0, version) :: fields)
  ascending : ((0xA0, version) :: fields).Pairwise fun a b => a.1.toNat < b.1.toNat
  number : FieldValid 3 version
  contents : ∀ n < 4, ∀ c, (fieldTag (n + 1), c) ∈ fields → FieldValid n c

/-- The content of field `[n + 1]` begins with the values that are nested in it. -/
def Opens : Nat → Bytes → Prop
  | 0, c => ∃ s₁ s₂ t nt, Begins 4 0x30 s₁ c ∧ Begins 4 0x30 s₂ s₁ ∧ Begins 4 0xA0 t s₂ ∧
      Begins 4 0x04 nt t
  | 3, c => ∃ iv, Begins 4 0x02 iv c ∧ Fits32 iv
  | _, c => ∃ v, Begins 4 0x04 v c

/-- Whether the content of field `[n + 1]` reads. -/
def contentReads : Nat → Bytes → Except String Unit
  | 0, c => (readNegoToken c).map fun _ => ()
  | 3, c => (readErrorCode c).map fun _ => ()
  | _, c => (unwrap 0x04 c).map fun _ => ()

/-! ## What the readers accept -/

section Reader

variable {d d' : Der} {tag : UInt8} {content c : Bytes} {n : Nat}

/-- Whatever comes of a read, the buffer stays and the reader does not go back. -/
theorem readLenBytes_kept (n len : Nat) (d : Der) :
    (Der.readLenBytes n len d).1.buf = d.buf ∧ d.pos ≤ (Der.readLenBytes n len d).1.pos := by
  induction n generalizing len d with
  | zero => exact ⟨rfl, Nat.le_refl _⟩
  | succ n ih =>
    unfold Der.readLenBytes
    split
    · exact ⟨rfl, Nat.le_refl _⟩
    · obtain ⟨hbuf, hpos⟩ := ih (len * 256 + _) (d.advance 1)
      exact ⟨hbuf, Nat.le_trans (Nat.le_succ d.pos) hpos⟩

theorem readLen_kept (d : Der) : d.readLen.1.buf = d.buf ∧ d.pos ≤ d.readLen.1.pos := by
  unfold Der.readLen
  split
  · exact ⟨rfl, Nat.le_refl _⟩
  · dsimp only
    split
    · exact ⟨rfl, Nat.le_succ _⟩
    · split
      · exact ⟨rfl, Nat.le_succ _⟩
      · obtain ⟨hbuf, hpos⟩ := readLenBytes_kept _ 0 (d.advance 1)
        exact ⟨hbuf, Nat.le_trans (Nat.le_succ d.pos) hpos⟩

/-- A reader that has found the tag is behind it, whatever comes of the rest. -/
theorem readTag_kept (h : d.rest.head? = some tag) :
    (d.readTag tag).1.buf = d.buf ∧ d.pos < (d.readTag tag).1.pos := by
  obtain ⟨r, hrest⟩ : ∃ r, d.rest = tag :: r := by
    cases hrest : d.rest with
    | nil =>
      rw [hrest] at h
      cases h
    | cons t r =>
      rw [hrest] at h
      exact ⟨r, by rw [Option.some.inj h]⟩
  obtain ⟨hbuf, hpos⟩ := readLen_kept (d.advance 1)
  rw [readTag_eq hrest]
  rw [Der.advance_buf] at hbuf
  rw [Der.advance_pos] at hpos
  rcases hread : (d.advance 1).readLen with ⟨d₁, _ | len⟩
  · rw [hread] at hbuf hpos
    exact ⟨hbuf, hpos⟩
  · rw [hread] at hbuf hpos
    dsimp only at hbuf hpos ⊢
    split
    · exact ⟨hbuf, hpos⟩
    · split
      · exact ⟨hbuf, hpos⟩
      · refine ⟨hbuf, ?_⟩
        rw [Der.advance_pos]
        omega

/-- A value at the reader is read as long as positions fit a machine word. -/
theorem readTag_begins (hsize : d.buf.length < 2 ^ 64) :
    (d.readTag tag).2 = .ok content ↔ Begins 4 tag content d.rest := by
  constructor
  · intro h
    rcases hread : d.readTag tag with ⟨d', outcome⟩
    rw [hread] at h
    obtain rfl : outcome = _ := h
    obtain ⟨value, r, hvalue, hrest, -⟩ := readTag_ok hread
    exact ⟨value, r, hvalue, hrest⟩
  · rintro ⟨value, r, hvalue, hrest⟩
    have hend := Der.rest_length_le hrest (List.ne_nil_of_length_pos (by
      have hpos := hvalue.length_pos
      omega))
    rw [readTag_value hvalue hrest (by omega)]

theorem unwrap_begins (hsize : c.length < 2 ^ 64) :
    unwrap tag c = .ok content ↔ Begins 4 tag content c :=
  readTag_begins (d := Der.new c) hsize

/-- The octets of a number that count. -/
def significant (c : Bytes) : Bytes := if 1 < c.length ∧ c.getD 0 0 = 0 then c.tail else c

theorem bigEndian_significant (c : Bytes) : bigEndian (significant c) = bigEndian c := by
  unfold significant
  split
  · rename_i hzero
    cases c with
    | nil => rfl
    | cons a rest =>
      obtain rfl : a = 0 := hzero.2
      rfl
  · rfl

theorem significant_length (c : Bytes) : (significant c).length ≤ 4 ↔ Fits32 c := by
  unfold significant Fits32
  cases c with
  | nil => simp
  | cons a rest =>
    by_cases hzero : a = 0
    · subst hzero
      by_cases hlen : 1 < ((0 : UInt8) :: rest).length
      · rw [if_pos ⟨hlen, rfl⟩]
        simp only [List.tail_cons, List.length_cons, List.head?_cons, and_true]
        omega
      · rw [if_neg fun h => hlen h.1]
        simp only [List.length_cons, List.head?_cons, and_true] at hlen ⊢
        omega
    · rw [if_neg fun h => hzero h.2]
      simp only [List.length_cons, List.head?_cons, Option.some.injEq, hzero, and_false, or_false]

theorem foldl_shiftIn_bigEndian {bytes : Bytes} (h : bytes.length ≤ 4) :
    bytes.foldl (fun (v : UInt32) b => v <<< 8 ||| b.toUInt32) 0 =
      UInt32.ofNat (bigEndian bytes) := by
  have hfold := foldl_shiftIn bytes 0 0 (by decide) (by omega)
  have hlt := UInt32.toNat_lt (bytes.foldl (fun (v : UInt32) b => v <<< 8 ||| b.toUInt32) 0)
  apply UInt32.toNat.inj
  rw [UInt32.toNat_ofNat']
  rw [hfold] at hlt ⊢
  exact (Nat.mod_eq_of_lt hlt).symm

/-- A number that fits is read as what its octets spell, any other one is refused. -/
theorem intFromBytes_eq (c : Bytes) :
    intFromBytes c = if 4 < (significant c).length then .error "der: integer too large for u32"
      else .ok (UInt32.ofNat (bigEndian c)) := by
  show (if 4 < (significant c).length then _ else _) = _
  split
  · rfl
  · rename_i hlen
    have hvalue := foldl_shiftIn_bigEndian (Nat.le_of_not_lt hlen)
    rw [bigEndian_significant] at hvalue
    exact congrArg Except.ok hvalue

theorem intFromBytes_fits (h : Fits32 c) : intFromBytes c = .ok (UInt32.ofNat (bigEndian c)) := by
  rw [intFromBytes_eq, if_neg (Nat.not_lt.mpr ((significant_length c).mpr h))]

theorem intFromBytes_ok : (∃ v, intFromBytes c = .ok v) ↔ Fits32 c := by
  refine ⟨?_, fun h => ⟨_, intFromBytes_fits h⟩⟩
  rintro ⟨v, hv⟩
  rw [← significant_length]
  by_contra hlong
  rw [intFromBytes_eq, if_pos (Nat.lt_of_not_le hlong)] at hv
  cases hv

/-- An outcome whose value is dropped. -/
theorem map_unit_ok {α : Type} {outcome : Except String α} :
    outcome.map (fun _ => ()) = .ok () ↔ ∃ v, outcome = .ok v := by
  cases outcome with
  | ok v => exact ⟨fun _ => ⟨v, rfl⟩, fun _ => rfl⟩
  | error e =>
    constructor
    · intro h
      cases h
    · rintro ⟨v, hv⟩
      cases hv

theorem bind_ok {α β : Type} {outcome : Except String α} {next : α → Except String β} :
    (∃ v, (outcome >>= next) = .ok v) ↔ ∃ x, outcome = .ok x ∧ ∃ v, next x = .ok v := by
  cases outcome with
  | ok x =>
    constructor
    · rintro ⟨v, hv⟩
      exact ⟨x, rfl, v, hv⟩
    · rintro ⟨_, hx, v, hv⟩
      cases hx
      exact ⟨v, hv⟩
  | error e =>
    constructor
    · rintro ⟨v, hv⟩
      cases hv
    · rintro ⟨x, hx, -⟩
      cases hx

/-- The content of a field reads exactly if it opens with what is nested in it. -/
theorem contentReads_opens (hsize : c.length < 2 ^ 64) : contentReads n c = .ok () ↔ Opens n c := by
  have hbytes : (∃ v, unwrap 0x04 c = .ok v) ↔ ∃ v, Begins 4 0x04 v c :=
    exists_congr fun v => unwrap_begins hsize
  unfold contentReads Opens
  split
  · rw [map_unit_ok, readNegoToken, bind_ok]
    constructor
    · rintro ⟨s₁, h₁, hrest⟩
      have b₁ := (unwrap_begins hsize).mp h₁
      obtain ⟨s₂, h₂, hrest⟩ := bind_ok.mp hrest
      have hs₁ := b₁.length_lt
      have b₂ := (unwrap_begins (by omega)).mp h₂
      obtain ⟨t, h₃, nt, h₄⟩ := bind_ok.mp hrest
      have hs₂ := b₂.length_lt
      have b₃ := (unwrap_begins (by omega)).mp h₃
      have ht := b₃.length_lt
      exact ⟨s₁, s₂, t, nt, b₁, b₂, b₃, (unwrap_begins (by omega)).mp h₄⟩
    · rintro ⟨s₁, s₂, t, nt, b₁, b₂, b₃, b₄⟩
      have hs₁ := b₁.length_lt
      have hs₂ := b₂.length_lt
      have ht := b₃.length_lt
      exact ⟨s₁, (unwrap_begins hsize).mpr b₁, bind_ok.mpr ⟨s₂, (unwrap_begins (by omega)).mpr b₂,
        bind_ok.mpr ⟨t, (unwrap_begins (by omega)).mpr b₃, nt, (unwrap_begins (by omega)).mpr b₄⟩⟩⟩
  · rw [map_unit_ok, readErrorCode, bind_ok]
    refine exists_congr fun iv => ?_
    rw [unwrap_begins hsize, intFromBytes_ok]
  · rw [map_unit_ok]
    exact hbytes

/-- A valid field opens as it has to, so it is only the rest that goes unchecked. -/
theorem FieldValid.opens (h : FieldValid n c) : Opens n c := by
  unfold FieldValid at h
  unfold Opens
  split at h
  · obtain ⟨tokens, items, htokens, hitems, hsome, hall⟩ := h
    cases hitems with
    | nil => exact absurd rfl hsome
    | @cons tag content value rest items hvalue =>
      obtain ⟨htag, t, nt, ht, hnt⟩ := hall _ List.mem_cons_self
      dsimp only at htag
      subst htag
      exact ⟨_, content, t, nt, htokens.begins, ⟨value, rest, hvalue, rfl⟩, ht.begins, hnt.begins⟩
  · obtain ⟨iv, hiv, -, hfits⟩ := h
    exact ⟨iv, hiv.begins, hfits⟩
  · obtain ⟨v, hv⟩ := h
    exact ⟨v, hv.begins⟩

/-- The three outcomes of a look for an optional field. -/
theorem tryContext_cases (d : Der) (n : UInt8) :
    d.rest.head? ≠ some (0xA0 ||| n) ∧ d.tryContext n = (d, none) ∨
    d.rest.head? = some (0xA0 ||| n) ∧ (∃ d' c, d.readTag (0xA0 ||| n) = (d', .ok c) ∧
      d.tryContext n = (d', some c)) ∨
    d.rest.head? = some (0xA0 ||| n) ∧ (∃ d' e, d.readTag (0xA0 ||| n) = (d', .error e) ∧
      d.tryContext n = (d', none)) := by
  unfold Der.tryContext
  rw [Der.peekTag_eq]
  by_cases htag : d.rest.head? = some (0xA0 ||| n)
  · rw [if_pos htag]
    cases hread : d.readTag (0xA0 ||| n) with
    | mk d' outcome =>
      cases outcome with
      | ok c => exact .inr (.inl ⟨htag, d', c, rfl, rfl⟩)
      | error e => exact .inr (.inr ⟨htag, d', e, rfl, rfl⟩)
  · rw [if_neg htag]
    exact .inl ⟨htag, rfl⟩

theorem tryContext_kept (d : Der) (n : UInt8) :
    (d.tryContext n).1.buf = d.buf ∧ d.pos ≤ (d.tryContext n).1.pos := by
  obtain ⟨-, heq⟩ | ⟨htag, d', c, hread, heq⟩ | ⟨htag, d', e, hread, heq⟩ := tryContext_cases d n
  · rw [heq]
    exact ⟨rfl, Nat.le_refl _⟩
  · obtain ⟨hbuf, hpos⟩ := readTag_kept htag
    rw [hread] at hbuf hpos
    rw [heq]
    exact ⟨hbuf, Nat.le_of_lt hpos⟩
  · obtain ⟨hbuf, hpos⟩ := readTag_kept htag
    rw [hread] at hbuf hpos
    rw [heq]
    exact ⟨hbuf, Nat.le_of_lt hpos⟩

end Reader

end Lgnome.Credssp
