import Lgnome.Credssp.FieldForms
import Mathlib.Data.Nat.Find

/-!
# Which malformed TSRequests are rejected

The parser looks for the fields `[1]` to `[4]` in order, each where the one before left the
reader. A field whose TLV does not read is taken for absent, with the reader behind its tag:
from there on the parser is inside that field. Of a field that reads it checks the beginning.
-/
namespace Lgnome.Credssp

open Ber (bigEndian IsTlv Begins Items ItemAt IsInteger)

/-! ## The places where the parser looks -/

/-- The reader behind the version and the looks for `[1]` to `[n]`. -/
def place (body : Bytes) : Nat → Der
  | 0 => ((Der.new body).readTag 0xA0).1
  | n + 1 => ((place body n).tryContext (UInt8.ofNat (n + 1))).1

/-- What the look for `[n + 1]` finds. -/
def found (body : Bytes) (n : Nat) : Option Bytes :=
  ((place body n).tryContext (UInt8.ofNat (n + 1))).2

def versionOf (body : Bytes) : Except String UInt32 := do
  let v ← ((Der.new body).readTag 0xA0).2
  let iv ← unwrap 0x02 v
  intFromBytes iv

/-- The parser comes to the look for `[n + 1]`, and the tag is there. -/
structure Takes (body : Bytes) (n : Nat) : Prop where
  lt : n < 4
  version : ∃ v, versionOf body = .ok v
  before : ∀ m < n, ∀ c, found body m = some c → contentReads m c = .ok ()
  tag : (place body n).rest.head? = some (fieldTag (n + 1))

/-! ## When the claim about rejection holds -/

/-- The parser refuses the malformed fields, reads fields where there are items only, and
reports an error code. -/
structure Rejects (buf : Bytes) : Prop where
  rejects : Malformed buf → ∃ e, parseTsRequest buf = .error e
  inside : ∀ body n, Begins 4 0x30 body buf → Takes body n → ItemAt 4 body (place body n).rest
  reports : ∀ version fields c, WellFormed buf version fields → (fieldTag 4, c) ∈ fields →
    ∃ p iv, parseTsRequest buf = .ok p ∧ IsTlv 4 0x02 iv c ∧
      p.errorCode = some (UInt32.ofNat (bigEndian iv))

/-- What is left of a body behind the version and the fields up to `[n]` in order, where each
of them opens as it has to. -/
inductive Behind (body : Bytes) : Nat → Bytes → Prop
  | version {content value rest : Bytes} : IsTlv 4 0xA0 content value → Opens 3 content →
      body = value ++ rest → Behind body 0 rest
  | absent {n : Nat} {rest : Bytes} : Behind body n rest →
      rest.head? ≠ some (fieldTag (n + 1)) → Behind body (n + 1) rest
  | field {n : Nat} {content value rest : Bytes} : IsTlv 4 (fieldTag (n + 1)) content value →
      Opens n content → Behind body n (value ++ rest) → Behind body (n + 1) rest

/-- A field `[n + 1]` in order, with everything in front of it as it has to be. -/
structure Due (body : Bytes) (n : Nat) (bytes : Bytes) : Prop where
  lt : n < 4
  behind : Behind body n bytes
  tag : bytes.head? = some (fieldTag (n + 1))

/-- Every field in order fits. And no field is malformed, or the version or a field in order
does not even open. -/
structure Clean (body : Bytes) : Prop where
  fits : ∀ n bytes, Due body n bytes → ∃ content, Begins 4 (fieldTag (n + 1)) content bytes
  opens : (∀ bytes n, n < 4 → ItemAt 4 body bytes → ¬FieldMalformed n bytes) ∨
    (∀ content, Begins 4 0xA0 content body → ¬Opens 3 content) ∨
    ∃ n bytes content, Due body n bytes ∧ Begins 4 (fieldTag (n + 1)) content bytes ∧
      ¬Opens n content

theorem Behind.itemAt {body bytes : Bytes} {n : Nat} (h : Behind body n bytes) :
    ItemAt 4 body bytes := by
  induction h with
  | version hvalue _ hbody => exact .single ⟨_, _, _, hvalue, hbody⟩
  | absent _ _ ih => exact ih
  | field hvalue _ _ ih => exact ih.tail ⟨_, _, _, hvalue, rfl⟩

/-! ## The parser -/

section Parser

variable {buf body : Bytes} {n : Nat}

theorem ok_or_error {α : Type} (outcome : Except String α) :
    (∃ v, outcome = .ok v) ∨ ∃ e, outcome = .error e := by
  cases outcome with
  | ok v => exact .inl ⟨v, rfl⟩
  | error e => exact .inr ⟨e, rfl⟩

theorem parseTsRequest_eq (h : unwrap 0x30 buf = .ok body) :
    parseTsRequest buf = (do
      let version ← versionOf body
      let negoToken ← readField (found body 0) readNegoToken
      let authInfo ← readField (found body 1) (unwrap 0x04)
      let pubKeyAuth ← readField (found body 2) (unwrap 0x04)
      let errorCode ← readField (found body 3) readErrorCode
      return { version, negoToken, authInfo, pubKeyAuth, errorCode }) := by
  unfold parseTsRequest
  rw [h]
  show ((Der.new body).readTag 0xA0).2.bind _ = (versionOf body).bind _
  unfold versionOf
  cases ((Der.new body).readTag 0xA0).2 with
  | error e => rfl
  | ok v =>
    show (unwrap 0x02 v).bind _ = ((unwrap 0x02 v).bind _).bind _
    cases unwrap 0x02 v with
    | error e => rfl
    | ok iv => rfl

theorem readField_ok {α : Type} {content : Option Bytes} {read : Bytes → Except String α} :
    (∃ v, readField content read = .ok v) ↔
      ∀ c, content = some c → (read c).map (fun _ => ()) = .ok () := by
  unfold readField
  cases content with
  | none =>
    refine ⟨fun _ c hc => ?_, fun _ => ⟨none, rfl⟩⟩
    cases hc
  | some c =>
    constructor
    · rintro ⟨v, hv⟩ c' hc
      cases hc
      dsimp only at hv
      cases hread : read c with
      | ok x => rfl
      | error e =>
        rw [hread] at hv
        cases hv
    · intro hall
      have hc := hall c rfl
      dsimp only
      cases hread : read c with
      | ok x => exact ⟨some x, rfl⟩
      | error e =>
        rw [hread] at hc
        cases hc

/-- The parser succeeds exactly if the version and every field it finds read. -/
theorem parseTsRequest_ok (h : unwrap 0x30 buf = .ok body) :
    (∃ p, parseTsRequest buf = .ok p) ↔ (∃ v, versionOf body = .ok v) ∧
      ∀ n < 4, ∀ c, found body n = some c → contentReads n c = .ok () := by
  rw [parseTsRequest_eq h]
  constructor
  · rintro ⟨p, hp⟩
    cases hv : versionOf body with
    | error e =>
      rw [hv] at hp
      cases hp
    | ok v =>
      cases hnt : readField (found body 0) readNegoToken with
      | error e =>
        rw [hv, hnt] at hp
        cases hp
      | ok nt =>
        cases hai : readField (found body 1) (unwrap 0x04) with
        | error e =>
          rw [hv, hnt, hai] at hp
          cases hp
        | ok ai =>
          cases hpk : readField (found body 2) (unwrap 0x04) with
          | error e =>
            rw [hv, hnt, hai, hpk] at hp
            cases hp
          | ok pk =>
            cases hec : readField (found body 3) readErrorCode with
            | error e =>
              rw [hv, hnt, hai, hpk, hec] at hp
              cases hp
            | ok ec =>
              refine ⟨⟨v, rfl⟩, ?_⟩
              intro n hn
              match n with
              | 0 => exact readField_ok.mp ⟨nt, hnt⟩
              | 1 => exact readField_ok.mp ⟨ai, hai⟩
              | 2 => exact readField_ok.mp ⟨pk, hpk⟩
              | 3 => exact readField_ok.mp ⟨ec, hec⟩
  · rintro ⟨⟨v, hv⟩, hfields⟩
    obtain ⟨nt, hnt⟩ := readField_ok.mpr (hfields 0 (by decide))
    obtain ⟨ai, hai⟩ := readField_ok.mpr (hfields 1 (by decide))
    obtain ⟨pk, hpk⟩ := readField_ok.mpr (hfields 2 (by decide))
    obtain ⟨ec, hec⟩ := readField_ok.mpr (hfields 3 (by decide))
    rw [hv, hnt, hai, hpk, hec]
    exact ⟨_, rfl⟩

/-- The version reads if the body opens with it, and the parser is behind it then. -/
theorem versionOf_ok (hsize : body.length < 2 ^ 64) :
    (∃ v, versionOf body = .ok v) ↔ ∃ content, Begins 4 0xA0 content body ∧ Opens 3 content := by
  unfold versionOf
  rw [bind_ok]
  refine exists_congr fun content => ?_
  have hbegins : ((Der.new body).readTag 0xA0).2 = .ok content ↔ Begins 4 0xA0 content body :=
    readTag_begins hsize
  rw [hbegins]
  refine and_congr_right fun hb => ?_
  have hlt := hb.length_lt
  rw [bind_ok]
  refine exists_congr fun iv => ?_
  rw [unwrap_begins (by omega), intFromBytes_ok]

theorem place_buf (body : Bytes) (hversion : ∃ v, versionOf body = .ok v) (n : Nat) :
    (place body n).buf = body := by
  induction n with
  | zero =>
    obtain ⟨v, hv⟩ := hversion
    unfold versionOf at hv
    cases hread : (Der.new body).readTag 0xA0 with
    | mk d outcome =>
      cases outcome with
      | error e =>
        rw [hread] at hv
        cases hv
      | ok c =>
        obtain ⟨value, r, -, -, rfl⟩ := readTag_ok hread
        show ((Der.new body).readTag 0xA0).1.buf = body
        rw [hread]
        rfl
  | succ n ih => exact (tryContext_kept _ _).1.trans ih

theorem place_rest_length (hversion : ∃ v, versionOf body = .ok v) (n : Nat) :
    (place body n).rest.length = body.length - (place body n).pos := by
  rw [Der.rest, List.length_drop, place_buf body hversion]

theorem place_mono (body : Bytes) {m n : Nat} (h : m ≤ n) : (place body m).pos ≤ (place body n).pos := by
  induction h with
  | refl => exact Nat.le_refl _
  | step _ ih => exact Nat.le_trans ih (tryContext_kept _ _).2

/-- A look finds nothing, or a field that fits, or swallows the head of one that does not. -/
inductive Look (body : Bytes) (n : Nat) : Prop
  | absent : (place body n).rest.head? ≠ some (fieldTag (n + 1)) →
      place body (n + 1) = place body n → found body n = none → Look body n
  | field (content value rest : Bytes) : IsTlv 4 (fieldTag (n + 1)) content value →
      (place body n).rest = value ++ rest → (place body (n + 1)).rest = rest →
      found body n = some content → Look body n
  | swallowed : (place body n).rest.head? = some (fieldTag (n + 1)) →
      (∀ content, ¬Begins 4 (fieldTag (n + 1)) content (place body n).rest) →
      found body n = none → (place body n).pos < (place body (n + 1)).pos → Look body n

theorem look (hsize : body.length < 2 ^ 64) (hversion : ∃ v, versionOf body = .ok v) (n : Nat) :
    Look body n := by
  have hbuf : (place body n).buf.length < 2 ^ 64 := by
    rw [place_buf body hversion]
    exact hsize
  have hnext : place body (n + 1) = ((place body n).tryContext (UInt8.ofNat (n + 1))).1 := rfl
  have hfound : found body n = ((place body n).tryContext (UInt8.ofNat (n + 1))).2 := rfl
  obtain ⟨htag, heq⟩ | ⟨-, d', c, hread, heq⟩ | ⟨htag, d', e, hread, heq⟩ :=
    tryContext_cases (place body n) (UInt8.ofNat (n + 1))
  · rw [heq] at hnext hfound
    exact .absent htag hnext hfound
  · rw [heq] at hnext hfound
    obtain ⟨value, r, hvalue, hrest, rfl⟩ := readTag_ok hread
    refine .field c value r hvalue hrest ?_ hfound
    rw [hnext]
    exact Der.rest_advance hrest
  · have hpos := (readTag_kept htag).2
    rw [heq] at hnext hfound
    rw [hread] at hpos
    refine .swallowed htag ?_ hfound (hnext ▸ hpos)
    intro content hbegins
    have hok := (readTag_begins hbuf).mpr hbegins
    unfold fieldTag at hok
    rw [hread] at hok
    cases hok

/-- Behind the version the parser is at an item. -/
theorem itemAt_version (hsize : body.length < 2 ^ 64) (h : ∃ v, versionOf body = .ok v) :
    ∃ content value rest, IsTlv 4 0xA0 content value ∧ Opens 3 content ∧ body = value ++ rest ∧
      (place body 0).rest = rest := by
  obtain ⟨content, ⟨value, rest, hvalue, hbody⟩, hopens⟩ := (versionOf_ok hsize).mp h
  refine ⟨content, value, rest, hvalue, hopens, hbody, ?_⟩
  have hfits : (Der.new body).pos + value.length < 2 ^ 64 := by
    have hlen := congrArg List.length hbody
    rw [List.length_append] at hlen
    show 0 + value.length < 2 ^ 64
    omega
  have hform : (Der.new body).rest = value ++ rest := hbody
  show ((Der.new body).readTag 0xA0).1.rest = rest
  rw [readTag_value hvalue hform hfits]
  exact Der.rest_advance hform

/-- What a look finds is the content of a field in front of it. -/
theorem found_some (hsize : body.length < 2 ^ 64) (hversion : ∃ v, versionOf body = .ok v)
    {c : Bytes} : found body n = some c ↔ Begins 4 (fieldTag (n + 1)) c (place body n).rest := by
  obtain ⟨htag, -, hnone⟩ | ⟨c', value, r, hvalue, hrest, -, hsome⟩ | ⟨-, hnever, hnone, -⟩ :=
    look hsize hversion n
  · rw [hnone]
    constructor
    · intro h
      cases h
    · rintro ⟨value, r, hvalue, hrest⟩
      rw [hrest, hvalue.head] at htag
      exact absurd rfl htag
  · rw [hsome]
    constructor
    · intro h
      cases h
      exact ⟨value, r, hvalue, hrest⟩
    · intro h
      exact congrArg some (Begins.unique ⟨value, r, hvalue, hrest⟩ h)
  · rw [hnone]
    constructor
    · intro h
      cases h
    · intro h
      exact absurd h (hnever c)

/-- The parser comes to every field that is due. -/
theorem place_of_behind (hsize : body.length < 2 ^ 64) {bytes : Bytes} (h : Behind body n bytes) :
    (∃ v, versionOf body = .ok v) ∧ (place body n).rest = bytes ∧
      ∀ m < n, ∀ c, found body m = some c → contentReads m c = .ok () := by
  induction h with
  | @version content value rest hvalue hopens hbody =>
    have hversion := (versionOf_ok hsize).mpr ⟨content, ⟨value, rest, hvalue, hbody⟩, hopens⟩
    refine ⟨hversion, ?_, fun m hm => absurd hm (Nat.not_lt_zero m)⟩
    obtain ⟨content', value', rest', hvalue', -, hbody', hrest⟩ := itemAt_version hsize hversion
    rw [hrest]
    exact (hvalue'.prefix_free hvalue (hbody'.symm.trans hbody)).2.2.2
  | @absent n rest hbehind htag ih =>
    obtain ⟨hversion, hrest, hreads⟩ := ih
    refine ⟨hversion, ?_, ?_⟩
    · obtain ⟨-, hnext, -⟩ | ⟨c, value, r, hvalue, hform, -, -⟩ | ⟨hthere, -, -, -⟩ :=
        look hsize hversion n
      · rw [hnext, hrest]
      · rw [← hrest, hform, hvalue.head] at htag
        exact absurd rfl htag
      · rw [hrest] at hthere
        exact absurd hthere htag
    · intro m hm c hc
      by_cases hlast : m = n
      · subst hlast
        obtain ⟨value, r, hvalue, hform⟩ := (found_some hsize hversion).mp hc
        rw [← hrest, hform, hvalue.head] at htag
        exact absurd rfl htag
      · exact hreads m (by omega) c hc
  | @field n content value rest hvalue hopens hbehind ih =>
    obtain ⟨hversion, hrest, hreads⟩ := ih
    have hbegins : Begins 4 (fieldTag (n + 1)) content (place body n).rest :=
      ⟨value, rest, hvalue, hrest⟩
    refine ⟨hversion, ?_, ?_⟩
    · obtain ⟨htag, -⟩ | ⟨c, value', r, hvalue', hform, hnext, -⟩ | ⟨-, hnever, -, -⟩ :=
        look hsize hversion n
      · rw [hrest, hvalue.head] at htag
        exact absurd rfl htag
      · rw [hnext]
        exact (hvalue'.prefix_free hvalue (hform.symm.trans hrest)).2.2.2
      · exact absurd hbegins (hnever content)
    · intro m hm c hc
      by_cases hlast : m = n
      · subst hlast
        rw [((found_some hsize hversion).mp hc).unique hbegins]
        have hsmall : content.length < 2 ^ 64 := by
          have hlt := hbegins.length_lt
          have hlen := place_rest_length hversion m
          omega
        exact (contentReads_opens hsmall).mpr hopens
      · exact hreads m (by omega) c hc

/-- And as long as no field is swallowed, the fields it comes to are due. -/
theorem behind_place (hsize : body.length < 2 ^ 64) (hversion : ∃ v, versionOf body = .ok v)
    (hreads : ∀ m < n, ∀ c, found body m = some c → contentReads m c = .ok ())
    (hfits : ∀ m < n, (place body m).rest.head? = some (fieldTag (m + 1)) →
      ∃ c, Begins 4 (fieldTag (m + 1)) c (place body m).rest) :
    Behind body n (place body n).rest := by
  induction n with
  | zero =>
    obtain ⟨content, value, rest, hvalue, hopens, hbody, hrest⟩ := itemAt_version hsize hversion
    rw [hrest]
    exact .version hvalue hopens hbody
  | succ n ih =>
    have hhere := ih (fun m hm => hreads m (by omega)) fun m hm => hfits m (by omega)
    obtain ⟨htag, hnext, -⟩ | ⟨c, value, r, hvalue, hrest, hnext, hsome⟩ | ⟨htag, hnever, -⟩ :=
      look hsize hversion n
    · rw [hnext]
      exact .absent hhere htag
    · rw [hnext]
      rw [hrest] at hhere
      refine .field hvalue ?_ hhere
      have hlt := hvalue.length_pos
      have hlen := place_rest_length hversion n
      rw [hrest, List.length_append] at hlen
      exact (contentReads_opens (by omega)).mp (hreads n (Nat.lt_succ_self n) c hsome)
    · obtain ⟨c, hc⟩ := hfits n (Nat.lt_succ_self n) htag
      exact absurd hc (hnever c)

end Parser

/-! ## Both directions -/

section Claim

variable {buf body : Bytes} {n : Nat}

theorem not_ok_of_error {p : ParsedTsRequest} {e : String} (h : parseTsRequest buf = .error e)
    (hok : parseTsRequest buf = .ok p) : False := by
  rw [h] at hok
  cases hok

/-- A version or a field that does not read is refused. -/
theorem refused_of (houter : unwrap 0x30 buf = .ok body)
    (h : (∃ e, versionOf body = .error e) ∨
      ∃ n < 4, ∃ c e, found body n = some c ∧ contentReads n c = .error e) :
    ∃ e, parseTsRequest buf = .error e := by
  obtain ⟨p, hp⟩ | herror := ok_or_error (parseTsRequest buf)
  · obtain ⟨⟨v, hv⟩, hfields⟩ := (parseTsRequest_ok houter).mp ⟨p, hp⟩
    obtain ⟨e, he⟩ | ⟨n, hn, c, e, hfound, he⟩ := h
    · rw [hv] at he
      cases he
    · rw [hfields n hn c hfound] at he
      cases he
  · exact herror

theorem Takes.behind (hsize : body.length < 2 ^ 64) (h : Clean body) (htakes : Takes body n) :
    Behind body n (place body n).rest := by
  refine behind_place hsize htakes.version htakes.before ?_
  intro m hm htag
  induction m using Nat.strong_induction_on with
  | h m ih =>
    have hlt : m < 4 := Nat.lt_trans hm htakes.lt
    have hbehind := behind_place hsize htakes.version
      (fun k hk => htakes.before k (Nat.lt_trans hk hm))
      fun k hk => ih k hk (Nat.lt_trans hk hm)
    exact h.fits m _ ⟨hlt, hbehind, htag⟩

theorem clean_rejects (hsize : body.length < 2 ^ 64) (houter : unwrap 0x30 buf = .ok body)
    (h : Clean body) (hmalformed : ∃ bytes n, n < 4 ∧ ItemAt 4 body bytes ∧ FieldMalformed n bytes) :
    ∃ e, parseTsRequest buf = .error e := by
  obtain ⟨bytes, n, hn, hitem, hbad⟩ := hmalformed
  obtain hnone | hversion | ⟨m, bytes', content, hdue, hbegins, hshut⟩ := h.opens
  · exact absurd hbad (hnone bytes n hn hitem)
  · refine refused_of houter (.inl ?_)
    obtain hok | herror := ok_or_error (versionOf body)
    · obtain ⟨content, hcontent, hopens⟩ := (versionOf_ok hsize).mp hok
      exact absurd hopens (hversion content hcontent)
    · exact herror
  · obtain ⟨hversion, hrest, -⟩ := place_of_behind hsize hdue.behind
    subst hrest
    have hlt := hbegins.length_lt
    have hlen := place_rest_length hversion m
    refine refused_of houter (.inr ⟨m, hdue.lt, content, ?_⟩)
    obtain ⟨u, hok⟩ | ⟨e, he⟩ := ok_or_error (contentReads m content)
    · exact absurd ((contentReads_opens (by omega)).mp hok) hshut
    · exact ⟨e, (found_some hsize hversion).mpr hbegins, he⟩

/-- If something fails among the fields, there is a first one that the parser takes up. -/
theorem first_failure (hsize : body.length < 2 ^ 64) (hversion : ∃ v, versionOf body = .ok v)
    (h : ∃ n < 4, ∃ c e, found body n = some c ∧ contentReads n c = .error e) :
    ∃ n c e, Takes body n ∧ found body n = some c ∧ contentReads n c = .error e := by
  classical
  obtain ⟨hlt, c, e, hfound, he⟩ := Nat.find_spec h
  obtain ⟨value, r, hvalue, hrest⟩ := (found_some hsize hversion).mp hfound
  refine ⟨Nat.find h, c, e, ⟨hlt, hversion, ?_, ?_⟩, hfound, he⟩
  · intro m hm c' hc'
    obtain ⟨u, hok⟩ | ⟨e', he'⟩ := ok_or_error (contentReads m c')
    · exact hok
    · exact absurd ⟨Nat.lt_trans hm hlt, c', e', hc', he'⟩ (Nat.find_min h hm)
  · rw [hrest]
    exact hvalue.head

theorem failure_of_error (houter : unwrap 0x30 buf = .ok body)
    (hversion : ∃ v, versionOf body = .ok v) (h : ∃ e, parseTsRequest buf = .error e) :
    ∃ n < 4, ∃ c e, found body n = some c ∧ contentReads n c = .error e := by
  by_contra hnone
  obtain ⟨e, he⟩ := h
  obtain ⟨p, hp⟩ := (parseTsRequest_ok houter).mpr ⟨hversion, fun n hn c hc => by
    obtain ⟨u, hok⟩ | ⟨e', he'⟩ := ok_or_error (contentReads n c)
    · exact hok
    · exact absurd ⟨n, hn, c, e', hc, he'⟩ hnone⟩
  exact not_ok_of_error he hp

/-- A parser that rejects and stays outside malformed fields swallows none: behind one, there
is no item left to refuse. -/
theorem begins_of_rejects (hsize : body.length < 2 ^ 64) (houter : unwrap 0x30 buf = .ok body)
    (hrejects : (∃ bytes n, n < 4 ∧ ItemAt 4 body bytes ∧ FieldMalformed n bytes) →
      ∃ e, parseTsRequest buf = .error e)
    (hinside : ∀ n, Takes body n → ItemAt 4 body (place body n).rest) (htakes : Takes body n) :
    ∃ c, Begins 4 (fieldTag (n + 1)) c (place body n).rest := by
  obtain ⟨htag, -⟩ | ⟨c, value, r, hvalue, hrest, -, -⟩ | ⟨htag, hnever, hnone, hpos⟩ :=
    look hsize htakes.version n
  · exact absurd htakes.tag htag
  · exact ⟨c, value, r, hvalue, hrest⟩
  · exfalso
    have hitem := hinside n htakes
    have hstuck : ∀ tag content, ¬Begins 4 tag content (place body n).rest := by
      rintro tag content ⟨value, r, hvalue, hrest⟩
      have hhead := hvalue.head (r := r)
      rw [← hrest, htag] at hhead
      obtain rfl := Option.some.inj hhead
      exact hnever content ⟨value, r, hvalue, hrest⟩
    obtain ⟨m, c, e', htakes', hfound, he'⟩ := first_failure hsize htakes.version
      (failure_of_error houter htakes.version (hrejects ⟨_, n, htakes.lt, hitem, htag,
        fun content hbegins => absurd hbegins (hnever content)⟩))
    have hlater : n < m := by
      by_contra hle
      obtain hlt | heq := Nat.lt_or_eq_of_le (Nat.le_of_not_lt hle)
      · rw [htakes.before m hlt c hfound] at he'
        cases he'
      · subst heq
        rw [hnone] at hfound
        cases hfound
    have hmono : (place body (n + 1)).pos ≤ (place body m).pos := place_mono body hlater
    have hback := ItemAt.last hitem hstuck (hinside m htakes')
    have hhere : 0 < (place body n).rest.length :=
      List.length_pos_iff.mpr fun hnil => by rw [hnil] at htag; cases htag
    rw [place_rest_length htakes.version] at hback hhere
    rw [place_rest_length htakes.version] at hback
    omega

theorem clean_of_rejects (hsize : body.length < 2 ^ 64) (houter : unwrap 0x30 buf = .ok body)
    (hrejects : (∃ bytes n, n < 4 ∧ ItemAt 4 body bytes ∧ FieldMalformed n bytes) →
      ∃ e, parseTsRequest buf = .error e)
    (hinside : ∀ n, Takes body n → ItemAt 4 body (place body n).rest) : Clean body where
  fits n bytes hdue := by
    obtain ⟨hversion, hrest, hreads⟩ := place_of_behind hsize hdue.behind
    subst hrest
    exact begins_of_rejects hsize houter hrejects hinside ⟨hdue.lt, hversion, hreads, hdue.tag⟩
  opens := by
    by_cases hmalformed : ∃ bytes n, n < 4 ∧ ItemAt 4 body bytes ∧ FieldMalformed n bytes
    · refine .inr ?_
      have herror := hrejects hmalformed
      by_cases hversion : ∃ v, versionOf body = .ok v
      · refine .inr ?_
        obtain ⟨n, c, e, htakes, hfound, he⟩ :=
          first_failure hsize hversion (failure_of_error houter hversion herror)
        have hbegins := (found_some hsize hversion).mp hfound
        refine ⟨n, _, c, ⟨htakes.lt, behind_place hsize hversion htakes.before ?_, htakes.tag⟩,
          hbegins, ?_⟩
        · intro m hm htag
          exact begins_of_rejects hsize houter hrejects hinside
            ⟨Nat.lt_trans hm htakes.lt, hversion,
              fun k hk => htakes.before k (Nat.lt_trans hk hm), htag⟩
        · intro hopens
          have hlt := hbegins.length_lt
          have hlen := place_rest_length hversion n
          rw [(contentReads_opens (by omega)).mpr hopens] at he
          cases he
      · exact .inl fun content hcontent hopens =>
          hversion ((versionOf_ok hsize).mpr ⟨content, hcontent, hopens⟩)
    · exact .inl fun bytes n hn hitem hbad => hmalformed ⟨bytes, n, hn, hitem, hbad⟩

/-! ## Error codes -/

theorem fieldTag_toNat (h : n ≤ 4) : (fieldTag n).toNat = 160 + n := by
  match n with
  | 0 => rfl
  | 1 => rfl
  | 2 => rfl
  | 3 => rfl
  | 4 => rfl

/-- The fields with a higher tag. -/
def above (n : Nat) (fields : List (UInt8 × Bytes)) : List (UInt8 × Bytes) :=
  fields.filter fun f => decide ((fieldTag n).toNat < f.1.toNat)

theorem above_above (hn : n < 4) (fields : List (UInt8 × Bytes)) :
    above (n + 1) (above n fields) = above (n + 1) fields := by
  unfold above
  rw [List.filter_filter]
  refine List.filter_congr ?_
  intro f _
  rw [fieldTag_toNat (by omega), fieldTag_toNat (by omega)]
  by_cases hf : 160 + (n + 1) < f.1.toNat
  · rw [decide_eq_true hf, decide_eq_true (by omega)]
    rfl
  · rw [decide_eq_false hf]
    rfl

theorem above_self {fields : List (UInt8 × Bytes)}
    (h : ∀ f ∈ fields, (fieldTag n).toNat < f.1.toNat) : above n fields = fields := by
  unfold above
  rw [List.filter_eq_self]
  exact fun f hf => decide_eq_true (h f hf)

/-- A look over fields in order finds the field with its tag and leaves the higher ones. -/
theorem look_items (hsize : body.length < 2 ^ 64) (hversion : ∃ v, versionOf body = .ok v)
    {fields : List (UInt8 × Bytes)} (hn : n < 4) (hitems : Items 4 (place body n).rest fields)
    (hascending : fields.Pairwise fun a b => a.1.toNat < b.1.toNat)
    (hlow : ∀ f ∈ fields, (fieldTag n).toNat < f.1.toNat) :
    Items 4 (place body (n + 1)).rest (above (n + 1) fields) ∧
      ∀ c, found body n = some c ↔ (fieldTag (n + 1), c) ∈ fields := by
  generalize hplace : (place body n).rest = bytes at hitems
  cases hitems with
  | nil =>
    obtain ⟨-, hnext, hnone⟩ | ⟨c, value, r, hvalue, hrest, -, -⟩ | ⟨htag, -, -, -⟩ :=
      look hsize hversion n
    · rw [hnext, hplace, hnone]
      refine ⟨.nil, fun c => ⟨fun h => ?_, fun h => ?_⟩⟩
      · cases h
      · cases h
    · have hlen := congrArg List.length (hplace.symm.trans hrest)
      have hpos := hvalue.length_pos
      rw [List.length_append, List.length_nil] at hlen
      omega
    · rw [hplace] at htag
      cases htag
  | @cons tag content value rest fields hvalue hrest =>
    obtain ⟨hhead, hsorted⟩ := List.pairwise_cons.mp hascending
    have htag : (fieldTag n).toNat < tag.toNat := hlow _ List.mem_cons_self
    have hhigher : ∀ f ∈ fields, (fieldTag (n + 1)).toNat < f.1.toNat := by
      intro f hf
      have hless : tag.toNat < f.1.toNat := hhead f hf
      rw [fieldTag_toNat (by omega)] at htag ⊢
      omega
    by_cases hsame : tag = fieldTag (n + 1)
    · subst hsame
      have hbegins : Begins 4 (fieldTag (n + 1)) content (place body n).rest :=
        ⟨value, rest, hvalue, hplace⟩
      obtain ⟨hno, -⟩ | ⟨c, value', r, hvalue', hform, hnext, hsome⟩ | ⟨-, hnever, -, -⟩ :=
        look hsize hversion n
      · rw [hplace, hvalue.head] at hno
        exact absurd rfl hno
      · obtain ⟨-, rfl, -, rfl⟩ := hvalue'.prefix_free hvalue (hform.symm.trans hplace)
        rw [hnext, hsome]
        have habove : above (n + 1) ((fieldTag (n + 1), c) :: fields) = fields := by
          rw [above, List.filter_cons_of_neg (by simp)]
          exact above_self hhigher
        rw [habove]
        refine ⟨hrest, fun c' => ⟨fun h => ?_, fun h => ?_⟩⟩
        · cases h
          exact List.mem_cons_self
        · obtain heq | hmem := List.mem_cons.mp h
          · rw [(Prod.mk.inj heq).2]
          · exact absurd (hhigher _ hmem) (Nat.lt_irrefl _)
      · exact absurd hbegins (hnever content)
    · have hgreater : (fieldTag (n + 1)).toNat < tag.toNat := by
        have hne : tag.toNat ≠ (fieldTag (n + 1)).toNat := fun h => hsame (UInt8.toNat.inj h)
        rw [fieldTag_toNat (by omega)] at htag hne ⊢
        omega
      have hhere : (place body n).rest.head? = some tag := by
        rw [hplace]
        exact hvalue.head
      have hall : ∀ f ∈ (tag, content) :: fields, (fieldTag (n + 1)).toNat < f.1.toNat :=
        List.forall_mem_cons.mpr ⟨hgreater, hhigher⟩
      obtain ⟨-, hnext, hnone⟩ | ⟨c, value', r, hvalue', hform, -, -⟩ | ⟨hthere, -, -, -⟩ :=
        look hsize hversion n
      · rw [hnext, hplace, hnone, above_self hall]
        refine ⟨.cons hvalue hrest, fun c => ⟨fun h => ?_, fun h => ?_⟩⟩
        · cases h
        · exact absurd (hall _ h) (Nat.lt_irrefl _)
      · rw [hform, hvalue'.head] at hhere
        exact absurd (Option.some.inj hhere).symm hsame
      · rw [hhere] at hthere
        exact absurd (Option.some.inj hthere) hsame

/-- In a well-formed request every look finds the field with its tag. -/
theorem WellFormed.looks {version : Bytes} {fields : List (UInt8 × Bytes)}
    (h : WellFormed buf version fields) (hsize : body.length < 2 ^ 64)
    (hitems : Items 4 body ((0xA0, version) :: fields)) (hn : n ≤ 4) :
    (∃ v, versionOf body = .ok v) ∧ Items 4 (place body n).rest (above n fields) ∧
      ∀ m < n, ∀ c, found body m = some c ↔ (fieldTag (m + 1), c) ∈ fields := by
  obtain ⟨hhead, hsorted⟩ := List.pairwise_cons.mp h.ascending
  obtain ⟨value, rest, hvalue, hbody, hrest⟩ :
      ∃ value rest, IsTlv 4 0xA0 version value ∧ body = value ++ rest ∧ Items 4 rest fields := by
    cases hitems with
    | cons hvalue hrest => exact ⟨_, _, hvalue, rfl, hrest⟩
  have hversion : ∃ v, versionOf body = .ok v :=
    (versionOf_ok hsize).mpr ⟨version, ⟨value, rest, hvalue, hbody⟩, h.number.opens⟩
  refine ⟨hversion, ?_⟩
  induction n with
  | zero =>
    obtain ⟨_, _, r, hvalue', -, hform, hplace⟩ := itemAt_version hsize hversion
    refine ⟨?_, fun m hm => absurd hm (Nat.not_lt_zero m)⟩
    rw [hplace, (hvalue'.prefix_free hvalue (hform.symm.trans hbody)).2.2.2, above_self hhead]
    exact hrest
  | succ n ih =>
    obtain ⟨hitems, hbefore⟩ := ih (by omega)
    have hlow : ∀ f ∈ above n fields, (fieldTag n).toNat < f.1.toNat := fun f hf =>
      of_decide_eq_true (List.mem_filter.mp hf).2
    have hthinned : (above n fields).Pairwise fun a b => a.1.toNat < b.1.toNat := hsorted.filter _
    obtain ⟨hnext, hfound⟩ := look_items hsize hversion (by omega) hitems hthinned hlow
    rw [above_above (by omega)] at hnext
    refine ⟨hnext, fun m hm c => ?_⟩
    by_cases hlast : m = n
    · subst hlast
      refine (hfound c).trans ?_
      unfold above
      rw [List.mem_filter]
      refine ⟨fun hc => hc.1, fun hc => ⟨hc, ?_⟩⟩
      dsimp only
      rw [fieldTag_toNat (by omega), fieldTag_toNat (by omega)]
      exact decide_eq_true (by omega)
    · exact hbefore m (by omega) c

/-- An error code in a well-formed request is reported. -/
theorem WellFormed.reports {version : Bytes} {fields : List (UInt8 × Bytes)} {c : Bytes}
    (hsize : buf.length < 2 ^ 64) (h : WellFormed buf version fields)
    (hc : (fieldTag 4, c) ∈ fields) :
    ∃ p iv, parseTsRequest buf = .ok p ∧ IsTlv 4 0x02 iv c ∧
      p.errorCode = some (UInt32.ofNat (bigEndian iv)) := by
  obtain ⟨body, houter, hitems⟩ := h.outer
  have hlt := houter.length_pos
  obtain ⟨⟨v, hv⟩, -, hfound⟩ := h.looks (by omega) hitems (Nat.le_refl 4)
  have hunwrap := (unwrap_begins hsize).mpr houter.begins
  have hsmall : ∀ m < 4, ∀ c, found body m = some c → c.length < 2 ^ 64 := by
    intro m hm c hfind
    have hbegins := ((found_some (by omega) ⟨v, hv⟩).mp hfind).length_lt
    have hlen := place_rest_length ⟨v, hv⟩ m
    omega
  have hreads : ∀ m < 4, ∀ c, found body m = some c → contentReads m c = .ok () := by
    intro m hm c hfind
    exact (contentReads_opens (hsmall m hm c hfind)).mpr
      (h.contents m hm c ((hfound m hm c).mp hfind)).opens
  obtain ⟨nt, hnt⟩ := readField_ok.mpr (hreads 0 (by decide))
  obtain ⟨ai, hai⟩ := readField_ok.mpr (hreads 1 (by decide))
  obtain ⟨pk, hpk⟩ := readField_ok.mpr (hreads 2 (by decide))
  have hcode := (hfound 3 (by decide) c).mpr hc
  obtain ⟨iv, hiv, -, hfits⟩ := h.contents 3 (by decide) c hc
  have hread : readErrorCode c = .ok (UInt32.ofNat (bigEndian iv)) := by
    unfold readErrorCode
    rw [(unwrap_begins (hsmall 3 (by decide) c hcode)).mpr hiv.begins]
    exact intFromBytes_fits hfits
  refine ⟨⟨v, nt, ai, pk, _⟩, iv, ?_, hiv, rfl⟩
  rw [parseTsRequest_eq hunwrap, hv, hnt, hai, hpk, hcode]
  show (((readErrorCode c).map some).bind _) = _
  rw [hread]
  rfl

end Claim

/-- The parser rejects as it should exactly on the requests whose fields `[1]` to `[4]` it
does not swallow and whose malformed fields, if any, come with a field that does not open. A
buffer fits the address space. -/
theorem rejects_iff_clean (buf : Bytes) (hsize : buf.length < 2 ^ 64) :
    Rejects buf ↔ ∀ body, Begins 4 0x30 body buf → Clean body := by
  constructor
  · intro h body houter
    have hlt := houter.length_lt
    exact clean_of_rejects (by omega) ((unwrap_begins hsize).mpr houter)
      (fun hmalformed => h.rejects ⟨body, houter, hmalformed⟩) fun n => h.inside body n houter
  · intro h
    constructor
    · rintro ⟨body, houter, hmalformed⟩
      have hlt := houter.length_lt
      exact clean_rejects (by omega) ((unwrap_begins hsize).mpr houter) (h body houter) hmalformed
    · intro body n houter htakes
      have hlt := houter.length_lt
      exact (htakes.behind (by omega) (h body houter)).itemAt
    · intro version fields c hformed hc
      exact hformed.reports hsize hc

section Sample

/-- A version, and an error code. -/
def refusal : Bytes := [0xA0, 0x03, 0x02, 0x01, 0x06, 0xA4, 0x03, 0x02, 0x01, 0x05]

theorem itemAt_refusal {bytes : Bytes} (h : ItemAt 4 refusal bytes) :
    bytes = refusal ∨ bytes = tlv 0xA4 [0x02, 0x01, 0x05] ∨ bytes = [] := by
  have hfirst : Ber.Next 4 refusal (tlv 0xA4 [0x02, 0x01, 0x05]) :=
    ⟨0xA0, [0x02, 0x01, 0x06], tlv 0xA0 [0x02, 0x01, 0x06],
      isTlv_tlv _ (by decide) (by decide), by decide⟩
  have hsecond : Ber.Next 4 (tlv 0xA4 [0x02, 0x01, 0x05]) [] :=
    ⟨0xA4, [0x02, 0x01, 0x05], _, isTlv_tlv _ (by decide) (by decide), by decide⟩
  obtain rfl | ⟨r, hr, hrest⟩ := h.cases_head
  · exact .inl rfl
  · obtain rfl := Ber.next_unique hr hfirst
    obtain rfl | ⟨r, hr, hrest⟩ := hrest.cases_head
    · exact .inr (.inl rfl)
    · obtain rfl := Ber.next_unique hr hsecond
      have hle := ItemAt.length_le hrest
      exact .inr (.inr (List.eq_nil_of_length_eq_zero (Nat.le_zero.mp hle)))

/-- This request is refused by nobody, and its error code is reported. -/
theorem rejects_iff_clean_refusal : Rejects (tlv 0x30 refusal) := by
  have hfield : ∀ bytes n, n < 4 → ItemAt 4 refusal bytes →
      bytes.head? = some (fieldTag (n + 1)) →
      ∃ c, Begins 4 (fieldTag (n + 1)) c bytes ∧ FieldValid n c := by
    intro bytes n hn hitem htag
    have hcode : Begins 4 (fieldTag 4) [0x02, 0x01, 0x05] (tlv 0xA4 [0x02, 0x01, 0x05]) :=
      (isTlv_tlv _ (by decide) (by decide)).begins
    have hvalid : FieldValid 3 [0x02, 0x01, 0x05] :=
      ⟨[0x05], isTlv_tlv 0x02 (by decide) (by decide),
        ⟨by decide, fun a b rest h => by simp at h⟩, .inl (by decide)⟩
    obtain rfl | rfl | rfl := itemAt_refusal hitem
    · match n, hn with
      | 0, _ => exact absurd htag (by decide)
      | 1, _ => exact absurd htag (by decide)
      | 2, _ => exact absurd htag (by decide)
      | 3, _ => exact absurd htag (by decide)
    · match n, hn with
      | 0, _ => exact absurd htag (by decide)
      | 1, _ => exact absurd htag (by decide)
      | 2, _ => exact absurd htag (by decide)
      | 3, _ => exact ⟨_, hcode, hvalid⟩
    · cases htag
  refine (rejects_iff_clean _ (by decide)).mpr fun body houter => ?_
  obtain rfl : body = refusal := Begins.unique houter (isTlv_tlv 0x30 (k := 4) (by decide)
    (by decide)).begins
  constructor
  · intro n bytes hdue
    obtain ⟨c, hc, -⟩ := hfield bytes n hdue.lt hdue.behind.itemAt hdue.tag
    exact ⟨c, hc⟩
  · refine .inl fun bytes n hn hitem hbad => ?_
    obtain ⟨c, hc, hvalid⟩ := hfield bytes n hn hitem hbad.1
    exact hbad.2 c hc hvalid

/-- A version, and a field `[1]` with a length form that is not supported. The bytes inside
it look like a field `[4]`. -/
def swallowedToken : Bytes :=
  [0x30, 0x0C, 0xA0, 0x03, 0x02, 0x01, 0x06, 0xA1, 0xFF, 0xA4, 0x03, 0x02, 0x01, 0x05]

/-- A version, and a field `[4]` with two octets behind its number. -/
def trailingOctets : Bytes :=
  [0x30, 0x0C, 0xA0, 0x03, 0x02, 0x01, 0x06, 0xA4, 0x05, 0x02, 0x01, 0x05, 0xFF, 0xFF]

/-- Behind a version `06` there is an item. -/
theorem itemAt_behind_version (rest : Bytes) :
    ItemAt 4 (0xA0 :: 0x03 :: 0x02 :: 0x01 :: 0x06 :: rest) rest :=
  .single ⟨0xA0, [0x02, 0x01, 0x06], tlv 0xA0 [0x02, 0x01, 0x06],
    isTlv_tlv _ (by decide) (by decide), rfl⟩

/-- One malformed field goes unnoticed, and an error code is read from inside it. Of another
one, the beginning is taken for the whole. -/
theorem swallowed_token_accepted :
    (Malformed swallowedToken ∧
      parseTsRequest swallowedToken = .ok { version := 6, errorCode := some 5 } ∧
      ¬Rejects swallowedToken) ∧
    Malformed trailingOctets ∧
      parseTsRequest trailingOctets = .ok { version := 6, errorCode := some 5 } ∧
      ¬Rejects trailingOctets := by
  have hswallowed : Malformed swallowedToken := by
    refine ⟨swallowedToken.drop 2, (isTlv_tlv 0x30 (k := 4) (by decide) (by decide)).begins,
      swallowedToken.drop 7, 0, by decide, itemAt_behind_version _, by decide, ?_⟩
    intro content hbegins
    have herror : ((Der.new (swallowedToken.drop 7)).readTag (fieldTag 1)).2 =
        .error "der: unsupported length form" := by decide
    have hok := (readTag_begins (d := Der.new (swallowedToken.drop 7)) (by decide)).mpr hbegins
    rw [herror] at hok
    cases hok
  have htrailing : Malformed trailingOctets := by
    refine ⟨trailingOctets.drop 2, (isTlv_tlv 0x30 (k := 4) (by decide) (by decide)).begins,
      trailingOctets.drop 7, 3, by decide, itemAt_behind_version _, by decide, ?_⟩
    rintro content hbegins ⟨iv, hiv, -⟩
    have hcontent : content = tlv 0x02 [0x05] ++ [0xFF, 0xFF] :=
      hbegins.unique (isTlv_tlv (fieldTag 4) (k := 4) (by decide) (by decide)).begins
    have hinteger : IsTlv 4 0x02 [0x05] (tlv 0x02 [0x05]) := isTlv_tlv 0x02 (by decide) (by decide)
    have hnone := (hiv.prefix_free (r := []) hinteger
      ((List.append_nil content).trans hcontent)).2.2.2
    cases hnone
  have hparse : ∀ buf, Malformed buf →
      parseTsRequest buf = .ok { version := 6, errorCode := some 5 } →
      Malformed buf ∧ parseTsRequest buf = .ok { version := 6, errorCode := some 5 } ∧
        ¬Rejects buf := by
    intro buf hmalformed hok
    refine ⟨hmalformed, hok, fun h => ?_⟩
    obtain ⟨e, he⟩ := h.rejects hmalformed
    exact not_ok_of_error he hok
  exact ⟨hparse _ hswallowed (by decide), hparse _ htrailing (by decide)⟩

end Sample

end Lgnome.Credssp
