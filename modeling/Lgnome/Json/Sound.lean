import Lgnome.Json.Scanner
import Mathlib.Data.List.TakeWhile

/-!
# What the scanner accepts is in the grammar

Each scanner takes from the front of its input a piece of the grammar, and none
of them steps over the end of the text or runs out of its bound.
-/
namespace Lgnome.Json

open Lgnome.Bytes

/-! ## Code points -/

theorem or_low (base x i : Nat) (hbase : base % (1 <<< i) = 0) (hx : x < 1 <<< i) :
    base ||| x = base + x := by
  rw [Nat.one_shiftLeft] at hbase hx
  have h := Nat.two_pow_add_eq_or_of_lt hx (base / 2 ^ i)
  rw [Nat.mul_div_cancel' (Nat.dvd_of_mod_eq_zero hbase)] at h
  exact h.symm

/-- The scanner's arithmetic is UTF-8. -/
theorem encodeCodepoint_eq {v : Nat} (h : v < 0xd800 ∨ 0xdfff < v) (hv : v < 0x110000) :
    encodeCodepoint v = utf8 v := by
  have hvalid : v.isValidChar := by
    rcases h with h | h
    · exact .inl h
    · exact .inr ⟨h, hv⟩
  have hchar : (Char.ofNat v).val.toNat = v := by
    rw [Char.ofNat, dif_pos hvalid]
    rfl
  have hmask : v &&& 0x3f = v % 64 := Nat.and_two_pow_sub_one_eq_mod v 6
  have hmask6 : (v >>> 6) &&& 0x3f = v / 64 % 64 := by
    rw [Nat.shiftRight_eq_div_pow]
    exact Nat.and_two_pow_sub_one_eq_mod _ 6
  have hmask12 : (v >>> 12) &&& 0x3f = v / 4096 % 64 := by
    rw [Nat.shiftRight_eq_div_pow]
    exact Nat.and_two_pow_sub_one_eq_mod _ 6
  have htail : ∀ x, 0x80 ||| x % 64 = x % 64 + 0x80 := by
    intro x
    rw [or_low 0x80 (x % 64) 6 (by decide) (by omega), Nat.add_comm]
  unfold encodeCodepoint utf8 String.utf8EncodeChar
  simp only [hchar, hmask, hmask6, hmask12, htail]
  by_cases h1 : v < 0x80
  · rw [if_pos h1, if_pos (Nat.le_of_lt_succ h1)]
  · rw [if_neg h1, if_neg (show ¬ v ≤ 0x7f by omega)]
    by_cases h2 : v < 0x800
    · have hhead : 0xc0 ||| v >>> 6 = v / 64 % 0x20 + 0xc0 := by
        rw [Nat.shiftRight_eq_div_pow, or_low 0xc0 _ 6 (by decide) (by omega)]
        omega
      rw [if_pos h2, if_pos (Nat.le_of_lt_succ h2), hhead]
    · rw [if_neg h2, if_neg (show ¬ v ≤ 0x7ff by omega)]
      by_cases h3 : v < 0x10000
      · have hhead : 0xe0 ||| v >>> 12 = v / 4096 % 0x10 + 0xe0 := by
          rw [Nat.shiftRight_eq_div_pow, or_low 0xe0 _ 5 (by decide) (by omega)]
          omega
        rw [if_pos h3, if_pos (Nat.le_of_lt_succ h3), hhead]
      · have hhead : 0xf0 ||| v >>> 18 = v / 262144 % 0x08 + 0xf0 := by
          rw [Nat.shiftRight_eq_div_pow, or_low 0xf0 _ 4 (by decide) (by omega)]
          omega
        rw [if_neg h3, if_neg (show ¬ v ≤ 0xffff by omega), hhead]

/-- A byte of a character's encoding is below 0xff, and zero only for the zero character. -/
theorem utf8_byte {c : Char} {b : UInt8} (hb : b ∈ String.utf8EncodeChar c) :
    ∃ m : Nat, b = m.toUInt8 ∧ m < 0xff ∧ (m = 0 → c.val.toNat = 0) := by
  unfold String.utf8EncodeChar at hb
  simp only at hb
  split at hb
  · rw [List.mem_singleton] at hb
    exact ⟨_, hb, by omega, id⟩
  · split at hb
    · simp only [List.mem_cons, List.not_mem_nil, or_false] at hb
      rcases hb with hb | hb
      all_goals exact ⟨_, hb, by omega, by omega⟩
    · split at hb
      · simp only [List.mem_cons, List.not_mem_nil, or_false] at hb
        rcases hb with hb | hb | hb
        all_goals exact ⟨_, hb, by omega, by omega⟩
      · simp only [List.mem_cons, List.not_mem_nil, or_false] at hb
        rcases hb with hb | hb | hb | hb
        all_goals exact ⟨_, hb, by omega, by omega⟩

theorem utf8_no_zero {v : Nat} (h : v < 0xd800 ∨ 0xdfff < v) (hv : v < 0x110000) (hzero : v ≠ 0) :
    0 ∉ utf8 v := by
  intro hmem
  obtain ⟨m, hm, hlt, hchar⟩ := utf8_byte hmem
  have hvalid : v.isValidChar := by
    rcases h with h | h
    · exact .inl h
    · exact .inr ⟨h, hv⟩
  have hval : (Char.ofNat v).val.toNat = v := by
    rw [Char.ofNat, dif_pos hvalid]
    rfl
  have hmod : 0 = m % 256 := congrArg UInt8.toNat hm
  exact hzero (hval ▸ hchar (by omega))

theorem hexValue_lt {c : UInt8} {d : Nat} (h : hexValue c = some d) : d < 16 := by
  unfold hexValue at h
  split at h
  · rename_i hc
    simp only [UInt8.le_iff_toNat_le, UInt8.toNat_ofNat] at hc
    cases h
    omega
  · split at h
    · rename_i hc
      simp only [UInt8.le_iff_toNat_le, UInt8.toNat_ofNat] at hc
      cases h
      omega
    · split at h
      · rename_i hc
        simp only [UInt8.le_iff_toNat_le, UInt8.toNat_ofNat] at hc
        cases h
        omega
      · cases h

theorem hex4_lt {text : List UInt8} {v : Nat} (h : Hex4 text v) : v < 0x10000 := by
  obtain ⟨hlength, hvalue⟩ := h
  rcases text with _ | ⟨a, _ | ⟨b, _ | ⟨c, _ | ⟨d, _ | ⟨e, text⟩⟩⟩⟩⟩
  case cons.cons.cons.cons.nil =>
    obtain ⟨va, ha, hvalue⟩ := Option.bind_eq_some_iff.mp hvalue
    obtain ⟨vb, hb, hvalue⟩ := Option.bind_eq_some_iff.mp hvalue
    obtain ⟨vc, hc, hvalue⟩ := Option.bind_eq_some_iff.mp hvalue
    obtain ⟨vd, hd, hvalue⟩ := Option.bind_eq_some_iff.mp hvalue
    have := hexValue_lt ha
    have := hexValue_lt hb
    have := hexValue_lt hc
    have := hexValue_lt hd
    cases hvalue
    omega
  all_goals simp at hlength

theorem shift_digit {v d : Nat} (hd : d < 16) : (v <<< 4) ||| d = v * 16 + d :=
  (Nat.shiftLeft_add_eq_or_of_lt (i := 4) hd v).symm.trans (by rw [Nat.shiftLeft_eq])

theorem hexValue_zero : hexValue 0 = none := rfl

theorem shortEscape_zero : shortEscape 0 = none := rfl

/-! ## Strings -/

theorem readHex4_sound (i v : Nat) (p : List UInt8) :
    (readHex4 i v p).Sound fun r => ∃ digits, digits.length = i ∧
      hexDigits v digits = some r.1 ∧ p = digits ++ r.2 := by
  induction i generalizing v p with
  | zero => exact ⟨[], rfl, rfl, rfl⟩
  | succ i ih =>
    unfold readHex4
    cases hd : hexValue (peek p) with
    | none => trivial
    | some d =>
      cases p with
      | nil =>
        rw [peek_nil, hexValue_zero] at hd
        cases hd
      | cons c q =>
        simp only [bump_cons, Scan.ok_bind, shift_digit (hexValue_lt hd)]
        apply (ih (v * 16 + d) q).mono
        rintro r ⟨digits, hlength, hvalue, hq⟩
        refine ⟨c :: digits, by rw [List.length_cons, hlength], ?_, by rw [hq, List.cons_append]⟩
        rw [peek_cons] at hd
        simp only [hexDigits, hd, Option.bind_some]
        exact hvalue

/-- The two halves of a pair, put together the scanner's way. -/
theorem pair_shift {v w : Nat} (hv : IsHigh v) (hw : IsLow w) :
    0x10000 + ((v - 0xd800) <<< 10) + w - 0xdc00 = pairValue v w := by
  obtain ⟨hv1, hv2⟩ := hv
  obtain ⟨hw1, hw2⟩ := hw
  rw [Nat.shiftLeft_eq]
  unfold pairValue
  omega

theorem pair_scalar {v w : Nat} (hv : IsHigh v) (hw : IsLow w) :
    encodeCodepoint (pairValue v w) = utf8 (pairValue v w) := by
  obtain ⟨hv1, hv2⟩ := hv
  obtain ⟨hw1, hw2⟩ := hw
  apply encodeCodepoint_eq
  · right
    unfold pairValue
    omega
  · unfold pairValue
    omega

theorem unit_scalar {text : List UInt8} {v : Nat} (h : Hex4 text v) (hhigh : ¬ IsHigh v)
    (hlow : ¬ IsLow v) : encodeCodepoint v = utf8 v := by
  have hlt := hex4_lt h
  unfold IsHigh at hhigh
  unfold IsLow at hlow
  exact encodeCodepoint_eq (by omega) (by omega)

theorem readLow_sound (v : Nat) (hv : IsHigh v) (p : List UInt8) :
    (readLow v p).Sound fun r => ∃ low w, Hex4 low w ∧ IsLow w ∧ r.1 = pairValue v w ∧
      p = backslash :: letterU :: low ++ r.2 := by
  unfold readLow
  split
  · trivial
  · rename_i hslash
    obtain ⟨q, rfl⟩ := cons_of_peek (Decidable.not_not.mp hslash) (by decide)
    simp only [bump_cons, Scan.ok_bind]
    split
    · trivial
    · rename_i hu
      obtain ⟨q, rfl⟩ := cons_of_peek (Decidable.not_not.mp hu) (by decide)
      simp only [bump_cons, Scan.ok_bind]
      apply (readHex4_sound 4 0 q).bind
      rintro ⟨w, rest⟩ ⟨low, hlength, hvalue, rfl⟩
      dsimp only
      split
      · trivial
      · rename_i hrange
        have hw : IsLow w := by
          unfold IsLow
          omega
        exact ⟨low, w, ⟨hlength, hvalue⟩, hw, pair_shift hv hw, rfl⟩

theorem readUnicode_sound (p : List UInt8) :
    (readUnicode p).Sound fun r => ∃ c, StringChar (backslash :: letterU :: c) r.1 ∧
      p = c ++ r.2 := by
  unfold readUnicode
  apply (readHex4_sound 4 0 p).bind
  rintro ⟨v, rest⟩ ⟨digits, hlength, hvalue, rfl⟩
  have hhex : Hex4 digits v := ⟨hlength, hvalue⟩
  dsimp only
  split
  · trivial
  · rename_i hzero
    split
    · rename_i hhigh
      apply (readLow_sound v hhigh rest).bind
      rintro ⟨cp, q⟩ ⟨low, w, hlow, hw, hcp, hrest⟩
      refine ⟨digits ++ backslash :: letterU :: low, ?_, ?_⟩
      · simp only at hcp ⊢
        rw [hcp, pair_scalar hhigh hw]
        exact .pair digits low v w hhex hlow hhigh hw
      · rw [hrest]
        simp only [List.append_assoc, List.cons_append]
    · rename_i hhigh
      split
      · trivial
      · rename_i hlow
        refine ⟨digits, ?_, rfl⟩
        dsimp only
        rw [unit_scalar hhex hhigh hlow]
        exact .unicode digits v hhex hzero hhigh hlow

theorem readChar_sound {p : List UInt8} (hquote : peek p ≠ quote) :
    (readChar p).Sound fun r => ∃ c, StringChar c r.1 ∧ p = c ++ r.2 := by
  unfold readChar
  split
  · trivial
  · rename_i hcontrol
    split
    · rename_i hslash
      obtain ⟨q, rfl⟩ := cons_of_peek hslash (by decide)
      simp only [bump_cons, Scan.ok_bind]
      split
      · rename_i hu
        obtain ⟨q, rfl⟩ := cons_of_peek hu (by decide)
        simp only [bump_cons, Scan.ok_bind]
        apply (readUnicode_sound q).mono
        rintro r ⟨text, hchar, rfl⟩
        exact ⟨_, hchar, rfl⟩
      · cases hescape : shortEscape (peek q) with
        | none => trivial
        | some e =>
          cases q with
          | nil =>
            rw [peek_nil, shortEscape_zero] at hescape
            cases hescape
          | cons d q => exact ⟨[backslash, d], .short d e hescape, rfl⟩
    · rename_i hslash
      cases p with
      | nil => exact absurd (by decide) hcontrol
      | cons c q => exact ⟨[c], .plain c (UInt8.not_lt.mp hcontrol) hquote hslash, rfl⟩

theorem StringChar.length_pos {c bytes : List UInt8} (h : StringChar c bytes) : 0 < c.length := by
  cases h <;> simp

/-- No character stands for the terminator. -/
theorem StringChar.no_zero {c bytes : List UInt8} (h : StringChar c bytes) : 0 ∉ bytes := by
  cases h with
  | plain c hcontrol =>
    intro hmem
    rw [List.mem_singleton] at hmem
    subst hmem
    exact absurd hcontrol (by decide)
  | short e c hescape =>
    intro hmem
    rw [List.mem_singleton] at hmem
    subst hmem
    unfold shortEscape at hescape
    split at hescape
    · rename_i hself
      cases hescape
      exact absurd hself (by decide)
    · repeat' (split at hescape; · cases hescape)
      cases hescape
  | unicode digits v hhex hzero hhigh hlow =>
    have hlt := hex4_lt hhex
    unfold IsHigh at hhigh
    unfold IsLow at hlow
    exact utf8_no_zero (by omega) (by omega) hzero
  | pair high low v w _ _ hv hw =>
    obtain ⟨hv1, hv2⟩ := hv
    obtain ⟨hw1, hw2⟩ := hw
    unfold pairValue
    exact utf8_no_zero (by omega) (by omega) (by omega)

theorem Chars.no_zero {text decoded : List UInt8} (h : Chars text decoded) : 0 ∉ decoded := by
  induction h with
  | nil => nofun
  | cons hchar _ ih =>
    intro hmem
    rcases List.mem_append.mp hmem with hmem | hmem
    · exact hchar.no_zero hmem
    · exact ih hmem

/-- What a string stands for is a string of the source. -/
theorem Str.no_zero {text decoded : List UInt8} (h : Str text decoded) : 0 ∉ decoded := by
  obtain ⟨body, hchars, -⟩ := h
  exact hchars.no_zero

theorem readChars_sound (cap : Option Nat) (fuel : Nat) (out p : List UInt8)
    (hfuel : p.length < fuel) :
    (readChars cap fuel out p).Sound fun r => ∃ text decoded, Chars text decoded ∧
      r.1 = out ++ decoded ∧ p = text ++ r.2 := by
  induction fuel generalizing out p with
  | zero => exact absurd hfuel (Nat.not_lt_zero _)
  | succ fuel ih =>
    unfold readChars
    split
    · exact ⟨[], [], .nil, (List.append_nil _).symm, rfl⟩
    · rename_i hstop
      apply (readChar_sound fun h => hstop (.inr h)).bind
      rintro ⟨bytes, q⟩ ⟨c, hchar, rfl⟩
      dsimp only
      split
      · trivial
      · have hpos := hchar.length_pos
        rw [List.length_append] at hfuel
        have hq : q.length < fuel := by
          simp only at hfuel
          omega
        apply (ih (out ++ bytes) q hq).mono
        rintro r ⟨text, decoded, hchars, hout, rfl⟩
        exact ⟨c ++ text, bytes ++ decoded, .cons hchar hchars, by rw [hout, List.append_assoc],
          by rw [List.append_assoc]⟩

theorem readString_sound (cap : Option Nat) (p : List UInt8) :
    (readString cap p).Sound fun r => ∃ text, Str text r.1 ∧ p = text ++ r.2 := by
  unfold readString
  split
  · trivial
  · rename_i hquote
    obtain ⟨q, rfl⟩ := cons_of_peek (Decidable.not_not.mp hquote) (by decide)
    simp only [bump_cons, Scan.ok_bind]
    apply (readChars_sound cap (q.length + 1) [] q (Nat.lt_succ_self _)).bind
    rintro ⟨decoded, rest⟩ ⟨body, decoded', hchars, hout, rfl⟩
    dsimp only at hout ⊢
    rw [List.nil_append] at hout
    subst hout
    split
    · trivial
    · rename_i hclose
      obtain ⟨q, rfl⟩ := cons_of_peek (Decidable.not_not.mp hclose) (by decide)
      split
      · trivial
      · refine ⟨quote :: body ++ [quote], ⟨body, hchars, rfl⟩, ?_⟩
        simp only [List.cons_append, List.append_assoc, List.nil_append]

/-! ## Numbers -/

theorem skipWs_split (p : List UInt8) : ∃ w, Ws w ∧ p = w ++ skipWs p :=
  ⟨p.takeWhile isWs, fun _ hc => List.mem_takeWhile_imp hc, List.takeWhile_append_dropWhile.symm⟩

theorem skipDigits_split (p : List UInt8) : ∃ ds, Digits ds ∧ p = ds ++ skipDigits p :=
  ⟨p.takeWhile isDigit, fun _ hc => List.mem_takeWhile_imp hc,
    List.takeWhile_append_dropWhile.symm⟩

/-- A first digit and the ones behind it. -/
theorem digits_split {p : List UInt8} (h : isDigit (peek p) = true) :
    ∃ d ds, isDigit d = true ∧ Digits ds ∧ p = d :: ds ++ skipDigits p := by
  cases p with
  | nil => exact absurd h (by decide)
  | cons d q =>
    obtain ⟨ds, hds, hq⟩ := skipDigits_split q
    refine ⟨d, ds, h, hds, ?_⟩
    have hskip : skipDigits (d :: q) = skipDigits q := List.dropWhile_cons_of_pos h
    rw [hskip, List.cons_append, ← hq]

theorem someDigits_sound (p : List UInt8) :
    (someDigits p).Sound fun q => ∃ d ds, isDigit d = true ∧ Digits ds ∧ p = d :: ds ++ q := by
  unfold someDigits
  split
  · rename_i h
    exact digits_split h
  · trivial

theorem skipOptional_sound (cs p : List UInt8) (hcs : 0 ∉ cs) :
    (skipOptional cs p).Sound fun q => ∃ sign, (sign = [] ∨ ∃ c ∈ cs, sign = [c]) ∧
      p = sign ++ q := by
  unfold skipOptional
  split
  · rename_i hmem
    have hne : peek p ≠ 0 := fun h => hcs (h ▸ hmem)
    obtain ⟨q, hq⟩ := cons_of_peek rfl hne
    rw [hq] at hmem ⊢
    exact ⟨[peek p], .inr ⟨_, hmem, rfl⟩, rfl⟩
  · exact ⟨[], .inl rfl, rfl⟩

theorem intEnd_sound (p : List UInt8) :
    (intEnd p).Sound fun q => ∃ int, IntPart int ∧ p = int ++ q := by
  unfold intEnd
  split
  · rename_i hzero
    obtain ⟨q, rfl⟩ := cons_of_peek hzero (by decide)
    exact ⟨[0x30], .zero, rfl⟩
  · split
    · trivial
    · rename_i hrange
      simp only [not_or, UInt8.not_lt] at hrange
      cases p with
      | nil => exact absurd hrange.1 (by decide)
      | cons d q =>
        have hdigit : isDigit d = true := by
          have hlow : (0x30 : UInt8) ≤ d := UInt8.le_trans (by decide) hrange.1
          simp only [isDigit, hlow, decide_true, Bool.true_and, decide_eq_true_eq]
          exact hrange.2
        obtain ⟨ds, hds, hq⟩ := skipDigits_split q
        have hskip : skipDigits (d :: q) = skipDigits q := List.dropWhile_cons_of_pos hdigit
        refine ⟨d :: ds, .digits d ds hrange.1 hrange.2 hds, ?_⟩
        rw [hskip, List.cons_append, ← hq]

theorem fracEnd_sound (p : List UInt8) :
    (fracEnd p).Sound fun q => ∃ frac, FracPart frac ∧ p = frac ++ q := by
  unfold fracEnd
  split
  · rename_i hdot
    obtain ⟨q, rfl⟩ := cons_of_peek hdot (by decide)
    simp only [bump_cons, Scan.ok_bind]
    apply (someDigits_sound q).mono
    rintro r ⟨d, ds, hd, hds, rfl⟩
    exact ⟨dot :: d :: ds, .some d ds hd hds, rfl⟩
  · exact ⟨[], .none, rfl⟩

theorem expEnd_sound (p : List UInt8) :
    (expEnd p).Sound fun q => ∃ exp, ExpPart exp ∧ p = exp ++ q := by
  unfold expEnd
  split
  · rename_i he
    have hcons : ∃ q, p = peek p :: q := by
      rcases he with he | he
      · obtain ⟨q, rfl⟩ := cons_of_peek he (by decide)
        exact ⟨q, rfl⟩
      · obtain ⟨q, rfl⟩ := cons_of_peek he (by decide)
        exact ⟨q, rfl⟩
    obtain ⟨q, hq⟩ := hcons
    rw [hq] at he ⊢
    simp only [bump_cons, Scan.ok_bind]
    apply (skipOptional_sound [plus, minus] q (by decide)).bind
    rintro r ⟨sign, hmem, hr⟩
    have hsign : sign = [] ∨ sign = [plus] ∨ sign = [minus] := by
      simpa [plus, minus] using hmem
    apply (someDigits_sound r).mono
    rintro t ⟨d, ds, hd, hds, ht⟩
    refine ⟨peek p :: sign ++ d :: ds, .some _ d sign ds he hsign hd hds, ?_⟩
    rw [hr, ht]
    simp only [List.cons_append, List.append_assoc]
  · exact ⟨[], .none, rfl⟩

theorem numberEnd_sound (p : List UInt8) :
    (numberEnd p).Sound fun q => ∃ v, Number v ∧ p = v ++ q := by
  unfold numberEnd
  apply (skipOptional_sound [minus] p (by decide)).bind
  rintro q ⟨sign, hmem, rfl⟩
  have hsign : sign = [] ∨ sign = [minus] := by
    simpa [minus] using hmem
  apply (intEnd_sound q).bind
  rintro r ⟨int, hint, rfl⟩
  apply (fracEnd_sound r).bind
  rintro s ⟨frac, hfrac, rfl⟩
  apply (expEnd_sound s).mono
  rintro t ⟨exp, hexp, rfl⟩
  refine ⟨sign ++ int ++ frac ++ exp, ⟨sign, int, frac, exp, hsign, hint, hfrac, hexp, rfl⟩, ?_⟩
  simp only [List.append_assoc]

/-! ## Values -/

theorem closing_ne_zero (object : Bool) : closing object ≠ 0 := by
  cases object <;> decide

theorem memberLabel_sound (object : Bool) (p : List UInt8) :
    (memberLabel object p).Sound fun q => ∃ label name, p = label ++ q ∧
      if object = true then ∃ key w, Str key name ∧ Ws w ∧ label = key ++ w ++ [colon]
      else label = [] := by
  unfold memberLabel
  cases object with
  | false => exact ⟨[], [], rfl, rfl⟩
  | true =>
    simp only [↓reduceIte]
    apply (readString_sound none p).bind
    rintro ⟨name, q⟩ ⟨key, hkey, rfl⟩
    obtain ⟨w, hw, hq⟩ := skipWs_split q
    dsimp only
    split
    · trivial
    · rename_i hcolon
      obtain ⟨r, hr⟩ := cons_of_peek (Decidable.not_not.mp hcolon) (by decide)
      rw [hr] at hq ⊢
      refine ⟨key ++ w ++ [colon], name, ?_, key, w, hkey, hw, rfl⟩
      rw [hq]
      simp only [List.append_assoc, List.cons_append, List.nil_append]

/-- An entry with more whitespace before it. -/
def Entry.spaced (w : List UInt8) (e : Entry) : Entry := { e with before := w ++ e.before }

theorem Entry.spaced_text (w : List UInt8) (e : Entry) : (e.spaced w).text = w ++ e.text := by
  simp only [Entry.spaced, Entry.text, List.append_assoc]

theorem ws_nil : Ws [] := nofun

theorem Ws.append {w w' : List UInt8} (h : Ws w) (h' : Ws w') : Ws (w ++ w') := by
  intro c hc
  rcases List.mem_append.mp hc with hc | hc
  · exact h c hc
  · exact h' c hc

theorem Entry.Formed.spaced {object : Bool} {w : List UInt8} {e : Entry} (h : e.Formed object)
    (hw : Ws w) : (e.spaced w).Formed object :=
  ⟨hw.append h.before, h.gap, h.after, h.label⟩

/-- An entry of either kind from its pieces. -/
theorem formed_of_pieces {object : Bool} {label name w v after : List UInt8} (hw : Ws w)
    (hafter : Ws after)
    (hlabel : if object = true then ∃ key w, Str key name ∧ Ws w ∧ label = key ++ w ++ [colon]
      else label = []) :
    ∃ e : Entry, e.Formed object ∧ e.value = v ∧ e.text = label ++ w ++ v ++ after := by
  cases object with
  | true =>
    refine ⟨⟨[], label, name, w, v, after⟩, ⟨nofun, hw, hafter, hlabel⟩, rfl, ?_⟩
    simp only [Entry.text, List.nil_append]
  | false =>
    simp only [Bool.false_eq_true, ↓reduceIte] at hlabel
    subst hlabel
    refine ⟨⟨w, [], name, [], v, after⟩, ⟨hw, nofun, hafter, rfl, rfl⟩, rfl, ?_⟩
    simp only [Entry.text, List.nil_append, List.append_nil]

/-- What the loop over the entries takes. -/
theorem entriesEnd_sound {child : List UInt8 → Scan (List UInt8)} {k : Nat}
    (hchild : ∀ p, (child p).Sound fun q => ∃ w v, Ws w ∧ Value k v ∧ p = w ++ v ++ q)
    (object : Bool) (fuel : Nat) (p : List UInt8) (hfuel : p.length < fuel) :
    (entriesEnd child object fuel p).Sound fun q => ∃ first rest,
      (∀ e ∈ first :: rest, e.Formed object) ∧ (∀ e ∈ first :: rest, Value k e.value) ∧
      p = first.text ++ moreEntries rest ++ closing object :: q := by
  induction fuel generalizing p with
  | zero => exact absurd hfuel (Nat.not_lt_zero _)
  | succ fuel ih =>
    unfold entriesEnd
    apply (memberLabel_sound object p).bind
    rintro q ⟨label, name, rfl, hlabel⟩
    apply (hchild q).bind
    rintro r ⟨w, v, hw, hv, rfl⟩
    obtain ⟨after, hafter, hr⟩ := skipWs_split r
    obtain ⟨e, hformed, hvalue, htext⟩ := formed_of_pieces (v := v) hw hafter hlabel
    dsimp only
    split
    · rename_i hclose
      obtain ⟨t, ht⟩ := cons_of_peek hclose (closing_ne_zero object)
      rw [ht] at hr ⊢
      refine ⟨e, [], ?_, ?_, ?_⟩
      · intro e' he'
        rw [List.mem_singleton.mp he']
        exact hformed
      · intro e' he'
        rw [List.mem_singleton.mp he', hvalue]
        exact hv
      · rw [htext, hr]
        simp only [moreEntries, List.flatMap_nil, List.append_assoc, List.nil_append]
    · split
      · trivial
      · rename_i hcomma
        obtain ⟨t, ht⟩ := cons_of_peek (Decidable.not_not.mp hcomma) (by decide)
        rw [ht] at hr ⊢
        simp only [bump_cons, Scan.ok_bind]
        obtain ⟨before, hbefore, hsplit⟩ := skipWs_split t
        have hlength : (skipWs t).length < fuel := by
          have hle : (skipWs t).length ≤ t.length := by
            conv_rhs => rw [hsplit, List.length_append]
            omega
          rw [hr] at hfuel
          simp only [List.length_append, List.length_cons] at hfuel
          omega
        apply (ih (skipWs t) hlength).mono
        rintro u ⟨first, rest, hformed', hvalues, hu⟩
        refine ⟨e, first.spaced before :: rest, ?_, ?_, ?_⟩
        · intro e' he'
          rcases List.mem_cons.mp he' with rfl | he'
          · exact hformed
          · rcases List.mem_cons.mp he' with rfl | he'
            · exact (hformed' first List.mem_cons_self).spaced hbefore
            · exact hformed' e' (List.mem_cons_of_mem _ he')
        · intro e' he'
          rcases List.mem_cons.mp he' with rfl | he'
          · rw [hvalue]
            exact hv
          · rcases List.mem_cons.mp he' with rfl | he'
            · exact hvalues first List.mem_cons_self
            · exact hvalues e' (List.mem_cons_of_mem _ he')
        · rw [htext, hr, hsplit, hu]
          simp only [moreEntries, List.flatMap_cons, Entry.spaced_text, List.append_assoc,
            List.cons_append]

theorem containerEnd_sound {child : List UInt8 → Scan (List UInt8)} {k : Nat}
    (hchild : ∀ p, (child p).Sound fun q => ∃ w v, Ws w ∧ Value k v ∧ p = w ++ v ++ q)
    (object : Bool) (p : List UInt8) (hopen : peek p = opening object) :
    (containerEnd child object p).Sound fun q => ∃ v, Value (k + 1) v ∧ p = v ++ q := by
  have hne : opening object ≠ 0 := by cases object <;> decide
  obtain ⟨q, rfl⟩ := cons_of_peek hopen hne
  unfold containerEnd
  simp only [bump_cons, Scan.ok_bind]
  obtain ⟨w, hw, hq⟩ := skipWs_split q
  split
  · rename_i hclose
    obtain ⟨r, hr⟩ := cons_of_peek hclose (closing_ne_zero object)
    rw [hr] at hq ⊢
    refine ⟨opening object :: w ++ [closing object], .empty object hw, ?_⟩
    rw [hq]
    simp only [List.cons_append, List.append_assoc, List.nil_append]
  · apply (entriesEnd_sound hchild object _ (skipWs q) (Nat.lt_succ_self _)).mono
    rintro r ⟨first, rest, hformed, hvalues, hr⟩
    refine ⟨containerText object (first.spaced w) rest, .container object ?_ ?_, ?_⟩
    · intro e he
      rcases List.mem_cons.mp he with rfl | he
      · exact (hformed first List.mem_cons_self).spaced hw
      · exact hformed e (List.mem_cons_of_mem _ he)
    · intro e he
      rcases List.mem_cons.mp he with rfl | he
      · exact hvalues first List.mem_cons_self
      · exact hvalues e (List.mem_cons_of_mem _ he)
    · rw [hq, hr]
      simp only [containerText, Entry.spaced_text, List.cons_append, List.append_assoc,
        List.nil_append]

/-- A value with the whitespace before it. -/
theorem valueEnd_sound (levels : Nat) (p : List UInt8) :
    (valueEnd levels p).Sound fun q => ∃ w v, Ws w ∧ Value levels v ∧ p = w ++ v ++ q := by
  induction levels generalizing p with
  | zero => trivial
  | succ k ih =>
    obtain ⟨w, hw, hp⟩ := skipWs_split p
    unfold valueEnd
    dsimp only
    have hlift : ∀ q, (∃ v, Value (k + 1) v ∧ skipWs p = v ++ q) →
        ∃ w v, Ws w ∧ Value (k + 1) v ∧ p = w ++ v ++ q := by
      rintro q ⟨v, hv, hq⟩
      exact ⟨w, v, hw, hv, by rw [List.append_assoc, ← hq]; exact hp⟩
    split
    · apply (readString_sound none (skipWs p)).bind
      rintro ⟨decoded, q⟩ ⟨text, hstr, hq⟩
      exact hlift q ⟨text, .string hstr, hq⟩
    · split
      · rename_i hopen
        have hopening : peek (skipWs p) = opening (peek (skipWs p) == openBrace) := by
          rcases hopen with hopen | hopen
          · rw [hopen]
            rfl
          · rw [hopen]
            rfl
        exact (containerEnd_sound ih _ _ hopening).mono hlift
      · split
        · rename_i l hfind
          have hmem := List.mem_of_find?_eq_some hfind
          have hmatch := List.find?_some hfind
          obtain ⟨q, hq⟩ := List.isPrefixOf_iff_prefix.mp hmatch
          apply hlift
          refine ⟨l, .literal hmem, ?_⟩
          rw [← hq, List.drop_left]
        · apply (numberEnd_sound (skipWs p)).mono
          rintro q ⟨v, hv, hq⟩
          exact hlift q ⟨v, .number hv, hq⟩

end Lgnome.Json
