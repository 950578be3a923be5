import Lgnome.Json.Sound

/-!
# What is in the grammar the scanner accepts

A scanner is run on a piece of the grammar with something behind it. Strings and
containers close themselves; a number ends where what is behind it does not
continue it, which every separator and every bracket ensures.
-/
namespace Lgnome.Json

open Lgnome.Bytes

/-! ## Strings -/

theorem readHex4_complete {digits : List UInt8} {v r : Nat} (h : hexDigits v digits = some r)
    (q : List UInt8) : readHex4 digits.length v (digits ++ q) = .ok (r, q) := by
  induction digits generalizing v with
  | nil =>
    cases h
    rfl
  | cons c digits ih =>
    obtain ⟨d, hd, hrest⟩ := Option.bind_eq_some_iff.mp h
    simp only [List.length_cons, List.cons_append, readHex4, peek_cons, hd, bump_cons,
      Scan.ok_bind, shift_digit (hexValue_lt hd)]
    exact ih hrest

theorem Hex4.read {digits : List UInt8} {v : Nat} (h : Hex4 digits v) (q : List UInt8) :
    readHex4 4 0 (digits ++ q) = .ok (v, q) := by
  rw [← h.1]
  exact readHex4_complete h.2 q

theorem readLow_complete {low : List UInt8} {v w : Nat} (hlow : Hex4 low w) (hv : IsHigh v)
    (hw : IsLow w) (q : List UInt8) :
    readLow v (backslash :: letterU :: low ++ q) = .ok (pairValue v w, q) := by
  have hrange : ¬ (w < 0xdc00 ∨ 0xdfff < w) := by
    unfold IsLow at hw
    omega
  unfold readLow
  simp only [List.cons_append, peek_cons, ne_eq, not_true_eq_false, ↓reduceIte, bump_cons,
    Scan.ok_bind, hlow.read q, if_neg hrange, pair_shift hv hw]

theorem readChar_complete {c bytes : List UInt8} (h : StringChar c bytes) (q : List UInt8) :
    readChar (c ++ q) = .ok (bytes, q) := by
  unfold readChar
  cases h with
  | plain c hcontrol hquote hslash =>
    have hlow : ¬ c < 0x20 := UInt8.not_lt.mpr hcontrol
    rw [List.cons_append, peek_cons, if_neg hlow, if_neg hslash, bump_cons]
    rfl
  | short e c hescape =>
    have hu : e ≠ letterU := by
      rintro rfl
      cases hescape
    have hlow : ¬ backslash < 0x20 := by decide
    simp only [List.cons_append, List.nil_append, peek_cons, if_neg hlow, ↓reduceIte, bump_cons,
      Scan.ok_bind, if_neg hu, hescape]
  | unicode digits v hhex hzero hhigh hlow =>
    have hcontrol : ¬ backslash < 0x20 := by decide
    unfold IsHigh at hhigh
    unfold IsLow at hlow
    simp only [List.cons_append, peek_cons, if_neg hcontrol, ↓reduceIte, bump_cons, Scan.ok_bind,
      readUnicode, hhex.read q, if_neg hzero, if_neg hhigh, if_neg hlow,
      unit_scalar hhex hhigh hlow]
  | pair high low v w hhex hhex' hv hw =>
    have hcontrol : ¬ backslash < 0x20 := by decide
    have hzero : v ≠ 0 := by
      rintro rfl
      exact absurd hv.1 (by decide)
    have hread := hhex.read (backslash :: letterU :: low ++ q)
    have hrest := readLow_complete hhex' hv hw q
    have hscalar := pair_scalar hv hw
    unfold IsHigh at hv
    simp only [List.cons_append, List.append_assoc] at hread hrest ⊢
    simp only [peek_cons, if_neg hcontrol, ↓reduceIte, bump_cons, Scan.ok_bind, readUnicode, hread,
      if_neg hzero, if_pos hv, hrest, hscalar]

theorem backslash_ne : ¬ (backslash = 0 ∨ backslash = quote) := by decide

theorem StringChar.peek_ne {c bytes : List UInt8} (h : StringChar c bytes) (q : List UInt8) :
    ¬ (peek (c ++ q) = 0 ∨ peek (c ++ q) = quote) := by
  cases h with
  | plain c hcontrol hquote hslash =>
    rintro (h | h)
    · rw [List.cons_append, peek_cons] at h
      subst h
      exact absurd hcontrol (by decide)
    · exact hquote h
  | short => exact backslash_ne
  | unicode => exact backslash_ne
  | pair => exact backslash_ne

/-- What does not fit behind `m` bytes that do. -/
theorem overflows_add {cap : Option Nat} {written m : Nat} (h : overflows cap written m = false)
    (n : Nat) : overflows cap (written + m) n = overflows cap written (m + n) := by
  cases cap with
  | none => rfl
  | some cap =>
    simp only [overflows, Bool.or_eq_false_iff, decide_eq_false_iff_not] at h ⊢
    rw [Bool.eq_iff_iff]
    simp only [Bool.or_eq_true, decide_eq_true_eq]
    omega

theorem overflows_mono {cap : Option Nat} {written m : Nat} (h : overflows cap written m = true)
    (n : Nat) : overflows cap written (m + n) = true := by
  cases cap with
  | none => cases h
  | some cap =>
    simp only [overflows, Bool.or_eq_true, decide_eq_true_eq] at h ⊢
    omega

/-- Characters that stand for themselves. -/
def PlainText (text : List UInt8) : Prop := ∀ c ∈ text, 0x20 ≤ c ∧ c ≠ quote ∧ c ≠ backslash

instance (text : List UInt8) : Decidable (PlainText text) := List.decidableBAll _ text

theorem chars_plain {text : List UInt8} (h : PlainText text) : Chars text text := by
  induction text with
  | nil => exact .nil
  | cons c text ih =>
    obtain ⟨hcontrol, hquote, hslash⟩ := h c List.mem_cons_self
    exact .cons (.plain c hcontrol hquote hslash) (ih fun d hd => h d (List.mem_cons_of_mem _ hd))

theorem readChars_complete {text decoded : List UInt8} (h : Chars text decoded) (q : List UInt8)
    (hq : peek q = quote) (cap : Option Nat) (fuel : Nat) (out : List UInt8)
    (hfuel : text.length < fuel) (hout : overflows cap out.length 0 = false) :
    readChars cap fuel out (text ++ q) =
      if overflows cap out.length decoded.length then .reject else .ok (out ++ decoded, q) := by
  induction h generalizing fuel out with
  | nil =>
    obtain ⟨fuel, rfl⟩ : ∃ n, fuel = n + 1 := ⟨fuel - 1, by omega⟩
    rw [List.nil_append, readChars, if_pos (.inr hq), List.length_nil, hout, List.append_nil]
    rfl
  | @cons c bytes text decoded hchar hchars ih =>
    obtain ⟨fuel, rfl⟩ : ∃ n, fuel = n + 1 := ⟨fuel - 1, by omega⟩
    have hpos := hchar.length_pos
    rw [List.length_append] at hfuel
    rw [List.append_assoc, readChars, if_neg (hchar.peek_ne _), readChar_complete hchar,
      Scan.ok_bind, List.length_append]
    cases hover : overflows cap out.length bytes.length with
    | true =>
      rw [overflows_mono hover]
      rfl
    | false =>
      have hnext : overflows cap (out ++ bytes).length 0 = false := by
        rw [List.length_append, overflows_add hover]
        exact hover
      simp only [Bool.false_eq_true, ↓reduceIte]
      rw [ih fuel (out ++ bytes) (by omega) hnext, List.length_append, overflows_add hover,
        List.append_assoc]

/-- A string is read, unless there is a buffer that it does not fit. -/
theorem Str.read {text decoded : List UInt8} (h : Str text decoded) (cap : Option Nat)
    (hcap : overflows cap 0 0 = false) (q : List UInt8) :
    readString cap (text ++ q) =
      if overflows cap 0 decoded.length then .reject else .ok (decoded, q) := by
  obtain ⟨body, hchars, rfl⟩ := h
  have hlength : body.length < (body ++ quote :: q).length + 1 := by
    rw [List.length_append]
    omega
  have hbody := readChars_complete hchars (quote :: q) rfl cap _ [] hlength hcap
  unfold readString
  simp only [List.cons_append, List.append_assoc, List.nil_append, peek_cons, ne_eq,
    not_true_eq_false, ↓reduceIte, bump_cons, Scan.ok_bind, hbody, List.length_nil]
  cases hover : overflows cap 0 decoded.length with
  | true => rfl
  | false =>
    have hlast : overflows cap decoded.length 0 = false := by
      rw [← Nat.zero_add decoded.length, overflows_add hover]
      exact hover
    simp only [Bool.false_eq_true, ↓reduceIte, Scan.ok_bind, peek_cons, not_true_eq_false, hlast,
      bump_cons]

theorem Str.read_none {text decoded : List UInt8} (h : Str text decoded) (q : List UInt8) :
    readString none (text ++ q) = .ok (decoded, q) :=
  h.read none rfl q

/-! ## Whitespace and what ends a value -/

theorem skipWs_append {w : List UInt8} (h : Ws w) (p : List UInt8) : skipWs (w ++ p) = skipWs p :=
  List.dropWhile_append_of_pos h

theorem skipWs_self {p : List UInt8} (h : isWs (peek p) = false) : skipWs p = p := by
  cases p with
  | nil => rfl
  | cons c p => exact List.dropWhile_cons_of_neg (by rw [peek_cons] at h; rw [h]; decide)

theorem skipWs_ws {w p : List UInt8} (hw : Ws w) (h : isWs (peek p) = false) :
    skipWs (w ++ p) = p := by
  rw [skipWs_append hw, skipWs_self h]

/-- What may stand behind a value. -/
def Delimited (q : List UInt8) : Prop :=
  isWs (peek q) = true ∨ peek q = comma ∨ peek q = closeBrace ∨ peek q = closeBracket ∨ peek q = 0

theorem Delimited.spaced {w q : List UInt8} (hw : Ws w) (h : Delimited q) : Delimited (w ++ q) := by
  cases w with
  | nil => exact h
  | cons c w => exact .inl (hw c List.mem_cons_self)

theorem delimited_closing (object : Bool) (q : List UInt8) : Delimited (closing object :: q) := by
  cases object with
  | true => exact .inr (.inr (.inl rfl))
  | false => exact .inr (.inr (.inr (.inl rfl)))

theorem delimited_comma (q : List UInt8) : Delimited (comma :: q) := .inr (.inl rfl)

/-- The next byte is none of these. -/
theorem Delimited.ne {q : List UInt8} (h : Delimited q) {c : UInt8} (hws : isWs c = false)
    (hc : c ≠ comma) (hbrace : c ≠ closeBrace) (hbracket : c ≠ closeBracket) (hzero : c ≠ 0) :
    peek q ≠ c := by
  rintro rfl
  rcases h with h | h | h | h | h
  · rw [hws] at h
    cases h
  · exact hc h
  · exact hbrace h
  · exact hbracket h
  · exact hzero h

theorem Delimited.not_digit {q : List UInt8} (h : Delimited q) : isDigit (peek q) = false := by
  rcases h with h | h | h | h | h
  · simp only [isWs, Bool.or_eq_true, beq_iff_eq] at h
    rcases h with ((h | h) | h) | h <;> rw [h] <;> decide
  all_goals rw [h]; decide

/-! ## Numbers -/

theorem skipDigits_append {ds q : List UInt8} (hds : Digits ds) (h : isDigit (peek q) = false) :
    skipDigits (ds ++ q) = q := by
  unfold skipDigits
  rw [List.dropWhile_append_of_pos hds]
  cases q with
  | nil => rfl
  | cons c q => exact List.dropWhile_cons_of_neg (by rw [peek_cons] at h; rw [h]; decide)

theorem someDigits_complete {d : UInt8} {ds q : List UInt8} (hd : isDigit d = true)
    (hds : Digits ds) (h : isDigit (peek q) = false) :
    someDigits (d :: ds ++ q) = .ok q := by
  have hall : Digits (d :: ds) := List.forall_mem_cons.mpr ⟨hd, hds⟩
  unfold someDigits
  rw [skipDigits_append hall h, List.cons_append, peek_cons, if_pos hd]

/-- The first byte of what stands behind the sign, the digits or the fraction of a number. -/
structure Apart (q : List UInt8) : Prop where
  digit : isDigit (peek q) = false
  dot : peek q ≠ dot

theorem apart_cons {c : UInt8} {q : List UInt8} (hdigit : isDigit c = false) (hdot : c ≠ dot) :
    Apart (c :: q) := ⟨hdigit, hdot⟩

theorem Delimited.apart {q : List UInt8} (h : Delimited q) : Apart q :=
  ⟨h.not_digit, h.ne (by decide) (by decide) (by decide) (by decide) (by decide)⟩

theorem expEnd_complete {exp q : List UInt8} (h : ExpPart exp) (hq : Delimited q) :
    expEnd (exp ++ q) = .ok q := by
  unfold expEnd
  cases h with
  | none =>
    have he : ¬ (peek q = 0x65 ∨ peek q = 0x45) := by
      rintro (he | he)
      · exact hq.ne (by decide) (by decide) (by decide) (by decide) (by decide) he
      · exact hq.ne (by decide) (by decide) (by decide) (by decide) (by decide) he
    rw [List.nil_append, if_neg he]
  | some e d sign ds he hsign hd hds =>
    have hdigits := someDigits_complete hd hds hq.not_digit
    have hplain : ¬ d ∈ [plus, minus] := by
      intro hmem
      rcases List.mem_pair.mp hmem with rfl | rfl
      · exact absurd hd (by decide)
      · exact absurd hd (by decide)
    rw [List.append_assoc, List.cons_append, peek_cons, if_pos he, bump_cons, Scan.ok_bind]
    unfold skipOptional
    rcases hsign with rfl | rfl | rfl
    · rw [List.nil_append, List.cons_append, peek_cons, if_neg hplain, Scan.ok_bind]
      exact hdigits
    · rw [List.cons_append, peek_cons, if_pos (by decide), bump_cons, Scan.ok_bind]
      exact hdigits
    · rw [List.cons_append, peek_cons, if_pos (by decide), bump_cons, Scan.ok_bind]
      exact hdigits

theorem ExpPart.apart {exp q : List UInt8} (h : ExpPart exp) (hq : Delimited q) :
    Apart (exp ++ q) := by
  cases h with
  | none => exact hq.apart
  | some e d sign ds he hsign hd hds =>
    rcases he with rfl | rfl
    · exact apart_cons (by decide) (by decide)
    · exact apart_cons (by decide) (by decide)

theorem fracEnd_complete {frac q : List UInt8} (h : FracPart frac) (hq : Apart q) :
    fracEnd (frac ++ q) = .ok q := by
  unfold fracEnd
  cases h with
  | none => rw [List.nil_append, if_neg hq.dot]
  | some d ds hd hds =>
    rw [List.cons_append, peek_cons, if_pos rfl, bump_cons, Scan.ok_bind]
    exact someDigits_complete hd hds hq.digit

theorem FracPart.no_digit {frac q : List UInt8} (h : FracPart frac) (hq : Apart q) :
    isDigit (peek (frac ++ q)) = false := by
  cases h with
  | none => exact hq.digit
  | some => exact (by decide : isDigit dot = false)

theorem intEnd_complete {int q : List UInt8} (h : IntPart int) (hq : isDigit (peek q) = false) :
    intEnd (int ++ q) = .ok q := by
  unfold intEnd
  cases h with
  | zero => rw [List.cons_append, peek_cons, if_pos rfl, bump_cons, List.nil_append]
  | digits d ds hlow hhigh hds =>
    have hzero : d ≠ 0x30 := by
      rintro rfl
      exact absurd hlow (by decide)
    have hrange : ¬ (d < 0x31 ∨ 0x39 < d) := by
      simp only [not_or, UInt8.not_lt]
      exact ⟨hlow, hhigh⟩
    have hall : Digits (d :: ds) := by
      refine List.forall_mem_cons.mpr ⟨?_, hds⟩
      simp only [isDigit, Bool.and_eq_true, decide_eq_true_eq]
      exact ⟨UInt8.le_trans (by decide) hlow, hhigh⟩
    rw [skipDigits_append hall hq, List.cons_append, peek_cons, if_neg hzero, if_neg hrange]

theorem IntPart.head {int : List UInt8} (h : IntPart int) : ∃ d ds, int = d :: ds ∧
    isDigit d = true := by
  cases h with
  | zero => exact ⟨0x30, [], rfl, by decide⟩
  | digits d ds hlow hhigh =>
    refine ⟨d, ds, rfl, ?_⟩
    simp only [isDigit, Bool.and_eq_true, decide_eq_true_eq]
    exact ⟨UInt8.le_trans (by decide) hlow, hhigh⟩

theorem numberEnd_complete {v q : List UInt8} (h : Number v) (hq : Delimited q) :
    numberEnd (v ++ q) = .ok q := by
  obtain ⟨sign, int, frac, exp, hsign, hint, hfrac, hexp, rfl⟩ := h
  have hexpEnd := expEnd_complete hexp hq
  have hfracEnd := fracEnd_complete hfrac (hexp.apart hq)
  have hintEnd := intEnd_complete hint (hfrac.no_digit (hexp.apart hq))
  obtain ⟨d, ds, hhead, hd⟩ := hint.head
  have hplain : ¬ d ∈ [minus] := by
    intro hmem
    rw [List.mem_singleton.mp hmem] at hd
    exact absurd hd (by decide)
  have hskip : skipOptional [minus] (sign ++ (int ++ (frac ++ (exp ++ q)))) =
      .ok (int ++ (frac ++ (exp ++ q))) := by
    unfold skipOptional
    rcases hsign with rfl | rfl
    · rw [List.nil_append, hhead, List.cons_append, peek_cons, if_neg hplain]
    · rw [List.cons_append, peek_cons, if_pos (by decide), bump_cons, List.nil_append]
  unfold numberEnd
  rw [List.append_assoc, List.append_assoc, List.append_assoc, hskip, Scan.ok_bind, hintEnd,
    Scan.ok_bind, hfracEnd, Scan.ok_bind, hexpEnd]

/-! ## Values -/

/-- The first byte of a value is none that a reader skips or stops at. -/
structure Starts (q : List UInt8) : Prop where
  ws : isWs (peek q) = false
  close : ∀ object, peek q ≠ closing object

theorem starts_cons {c : UInt8} {q : List UInt8} (hws : isWs c = false) (hbrace : c ≠ closeBrace)
    (hbracket : c ≠ closeBracket) : Starts (c :: q) := by
  refine ⟨hws, fun object => ?_⟩
  cases object with
  | true => exact hbrace
  | false => exact hbracket

theorem Str.starts {v decoded : List UInt8} (h : Str v decoded) (q : List UInt8) :
    Starts (v ++ q) := by
  obtain ⟨body, -, rfl⟩ := h
  exact starts_cons (by decide) (by decide) (by decide)

theorem starts_digit {d : UInt8} {q : List UInt8} (hd : isDigit d = true) : Starts (d :: q) := by
  refine starts_cons ?_ ?_ ?_
  · cases hws : isWs d with
    | false => rfl
    | true =>
      have hsep : Delimited [d] := .inl hws
      rw [show isDigit d = false from hsep.not_digit] at hd
      cases hd
  · rintro rfl
    exact absurd hd (by decide)
  · rintro rfl
    exact absurd hd (by decide)

/-- The first byte of a number. -/
theorem Number.head {v : List UInt8} (h : Number v) :
    ∃ c t, v = c :: t ∧ (c = minus ∨ isDigit c = true) := by
  obtain ⟨sign, int, frac, exp, hsign, hint, -, -, rfl⟩ := h
  obtain ⟨d, ds, rfl, hd⟩ := hint.head
  rcases hsign with rfl | rfl
  · exact ⟨d, ds ++ frac ++ exp, rfl, .inr hd⟩
  · exact ⟨minus, d :: ds ++ frac ++ exp, rfl, .inl rfl⟩

theorem Number.starts {v : List UInt8} (h : Number v) (q : List UInt8) : Starts (v ++ q) := by
  obtain ⟨c, t, rfl, hc | hc⟩ := h.head
  · subst hc
    exact starts_cons (by decide) (by decide) (by decide)
  · exact starts_digit hc

theorem starts_opening (object : Bool) (q : List UInt8) : Starts (opening object :: q) := by
  cases object with
  | true => exact starts_cons (by decide) (by decide) (by decide)
  | false => exact starts_cons (by decide) (by decide) (by decide)

theorem Value.starts {k : Nat} {v : List UInt8} (h : Value k v) (q : List UInt8) :
    Starts (v ++ q) := by
  cases h with
  | literal hmem =>
    simp only [literals, List.mem_cons, List.not_mem_nil, or_false] at hmem
    rcases hmem with rfl | rfl | rfl
    · exact starts_cons (by decide) (by decide) (by decide)
    · exact starts_cons (by decide) (by decide) (by decide)
    · exact starts_cons (by decide) (by decide) (by decide)
  | number hnumber => exact hnumber.starts q
  | string hstr => exact hstr.starts q
  | empty object => exact starts_opening object _
  | container object => exact starts_opening object _

/-- An entry without the whitespace before it. -/
def Entry.core (e : Entry) : List UInt8 := e.label ++ e.gap ++ e.value ++ e.after

theorem Entry.text_eq (e : Entry) : e.text = e.before ++ e.core := by
  simp only [Entry.text, Entry.core, List.append_assoc]

theorem Entry.Formed.starts {object : Bool} {e : Entry} (h : e.Formed object) {k : Nat}
    (hv : Value k e.value) (q : List UInt8) : Starts (e.core ++ q) := by
  have hlabel := h.label
  cases object with
  | true =>
    obtain ⟨key, w, hkey, -, hlabel⟩ := hlabel
    have hstarts := hkey.starts (w ++ [colon] ++ e.gap ++ e.value ++ e.after ++ q)
    simpa only [Entry.core, hlabel, List.append_assoc] using hstarts
  | false =>
    obtain ⟨hlabel, hgap⟩ := hlabel
    have hstarts := hv.starts (e.after ++ q)
    simpa only [Entry.core, hlabel, hgap, List.nil_append, List.append_assoc] using hstarts

theorem Entry.Formed.skip {object : Bool} {e : Entry} (h : e.Formed object) {k : Nat}
    (hv : Value k e.value) (q : List UInt8) : skipWs (e.text ++ q) = e.core ++ q := by
  rw [Entry.text_eq, List.append_assoc]
  exact skipWs_ws h.before (h.starts hv q).ws

theorem Entry.Formed.readLabel {object : Bool} {e : Entry} (h : e.Formed object)
    (q : List UInt8) : memberLabel object (e.label ++ q) = .ok q := by
  have hlabel := h.label
  unfold memberLabel
  cases object with
  | false =>
    rw [hlabel.1]
    rfl
  | true =>
    obtain ⟨key, w, hkey, hw, hlabel⟩ := hlabel
    have hskip : skipWs (w ++ colon :: q) = colon :: q := skipWs_ws hw (show isWs colon = false from rfl)
    rw [hlabel, List.append_assoc, List.append_assoc, if_pos rfl, hkey.read_none]
    simp only [Scan.ok_bind, List.cons_append, List.nil_append, hskip, peek_cons, ne_eq,
      not_true_eq_false, ↓reduceIte, bump_cons]

/-- What the scanner of values does on a value. -/
def Takes (child : List UInt8 → Scan (List UInt8)) (v : List UInt8) : Prop :=
  ∀ w q, Ws w → Delimited q → child (w ++ v ++ q) = .ok q

theorem closing_ne_comma (object : Bool) : comma ≠ closing object := by
  cases object <;> decide

theorem closing_not_ws (object : Bool) : isWs (closing object) = false := by
  cases object <;> rfl

/-- The entries of a container, from the core of the first on. -/
theorem entriesEnd_complete {child : List UInt8 → Scan (List UInt8)} {object : Bool} {k : Nat}
    {first : Entry} {rest : List Entry} (hformed : ∀ e ∈ first :: rest, e.Formed object)
    (hvalues : ∀ e ∈ first :: rest, Value k e.value)
    (hchild : ∀ e ∈ first :: rest, Takes child e.value) (q : List UInt8) (fuel : Nat)
    (hfuel : rest.length < fuel) :
    entriesEnd child object fuel (first.core ++ (moreEntries rest ++ closing object :: q)) =
      .ok q := by
  induction rest generalizing first fuel with
  | nil =>
    obtain ⟨fuel, rfl⟩ : ∃ n, fuel = n + 1 := ⟨fuel - 1, by omega⟩
    have hf := hformed first List.mem_cons_self
    have hlabel := hf.readLabel (first.gap ++ first.value ++ (first.after ++ closing object :: q))
    have hvalue := hchild first List.mem_cons_self first.gap (first.after ++ closing object :: q)
      hf.gap ((delimited_closing object q).spaced hf.after)
    have hskip : skipWs (first.after ++ closing object :: q) = closing object :: q :=
      skipWs_ws hf.after (closing_not_ws object)
    unfold entriesEnd
    simp only [Entry.core, moreEntries, List.flatMap_nil, List.nil_append, List.append_assoc] at *
    rw [hlabel, Scan.ok_bind, hvalue, Scan.ok_bind, hskip, peek_cons, if_pos rfl, bump_cons]
  | cons second rest ih =>
    obtain ⟨fuel, rfl⟩ : ∃ n, fuel = n + 1 := ⟨fuel - 1, by omega⟩
    have hf := hformed first List.mem_cons_self
    have hsecond := hformed second (List.mem_cons_of_mem _ List.mem_cons_self)
    have hv := hvalues second (List.mem_cons_of_mem _ List.mem_cons_self)
    have htail := ih (fun e he => hformed e (List.mem_cons_of_mem _ he))
      (fun e he => hvalues e (List.mem_cons_of_mem _ he))
      (fun e he => hchild e (List.mem_cons_of_mem _ he)) fuel (Nat.lt_of_succ_lt_succ hfuel)
    generalize hmore : moreEntries rest ++ closing object :: q = more at htail
    have hlabel := hf.readLabel
      (first.gap ++ first.value ++ (first.after ++ comma :: (second.text ++ more)))
    have hvalue := hchild first List.mem_cons_self first.gap
      (first.after ++ comma :: (second.text ++ more)) hf.gap
      ((delimited_comma _).spaced hf.after)
    have hskip : skipWs (first.after ++ comma :: (second.text ++ more)) =
        comma :: (second.text ++ more) := skipWs_ws hf.after (show isWs comma = false from rfl)
    have hnext := hsecond.skip hv more
    unfold entriesEnd
    have hmore' : moreEntries (second :: rest) ++ closing object :: q =
        comma :: (second.text ++ more) := by
      rw [← hmore]
      simp only [moreEntries, List.flatMap_cons, List.cons_append, List.append_assoc]
    rw [hmore']
    simp only [Entry.core, List.append_assoc] at hlabel hvalue htail hnext ⊢
    rw [hlabel, Scan.ok_bind, hvalue, Scan.ok_bind, hskip, peek_cons,
      if_neg (closing_ne_comma object), if_neg (by decide), bump_cons, Scan.ok_bind, hnext]
    exact htail

theorem moreEntries_length (rest : List Entry) : rest.length ≤ (moreEntries rest).length := by
  induction rest with
  | nil => exact Nat.le_refl 0
  | cons e rest ih =>
    unfold moreEntries at ih ⊢
    rw [List.flatMap_cons, List.length_append, List.length_cons, List.length_cons]
    omega

theorem containerEnd_empty (child : List UInt8 → Scan (List UInt8)) (object : Bool)
    {w : List UInt8} (hw : Ws w) (q : List UInt8) :
    containerEnd child object (opening object :: w ++ [closing object] ++ q) = .ok q := by
  have hskip : skipWs (w ++ closing object :: q) = closing object :: q :=
    skipWs_ws hw (closing_not_ws object)
  unfold containerEnd
  simp only [List.cons_append, List.append_assoc, List.nil_append, bump_cons, Scan.ok_bind]
  rw [hskip, peek_cons, if_pos rfl, bump_cons]

theorem containerEnd_complete {child : List UInt8 → Scan (List UInt8)} {object : Bool} {k : Nat}
    {first : Entry} {rest : List Entry} (hformed : ∀ e ∈ first :: rest, e.Formed object)
    (hvalues : ∀ e ∈ first :: rest, Value k e.value)
    (hchild : ∀ e ∈ first :: rest, Takes child e.value) (q : List UInt8) :
    containerEnd child object (containerText object first rest ++ q) = .ok q := by
  have hf := hformed first List.mem_cons_self
  have hv := hvalues first List.mem_cons_self
  have hskip := hf.skip hv (moreEntries rest ++ closing object :: q)
  have hstarts := hf.starts hv (moreEntries rest ++ closing object :: q)
  have hlength : rest.length <
      (first.core ++ (moreEntries rest ++ closing object :: q)).length + 1 := by
    have hmore := moreEntries_length rest
    simp only [List.length_append]
    omega
  unfold containerEnd containerText
  simp only [List.cons_append, List.append_assoc, List.nil_append, bump_cons, Scan.ok_bind]
  rw [hskip, if_neg (hstarts.close object)]
  exact entriesEnd_complete hformed hvalues hchild q _ hlength

/-- A literal is found by its first byte. -/
theorem literal_found {l : List UInt8} (h : l ∈ literals) (q : List UInt8) :
    literals.find? (fun m => m.isPrefixOf (l ++ q)) = some l := by
  simp only [literals, List.mem_cons, List.not_mem_nil, or_false] at h
  rcases h with rfl | rfl | rfl <;> rfl

theorem literal_head {l : List UInt8} (h : l ∈ literals) :
    ∃ c t, l = c :: t ∧ (c = 0x74 ∨ c = 0x66 ∨ c = 0x6e) := by
  simp only [literals, List.mem_cons, List.not_mem_nil, or_false] at h
  rcases h with rfl | rfl | rfl
  · exact ⟨_, _, rfl, .inl rfl⟩
  · exact ⟨_, _, rfl, .inr (.inl rfl)⟩
  · exact ⟨_, _, rfl, .inr (.inr rfl)⟩

/-- No literal begins like a number. -/
theorem no_literal {v : List UInt8} (h : Number v) (q : List UInt8) :
    literals.find? (fun m => m.isPrefixOf (v ++ q)) = none := by
  rw [List.find?_eq_none]
  intro l hl hmatch
  obtain ⟨c, t, rfl, hc⟩ := h.head
  obtain ⟨d, s, rfl, hd⟩ := literal_head hl
  rw [List.cons_append, List.isPrefixOf_cons_cons, Bool.and_eq_true, beq_iff_eq] at hmatch
  rw [← hmatch.1] at hc
  rcases hd with rfl | rfl | rfl
  all_goals rcases hc with hc | hc <;> exact absurd hc (by decide)

/-- What a value begins with when it is neither a string nor a container. -/
theorem plain_head {c : UInt8} (h : c = minus ∨ isDigit c = true ∨ c = 0x74 ∨ c = 0x66 ∨ c = 0x6e) :
    c ≠ quote ∧ ¬ (c = openBrace ∨ c = openBracket) := by
  refine ⟨?_, ?_⟩
  · rintro rfl
    exact absurd h (by decide)
  · rintro (rfl | rfl)
    · exact absurd h (by decide)
    · exact absurd h (by decide)

/-- At a bracket the value is a container. -/
theorem valueEnd_opening (k : Nat) (object : Bool) {w : List UInt8} (hw : Ws w)
    (q : List UInt8) : valueEnd (k + 1) (w ++ opening object :: q) =
      containerEnd (valueEnd k) object (opening object :: q) := by
  have hskip : skipWs (w ++ opening object :: q) = opening object :: q :=
    skipWs_ws hw (starts_opening object q).ws
  unfold valueEnd
  simp only [hskip, peek_cons]
  cases object with
  | true =>
    simp only [opening, ↓reduceIte, true_or, if_neg (show openBrace ≠ quote by decide),
      beq_self_eq_true]
  | false =>
    simp only [opening, Bool.false_eq_true, ↓reduceIte, or_true,
      if_neg (show openBracket ≠ quote by decide)]
    rfl

theorem valueEnd_complete {k : Nat} {v : List UInt8} (h : Value k v) : Takes (valueEnd k) v := by
  induction h with
  | @literal k v hmem =>
    intro w q hw hq
    have hskip := skipWs_ws hw ((Value.literal (k := k) hmem).starts q).ws
    obtain ⟨c, t, hct, hc⟩ := literal_head hmem
    obtain ⟨hquote, hopen⟩ := plain_head (.inr (.inr hc))
    have hpeek : peek (v ++ q) = c := by rw [hct]; rfl
    unfold valueEnd
    simp only [List.append_assoc, hskip, hpeek, if_neg hquote, if_neg hopen, literal_found hmem,
      List.drop_left]
  | @number k v hnumber =>
    intro w q hw hq
    have hskip := skipWs_ws hw (hnumber.starts q).ws
    obtain ⟨c, t, hct, hc⟩ := hnumber.head
    obtain ⟨hquote, hopen⟩ : c ≠ quote ∧ ¬ (c = openBrace ∨ c = openBracket) := by
      rcases hc with hc | hc
      · exact plain_head (.inl hc)
      · exact plain_head (.inr (.inl hc))
    have hpeek : peek (v ++ q) = c := by rw [hct]; rfl
    unfold valueEnd
    simp only [List.append_assoc, hskip, hpeek, if_neg hquote, if_neg hopen, no_literal hnumber,
      numberEnd_complete hnumber hq]
  | @string k v decoded hstr =>
    intro w q hw hq
    have hskip := skipWs_ws hw (hstr.starts q).ws
    have hpeek : peek (v ++ q) = quote := by
      obtain ⟨body, -, rfl⟩ := hstr
      rfl
    unfold valueEnd
    simp only [List.append_assoc, hskip, hpeek, ↓reduceIte, hstr.read_none q, Scan.ok_bind]
  | @empty k object w' hw' =>
    intro w q hw hq
    have hempty := containerEnd_empty (valueEnd k) object hw' q
    rw [List.append_assoc]
    simp only [List.cons_append] at hempty ⊢
    rw [valueEnd_opening k object hw]
    exact hempty
  | @container k object first rest hformed hvalues ih =>
    intro w q hw hq
    have hcontainer := containerEnd_complete hformed hvalues ih q
    rw [List.append_assoc]
    simp only [containerText, List.cons_append] at hcontainer ⊢
    rw [valueEnd_opening k object hw]
    exact hcontainer

end Lgnome.Json
