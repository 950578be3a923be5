import Lgnome.Json.Decimal
import Lgnome.Json.Members

/-!
# Reading one field

A field is looked up and read as a string, a number or a Boolean. There are
three answers: nothing under the key, a value, or a value of the wrong kind or
out of its range, which is a refusal.
-/
namespace Lgnome.Json

open Lgnome.Bytes

def scalarEnd (p : List UInt8) : Bool :=
  let p := skipWs p
  peek p == 0 || peek p == comma || peek p == closeBrace || peek p == closeBracket

/-- The common part of the readers. -/
def jsonRead {α : Type} (read : List UInt8 → Scan α) (json key : List UInt8) : Scan (Option α) :=
  match findValue json key with
  | .reject => .ok none
  | .fault => .fault
  | .ok p => do
    let value ← read p
    .ok (some value)

def stringAt (cap : Nat) (p : List UInt8) : Scan (List UInt8) := do
  let string ← readString (some cap) p
  if scalarEnd string.2 then .ok string.1 else .reject

def jsonReadString (json key : List UInt8) (cap : Nat) : Scan (Option (List UInt8)) :=
  jsonRead (stringAt cap) json key

def integerEnd (p : List UInt8) (allowNegative : Bool) : Bool :=
  let p := if allowNegative && peek p == minus then p.tail else p
  if !isDigit (peek p) || (peek p == 0x30 && isDigit (peek p.tail)) then false
  else scalarEnd (skipDigits p)

/-- `strtoul` where a digit stands. A value too large for it is too large for every caller. -/
def strtoul (p : List UInt8) : Nat := digitsValue 0 p

/-- `strtol` where a digit or a sign with a digit stands. -/
def strtol (p : List UInt8) : Int :=
  if peek p = minus then -(digitsValue 0 p.tail : Int) else (digitsValue 0 p : Int)

def u16At (minValue maxValue : Nat) (p : List UInt8) : Scan Nat :=
  if integerEnd p false = false then .reject
  else if strtoul p < minValue ∨ maxValue < strtoul p then .reject
  else .ok (strtoul p)

def jsonReadU16 (json key : List UInt8) (minValue maxValue : Nat) : Scan (Option Nat) :=
  jsonRead (u16At minValue maxValue) json key

def i16At (minValue maxValue : Int) (p : List UInt8) : Scan Int :=
  if integerEnd p true = false then .reject
  else if strtol p < minValue ∨ maxValue < strtol p then .reject
  else .ok (strtol p)

def jsonReadI16 (json key : List UInt8) (minValue maxValue : Int) : Scan (Option Int) :=
  jsonRead (i16At minValue maxValue) json key

def literalTrue : List UInt8 := [0x74, 0x72, 0x75, 0x65]

def literalFalse : List UInt8 := [0x66, 0x61, 0x6c, 0x73, 0x65]

def boolAt (p : List UInt8) : Scan Bool :=
  if literalTrue.isPrefixOf p ∧ scalarEnd (p.drop 4) = true then .ok true
  else if literalFalse.isPrefixOf p ∧ scalarEnd (p.drop 5) = true then .ok false
  else .reject

def jsonReadBool (json key : List UInt8) : Scan (Option Bool) := jsonRead boolAt json key

/-! ## What the readers answer -/

theorem readString_fits {cap : Nat} {p : List UInt8} {r : List UInt8 × List UInt8}
    (h : readString (some cap) p = .ok r) : r.1.length < cap := by
  unfold readString at h
  split at h
  · cases h
  · obtain ⟨q, -, h⟩ := Scan.of_bind h
    obtain ⟨body, -, h⟩ := Scan.of_bind h
    split at h
    · cases h
    · split at h
      · cases h
      · rename_i hover
        obtain ⟨rest, -, h⟩ := Scan.of_bind h
        cases h
        simp only [overflows, Bool.or_eq_true, decide_eq_true_eq, not_or] at hover
        exact Nat.lt_of_not_le hover.1

theorem jsonRead_ok {α : Type} {read : List UInt8 → Scan α} {P : α → Prop}
    (hread : ∀ p a, read p = .ok a → P a) {json key : List UInt8} {r : Option α}
    (h : jsonRead read json key = .ok r) : ∀ a, r = some a → P a := by
  intro a ha
  subst ha
  unfold jsonRead at h
  split at h
  · cases h
  · cases h
  · obtain ⟨value, hvalue, h⟩ := Scan.of_bind h
    cases h
    exact hread _ _ hvalue

theorem stringAt_ok {cap : Nat} {p bytes : List UInt8} (h : stringAt cap p = .ok bytes) :
    bytes.length < cap ∧ 0 ∉ bytes := by
  obtain ⟨string, hstring, h⟩ := Scan.of_bind h
  split at h
  · cases h
    obtain ⟨text, hstr, -⟩ := (readString_sound (some cap) p).of_ok hstring
    exact ⟨readString_fits hstring, hstr.no_zero⟩
  · cases h

theorem u16At_ok {minValue maxValue value : Nat} {p : List UInt8}
    (h : u16At minValue maxValue p = .ok value) : minValue ≤ value ∧ value ≤ maxValue := by
  unfold u16At at h
  split at h
  · cases h
  · split at h
    · cases h
    · cases h
      omega

theorem i16At_ok {minValue maxValue value : Int} {p : List UInt8}
    (h : i16At minValue maxValue p = .ok value) : minValue ≤ value ∧ value ≤ maxValue := by
  unfold i16At at h
  split at h
  · cases h
  · split at h
    · cases h
    · cases h
      omega

/-! ## Reading what was written -/

theorem jsonRead_some {α : Type} {read : List UInt8 → Scan α} {json key p : List UInt8} {a : α}
    (hfound : findValue json key = .ok p) (hread : read p = .ok a) :
    jsonRead read json key = .ok (some a) := by
  unfold jsonRead
  rw [hfound]
  simp only [hread, Scan.ok_bind]

theorem scalarEnd_delimited {q : List UInt8} (h : scalarEnd q = true) : Delimited q := by
  cases hws : isWs (peek q) with
  | true => exact .inl hws
  | false =>
    unfold scalarEnd at h
    rw [skipWs_self hws] at h
    simp only [Bool.or_eq_true, beq_iff_eq] at h
    rcases h with ((h | h) | h) | h
    · exact .inr (.inr (.inr (.inr h)))
    · exact .inr (.inl h)
    · exact .inr (.inr (.inl h))
    · exact .inr (.inr (.inr (.inl h)))

theorem stringAt_str {text bytes q : List UInt8} (h : Str text bytes) {cap : Nat}
    (hcap : bytes.length < cap) (hq : scalarEnd q = true) :
    stringAt cap (text ++ q) = .ok bytes := by
  have hzero : overflows (some cap) 0 0 = false := by
    simp only [overflows, Bool.or_eq_false_iff, decide_eq_false_iff_not]
    omega
  have hfits : overflows (some cap) 0 bytes.length = false := by
    simp only [overflows, Bool.or_eq_false_iff, decide_eq_false_iff_not]
    omega
  unfold stringAt
  rw [h.read (some cap) hzero, hfits]
  simp only [Bool.false_eq_true, ↓reduceIte, Scan.ok_bind, hq]

/-- The integer of a number that is written with its digits only. -/
theorem integerEnd_digits {ds q : List UInt8} (h : IntPart ds) (hdigits : Digits ds)
    (hq : scalarEnd q = true) :
    (!isDigit (peek (ds ++ q)) || (peek (ds ++ q) == 0x30 && isDigit (peek (ds ++ q).tail))) = false
      ∧ scalarEnd (skipDigits (ds ++ q)) = true := by
  have hplain := (scalarEnd_delimited hq).not_digit
  refine ⟨?_, by rw [skipDigits_append hdigits hplain]; exact hq⟩
  cases h with
  | zero =>
    rw [List.cons_append, List.nil_append, peek_cons, List.tail_cons, hplain]
    rfl
  | digits d ds hlow hhigh hds =>
    have hd := hdigits d List.mem_cons_self
    have hne : (d == 0x30) = false := by
      rw [beq_eq_false_iff_ne]
      rintro rfl
      exact absurd hlow (by decide)
    rw [List.cons_append, peek_cons, hd, hne]
    rfl

theorem printU_peek (n : Nat) (q : List UInt8) : peek (printU n ++ q) ≠ minus := by
  obtain ⟨d, ds, hprint, hd⟩ := (printU_int n).head
  rw [hprint, List.cons_append, peek_cons]
  rintro rfl
  exact absurd hd (by decide)

theorem u16At_printU {n minValue maxValue : Nat} {q : List UInt8} (hmin : minValue ≤ n)
    (hmax : n ≤ maxValue) (hq : scalarEnd q = true) :
    u16At minValue maxValue (printU n ++ q) = .ok n := by
  obtain ⟨hfirst, hlast⟩ := integerEnd_digits (printU_int n) (printU_digits n) hq
  have hend : integerEnd (printU n ++ q) false = true := by
    unfold integerEnd
    simp only [Bool.false_and, Bool.false_eq_true, ↓reduceIte, hfirst, hlast]
  have hvalue : strtoul (printU n ++ q) = n :=
    printU_value n (scalarEnd_delimited hq).not_digit
  unfold u16At
  rw [hend, hvalue, if_neg (by decide), if_neg (by omega)]

theorem i16At_printD {i minValue maxValue : Int} {q : List UInt8} (hmin : minValue ≤ i)
    (hmax : i ≤ maxValue) (hq : scalarEnd q = true) :
    i16At minValue maxValue (printD i ++ q) = .ok i := by
  obtain ⟨hfirst, hlast⟩ := integerEnd_digits (printU_int i.natAbs) (printU_digits i.natAbs) hq
  have hdigits := printU_value i.natAbs (scalarEnd_delimited hq).not_digit
  have hplain := printU_peek i.natAbs q
  have hread : integerEnd (printD i ++ q) true = true ∧ strtol (printD i ++ q) = i := by
    unfold printD
    split
    · unfold integerEnd strtol
      simp only [List.cons_append, peek_cons, List.tail_cons, beq_self_eq_true, Bool.and_self,
        ↓reduceIte, hfirst, hlast, hdigits, Bool.false_eq_true, true_and]
      omega
    · unfold integerEnd strtol
      rw [beq_false_of_ne hplain]
      simp only [Bool.and_false, Bool.false_eq_true, ↓reduceIte, hfirst, hlast, if_neg hplain,
        hdigits, true_and]
      omega
  unfold i16At
  rw [hread.1, hread.2, if_neg (by decide), if_neg (by omega)]

/-- `%s` of a Boolean. -/
def printBool (b : Bool) : List UInt8 := if b then literalTrue else literalFalse

theorem boolAt_printBool (b : Bool) {q : List UInt8} (hq : scalarEnd q = true) :
    boolAt (printBool b ++ q) = .ok b := by
  unfold boolAt
  cases b with
  | true =>
    have hdrop : (printBool true ++ q).drop 4 = q := rfl
    have hmatch : literalTrue.isPrefixOf (printBool true ++ q) = true := rfl
    rw [hdrop, if_pos ⟨hmatch, hq⟩]
  | false =>
    have hdrop : (printBool false ++ q).drop 5 = q := rfl
    have hmatch : literalFalse.isPrefixOf (printBool false ++ q) = true := rfl
    have hother : ¬ (literalTrue.isPrefixOf (printBool false ++ q) = true ∧
        scalarEnd ((printBool false ++ q).drop 4) = true) := by
      rintro ⟨h, -⟩
      cases h
    rw [if_neg hother, hdrop, if_pos ⟨hmatch, hq⟩]

end Lgnome.Json
