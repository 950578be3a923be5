import Lgnome.Json.Complete
import Mathlib.Data.Nat.Digits.Lemmas

/-!
# Decimal numbers

How a number is written and what its digits are read back as.
-/
namespace Lgnome.Json

open Lgnome.Bytes

def digitByte (d : Nat) : UInt8 := UInt8.ofNat (0x30 + d)

/-- `%u` -/
def printU (n : Nat) : List UInt8 :=
  if n = 0 then [digitByte 0] else (Nat.digits 10 n).reverse.map digitByte

/-- `%d` -/
def printD (i : Int) : List UInt8 :=
  if i < 0 then minus :: printU i.natAbs else printU i.natAbs

/-- The value of the digits in front, behind digits of this value. -/
def digitsValue (v : Nat) : List UInt8 → Nat
  | [] => v
  | c :: p => if isDigit c then digitsValue (10 * v + (c.toNat - 0x30)) p else v

/-! ## One digit -/

theorem digitByte_toNat {d : Nat} (h : d < 10) : (digitByte d).toNat = 0x30 + d := by
  show (0x30 + d) % 256 = 0x30 + d
  omega

theorem isDigit_iff (c : UInt8) : isDigit c = true ↔ 0x30 ≤ c.toNat ∧ c.toNat ≤ 0x39 := by
  simp only [isDigit, Bool.and_eq_true, decide_eq_true_eq, UInt8.le_iff_toNat_le]
  exact Iff.rfl

theorem digitByte_digit {d : Nat} (h : d < 10) : isDigit (digitByte d) = true := by
  rw [isDigit_iff, digitByte_toNat h]
  omega

theorem digitsValue_append (v : Nat) {ds : List UInt8} (hds : Digits ds) {d : Nat} (hd : d < 10)
    {q : List UInt8} (hq : isDigit (peek q) = false) :
    digitsValue v (ds ++ digitByte d :: q) = 10 * digitsValue v ds + d := by
  induction ds generalizing v with
  | nil =>
    have hstop : ∀ v, digitsValue v q = v := by
      intro v
      cases q with
      | nil => rfl
      | cons c q => rw [digitsValue, show isDigit c = false from hq]; rfl
    rw [List.nil_append, digitsValue, digitsValue, digitByte_digit hd, digitByte_toNat hd]
    simp only [↓reduceIte, hstop]
    omega
  | cons c ds ih =>
    have hc := hds c List.mem_cons_self
    rw [List.cons_append, digitsValue, digitsValue, hc]
    exact ih _ fun e he => hds e (List.mem_cons_of_mem _ he)

/-! ## All digits -/

theorem printU_small {n : Nat} (h : n < 10) : printU n = [digitByte n] := by
  unfold printU
  split
  · rename_i hzero
    rw [hzero]
  · rename_i hzero
    rw [Nat.digits_of_lt 10 n hzero h]
    rfl

theorem printU_step {n : Nat} (h : 10 ≤ n) :
    printU n = printU (n / 10) ++ [digitByte (n % 10)] := by
  have hn : n ≠ 0 := by omega
  have hdiv : n / 10 ≠ 0 := by omega
  unfold printU
  rw [if_neg hn, if_neg hdiv, Nat.digits_def' (by decide) (Nat.pos_of_ne_zero hn),
    List.reverse_cons, List.map_append]
  rfl

theorem printU_digits (n : Nat) : Digits (printU n) := by
  induction n using Nat.strongRecOn with
  | ind n ih =>
    by_cases h : n < 10
    · rw [printU_small h]
      intro c hc
      rw [List.mem_singleton.mp hc]
      exact digitByte_digit h
    · have hstep := printU_step (Nat.not_lt.mp h)
      intro c hc
      rw [hstep] at hc
      rcases List.mem_append.mp hc with hc | hc
      · exact ih (n / 10) (by omega) c hc
      · rw [List.mem_singleton.mp hc]
        exact digitByte_digit (Nat.mod_lt n (by decide))

theorem printU_value (n : Nat) {q : List UInt8} (hq : isDigit (peek q) = false) :
    digitsValue 0 (printU n ++ q) = n := by
  induction n using Nat.strongRecOn generalizing q with
  | ind n ih =>
    by_cases h : n < 10
    · have happend := digitsValue_append 0 (show Digits [] from nofun) h hq
      rw [printU_small h]
      rw [List.nil_append] at happend
      rw [List.cons_append, List.nil_append, happend]
      simp only [digitsValue]
      omega
    · have hsmall := ih (n / 10) (by omega) (q := []) rfl
      have happend := digitsValue_append 0 (printU_digits (n / 10)) (Nat.mod_lt n (by decide)) hq
      rw [List.append_nil] at hsmall
      rw [printU_step (Nat.not_lt.mp h), List.append_assoc, List.cons_append, List.nil_append,
        happend, hsmall]
      omega

/-- The first digit is not a zero, unless it is the only one. -/
theorem printU_int (n : Nat) : IntPart (printU n) := by
  induction n using Nat.strongRecOn with
  | ind n ih =>
    by_cases h : n < 10
    · rw [printU_small h]
      by_cases hzero : n = 0
      · subst hzero
        exact .zero
      · refine .digits (digitByte n) [] ?_ ?_ nofun
        · rw [UInt8.le_iff_toNat_le, digitByte_toNat h]
          show 0x31 ≤ 0x30 + n
          omega
        · rw [UInt8.le_iff_toNat_le, digitByte_toNat h]
          show 0x30 + n ≤ 0x39
          omega
    · have hlast : Digits [digitByte (n % 10)] := by
        intro c hc
        rw [List.mem_singleton.mp hc]
        exact digitByte_digit (Nat.mod_lt n (by decide))
      have hfront := ih (n / 10) (by omega)
      have hdigits := printU_digits (n / 10)
      rw [printU_step (Nat.not_lt.mp h)]
      generalize hprint : printU (n / 10) = front at hfront hdigits
      cases hfront with
      | zero =>
        have hvalue := printU_value (n / 10) (q := []) rfl
        rw [hprint] at hvalue
        have hten : n / 10 = 0 := hvalue.symm
        omega
      | digits d ds hlow hhigh hds =>
        refine .digits d (ds ++ [digitByte (n % 10)]) hlow hhigh ?_
        intro c hc
        rcases List.mem_append.mp hc with hc | hc
        · exact hds c hc
        · exact hlast c hc

theorem printU_number (n : Nat) : Number (printU n) :=
  ⟨[], printU n, [], [], .inl rfl, printU_int n, .none, .none, by
    rw [List.nil_append, List.append_nil, List.append_nil]⟩

theorem printD_number (i : Int) : Number (printD i) := by
  unfold printD
  split
  · exact ⟨[minus], printU i.natAbs, [], [], .inr rfl, printU_int _, .none, .none, by
      rw [List.append_nil, List.append_nil]; rfl⟩
  · exact printU_number _

theorem printU_length {n k : Nat} (hk : 0 < k) (h : (Nat.digits 10 n).length ≤ k) :
    (printU n).length ≤ k := by
  unfold printU
  split
  · exact hk
  · rw [List.length_map, List.length_reverse]
    exact h

end Lgnome.Json
