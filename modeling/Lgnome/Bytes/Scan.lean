import Mathlib.Data.List.Basic

/-!
# Scanning a terminated string

A pointer into a string that ends with a zero byte is what is left of the string
in front of that byte. Reading at the end gives zero; to step over the end, or
to go around a loop more often than its bound allows, is a fault, which a scanner
must be shown never to run into.
-/
namespace Lgnome.Bytes

/-- A scanner's outcome: a result, a refusal of the input, or a fault. -/
inductive Scan (α : Type)
  | ok (a : α)
  | reject
  | fault
  deriving DecidableEq

namespace Scan

variable {α β : Type}

def bind : Scan α → (α → Scan β) → Scan β
  | ok a, f => f a
  | reject, _ => reject
  | fault, _ => fault

instance : Monad Scan where
  pure := ok
  bind := bind

@[simp] theorem pure_eq (a : α) : (pure a : Scan α) = ok a := rfl
@[simp] theorem ok_bind (a : α) (f : α → Scan β) : (ok a >>= f) = f a := rfl
@[simp] theorem reject_bind (f : α → Scan β) : ((reject : Scan α) >>= f) = reject := rfl
@[simp] theorem fault_bind (f : α → Scan β) : ((fault : Scan α) >>= f) = fault := rfl

/-- The scanner does not fault, and what it accepts has the property. -/
def Sound (P : α → Prop) : Scan α → Prop
  | ok a => P a
  | reject => True
  | fault => False

theorem Sound.bind {P : α → Prop} {Q : β → Prop} {x : Scan α} {f : α → Scan β} (h : x.Sound P)
    (hf : ∀ a, P a → (f a).Sound Q) : (x >>= f).Sound Q := by
  cases x with
  | ok a => exact hf a h
  | reject => trivial
  | fault => exact h

theorem Sound.mono {P Q : α → Prop} {x : Scan α} (h : x.Sound P) (hpq : ∀ a, P a → Q a) :
    x.Sound Q := by
  cases x with
  | ok a => exact hpq a h
  | reject => trivial
  | fault => exact h

theorem Sound.not_fault {P : α → Prop} {x : Scan α} (h : x.Sound P) : x ≠ fault := by
  rintro rfl
  exact h

theorem Sound.of_ok {P : α → Prop} {x : Scan α} {a : α} (h : x.Sound P) (hx : x = ok a) : P a := by
  subst hx
  exact h

/-- A result of two steps is one of each. -/
theorem of_bind {x : Scan α} {f : α → Scan β} {b : β} (h : (x >>= f) = ok b) :
    ∃ a, x = ok a ∧ f a = ok b := by
  cases x with
  | ok a => exact ⟨a, rfl, h⟩
  | reject => cases h
  | fault => cases h

end Scan

/-- The byte under the pointer. -/
def peek : List UInt8 → UInt8
  | [] => 0
  | c :: _ => c

/-- The next byte, which only a byte in front of the end has. -/
def bump : List UInt8 → Scan (List UInt8)
  | [] => .fault
  | _ :: p => .ok p

@[simp] theorem peek_cons (c : UInt8) (p : List UInt8) : peek (c :: p) = c := rfl
@[simp] theorem peek_nil : peek [] = 0 := rfl
@[simp] theorem bump_cons (c : UInt8) (p : List UInt8) : bump (c :: p) = .ok p := rfl

theorem cons_of_peek {p : List UInt8} {c : UInt8} (h : peek p = c) (hc : c ≠ 0) :
    ∃ q, p = c :: q := by
  cases p with
  | nil => exact absurd h.symm hc
  | cons d q => exact ⟨q, by rw [← h, peek_cons]⟩

end Lgnome.Bytes
