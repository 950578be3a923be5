import Lgnome.Bytes.Fixed

/-!
# The access-unit snapshot

A background slot caches its compressed stream from the newest decoder seed on,
so that a switch can rebuild the decoder. The byte buffer with its offsets is
the list of cached units.
-/
namespace Lgnome.Native

/-- One compressed access unit. A null pointer and a zero length are both no data. -/
structure AccessUnit where
  data : Bytes
  pts90k : UInt64
  deriving DecidableEq, Repr

structure AuSnapshot where
  entries : List AccessUnit := []
  armed : Bool := false
  hasDecoderSeed : Bool := false
  deriving DecidableEq, Repr

namespace AuSnapshot

def maxBytes : Nat := 8 * 1024 * 1024
def maxAus : Nat := 512

/-- The bytes in use. -/
def used (s : AuSnapshot) : Nat := s.entries.foldl (fun bytes au => bytes + au.data.length) 0

def reset (_ : AuSnapshot) : AuSnapshot := {}

/-- `allocated` is whether `malloc` had the buffer. -/
def arm (s : AuSnapshot) (allocated : Bool) : AuSnapshot := { s.reset with armed := allocated }

/-- Caches one unit. False only when this call voided the snapshot. -/
def append (s : AuSnapshot) (au : AccessUnit) (validAu decoderSeed : Bool) : AuSnapshot × Bool :=
  if !s.armed then (s, false)
  else if !validAu || au.data.isEmpty then
    if !s.hasDecoderSeed then (s, true) else (s.reset, false)
  else if !decoderSeed && !s.hasDecoderSeed then (s, true)
  else
    -- Only the newest seed group matters.
    let s := if decoderSeed then { s with entries := [], hasDecoderSeed := true } else s
    if maxBytes - s.used < au.data.length ∨ maxAus ≤ s.entries.length then (s.reset, false)
    else ({ s with entries := s.entries ++ [au] }, true)

def ready (s : AuSnapshot) : Bool := s.armed && s.hasDecoderSeed && !s.entries.isEmpty

@[simp] theorem reset_armed (s : AuSnapshot) : s.reset.armed = false := rfl

@[simp] theorem reset_ready (s : AuSnapshot) : s.reset.ready = false := rfl

@[simp] theorem arm_armed (s : AuSnapshot) (allocated : Bool) :
    (s.arm allocated).armed = allocated := rfl

@[simp] theorem arm_ready (s : AuSnapshot) (allocated : Bool) :
    (s.arm allocated).ready = false := by
  simp [ready, arm, reset]

/-- What one append leaves: the old snapshot, an empty one, the chain with one
more unit, or a new chain that starts with a seed. -/
inductive Appended (s : AuSnapshot) (au : AccessUnit) (validAu decoderSeed : Bool) :
    AuSnapshot → Prop
  | ignored (hout : s.armed = false ∨ s.hasDecoderSeed = false) :
      Appended s au validAu decoderSeed s
  | voided : Appended s au validAu decoderSeed {}
  | extended (harmed : s.armed) (hseed : s.hasDecoderSeed) (hdata : au.data ≠ [])
      (hdelta : decoderSeed = false) (hroom : s.entries.length < maxAus) :
      Appended s au validAu decoderSeed
        { entries := s.entries ++ [au], armed := true, hasDecoderSeed := true }
  | restarted (harmed : s.armed) (hseed : decoderSeed) (hvalid : validAu) (hdata : au.data ≠ []) :
      Appended s au validAu decoderSeed { entries := [au], armed := true, hasDecoderSeed := true }

theorem append_cases (s : AuSnapshot) (au : AccessUnit) (validAu decoderSeed : Bool) :
    Appended s au validAu decoderSeed (s.append au validAu decoderSeed).1 := by
  unfold append
  by_cases harmed : s.armed
  · by_cases hbad : !validAu || au.data.isEmpty
    · by_cases hseeded : s.hasDecoderSeed
      · simpa [harmed, hbad, hseeded] using .voided
      · simpa [harmed, hbad, hseeded] using .ignored (.inr (by simpa using hseeded))
    · have hgood : validAu ∧ au.data ≠ [] := by simpa using hbad
      cases decoderSeed with
      | true =>
        simp only [harmed, hbad, Bool.not_true, Bool.false_and, Bool.false_eq_true, if_false,
          if_true]
        split
        · exact .voided
        · exact .restarted harmed rfl hgood.1 hgood.2
      | false =>
        by_cases hseeded : s.hasDecoderSeed
        · simp only [harmed, hbad, hseeded, Bool.not_true, Bool.not_false, Bool.and_false,
            Bool.false_eq_true, if_false]
          split
          · exact .voided
          · rename_i hfit
            exact .extended harmed hseeded hgood.2 rfl (by omega)
        · simpa [harmed, hbad, hseeded] using .ignored (.inr (by simpa using hseeded))
  · simpa [harmed] using .ignored (.inl (by simpa using harmed))

end AuSnapshot

end Lgnome.Native
