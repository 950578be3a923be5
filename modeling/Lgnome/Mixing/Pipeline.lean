import Mathlib.Data.Nat.Bitwise
import Lgnome.Settings.Mixer

/-!
# What the audio pipeline is given

The controls of `audio_pipeline.c` that the mixer writes: per-source gain and
mute, the solo mask, and the ducking route. Until the pipeline is up its setters
do nothing.
-/
namespace Lgnome.Mixing

open Lgnome.Settings

/-- The atomics that the render thread reads. No foreground is the source's −1. -/
structure PipelineControls where
  gainQ15 : SlotIndex → Int
  muted : SlotIndex → Bool
  soloMask : Nat
  duckForeground : Option SlotIndex
  duckTriggers : Nat

/-- `pipeline->impl`: nothing until it is initialized. -/
abbrev AudioPipeline := Option PipelineControls

def gainUnityQ15 : Int := 32768

def gainMaxQ15 : Int := 65536

/-- One bit for each source. -/
def sourceMask : Nat := (1 <<< maxSessions) - 1

/-- `native_audio_pipeline_init` -/
def PipelineControls.initial : PipelineControls where
  gainQ15 := fun _ => gainUnityQ15
  muted := fun _ => false
  soloMask := 0
  duckForeground := none
  duckTriggers := 0

namespace AudioPipeline

/-- `native_audio_pipeline_set_source_gain` -/
def setSourceGain (p : AudioPipeline) (source : SlotIndex) (gainQ15 : Int) : AudioPipeline :=
  let gainQ15 := if gainQ15 < 0 then 0 else gainQ15
  let gainQ15 := if gainMaxQ15 < gainQ15 then gainMaxQ15 else gainQ15
  p.map fun c => { c with gainQ15 := Function.update c.gainQ15 source gainQ15 }

/-- `native_audio_pipeline_set_source_muted` -/
def setSourceMuted (p : AudioPipeline) (source : SlotIndex) (muted : Bool) : AudioPipeline :=
  p.map fun c => { c with muted := Function.update c.muted source muted }

/-- `native_audio_pipeline_set_solo_mask` -/
def setSoloMask (p : AudioPipeline) (soloMask : Nat) : AudioPipeline :=
  p.map fun c => { c with soloMask := soloMask &&& sourceMask }

/-- `native_audio_pipeline_set_duck_foreground`, with a slot that is there. -/
def setDuckForeground (p : AudioPipeline) (foreground : SlotIndex) (triggerMask : Nat) :
    AudioPipeline :=
  p.map fun c =>
    { c with
      duckForeground := some foreground
      duckTriggers := triggerMask &&& sourceMask }

end AudioPipeline

def gainTable : List Int :=
  [0, 46, 65, 92, 130, 184, 260, 368, 519, 734, 1036, 1464, 2068, 2920, 4125, 5827, 8231, 11627,
    16423, 23198, 32768, 46286, 65381]

/-- `native_ui_mixer_gain_db_to_q15` -/
def gainDbToQ15 (gainDb : Int) : Int :=
  if gainDb ≤ mixerMinDb then 0
  else
    let gainDb := if mixerMaxDb < gainDb then mixerMaxDb else gainDb
    gainTable.getD ((gainDb - mixerMinDb).tdiv 3).toNat 0

example : gainDbToQ15 0 = gainUnityQ15 := by decide

/-- No entry of the table is clamped by the pipeline. -/
theorem gainDbToQ15_range (gainDb : Int) :
    0 ≤ gainDbToQ15 gainDb ∧ gainDbToQ15 gainDb ≤ gainMaxQ15 := by
  have hentries : ∀ gain ∈ gainTable, 0 ≤ gain ∧ gain ≤ gainMaxQ15 := by decide
  have hzero : (0 : Int) ≤ 0 ∧ (0 : Int) ≤ gainMaxQ15 := by decide
  unfold gainDbToQ15
  split
  · exact hzero
  · dsimp only
    generalize ((_ : Int) - mixerMinDb).tdiv 3 = quotient
    rw [List.getD_eq_getElem?_getD]
    cases hentry : gainTable[quotient.toNat]? with
    | none => exact hzero
    | some gain => exact hentries gain (List.mem_of_getElem? hentry)

/-! ## Masks by their bits -/

theorem bitSet_eq (mask : Nat) (slot : SlotIndex) : bitSet mask slot = mask.testBit slot.val := by
  unfold bitSet
  rw [Nat.testBit_eq_decide_div_mod_eq, Nat.and_one_is_mod, Nat.shiftRight_eq_div_pow]
  rfl

theorem testBit_bitOf (slot : SlotIndex) (i : Nat) :
    (bitOf slot).testBit i = decide (slot.val = i) := by
  rw [bitOf, Nat.one_shiftLeft, Nat.testBit_two_pow]

/-- A toggle moves one bit. -/
theorem bitSet_xor (mask : Nat) (slot other : SlotIndex) :
    bitSet (mask ^^^ bitOf slot) other =
      if other = slot then !bitSet mask other else bitSet mask other := by
  rw [bitSet_eq, bitSet_eq, Nat.testBit_xor, testBit_bitOf]
  by_cases hslot : other = slot
  · subst hslot
    simp
  · have hval : ¬slot.val = other.val := fun h => hslot (Fin.ext h.symm)
    simp [hslot, hval]

theorem bitSet_and (first second : Nat) (slot : SlotIndex) :
    bitSet (first &&& second) slot = (bitSet first slot && bitSet second slot) := by
  rw [bitSet_eq, bitSet_eq, bitSet_eq, Nat.testBit_and]

/-- `mask & ~(1u << slot)`, in 32 bits. -/
def withoutBit (mask : Nat) (slot : SlotIndex) : Nat := mask &&& (0xffffffff ^^^ bitOf slot)

theorem bitSet_withoutBit (mask : Nat) (slot other : SlotIndex) :
    bitSet (withoutBit mask slot) other = (bitSet mask other && decide (other ≠ slot)) := by
  have hones : ∀ i : SlotIndex, bitSet 0xffffffff i = true := by decide
  rw [withoutBit, bitSet_and, bitSet_xor, hones]
  by_cases hslot : other = slot
  · simp [hslot]
  · simp [hslot]

theorem bitSet_sourceMask (slot : SlotIndex) : bitSet sourceMask slot = true := by
  revert slot
  decide

/-- The fold that gathers a mask sets a bit for each slot that has it set. -/
theorem testBit_gather (isSet : SlotIndex → Bool) (slots : List SlotIndex) (mask i : Nat) :
    (slots.foldl (fun mask slot => if isSet slot then mask ||| bitOf slot else mask) mask).testBit i
      = (mask.testBit i || slots.any fun slot => isSet slot && decide (slot.val = i)) := by
  induction slots generalizing mask with
  | nil => simp
  | cons slot rest ih =>
    rw [List.foldl_cons, ih, List.any_cons]
    cases hset : isSet slot with
    | false => simp
    | true => simp [Nat.testBit_or, testBit_bitOf, Bool.or_assoc]

theorem testBit_maskOf (isSet : SlotIndex → Bool) (i : Nat) :
    (maskOf isSet).testBit i =
      (List.finRange maxSessions).any fun slot => isSet slot && decide (slot.val = i) := by
  rw [maskOf, testBit_gather]
  simp

@[simp] theorem bitSet_maskOf (isSet : SlotIndex → Bool) (slot : SlotIndex) :
    bitSet (maskOf isSet) slot = isSet slot := by
  rw [bitSet_eq, testBit_maskOf, Bool.eq_iff_iff, List.any_eq_true]
  constructor
  · rintro ⟨other, -, hother⟩
    rw [Bool.and_eq_true, decide_eq_true_eq] at hother
    obtain rfl := Fin.ext hother.2
    exact hother.1
  · intro hset
    exact ⟨slot, List.mem_finRange slot, by simp [hset]⟩

/-- A mask of the sources is known by the bits of the slots. -/
theorem and_sourceMask (mask : Nat) : mask &&& sourceMask = maskOf (bitSet mask) := by
  apply Nat.eq_of_testBit_eq
  intro i
  rw [Nat.testBit_and, testBit_maskOf]
  by_cases hi : i < maxSessions
  · have hslot := bitSet_sourceMask ⟨i, hi⟩
    rw [bitSet_eq] at hslot
    dsimp only at hslot
    rw [hslot, Bool.and_true, Bool.eq_iff_iff, List.any_eq_true]
    constructor
    · intro hbit
      refine ⟨⟨i, hi⟩, List.mem_finRange _, ?_⟩
      rw [bitSet_eq, hbit, decide_eq_true rfl]
      rfl
    · rintro ⟨slot, -, hslot⟩
      rw [Bool.and_eq_true, decide_eq_true_eq, bitSet_eq] at hslot
      rw [← hslot.2]
      exact hslot.1
  · have hmask : sourceMask.testBit i = false := by
      rw [sourceMask, Nat.one_shiftLeft, Nat.testBit_two_pow_sub_one]
      exact decide_eq_false hi
    rw [hmask, Bool.and_false, eq_comm, List.any_eq_false]
    intro slot _ hslot
    rw [Bool.and_eq_true, decide_eq_true_eq] at hslot
    exact hi (hslot.2 ▸ slot.isLt)

end Lgnome.Mixing
