import Lgnome.Settings.Model

/-!
# Mixer edits

The overlay keeps its own copy of gains and masks and writes each edit through
to the settings model.
-/
namespace Lgnome.Settings

structure Mixer where
  gainDb : SlotIndex → Int
  duckMask : SlotIndex → Nat
  muteMask : Nat
  soloMask : Nat
  activeIndex : SlotIndex

/-- The overlay's copy and the model it writes through to. -/
structure MixerApp where
  mixer : Mixer
  settings : NativeSettings

def bitOf (slot : SlotIndex) : Nat := 1 <<< slot.val

def bitSet (mask : Nat) (slot : SlotIndex) : Bool := (mask >>> slot.val) &&& 1 == 1

/-! ## Faders -/

def faderHeight : Int := 380

/-- The track's top for a window of this height. -/
def faderTrackY (windowHeight : Int) : Int := (windowHeight - 48 - 712) + 22 + 52 + 100

/-- `native_ui_mixer_fader_db_at`: a position on the track, snapped to the steps of the fader. -/
def faderDbAt (windowHeight y : Int) : Int :=
  let span := mixerMaxDb - mixerMinDb
  let fy := y - faderTrackY windowHeight
  let fy := if fy < 0 then 0 else fy
  let fy := if faderHeight < fy then faderHeight else fy
  let db := mixerMaxDb - (fy * span + faderHeight.tdiv 2).tdiv faderHeight
  let db := ((db - mixerMinDb + mixerStepDb.tdiv 2).tdiv mixerStepDb) * mixerStepDb + mixerMinDb
  if mixerMaxDb < db then mixerMaxDb else db

def clampGain (gainDb : Int) : Int :=
  let gainDb := if gainDb < mixerMinDb then mixerMinDb else gainDb
  if mixerMaxDb < gainDb then mixerMaxDb else gainDb

/-- `native_mixer_overlay_set_db` -/
def MixerApp.setDb (a : MixerApp) (slot : SlotIndex) (gainDb : Int) : MixerApp :=
  let gainDb := clampGain gainDb
  if gainDb ≠ a.mixer.gainDb slot then
    { mixer := { a.mixer with gainDb := Function.update a.mixer.gainDb slot gainDb }
      settings := a.settings.setSession slot { a.settings.sessions slot with mixerGainDb := gainDb } }
  else a

/-- `native_mixer_overlay_toggle_duck` -/
def MixerApp.toggleDuck (a : MixerApp) (slot : SlotIndex) : MixerApp :=
  let fg := a.mixer.activeIndex
  if slot = fg then a
  else
    let mask := a.mixer.duckMask fg ^^^ bitOf slot
    { mixer := { a.mixer with duckMask := Function.update a.mixer.duckMask fg mask }
      settings := a.settings.setSession fg { a.settings.sessions fg with duckMask := mask } }

/-- `native_mixer_overlay_toggle_mute` -/
def MixerApp.toggleMute (a : MixerApp) (slot : SlotIndex) : MixerApp :=
  let mask := a.mixer.muteMask ^^^ bitOf slot
  { mixer := { a.mixer with muteMask := mask }
    settings := a.settings.setSession slot
      { a.settings.sessions slot with mixerMuted := bitSet mask slot } }

/-- `native_mixer_overlay_toggle_solo` -/
def MixerApp.toggleSolo (a : MixerApp) (slot : SlotIndex) : MixerApp :=
  let mask := a.mixer.soloMask ^^^ bitOf slot
  { mixer := { a.mixer with soloMask := mask }
    settings := a.settings.setSession slot
      { a.settings.sessions slot with mixerSolo := bitSet mask slot } }

/-- The overlay's copy at the start, before any mask is set. -/
def Mixer.zero : Mixer where
  gainDb := fun _ => 0
  duckMask := fun _ => 0
  muteMask := 0
  soloMask := 0
  activeIndex := slotGreen

/-- The masks of the slots that have it set. -/
def maskOf (isSet : SlotIndex → Bool) : Nat :=
  (List.finRange maxSessions).foldl (fun mask slot =>
    if isSet slot then mask ||| bitOf slot else mask) 0

/-- What the application starts with. -/
def MixerApp.start (a : MixerApp) : MixerApp where
  mixer := { a.mixer with
    gainDb := fun slot => (a.settings.sessions slot).mixerGainDb
    duckMask := fun slot => (a.settings.sessions slot).duckMask
    muteMask := maskOf fun slot => (a.settings.sessions slot).mixerMuted
    soloMask := maskOf fun slot => (a.settings.sessions slot).mixerSolo }
  settings := a.settings

/-- A user's edit. Keys and the wheel move a fader by whole steps. -/
inductive MixerEdit where
  | drag (slot : SlotIndex) (windowHeight y : Int)
  | adjust (slot : SlotIndex) (steps : Int)
  | duck (slot : SlotIndex)
  | mute (slot : SlotIndex)
  | solo (slot : SlotIndex)
  | activate (slot : SlotIndex)

def MixerApp.edit (a : MixerApp) : MixerEdit → MixerApp
  | .drag slot windowHeight y => a.setDb slot (faderDbAt windowHeight y)
  | .adjust slot steps => a.setDb slot (a.mixer.gainDb slot + steps * mixerStepDb)
  | .duck slot => a.toggleDuck slot
  | .mute slot => a.toggleMute slot
  | .solo slot => a.toggleSolo slot
  | .activate slot => { a with mixer := { a.mixer with activeIndex := slot } }

/-! ## Edits stay in range -/

/-- A gain that the loader takes. -/
def GainInRange (gain : Int) : Prop :=
  (mixerMinDb ≤ gain ∧ gain ≤ mixerMaxDb) ∧ gain.tmod mixerStepDb = 0

structure MixerApp.InRange (a : MixerApp) : Prop where
  settings : a.settings.InRange
  gain : ∀ slot, GainInRange (a.mixer.gainDb slot)
  duck : ∀ slot, a.mixer.duckMask slot ≤ duckMaskAll

theorem clampGain_inRange {gain : Int} (h : gain.tmod mixerStepDb = 0) :
    GainInRange (clampGain gain) := by
  have hbounds : mixerMinDb ≤ mixerMaxDb := by decide
  unfold clampGain GainInRange
  dsimp only
  split
  · decide
  · split
    · decide
    · exact ⟨by omega, h⟩

/-- A position snapped to the steps of the fader. -/
theorem snap_step (quotient : Int) :
    (if mixerMaxDb < quotient * mixerStepDb + mixerMinDb then mixerMaxDb
      else quotient * mixerStepDb + mixerMinDb).tmod mixerStepDb = 0 := by
  split
  · decide
  · have hsum : quotient * mixerStepDb + mixerMinDb = (quotient - 20) * mixerStepDb := by
      unfold mixerMinDb mixerStepDb
      omega
    rw [hsum]
    exact Int.mul_tmod_left _ _

theorem faderDbAt_step (windowHeight y : Int) :
    (faderDbAt windowHeight y).tmod mixerStepDb = 0 := snap_step _

theorem adjust_step {gain : Int} (h : gain.tmod mixerStepDb = 0) (steps : Int) :
    (gain + steps * mixerStepDb).tmod mixerStepDb = 0 := by
  rw [← Int.dvd_iff_tmod_eq_zero] at h ⊢
  exact Int.dvd_add h (Int.dvd_mul_left steps mixerStepDb)

theorem MixerApp.InRange.setDb {a : MixerApp} (h : a.InRange) (slot : SlotIndex) {gain : Int}
    (hgain : gain.tmod mixerStepDb = 0) : (a.setDb slot gain).InRange := by
  have hrange := clampGain_inRange hgain
  unfold MixerApp.setDb
  dsimp only
  split
  · refine { settings := ?_, gain := ?_, duck := h.duck }
    · have hsession := h.settings.sessions slot
      exact NativeSettings.setSession_inRange h.settings
        { hsession with mixerGainDb := hrange.1, mixerStep := hrange.2 }
    · intro other
      dsimp only
      by_cases hslot : other = slot
      · subst hslot
        rw [Function.update_self]
        exact hrange
      · rw [Function.update_of_ne hslot]
        exact h.gain other
  · exact h

theorem duckMask_toggled : ∀ mask : Fin 16, ∀ slot : SlotIndex,
    mask.val ^^^ bitOf slot ≤ duckMaskAll := by
  decide

theorem MixerApp.InRange.toggleDuck {a : MixerApp} (h : a.InRange) (slot : SlotIndex) :
    (a.toggleDuck slot).InRange := by
  have hmask := duckMask_toggled ⟨a.mixer.duckMask a.mixer.activeIndex,
    Nat.lt_succ_of_le (h.duck a.mixer.activeIndex)⟩ slot
  dsimp only at hmask
  unfold MixerApp.toggleDuck
  dsimp only
  split
  · exact h
  · refine { settings := ?_, gain := h.gain, duck := ?_ }
    · have hsession := h.settings.sessions a.mixer.activeIndex
      exact NativeSettings.setSession_inRange h.settings { hsession with duckMask := hmask }
    · intro other
      dsimp only
      by_cases hslot : other = a.mixer.activeIndex
      · subst hslot
        rw [Function.update_self]
        exact hmask
      · rw [Function.update_of_ne hslot]
        exact h.duck other

theorem MixerApp.InRange.start {a : MixerApp} (h : a.InRange) : a.start.InRange where
  settings := h.settings
  gain slot := ⟨(h.settings.sessions slot).mixerGainDb, (h.settings.sessions slot).mixerStep⟩
  duck slot := (h.settings.sessions slot).duckMask

theorem MixerApp.InRange.edit {a : MixerApp} (h : a.InRange) (e : MixerEdit) :
    (a.edit e).InRange := by
  cases e with
  | drag slot windowHeight y => exact h.setDb slot (faderDbAt_step windowHeight y)
  | adjust slot steps => exact h.setDb slot (adjust_step (h.gain slot).2 steps)
  | duck slot => exact h.toggleDuck slot
  | mute slot =>
    have hsession := h.settings.sessions slot
    exact { h with settings := NativeSettings.setSession_inRange h.settings { hsession with } }
  | solo slot =>
    have hsession := h.settings.sessions slot
    exact { h with settings := NativeSettings.setSession_inRange h.settings { hsession with } }
  | activate slot => exact { h with }

end Lgnome.Settings
