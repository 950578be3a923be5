import Lgnome.Mixing.Operations

/-!
# The copies of the mix agree

What a slot's mix is, where its copies are, and that the edits and everything
that starts, stops or shows a session leave the copies in agreement.
-/
namespace Lgnome.Mixing

open Lgnome.Settings
open Lgnome.Native (RdpState StartResult)

/-! ## Copies -/

/-- The mix of one slot. -/
@[ext] structure SlotMix where
  duckMask : Nat
  gainDb : Int
  muted : Bool
  solo : Bool
  deriving DecidableEq, Repr

def configMix (config : NativeSessionConfig) : SlotMix where
  duckMask := config.duckMask
  gainDb := config.mixerGainDb
  muted := config.mixerMuted
  solo := config.mixerSolo

def settingsMix (settings : NativeSettings) (slot : SlotIndex) : SlotMix :=
  configMix (settings.sessions slot)

def mirrorMix (mixer : Mixer) (slot : SlotIndex) : SlotMix where
  duckMask := mixer.duckMask slot
  gainDb := mixer.gainDb slot
  muted := bitSet mixer.muteMask slot
  solo := bitSet mixer.soloMask slot

namespace App

/-- What the pipeline has to be given for the mirrors and the sessions that are there. -/
def controls (a : App) : PipelineControls where
  gainQ15 slot := gainDbToQ15 (a.mixer.gainDb slot)
  muted slot := bitSet a.mixer.muteMask slot
  soloMask := maskOf fun slot => bitSet a.mixer.soloMask slot && (a.sessions slot).rdp
  duckForeground := some a.mixer.activeIndex
  duckTriggers := maskOf fun slot =>
    bitSet (a.mixer.duckMask a.mixer.activeIndex) slot && decide (slot ≠ a.mixer.activeIndex)

def Mirrored (a : App) : Prop := settingsMix a.settings = mirrorMix a.mixer

def Published (a : App) : Prop := ∀ c ∈ a.pipeline, c = a.controls

/-- The file holds the model's mix, unless an edit still waits for its save. -/
def Persisted (a : App) : Prop :=
  a.saved = true → a.dirty = false →
    ∃ written, a.written = some written ∧ settingsMix written = settingsMix a.settings

structure Agrees (a : App) : Prop where
  mirrored : a.Mirrored
  published : a.Published

end App

/-! ## Setters -/

theorem setSourceGain_table (p : AudioPipeline) (slot : SlotIndex) (gainDb : Int) :
    p.setSourceGain slot (gainDbToQ15 gainDb) = p.map fun c =>
      { c with gainQ15 := Function.update c.gainQ15 slot (gainDbToQ15 gainDb) } := by
  obtain ⟨hlow, hhigh⟩ := gainDbToQ15_range gainDb
  unfold AudioPipeline.setSourceGain
  dsimp only
  rw [if_neg (not_lt.mpr hlow), if_neg (not_lt.mpr hhigh)]

theorem controls_gain (gains : SlotIndex → Int) (slot : SlotIndex) (gainDb : Int) :
    Function.update (fun i => gainDbToQ15 (gains i)) slot (gainDbToQ15 gainDb) =
      fun i => gainDbToQ15 (Function.update gains slot gainDb i) := by
  funext i
  by_cases hslot : i = slot
  · subst hslot
    simp
  · simp [hslot]

theorem controls_mute (mask : Nat) (slot : SlotIndex) :
    Function.update (bitSet mask) slot (bitSet (mask ^^^ bitOf slot) slot) =
      bitSet (mask ^^^ bitOf slot) := by
  funext i
  by_cases hslot : i = slot
  · subst hslot
    simp
  · simp [hslot, bitSet_xor]

namespace App

variable {a b : App}

/-- A publication brings the solo mask back in line, whatever it was. -/
theorem published_solo (a : App)
    (h : ∀ c ∈ a.pipeline, { c with soloMask := a.controls.soloMask } = a.controls) :
    a.publishEffectiveSoloMask.Published := by
  intro c hc
  obtain ⟨before, hbefore, rfl⟩ := Option.map_eq_some_iff.mp hc
  have hmask : (a.mixer.soloMask &&& a.connectedMask) &&& sourceMask = a.controls.soloMask := by
    rw [and_sourceMask]
    unfold controls connectedMask
    dsimp only
    congr 1
    funext slot
    rw [bitSet_and, bitSet_maskOf]
  rw [hmask]
  exact h before hbefore

/-- So does a retarget with the ducking route. -/
theorem published_duck (a : App)
    (h : ∀ c ∈ a.pipeline, { c with
      duckForeground := a.controls.duckForeground
      duckTriggers := a.controls.duckTriggers } = a.controls) :
    a.duckRetarget.Published := by
  intro c hc
  obtain ⟨before, hbefore, rfl⟩ := Option.map_eq_some_iff.mp hc
  have hmask : withoutBit (a.mixer.duckMask a.mixer.activeIndex) a.mixer.activeIndex &&&
      sourceMask = a.controls.duckTriggers := by
    rw [and_sourceMask]
    unfold controls
    dsimp only
    congr 1
    funext slot
    rw [bitSet_withoutBit]
  rw [hmask]
  exact h before hbefore

/-! ## Sessions come and go -/

/-- Nothing of the mix has changed and what was published still fits. -/
structure Resettled (a b : App) : Prop where
  settings : b.settings = a.settings
  mirrors : mirrorMix b.mixer = mirrorMix a.mixer
  dirty : b.dirty = a.dirty
  written : b.written = a.written
  saved : b.saved = a.saved
  published : a.Published → b.Published

theorem Resettled.refl (a : App) : Resettled a a := ⟨rfl, rfl, rfl, rfl, rfl, id⟩

theorem Resettled.trans {c : App} (h : Resettled a b) (h' : Resettled b c) : Resettled a c where
  settings := h'.settings.trans h.settings
  mirrors := h'.mirrors.trans h.mirrors
  dirty := h'.dirty.trans h.dirty
  written := h'.written.trans h.written
  saved := h'.saved.trans h.saved
  published hp := h'.published (h.published hp)

/-- A change to a slot that leaves its session where it is. -/
theorem resettled_modifySlot (a : App) (i : SlotIndex) (f : SessionSlot → SessionSlot)
    (hf : (f (a.sessions i)).rdp = (a.sessions i).rdp) : Resettled a (a.modifySlot i f) where
  settings := rfl
  mirrors := rfl
  dirty := rfl
  written := rfl
  saved := rfl
  published hp := by
    have hcontrols : (a.modifySlot i f).controls = a.controls := by
      unfold controls modifySlot
      dsimp only
      congr 2
      funext slot
      by_cases hslot : slot = i
      · subst hslot
        rw [Function.update_self, hf]
      · rw [Function.update_of_ne hslot]
    intro c hc
    rw [hcontrols]
    exact hp c hc

/-- Whatever happens to a slot's session, the publication after it fits. -/
theorem resettled_moved (a : App) (i : SlotIndex) (f : SessionSlot → SessionSlot) :
    Resettled a (a.modifySlot i f).publishEffectiveSoloMask where
  settings := rfl
  mirrors := rfl
  dirty := rfl
  written := rfl
  saved := rfl
  published hp := by
    apply published_solo
    intro c hc
    rw [hp c hc]
    rfl

theorem resettled_activate (a : App) (slot : SlotIndex) : Resettled a (a.activate slot) where
  settings := rfl
  mirrors := rfl
  dirty := rfl
  written := rfl
  saved := rfl
  published hp := by
    apply published_duck
    intro c hc
    rw [hp c hc]
    rfl

theorem resettled_reportTerminal (a : App) (i : SlotIndex) (state : RdpState) :
    Resettled a (a.reportTerminal i state) := by
  unfold reportTerminal
  split
  · exact .refl a
  · have hterminal := resettled_modifySlot a i (fun s => { s with terminalState := state }) rfl
    dsimp only
    split
    · exact hterminal.trans ⟨rfl, rfl, rfl, rfl, rfl, id⟩
    · exact hterminal.trans (resettled_modifySlot _ i _ rfl)

theorem resettled_recordState (a : App) (i : SlotIndex) (state : RdpState) :
    Resettled a (a.recordState i state) := by
  unfold recordState
  split
  · exact .refl a
  · have hstate := resettled_modifySlot a i (fun s => { s with currentState := state }) rfl
    dsimp only
    split
    · exact hstate.trans (resettled_reportTerminal _ i state)
    · exact hstate

theorem resettled_stopSlot (a : App) (i : SlotIndex) : Resettled a (a.stopSlot i) := by
  unfold stopSlot
  exact (resettled_moved a i _).trans (resettled_modifySlot _ i _ rfl)

theorem resettled_slotConnect (a : App) (i : SlotIndex) (starts : StartResult) :
    Resettled a (a.slotConnect i starts).1 := by
  have hstopped := (resettled_stopSlot a i).trans (resettled_modifySlot (a.stopSlot i) i (fun s =>
    { s with
      terminalState := .idle
      cameraWidth := (a.stopSlot i).settings.cameraWidth
      cameraHeight := (a.stopSlot i).settings.cameraHeight
      cameraFps := (a.stopSlot i).settings.cameraFps }) rfl)
  unfold slotConnect
  dsimp only
  split
  · exact hstopped.trans (resettled_moved _ i _)
  · exact hstopped.trans (resettled_recordState _ i _)

theorem resettled_reconnect (a : App) (i : SlotIndex) (starts : StartResult) :
    Resettled a (a.reconnect i starts).1 := by
  have hconnect := resettled_slotConnect a i starts
  unfold reconnect
  split
  next started hresult =>
    rw [hresult] at hconnect
    exact hconnect
  next stopped hresult =>
    rw [hresult] at hconnect
    exact hconnect.trans (resettled_reportTerminal stopped i _)

theorem resettled_reconnectHidden (a : App) (i : SlotIndex) (answer : Connected) :
    Resettled a (a.reconnectHidden i answer) := by
  have hreconnect := resettled_reconnect a i answer.starts
  unfold reconnectHidden
  split
  next started hresult =>
    rw [hresult] at hreconnect
    split
    · exact hreconnect.trans (resettled_modifySlot _ i _ rfl)
    · exact hreconnect.trans (resettled_modifySlot _ i _ rfl)
  next stopped hresult =>
    rw [hresult] at hreconnect
    exact hreconnect

theorem resettled_backgroundSlot (a : App) (i : SlotIndex) (answer : Connected) :
    Resettled a (a.backgroundSlot i answer) := by
  unfold backgroundSlot
  dsimp only
  split
  · exact .refl a
  · split
    · exact resettled_reconnectHidden a i answer
    · exact resettled_modifySlot a i _ rfl

theorem resettled_recapture (a : App) (i : SlotIndex) (answer : Connected) :
    Resettled a (a.recapture i answer) := by
  unfold recapture
  dsimp only
  split
  · split
    · exact resettled_reconnect a i answer.starts
    · exact resettled_reconnectHidden a i answer
  · exact .refl a

theorem resettled_foldl (f : App → SlotIndex → App) (hf : ∀ a i, Resettled a (f a i))
    (slots : List SlotIndex) (a : App) : Resettled a (slots.foldl f a) := by
  induction slots generalizing a with
  | nil => exact .refl a
  | cons i rest ih => exact (hf a i).trans (ih (f a i))

theorem resettled_reconfigureCaptureRedirect (a : App) (answers : Answers) :
    Resettled a (a.reconfigureCaptureRedirect answers) := by
  unfold reconfigureCaptureRedirect
  split
  · exact .refl a
  · exact resettled_foldl _ (fun a i => resettled_recapture a i _) _ a

theorem resettled_resumeSlot (a : App) (target : SlotIndex) (answers : Answers) :
    Resettled a (a.resumeSlot target answers) := by
  have hresumed := resettled_modifySlot a target (fun s => { s with suppressed := false }) rfl
  unfold resumeSlot
  dsimp only
  have hreplayed : Resettled a (if answers.replay.failed then
      (a.modifySlot target fun s => { s with suppressed := false }).reportTerminal target
        .decoderError
      else a.modifySlot target fun s => { s with suppressed := false }) := by
    split
    · exact hresumed.trans (resettled_reportTerminal _ target _)
    · exact hresumed
  generalize (if answers.replay.failed then _ else _) = replayed at hreplayed ⊢
  split
  · exact hreplayed
  · split
    · exact hreplayed.trans (resettled_reconnect _ target _)
    · exact hreplayed

/-! ## Requests and switches without their saves -/

theorem resettled_settleProfile (a : App) (slot : SlotIndex) (edited : NativeSessionConfig)
    (connectionChanged endpointChanged : Bool) :
    Resettled a (a.settleProfile slot edited connectionChanged endpointChanged) := by
  have hstopped : Resettled a
      (if (a.sessions slot).rdp && connectionChanged then a.stopSlot slot else a) := by
    split
    · exact resettled_stopSlot a slot
    · exact .refl a
  unfold settleProfile
  dsimp only
  generalize (if (a.sessions slot).rdp && connectionChanged then a.stopSlot slot else a) = stopped
    at hstopped ⊢
  split
  · exact hstopped.trans (resettled_modifySlot stopped slot _ rfl)
  · exact hstopped.trans (resettled_modifySlot stopped slot _ rfl)

theorem resettled_connectReady (a : App) (slot : SlotIndex) (answers : Answers) :
    Resettled a (a.connectReady slot answers) := by
  unfold connectReady
  dsimp only
  generalize hconfigured : (a.stopSlot slot).modifySlot slot _ = configured
  have hactive : Resettled a (configured.activate slot) := by
    rw [← hconfigured]
    exact ((resettled_stopSlot a slot).trans (resettled_modifySlot _ slot _ rfl)).trans
      (resettled_activate _ slot)
  split
  · exact (hactive.trans (resettled_backgroundSlot _ _ answers.background)).trans
      (resettled_slotConnect _ slot _)
  · exact hactive.trans (resettled_slotConnect _ slot _)

theorem resettled_showSlotConfigurator (a : App) (target : SlotIndex) (answers : Answers) :
    Resettled a (a.showSlotConfigurator target answers) := by
  unfold showSlotConfigurator
  dsimp only
  split
  · exact (resettled_activate a target).trans (resettled_backgroundSlot _ _ answers.background)
  · exact .refl a

theorem resettled_settleSnapshot (a : App) (i : SlotIndex) : Resettled a (a.settleSnapshot i) := by
  unfold settleSnapshot
  dsimp only
  split
  · exact .refl a
  · split
    · exact .refl a
    · exact resettled_modifySlot a i _ rfl

theorem resettled_watchdogReconnect (a : App) (answers : Answers) :
    Resettled a (a.watchdogReconnect answers) := by
  unfold watchdogReconnect
  dsimp only
  split
  · exact (resettled_modifySlot a _ _ rfl).trans (resettled_reconnect _ _ _)
  · exact .refl a

/-! ## Start -/

/-- Giving the pipeline gains and mutes slot by slot. -/
theorem foldl_given (gains : SlotIndex → Int) (mutes : SlotIndex → Bool) (slots : List SlotIndex)
    (p : AudioPipeline) :
    slots.foldl (fun (p : AudioPipeline) slot =>
        (p.setSourceGain slot (gainDbToQ15 (gains slot))).setSourceMuted slot (mutes slot)) p =
      p.map fun c => { c with
        gainQ15 := fun i => if i ∈ slots then gainDbToQ15 (gains i) else c.gainQ15 i
        muted := fun i => if i ∈ slots then mutes i else c.muted i } := by
  induction slots generalizing p with
  | nil => simp
  | cons slot rest ih =>
    rw [List.foldl_cons, ih, setSourceGain_table]
    unfold AudioPipeline.setSourceMuted
    rw [Option.map_map, Option.map_map]
    congr 1
    funext c
    dsimp only [Function.comp_apply]
    congr 1
    · funext i
      by_cases hslot : i = slot
      · subst hslot
        simp
      · simp [hslot]
    · funext i
      by_cases hslot : i = slot
      · subst hslot
        simp
      · simp [hslot]

/-- `main.c` gives the pipeline the gains and mutes of the settings, and the two
publications do the rest. -/
theorem start_agrees (settings : NativeSettings) (pipelineStarts cameraPreview snapshotForce : Bool)
    (hubSlot : SlotIndex) :
    (start settings pipelineStarts cameraPreview snapshotForce hubSlot).Agrees := by
  constructor
  · funext slot
    ext
    · rfl
    · rfl
    · exact (bitSet_maskOf (fun i => (settings.sessions i).mixerMuted) slot).symm
    · exact (bitSet_maskOf (fun i => (settings.sessions i).mixerSolo) slot).symm
  · apply (resettled_activate _ hubSlot).published
    apply published_duck
    intro c hc
    obtain ⟨given, hgiven, rfl⟩ := Option.map_eq_some_iff.mp hc
    dsimp only at hgiven
    rw [foldl_given] at hgiven
    obtain ⟨fresh, -, rfl⟩ := Option.map_eq_some_iff.mp hgiven
    unfold controls publishEffectiveSoloMask
    dsimp only
    congr 1
    · funext slot
      rw [if_pos (List.mem_finRange slot)]
    · funext slot
      rw [if_pos (List.mem_finRange slot)]
      exact (bitSet_maskOf (fun i => (settings.sessions i).mixerMuted) slot).symm
    · rw [and_sourceMask]
      congr 1
      funext slot
      rw [bitSet_and]
      exact congrArg _ (bitSet_maskOf _ slot)

end App

end Lgnome.Mixing
