import Lgnome.Mixing.Agreement
import Lgnome.Settings.Durability

/-!
# Operations that keep the mix

Every operation but a deletion leaves the copies in agreement and the file no
further behind: edits, saves of the model's own mix, and the hub's requests.
-/
namespace Lgnome.Mixing

open Lgnome.Settings

/-! ## Mixes of candidates -/

theorem settingsMix_setSession (settings : NativeSettings) (slot : SlotIndex)
    (config : NativeSessionConfig) :
    settingsMix (settings.setSession slot config) =
      Function.update (settingsMix settings) slot (configMix config) := by
  funext other
  unfold settingsMix
  by_cases hslot : other = slot
  · subst hslot
    rw [NativeSettings.setSession_same, Function.update_self]
  · rw [NativeSettings.setSession_other settings hslot, Function.update_of_ne hslot]

/-- A profile that keeps its mix leaves the model's mix as it is. -/
theorem settingsMix_kept (settings : NativeSettings) (slot : SlotIndex)
    {config : NativeSessionConfig} (h : configMix config = settingsMix settings slot) :
    settingsMix (settings.setSession slot config) = settingsMix settings := by
  rw [settingsMix_setSession, h, Function.update_eq_self]

theorem settingsMix_connectCandidate (r : ConnectRequest) (settings : NativeSettings) :
    settingsMix (r.candidate settings) = settingsMix settings := by
  apply settingsMix_kept settings r.slot
  cases r.edited with
  | none => rfl
  | some edited => rfl

/-- Every slot's mirror after one slot's mix has moved in both copies. -/
theorem mirrored_update {settings : NativeSettings} {mixer mixer' : Mixer} {slot : SlotIndex}
    {config : NativeSessionConfig} (h : settingsMix settings = mirrorMix mixer)
    (hslot : mirrorMix mixer' slot = configMix config)
    (hother : ∀ other, other ≠ slot → mirrorMix mixer' other = mirrorMix mixer other) :
    settingsMix (settings.setSession slot config) = mirrorMix mixer' := by
  rw [settingsMix_setSession, h]
  funext other
  by_cases hsame : other = slot
  · subst hsame
    rw [Function.update_self, hslot]
  · rw [Function.update_of_ne hsame, hother other hsame]

/-! ## Saves -/

/-- A save that succeeds has renamed its file into place. -/
theorem savePersisted_renamed {settings : NativeSettings} {disk : List Candidate}
    (h : (savePersisted settings disk).1.ok = true) :
    (savePersisted settings disk).1.renamed = true := by
  rcases savePersisted_spec settings disk with ⟨hfailed, -⟩ |
    ⟨_, _, _, _, _, _, _, _, _, _, hrenamed, _⟩
  · rw [hfailed] at h
    cases h
  · exact hrenamed

namespace App

variable {a b : App}

/-- What an operation keeps unless it is a deletion that goes wrong. -/
structure Steady (a b : App) : Prop where
  agrees : a.Agrees → b.Agrees
  persisted : a.Agrees → a.Persisted → b.Persisted

theorem Steady.refl (a : App) : Steady a a := ⟨id, fun _ => id⟩

theorem Steady.trans {c : App} (h : Steady a b) (h' : Steady b c) : Steady a c where
  agrees ha := h'.agrees (h.agrees ha)
  persisted ha hp := h'.persisted (h.agrees ha) (h.persisted ha hp)

theorem Resettled.agrees (h : Resettled a b) (ha : a.Agrees) : b.Agrees where
  mirrored := by
    unfold Mirrored
    rw [h.settings, h.mirrors]
    exact ha.mirrored
  published := h.published ha.published

theorem Resettled.persisted (h : Resettled a b) (hp : a.Persisted) : b.Persisted := by
  unfold Persisted
  rw [h.saved, h.dirty, h.written, h.settings]
  exact hp

theorem Resettled.steady (h : Resettled a b) : Steady a b := ⟨h.agrees, fun _ => h.persisted⟩

theorem agrees_withSettings {candidate : NativeSettings} (ha : a.Agrees)
    (hmix : settingsMix candidate = settingsMix a.settings) :
    (a.withSettings candidate).Agrees where
  mirrored := hmix.trans ha.mirrored
  published := ha.published

theorem steady_withSettings {candidate : NativeSettings}
    (hmix : settingsMix candidate = settingsMix a.settings) :
    Steady a (a.withSettings candidate) where
  agrees ha := agrees_withSettings ha hmix
  persisted _ hp hsaved hdirty := by
    obtain ⟨written, hwritten, hsame⟩ := hp hsaved hdirty
    exact ⟨written, hwritten, hsame.trans hmix.symm⟩

theorem agrees_save (ha : a.Agrees) (candidate : NativeSettings) (disk : List Candidate) :
    (a.save candidate disk).1.Agrees := ⟨ha.mirrored, ha.published⟩

/-- What is in the file after a save of the model's own mix. -/
theorem save_written {candidate : NativeSettings} {disk : List Candidate}
    (hmix : settingsMix candidate = settingsMix a.settings)
    (hbefore : a.saved = true → ∃ written, a.written = some written ∧
      settingsMix written = settingsMix a.settings)
    (hsaved : (a.save candidate disk).1.saved = true) :
    ∃ written, (a.save candidate disk).1.written = some written ∧
      settingsMix written = settingsMix a.settings := by
  unfold save at hsaved ⊢
  dsimp only at hsaved ⊢
  cases hrenamed : (savePersisted candidate disk).1.renamed with
  | true => exact ⟨candidate, rfl, hmix⟩
  | false =>
    have hok : (savePersisted candidate disk).1.ok = false := by
      cases hok : (savePersisted candidate disk).1.ok with
      | false => rfl
      | true =>
        rw [savePersisted_renamed hok] at hrenamed
        cases hrenamed
    rw [hok, Bool.or_false] at hsaved
    exact hbefore hsaved

theorem steady_save {candidate : NativeSettings}
    (hmix : settingsMix candidate = settingsMix a.settings) (disk : List Candidate) :
    Steady a (a.save candidate disk).1 where
  agrees ha := agrees_save ha candidate disk
  persisted _ hp hsaved hdirty := save_written hmix (fun h => hp h hdirty) hsaved

/-- A flush that succeeds puts the model's own mix in the file, whatever was there. -/
theorem steady_flushSettings (a : App) (disk : List Candidate) :
    Steady a (a.flushSettings disk) := by
  unfold flushSettings
  split
  · refine ⟨fun ha => ⟨ha.mirrored, ha.published⟩, fun _ _ _ hdirty => ?_⟩
    dsimp only at hdirty
    have hok : (savePersisted a.settings disk).1.ok = true := by
      cases hok : (a.save a.settings disk).2 with
      | true => exact hok
      | false =>
        rw [hok] at hdirty
        cases hdirty
    refine ⟨a.settings, ?_, rfl⟩
    show (if (savePersisted a.settings disk).1.renamed then some a.settings else a.written) = _
    rw [savePersisted_renamed hok]
    rfl
  · exact .refl a

theorem flushSettings_desk (a : App) (disk : List Candidate) :
    (a.flushSettings disk).desk = a.desk ∧ (a.flushSettings disk).sessions = a.sessions := by
  unfold flushSettings
  split
  · exact ⟨rfl, rfl⟩
  · exact ⟨rfl, rfl⟩

theorem flushSettings_dirty (h : a.dirty = true) (disk : List Candidate) :
    (a.flushSettings disk).saved = (a.saved || (savePersisted a.settings disk).1.ok) ∧
      (a.flushSettings disk).dirty = !(savePersisted a.settings disk).1.ok := by
  unfold flushSettings
  rw [if_pos h]
  exact ⟨rfl, rfl⟩

/-! ## Edits -/

section Mirrored

variable (h : a.Mirrored) (slot : SlotIndex)

include h

theorem Mirrored.duckMask : a.mixer.duckMask slot = (a.settings.sessions slot).duckMask :=
  (congrArg SlotMix.duckMask (congrFun h slot)).symm

theorem Mirrored.gainDb : a.mixer.gainDb slot = (a.settings.sessions slot).mixerGainDb :=
  (congrArg SlotMix.gainDb (congrFun h slot)).symm

theorem Mirrored.muted : bitSet a.mixer.muteMask slot = (a.settings.sessions slot).mixerMuted :=
  (congrArg SlotMix.muted (congrFun h slot)).symm

theorem Mirrored.solo : bitSet a.mixer.soloMask slot = (a.settings.sessions slot).mixerSolo :=
  (congrArg SlotMix.solo (congrFun h slot)).symm

end Mirrored

theorem agrees_setDb (ha : a.Agrees) (slot : SlotIndex) (gainDb : Int) :
    (a.setDb slot gainDb).Agrees := by
  unfold setDb
  split
  next hchanged =>
    have hdesk : a.desk.setDb slot gainDb =
        { mixer := { a.mixer with
            gainDb := Function.update a.mixer.gainDb slot (clampGain gainDb) }
          settings := a.settings.setSession slot
            { a.settings.sessions slot with mixerGainDb := clampGain gainDb } } := by
      unfold MixerApp.setDb
      dsimp only
      rw [if_pos hchanged]
    rw [hdesk]
    constructor
    · apply mirrored_update ha.mirrored
      · ext
        · exact ha.mirrored.duckMask slot
        · exact Function.update_self slot _ _
        · exact ha.mirrored.muted slot
        · exact ha.mirrored.solo slot
      · intro other hother
        ext
        · rfl
        · exact Function.update_of_ne hother _ _
        · rfl
        · rfl
    · intro c hc
      rw [setSourceGain_table] at hc
      obtain ⟨before, hbefore, rfl⟩ := Option.map_eq_some_iff.mp hc
      rw [ha.published before hbefore]
      unfold controls
      dsimp only
      rw [controls_gain]
  next => exact ha

theorem agrees_toggleDuck (ha : a.Agrees) (slot : SlotIndex) : (a.toggleDuck slot).Agrees := by
  unfold toggleDuck
  split
  next => exact ha
  next hother =>
    have hdesk : a.desk.toggleDuck slot =
        { mixer := { a.mixer with
            duckMask := Function.update a.mixer.duckMask a.mixer.activeIndex
              (a.mixer.duckMask a.mixer.activeIndex ^^^ bitOf slot) }
          settings := a.settings.setSession a.mixer.activeIndex
            { a.settings.sessions a.mixer.activeIndex with
              duckMask := a.mixer.duckMask a.mixer.activeIndex ^^^ bitOf slot } } := by
      unfold MixerApp.toggleDuck
      dsimp only
      rw [if_neg hother]
    rw [hdesk]
    constructor
    · apply mirrored_update ha.mirrored
      · ext
        · exact Function.update_self _ _ _
        · exact ha.mirrored.gainDb a.mixer.activeIndex
        · exact ha.mirrored.muted a.mixer.activeIndex
        · exact ha.mirrored.solo a.mixer.activeIndex
      · intro other hother
        ext
        · exact Function.update_of_ne hother _ _
        · rfl
        · rfl
        · rfl
    · apply published_duck
      intro c hc
      rw [ha.published c hc]
      rfl

theorem agrees_toggleMute (ha : a.Agrees) (slot : SlotIndex) : (a.toggleMute slot).Agrees := by
  constructor
  · apply mirrored_update ha.mirrored
    · ext
      · exact ha.mirrored.duckMask slot
      · exact ha.mirrored.gainDb slot
      · rfl
      · exact ha.mirrored.solo slot
    · intro other hother
      ext
      · rfl
      · rfl
      · exact (bitSet_xor _ slot other).trans (if_neg hother)
      · rfl
  · intro c hc
    obtain ⟨before, hbefore, rfl⟩ := Option.map_eq_some_iff.mp hc
    rw [ha.published before hbefore]
    unfold controls
    dsimp only [toggleMute, MixerApp.toggleMute]
    congr 1
    exact controls_mute a.mixer.muteMask slot

theorem agrees_toggleSolo (ha : a.Agrees) (slot : SlotIndex) : (a.toggleSolo slot).Agrees := by
  constructor
  · apply mirrored_update ha.mirrored
    · ext
      · exact ha.mirrored.duckMask slot
      · exact ha.mirrored.gainDb slot
      · exact ha.mirrored.muted slot
      · rfl
    · intro other hother
      ext
      · rfl
      · rfl
      · rfl
      · exact (bitSet_xor _ slot other).trans (if_neg hother)
  · apply published_solo
    intro c hc
    rw [ha.published c hc]
    rfl

/-- An edit leaves the model dirty, so that nothing is asked of the file. -/
theorem persisted_dirty (h : a.dirty = true) : a.Persisted := by
  intro _ hdirty
  rw [h] at hdirty
  cases hdirty

theorem steady_setDb (a : App) (slot : SlotIndex) (gainDb : Int) :
    Steady a (a.setDb slot gainDb) where
  agrees ha := agrees_setDb ha slot gainDb
  persisted _ hp := by
    unfold setDb
    split
    · exact persisted_dirty rfl
    · exact hp

theorem steady_toggleDuck (a : App) (slot : SlotIndex) : Steady a (a.toggleDuck slot) where
  agrees ha := agrees_toggleDuck ha slot
  persisted _ hp := by
    unfold toggleDuck
    split
    · exact hp
    · exact persisted_dirty rfl

theorem steady_toggleMute (a : App) (slot : SlotIndex) : Steady a (a.toggleMute slot) where
  agrees ha := agrees_toggleMute ha slot
  persisted _ _ := persisted_dirty rfl

theorem steady_toggleSolo (a : App) (slot : SlotIndex) : Steady a (a.toggleSolo slot) where
  agrees ha := agrees_toggleSolo ha slot
  persisted _ _ := persisted_dirty rfl

/-! ## Requests -/

/-- A save of settings with the model's mix, and the model taken over from it. -/
theorem steady_saved {candidate : NativeSettings} {disk : List Candidate} {saved : App}
    {ok : Bool} (hmix : settingsMix candidate = settingsMix a.settings)
    (hsave : a.save candidate disk = (saved, ok)) :
    Steady a saved ∧ Steady a (saved.withSettings candidate) := by
  obtain rfl : (a.save candidate disk).1 = saved := congrArg Prod.fst hsave
  have hsaved := steady_save hmix disk
  exact ⟨hsaved, hsaved.trans (steady_withSettings hmix)⟩

theorem steady_captureSave (a : App) (v : CaptureValues) (answers : Answers) :
    Steady a (a.captureSave v answers) := by
  have hmix : settingsMix (captureCandidate a.settings v) = settingsMix a.settings := rfl
  unfold captureSave
  dsimp only
  split
  · exact .refl a
  · split
    next saved hsave =>
      exact (steady_saved hmix hsave).2.trans
        (resettled_reconfigureCaptureRedirect _ answers).steady
    next saved hsave => exact (steady_saved hmix hsave).1

theorem steady_profileSave (a : App) (slot : SlotIndex) (edited : Option NativeSessionConfig)
    (codec : AudioCodec) (answers : Answers) : Steady a (a.profileSave slot edited codec answers)
    := by
  unfold profileSave
  split
  next => exact .refl a
  next edited =>
    dsimp only
    split
    · exact .refl a
    · generalize hcandidate : profileCandidate a.settings slot _ codec = candidate
      have hmix : settingsMix candidate = settingsMix a.settings := by
        rw [← hcandidate]
        exact settingsMix_kept a.settings slot rfl
      split
      next saved hsave => exact (steady_saved hmix hsave).1
      next saved hsave =>
        exact ((steady_saved hmix hsave).2.trans
          (resettled_reconfigureCaptureRedirect _ answers).steady).trans
            (resettled_settleProfile _ slot _ _ _).steady

theorem steady_connect (a : App) (r : ConnectRequest) (answers : Answers) :
    Steady a (a.connect r answers) := by
  have hmix := settingsMix_connectCandidate r a.settings
  unfold connect
  dsimp only
  split
  · exact .refl a
  split
  · exact .refl a
  split
  · split
    next saved hsave =>
      exact ((steady_saved hmix hsave).2.trans
        (resettled_reconfigureCaptureRedirect _ answers).steady).trans
          (resettled_connectReady _ r.slot answers).steady
    next saved hsave => exact (steady_saved hmix hsave).1
  · exact (resettled_connectReady a r.slot answers).steady

theorem steady_completeSessionSwitch (a : App) (target : SlotIndex) (answers : Answers) :
    Steady a (a.completeSessionSwitch target answers).1 := by
  have hflushed := steady_flushSettings a answers.disk
  unfold completeSessionSwitch
  dsimp only
  split
  · exact .refl a
  split
  · exact .refl a
  · generalize a.flushSettings answers.disk = flushed at hflushed ⊢
    have hshown := ((resettled_modifySlot flushed target
      (fun s => { s with snapshotPending := false }) rfl).trans
        (resettled_activate _ target)).trans
          (resettled_backgroundSlot _ a.mixer.activeIndex answers.background)
    split
    · exact hflushed.trans (hshown.trans (resettled_resumeSlot _ target answers)).steady
    · exact hflushed.trans hshown.steady

theorem steady_preparePendingSwitch (a : App) (target : SlotIndex) (answers : Answers) :
    Steady a (a.preparePendingSwitch target answers) := by
  have hreconnected : Resettled a (if (a.sessions target).refreshIneffective || a.snapshotForce then
      a.reconnect target answers.foreground.starts else (a, true)).1 := by
    split
    · exact resettled_reconnect a target _
    · exact .refl a
  unfold preparePendingSwitch
  dsimp only
  split
  · exact .refl a
  · generalize (if (a.sessions target).refreshIneffective || a.snapshotForce then
      a.reconnect target answers.foreground.starts else (a, true)) = reconnected at hreconnected ⊢
    split
    · exact hreconnected.steady
    split
    · exact hreconnected.steady.trans (steady_completeSessionSwitch _ target answers)
    · exact (hreconnected.trans (resettled_modifySlot _ target _ rfl)).steady

theorem steady_enterStreaming (a : App) (disk : List Candidate) :
    Steady a (a.enterStreaming disk) := by
  unfold enterStreaming
  dsimp only
  split
  · exact (resettled_modifySlot a _ _ rfl).steady.trans (steady_save rfl disk)
  · exact .refl a

theorem steady_superviseSlot (a : App) (i : SlotIndex) (answers : Answers) :
    Steady a (a.superviseSlot i answers) := by
  have hstopped (b : App) : Steady b (b.stopSlot i) := (resettled_stopSlot b i).steady
  unfold superviseSlot
  split
  · exact .refl a
  split
  · split
    next => exact (hstopped a).trans (steady_flushSettings _ answers.disk)
    next j _ =>
      split
      · have hswitched := steady_completeSessionSwitch a j answers
        split
        next switched hresult =>
          rw [hresult] at hswitched
          exact hswitched.trans (hstopped switched)
        next unswitched hresult =>
          rw [hresult] at hswitched
          exact (hswitched.trans (hstopped unswitched)).trans
            (steady_flushSettings _ answers.disk)
      · exact hstopped a
  · exact hstopped a

theorem steady_shutdown (a : App) (disk : List Candidate) : Steady a (a.shutdown disk) := by
  have hstopped := (steady_flushSettings a disk).trans
    (resettled_foldl stopSlot resettled_stopSlot (List.finRange maxSessions) _).steady
  refine hstopped.trans ⟨fun h => ⟨h.mirrored, ?_⟩, fun _ => id⟩
  intro c hc
  cases hc

end App

end Lgnome.Mixing
