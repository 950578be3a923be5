import Lgnome.Mixing.Steady

/-!
# The mix over a whole run

Deletions, and from one operation to all of them. The copies always agree. The
file keeps up as well, with one way to lose it: a deletion whose save fails
behind its rename has put the file without the profile in place, and no later
save is asked for.
-/
namespace Lgnome.Mixing

open Lgnome.Settings

namespace App

variable {a b : App}

/-! ## Deletions -/

/-- The mix a deleted slot is left with. -/
def emptyMix : SlotMix := configMix sessionConfigDefaults

theorem settingsMix_deleted (settings : NativeSettings) (slot : SlotIndex) :
    settingsMix (deletedCandidate settings slot) =
      Function.update (settingsMix settings) slot emptyMix :=
  settingsMix_setSession settings slot sessionConfigDefaults

theorem mirrorMix_forgetMix (a : App) (slot : SlotIndex) :
    mirrorMix (a.forgetMix slot).mixer = Function.update (mirrorMix a.mixer) slot emptyMix := by
  funext other
  by_cases hslot : other = slot
  · subst hslot
    rw [Function.update_self]
    ext
    · exact Function.update_self other _ _
    · exact Function.update_self other _ _
    · exact (bitSet_withoutBit _ other other).trans (by simp [emptyMix, configMix,
        sessionConfigDefaults])
    · exact (bitSet_withoutBit _ other other).trans (by simp [emptyMix, configMix,
        sessionConfigDefaults])
  · rw [Function.update_of_ne hslot]
    ext
    · exact Function.update_of_ne hslot _ _
    · exact Function.update_of_ne hslot _ _
    · exact (bitSet_withoutBit _ slot other).trans (by simp [hslot, mirrorMix])
    · exact (bitSet_withoutBit _ slot other).trans (by simp [hslot, mirrorMix])

theorem published_forgetMix (a : App) (slot : SlotIndex) (h : a.Published) :
    (a.forgetMix slot).Published := by
  apply published_duck
  intro c hc
  dsimp only at hc
  rw [setSourceGain_table] at hc
  obtain ⟨muted, hmuted, rfl⟩ := Option.map_eq_some_iff.mp hc
  obtain ⟨soloed, hsoloed, rfl⟩ := Option.map_eq_some_iff.mp hmuted
  obtain ⟨before, hbefore, rfl⟩ := Option.map_eq_some_iff.mp hsoloed
  rw [h before hbefore]
  unfold controls publishEffectiveSoloMask
  dsimp only
  congr 1
  · exact controls_gain a.mixer.gainDb slot 0
  · funext other
    rw [bitSet_withoutBit]
    by_cases hslot : other = slot
    · simp [hslot]
    · simp [hslot]
  · rw [and_sourceMask]
    congr 1
    funext other
    rw [bitSet_and]
    exact congrArg _ (bitSet_maskOf _ other)

/-- What a deletion whose save succeeded comes to. -/
structure Deleted (a b : App) (slot : SlotIndex) : Prop where
  settings : b.settings = deletedCandidate a.settings slot
  mirrors : mirrorMix b.mixer = Function.update (mirrorMix a.mixer) slot emptyMix
  written : b.written = some (deletedCandidate a.settings slot)
  published : a.Published → b.Published

theorem deleted_saved {slot : SlotIndex} {answers : Answers} {saved : App}
    (hsave : a.save (deletedCandidate a.settings slot) answers.disk = (saved, true)) :
    Deleted a (((((saved.stopSlot slot).withSettings
      (deletedCandidate a.settings slot)).modifySlot slot fun s =>
        { s with refreshIneffective := false, config := sessionConfigDefaults }
      ).reconfigureCaptureRedirect answers).forgetMix slot) slot := by
  generalize hcandidate : deletedCandidate a.settings slot = candidate at hsave ⊢
  have hok : (savePersisted candidate answers.disk).1.ok = true := congrArg Prod.snd hsave
  obtain rfl : (a.save candidate answers.disk).1 = saved := congrArg Prod.fst hsave
  have hstopped := resettled_stopSlot (a.save candidate answers.disk).1 slot
  generalize (a.save candidate answers.disk).1.stopSlot slot = stopped at hstopped ⊢
  generalize hemptied : (stopped.withSettings candidate).modifySlot slot _ = emptied
  have hconfig : Resettled (stopped.withSettings candidate) emptied := by
    rw [← hemptied]
    exact resettled_modifySlot _ slot _ rfl
  have hsettled := hconfig.trans (resettled_reconfigureCaptureRedirect emptied answers)
  constructor
  · rw [hcandidate]
    exact hsettled.settings
  · rw [mirrorMix_forgetMix, hsettled.mirrors]
    congr 1
    exact hstopped.mirrors
  · rw [hcandidate]
    refine (hsettled.written.trans hstopped.written).trans ?_
    show (if (savePersisted candidate answers.disk).1.renamed then some candidate else _) = _
    rw [savePersisted_renamed hok]
    rfl
  · intro hpublished
    exact published_forgetMix _ slot (hsettled.published (hstopped.published hpublished))

/-- A deletion is refused, fails in its save, or goes through. -/
theorem profileDelete_cases (a : App) (slot : SlotIndex) (answers : Answers) :
    (a.profileDelete slot answers = a ∧ (a.sessions slot).isStillConnecting = true) ∨
      ((a.sessions slot).isStillConnecting = false ∧
        (savePersisted (deletedCandidate a.settings slot) answers.disk).1.ok = false ∧
        a.profileDelete slot answers =
          (a.save (deletedCandidate a.settings slot) answers.disk).1) ∨
      ((savePersisted (deletedCandidate a.settings slot) answers.disk).1.ok = true ∧
        Deleted a (a.profileDelete slot answers) slot) := by
  unfold profileDelete
  dsimp only
  split
  next hconnecting => exact .inl ⟨rfl, hconnecting⟩
  next hready =>
    split
    next saved hsave =>
      exact .inr (.inl ⟨Bool.eq_false_iff.mpr hready, congrArg Prod.snd hsave,
        (congrArg Prod.fst hsave).symm⟩)
    next saved hsave => exact .inr (.inr ⟨congrArg Prod.snd hsave, deleted_saved hsave⟩)

theorem Deleted.agrees {slot : SlotIndex} (h : Deleted a b slot) (ha : a.Agrees) : b.Agrees where
  mirrored := by
    unfold Mirrored
    rw [h.settings, h.mirrors, settingsMix_deleted, ha.mirrored]
  published := h.published ha.published

theorem Deleted.persisted {slot : SlotIndex} (h : Deleted a b slot) : b.Persisted :=
  fun _ _ => ⟨_, h.written, congrArg settingsMix h.settings.symm⟩

theorem agrees_profileDelete (ha : a.Agrees) (slot : SlotIndex) (answers : Answers) :
    (a.profileDelete slot answers).Agrees := by
  rcases profileDelete_cases a slot answers with ⟨hsame, -⟩ | ⟨-, -, hsame⟩ | ⟨-, hdeleted⟩
  · rw [hsame]
    exact ha
  · rw [hsame]
    exact agrees_save ha _ answers.disk
  · exact hdeleted.agrees ha

/-- A deletion whose save puts its file in place and fails after that, with no save to come
and a mix to lose. -/
def Lost (a : App) : Operation → Prop
  | .profileDelete slot answers =>
    a.saved = true ∧ a.dirty = false ∧ (a.sessions slot).isStillConnecting = false ∧
      (savePersisted (deletedCandidate a.settings slot) answers.disk).1 = ⟨false, true⟩ ∧
      settingsMix a.settings slot ≠ emptyMix
  | _ => False

theorem persisted_profileDelete (hp : a.Persisted) (slot : SlotIndex) (answers : Answers)
    (hkept : ¬a.Lost (.profileDelete slot answers)) : (a.profileDelete slot answers).Persisted := by
  rcases profileDelete_cases a slot answers with ⟨hsame, -⟩ | ⟨hready, hfailed, hsame⟩ |
      ⟨-, hdeleted⟩
  · rw [hsame]
    exact hp
  · rw [hsame]
    intro hsaved hdirty
    have hbefore : a.saved = true := by
      rcases Bool.or_eq_true_iff.mp hsaved with hsaved | hok
      · exact hsaved
      · rw [hfailed] at hok
        cases hok
    obtain ⟨written, hwritten, hmix⟩ := hp hbefore hdirty
    cases hrenamed : (savePersisted (deletedCandidate a.settings slot) answers.disk).1.renamed with
    | false =>
      refine ⟨written, ?_, hmix⟩
      show (if (savePersisted (deletedCandidate a.settings slot) answers.disk).1.renamed then
        some _ else a.written) = _
      rw [hrenamed]
      exact hwritten
    | true =>
      -- The file is the candidate's, which is the model's mix if nothing was there to lose.
      have hresult : (savePersisted (deletedCandidate a.settings slot) answers.disk).1 =
          ⟨false, true⟩ := by
        rw [← hfailed, ← hrenamed]
      have hempty : settingsMix a.settings slot = emptyMix := by
        by_contra hne
        exact hkept ⟨hbefore, hdirty, hready, hresult, hne⟩
      refine ⟨deletedCandidate a.settings slot, ?_, ?_⟩
      · show (if (savePersisted (deletedCandidate a.settings slot) answers.disk).1.renamed then
          some _ else a.written) = _
        rw [hrenamed]
        rfl
      · rw [settingsMix_deleted, ← hempty, Function.update_eq_self]
        rfl
  · exact hdeleted.persisted

theorem not_persisted_profileDelete (slot : SlotIndex) (answers : Answers)
    (hlost : a.Lost (.profileDelete slot answers)) : ¬(a.profileDelete slot answers).Persisted := by
  obtain ⟨hsaved, hdirty, hready, hresult, hne⟩ := hlost
  have hafter : a.profileDelete slot answers =
      (a.save (deletedCandidate a.settings slot) answers.disk).1 := by
    rcases profileDelete_cases a slot answers with ⟨-, hconnecting⟩ | ⟨-, -, hsame⟩ | ⟨hok, -⟩
    · rw [hready] at hconnecting
      cases hconnecting
    · exact hsame
    · rw [hresult] at hok
      cases hok
  rw [hafter]
  intro hpersisted
  obtain ⟨written, hwritten, hmix⟩ := hpersisted (Bool.or_eq_true_iff.mpr (.inl hsaved)) hdirty
  have hcandidate : (a.save (deletedCandidate a.settings slot) answers.disk).1.written =
      some (deletedCandidate a.settings slot) := by
    show (if (savePersisted (deletedCandidate a.settings slot) answers.disk).1.renamed then
      some _ else a.written) = _
    rw [hresult]
    rfl
  obtain rfl := Option.some.inj (hcandidate.symm.trans hwritten)
  have hslot := congrFun hmix slot
  rw [settingsMix_deleted, Function.update_self] at hslot
  exact hne hslot.symm

/-! ## Runs -/

/-- All but a deletion keep everything. -/
theorem steady_perform (a : App) (operation : Operation)
    (hother : ∀ slot answers, operation ≠ .profileDelete slot answers) :
    Steady a (a.perform operation) := by
  cases operation with
  | setDb slot gainDb => exact steady_setDb a slot gainDb
  | adjust slot deltaSteps => exact steady_setDb a slot _
  | toggleDuck slot => exact steady_toggleDuck a slot
  | toggleMute slot => exact steady_toggleMute a slot
  | toggleSolo slot => exact steady_toggleSolo a slot
  | flush disk => exact steady_flushSettings a disk
  | captureSave values answers => exact steady_captureSave a values answers
  | profileSave slot edited codec answers => exact steady_profileSave a slot edited codec answers
  | profileDelete slot answers => exact absurd rfl (hother slot answers)
  | connect request answers => exact steady_connect a request answers
  | switchTo target answers => exact steady_completeSessionSwitch a target answers
  | configurator target answers =>
    exact (resettled_showSlotConfigurator a target answers).steady
  | prepare target answers => exact steady_preparePendingSwitch a target answers
  | settle slot => exact (resettled_settleSnapshot a slot).steady
  | retry slot answers =>
    exact (resettled_modifySlot a slot _ rfl).steady.trans
      (steady_preparePendingSwitch _ slot answers)
  | watchdog answers => exact (resettled_watchdogReconnect a answers).steady
  | enterStreaming disk => exact steady_enterStreaming a disk
  | record slot state => exact (resettled_recordState a slot state).steady
  | supervise slot answers => exact steady_superviseSlot a slot answers
  | shutdown disk => exact steady_shutdown a disk

theorem perform_agrees (ha : a.Agrees) (operation : Operation) : (a.perform operation).Agrees := by
  cases hoperation : operation with
  | profileDelete slot answers => exact agrees_profileDelete ha slot answers
  | _ => exact (steady_perform a _ (fun _ _ h => (by cases h))).agrees ha

/-- The file keeps up with an operation exactly if it is no lost deletion. -/
theorem perform_persisted (ha : a.Agrees) (hp : a.Persisted) (operation : Operation) :
    (a.perform operation).Persisted ↔ ¬a.Lost operation := by
  cases hoperation : operation with
  | profileDelete slot answers =>
    exact ⟨fun hafter hlost => not_persisted_profileDelete slot answers hlost hafter,
      persisted_profileDelete hp slot answers⟩
  | _ =>
    exact iff_of_true ((steady_perform a _ (fun _ _ h => (by cases h))).persisted ha hp) id

theorem run_agrees (ha : a.Agrees) (operations : List Operation) : (a.run operations).Agrees := by
  induction operations generalizing a with
  | nil => exact ha
  | cons operation rest ih => exact ih (perform_agrees ha operation)

theorem run_append (a : App) (operations : List Operation) (operation : Operation) :
    a.run (operations ++ [operation]) = (a.run operations).perform operation := by
  unfold run
  rw [List.foldl_append]
  rfl

/-- Along a run the file keeps up as long as no deletion is lost. -/
theorem run_persisted (ha : a.Agrees) (hp : a.Persisted) (operations : List Operation) :
    (∀ done, done <+: operations → (a.run done).Persisted) ↔
      ∀ done operation, done ++ [operation] <+: operations → ¬(a.run done).Lost operation := by
  constructor
  · intro hall done operation hprefix
    have hbefore := hall done ((List.prefix_append done [operation]).trans hprefix)
    have hafter := hall (done ++ [operation]) hprefix
    rw [run_append] at hafter
    exact (perform_persisted (run_agrees ha done) hbefore operation).mp hafter
  · intro hkept done
    induction done using List.reverseRecOn with
    | nil => exact fun _ => hp
    | append_singleton done operation ih =>
      intro hprefix
      have hbefore := ih ((List.prefix_append done [operation]).trans hprefix)
      rw [run_append]
      exact (perform_persisted (run_agrees ha done) hbefore operation).mpr
        (hkept done operation hprefix)

end App

/-- From any start and through any operations the mirrors and the pipeline agree with the
model. The file agrees as well, whenever it has to, exactly if no deletion is lost. -/
theorem mixer_model_agreement (settings : NativeSettings)
    (pipelineStarts cameraPreview snapshotForce : Bool) (hubSlot : SlotIndex)
    (operations : List Operation) :
    let started := App.start settings pipelineStarts cameraPreview snapshotForce hubSlot
    (∀ done, done <+: operations →
        (started.run done).Mirrored ∧ (started.run done).Published) ∧
      ((∀ done, done <+: operations →
          ((started.run done).Mirrored ∧ (started.run done).Published) ∧
            (started.run done).Persisted) ↔
        ∀ done operation, done ++ [operation] <+: operations →
          ¬(started.run done).Lost operation) := by
  intro started
  have hstart : started.Agrees :=
    App.start_agrees settings pipelineStarts cameraPreview snapshotForce hubSlot
  have hfresh : started.Persisted := by
    intro hsaved
    cases hsaved
  have hall : ∀ done, done <+: operations →
      (started.run done).Mirrored ∧ (started.run done).Published := by
    intro done _
    have hagrees := App.run_agrees hstart done
    exact ⟨hagrees.mirrored, hagrees.published⟩
  refine ⟨hall, Iff.trans ?_ (App.run_persisted hstart hfresh operations)⟩
  exact ⟨fun h done hprefix => (h done hprefix).2,
    fun h done hprefix => ⟨hall done hprefix, h done hprefix⟩⟩

/-! ## A deletion that is lost -/

/-- A private directory where at most its sync fails. -/
def privateCandidate (file : FileState) (syncFails : Bool) : Candidate where
  fromEnv := false
  dir := .directory true false
  file := file
  temporary := false
  failing := if syncFails then [.fsyncDir] else []
  housed := FileState.housed_of_directory

theorem saveFileChecked_private {settings : NativeSettings} (hrange : settings.InRange)
    (file : FileState) (syncFails : Bool) :
    (Candidate.saveFileChecked settings (privateCandidate file syncFails)).1 =
      ⟨!syncFails, true⟩ := by
  have hlength : decide (maxFile < (writeJson settings).length) = false :=
    decide_eq_false (Nat.not_lt.mpr (writeJson_length hrange))
  unfold Candidate.saveFileChecked
  cases syncFails with
  | false =>
    rw [hlength]
    rfl
  | true =>
    rw [hlength]
    rfl

/-- The save goes to the directory, whatever file is there. -/
theorem savePersisted_private {settings : NativeSettings} (hrange : settings.InRange)
    (file : FileState) (syncFails : Bool) :
    (savePersisted settings [privateCandidate file syncFails]).1 = ⟨!syncFails, true⟩ := by
  have hfind : findSaveCandidate 0 [privateCandidate file syncFails] =
      (some 0, [privateCandidate file syncFails]) := by
    cases syncFails <;> rfl
  have hcheck : checkLoaded settings 0 0 [privateCandidate file syncFails] =
      (true, [privateCandidate file syncFails]) := by
    have htrusted : (privateCandidate file syncFails).trusted =
        (true, privateCandidate file syncFails) := by
      cases syncFails <;> rfl
    unfold checkLoaded
    rw [htrusted]
    dsimp only
    cases Candidate.tryLoad settings (privateCandidate file syncFails)
      (!(privateCandidate file syncFails).fromEnv) <;> rfl
  unfold savePersisted
  rw [hfind]
  dsimp only
  rw [hcheck]
  exact saveFileChecked_private hrange file syncFails

/-- The defaults on a running pipeline, with green turned down. -/
def quieted : App := (App.start .defaults true false false slotGreen).setDb slotGreen (-21)

theorem quieted_inRange : quieted.settings.InRange := by
  have hzero : GainInRange 0 := by
    unfold GainInRange
    decide
  have hstart : MixerApp.InRange { mixer := .zero, settings := .defaults } :=
    ⟨NativeSettings.defaults_inRange, fun _ => hzero, fun _ => Nat.zero_le _⟩
  exact (hstart.start.setDb slotGreen (by decide)).settings

/-- Turn green down, save that, and delete the profile while its directory cannot be synced. -/
def lostDeletion : List Operation :=
  [.setDb slotGreen (-21), .flush [privateCandidate .absent false],
    .profileDelete slotGreen
      { disk := [privateCandidate (.regular (writeJson quieted.settings) true) true] }]

/-- The file has lost green's mix, the model has it, and the dirty flag is clear. -/
theorem lostDeletion_disagrees :
    ¬∀ done, done <+: lostDeletion →
      (((App.start .defaults true false false slotGreen).run done).Mirrored ∧
          ((App.start .defaults true false false slotGreen).run done).Published) ∧
        ((App.start .defaults true false false slotGreen).run done).Persisted := by
  intro hall
  have hagrees := App.start_agrees .defaults true false false slotGreen
  have hfresh : (App.start .defaults true false false slotGreen).Persisted := by
    intro hsaved
    cases hsaved
  have hkept := (App.run_persisted hagrees hfresh lostDeletion).mp fun done h => (hall done h).2
  have hlost := hkept [.setDb slotGreen (-21), .flush [privateCandidate .absent false]] _
    (List.prefix_refl _)
  have hrun : (App.start .defaults true false false slotGreen).run
      [.setDb slotGreen (-21), .flush [privateCandidate .absent false]] =
        quieted.flushSettings [privateCandidate .absent false] := by
    simp only [App.run, List.foldl_cons, List.foldl_nil, App.perform, quieted]
  rw [hrun] at hlost
  obtain ⟨hdesk, hsessions⟩ :=
    App.flushSettings_desk quieted [privateCandidate .absent false]
  obtain ⟨hsaved, hdirty⟩ :=
    App.flushSettings_dirty (a := quieted) rfl [privateCandidate .absent false]
  rw [savePersisted_private quieted_inRange] at hsaved hdirty
  generalize quieted.flushSettings [privateCandidate .absent false] = flushed
    at hlost hdesk hsessions hsaved hdirty
  have hsettings : flushed.settings = quieted.settings := congrArg MixerApp.settings hdesk
  refine hlost ⟨hsaved.trans (Bool.or_true _), hdirty, ?_, ?_, ?_⟩
  · rw [hsessions]
    rfl
  · apply savePersisted_private
    rw [hsettings]
    exact { NativeSettings.setSession_inRange quieted_inRange sessionConfigDefaults_inRange with }
  · rw [hsettings]
    intro hsame
    exact absurd (congrArg SlotMix.gainDb hsame) (by decide)

end Lgnome.Mixing
