import Lgnome.Native.Bitmap
import Lgnome.Native.Replay

/-!
# Steps that keep the records

Most of what the application does leaves the owners of the two surfaces, the
sessions and the choice of the active slot alone, unless it closes the canvas.
-/
namespace Lgnome.Native

structure RecordsKept (a b : App) : Prop where
  activeIndex : b.activeIndex = a.activeIndex
  hubReturnRgba : b.hubReturnRgba = a.hubReturnRgba
  slot : ∀ j, (b.sessions j).rdp = (a.sessions j).rdp ∧
    (b.sessions j).connectEpoch = (a.sessions j).connectEpoch
  rgba : b.rgba = a.rgba ∨ b.rgba = none

section RecordsKept

variable {a b c : App} {i : SlotIndex}

theorem RecordsKept.refl (a : App) : RecordsKept a a := ⟨rfl, rfl, fun _ => ⟨rfl, rfl⟩, .inl rfl⟩

theorem RecordsKept.trans (h : RecordsKept a b) (h' : RecordsKept b c) : RecordsKept a c := by
  refine ⟨h'.activeIndex.trans h.activeIndex, h'.hubReturnRgba.trans h.hubReturnRgba, fun j => ?_, ?_⟩
  · exact ⟨(h'.slot j).1.trans (h.slot j).1, (h'.slot j).2.trans (h.slot j).2⟩
  · rcases h'.rgba with hsame | hnone
    · rw [hsame]
      exact h.rgba
    · exact .inr hnone

theorem App.Presented.recordsKept (h : App.Presented i a b) (hrgba : b.rgba = a.rgba ∨ b.rgba = none) :
    RecordsKept a b := by
  refine ⟨h.activeIndex, ?_, fun j => ?_, hrgba⟩
  · have hfield := congrArg App.hubReturnRgba h.app
    exact hfield
  · by_cases hj : j = i
    · subst hj
      exact ⟨h.rdp, h.connectEpoch⟩
    · rw [h.others j hj]
      exact ⟨rfl, rfl⟩

theorem recordsKept_modifySlot (a : App) (i : SlotIndex) (f : Slot → Slot)
    (hrdp : (f (a.sessions i)).rdp = (a.sessions i).rdp)
    (hepoch : (f (a.sessions i)).connectEpoch = (a.sessions i).connectEpoch) :
    RecordsKept a (a.modifySlot i f) := by
  refine ⟨rfl, rfl, fun j => ?_, .inl rfl⟩
  by_cases hj : j = i
  · subst hj
    rw [App.modifySlot_same]
    exact ⟨hrdp, hepoch⟩
  · rw [App.modifySlot_other _ _ _ hj]
    exact ⟨rfl, rfl⟩

theorem recordsKept_reportTerminal (a : App) (i : SlotIndex) (state : RdpState) :
    RecordsKept a (a.reportTerminal i state) :=
  (App.presented_reportTerminal a i state).recordsKept (.inl (App.reportTerminal_kept a i state).2.1)

theorem recordsKept_unlocked (a : App) (callback : UnlockedCallback) :
    RecordsKept a (a.unlocked callback) := by
  cases callback with
  | state i state =>
    show RecordsKept a (a.recordState i state)
    have hstate := recordsKept_modifySlot a i (fun s => { s with currentState := state }) rfl rfl
    unfold App.recordState
    split
    · exact .refl a
    · simp only
      split
      · exact hstate.trans (recordsKept_reportTerminal _ i state)
      · exact hstate
  | desktopSize i width height =>
    exact recordsKept_modifySlot a i
      (fun s => { s with desktopWidth := width, desktopHeight := height }) rfl rfl
  | stop => exact ⟨rfl, rfl, fun _ => ⟨rfl, rfl⟩, .inl rfl⟩

/-- Whatever becomes of a unit that comes this far, the canvas is gone. -/
theorem presentAu_rgba (a : App) (i : SlotIndex) (au : AccessUnit) (decoderSeed : Bool)
    (env : FeedEnv) : (a.presentAu i au decoderSeed env).1.rgba = none := by
  have hyield := (App.yieldCanvas_cases a i).1
  unfold App.presentAu
  generalize a.yieldCanvas i = yielded at hyield ⊢
  rcases yielded with ⟨b, _ | _⟩
  · have hclaim := (App.claimDecoder_cases b i decoderSeed).1
    simp only at hyield ⊢
    generalize b.claimDecoder i decoderSeed = claimed at hclaim ⊢
    rcases claimed with ⟨c, _ | shown⟩
    · have hopened : ((c.dropResized i).openDecoder i env).rgba = none := by
        rw [(App.openDecoder_cases _ i env).1, (App.dropResized_cases c i).1]
        exact hclaim.trans hyield
      simp only
      split
      · exact (App.feedDecoder_kept _ i env).2.1.trans hopened
      · exact (App.reportTerminal_kept _ i _).2.1.trans hopened
    · exact hclaim.trans hyield
  · exact hyield

theorem recordsKept_ingest (scan : Scanner) (a : App) (i : SlotIndex) (au : AccessUnit)
    (env : FeedEnv) : RecordsKept a (a.ingestAuLocked scan i au env).1 := by
  have hnoted : RecordsKept a
      (a.noteVideoStream i (scan (a.sessions i).videoCodec au.data).valid env.seenMs) := by
    unfold App.noteVideoStream
    cases (scan (a.sessions i).videoCodec au.data).valid <;>
      (refine recordsKept_modifySlot a i _ ?_ ?_ <;> rfl)
  unfold App.ingestAuLocked
  simp only
  refine hnoted.trans ?_
  generalize a.noteVideoStream i (scan (a.sessions i).videoCodec au.data).valid env.seenMs = b
  split
  · simp only
    refine recordsKept_modifySlot b i _ ?_ ?_ <;> rfl
  · split
    · exact .refl b
    · split
      · exact recordsKept_reportTerminal b i _
      · exact (App.presented_presentAu ..).recordsKept (.inr (presentAu_rgba ..))

theorem recordsKept_foldl (a : App) (callbacks : List UnlockedCallback) :
    RecordsKept a (callbacks.foldl App.unlocked a) := by
  induction callbacks generalizing a with
  | nil => exact .refl a
  | cons callback rest ih => exact (recordsKept_unlocked a callback).trans (ih _)

theorem recordsKept_replayUnits (scan : Scanner) (a : App) (i : SlotIndex) (chain : List AccessUnit)
    (envs : List ReplayEnv) : RecordsKept a (a.replayUnits scan i chain envs).1 := by
  induction chain generalizing a envs with
  | nil => exact .refl a
  | cons au rest ih =>
    have hunit : RecordsKept a ((envs.headD {}).meanwhile.foldl App.unlocked
        (a.ingestAuLocked scan i au (envs.headD {}).feed).1) :=
      (recordsKept_ingest scan a i au _).trans (recordsKept_foldl _ _)
    rw [replayUnits_cons]
    simp only
    split
    · exact hunit
    · exact hunit.trans (ih _ _)

theorem recordsKept_snapshotReplay (scan : Scanner) (a : App) (target : SlotIndex) (now : UInt32)
    (envs : List ReplayEnv) : RecordsKept a (a.snapshotReplay scan target now envs).1 := by
  have hreset := recordsKept_modifySlot a target
    (fun s => { s with snapshot := {}, snapshotIdrReady := false }) rfl rfl
  unfold App.snapshotReplay
  simp only
  split
  · exact hreset
  · split
    · exact hreset
    · exact hreset.trans (recordsKept_replayUnits ..)

theorem recordsKept_ingestAu (scan : Scanner) (a : App) (i : SlotIndex) (codec : VideoCodec)
    (au : AccessUnit) (env : FeedEnv) : RecordsKept a (a.ingestAu scan i codec au env).1 := by
  refine RecordsKept.trans ?_ (recordsKept_ingest ..)
  unfold App.changeCodec
  split
  · exact .refl a
  · refine recordsKept_modifySlot a i _ ?_ ?_ <;> rfl

theorem recordsKept_openAudioTrack (a : App) (mediaOpens audioOpens : Bool) :
    RecordsKept a (a.openAudioTrack mediaOpens audioOpens) := by
  unfold App.openAudioTrack
  simp only
  split_ifs <;> exact ⟨rfl, rfl, fun _ => ⟨rfl, rfl⟩, .inl rfl⟩

theorem recordsKept_noteGraphicsPathSwitch (a : App) (i : SlotIndex) :
    RecordsKept a (a.noteGraphicsPathSwitch i).1 := by
  have hcount := recordsKept_modifySlot a i
    (fun s => { s with graphicsPathSwitches := s.graphicsPathSwitches + 1 }) rfl rfl
  unfold App.noteGraphicsPathSwitch
  simp only
  split
  · exact hcount
  · exact hcount.trans (recordsKept_reportTerminal _ i _)

theorem recordsKept_yieldDecoder (a : App) (i : SlotIndex) (now : UInt32) :
    RecordsKept a (a.yieldDecoder i now).1 := by
  unfold App.yieldDecoder
  cases a.video with
  | none => exact .refl a
  | some d =>
    simp only
    split
    · simp only
      refine recordsKept_modifySlot a i _ ?_ ?_ <;> rfl
    · have hclosed : RecordsKept a { a with video := none, decoderKeyframePending := false } :=
        ⟨rfl, rfl, fun _ => ⟨rfl, rfl⟩, .inl rfl⟩
      have hswitch := recordsKept_noteGraphicsPathSwitch
        { a with video := none, decoderKeyframePending := false } i
      split
      · split <;> rename_i heq <;> rw [heq] at hswitch <;> exact hclosed.trans hswitch
      · exact hclosed

theorem yieldDecoder_rgba (a : App) (i : SlotIndex) (now : UInt32) :
    (a.yieldDecoder i now).1.rgba = a.rgba := by
  have hswitch : ({ a with video := none, decoderKeyframePending := false }.noteGraphicsPathSwitch
      i).1.rgba = a.rgba := by
    unfold App.noteGraphicsPathSwitch
    simp only
    split
    · rfl
    · exact (App.reportTerminal_kept ..).2.1
  unfold App.yieldDecoder
  cases a.video with
  | none => rfl
  | some d =>
    simp only
    split
    · rfl
    · split
      · split <;> rename_i heq <;> rw [heq] at hswitch <;> exact hswitch
      · rfl

end RecordsKept

end Lgnome.Native
