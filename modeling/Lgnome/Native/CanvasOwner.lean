import Lgnome.Native.Painted

/-!
# Whose pixels are on the canvas

The surfaces pass between the screen and the HUB and are closed and zeroed in
between. The owner in the record is always the only painter, and a frozen surface
is painted by nobody. Its owner does not come back on the canvas beside it, short
of a slot whose 32-bit epoch has come round.
-/
namespace Lgnome.Native

open Lgnome.Transition

/-- A step that leaves the frozen surface, the sessions and the choice of the active slot alone. -/
structure FrozenKept (s t : Screen) : Prop where
  frozen : t.frozen = s.frozen
  hubReturnRgba : t.app.hubReturnRgba = s.app.hubReturnRgba
  activeIndex : t.app.activeIndex = s.app.activeIndex
  slot : ∀ j, (t.app.sessions j).rdp = (s.app.sessions j).rdp ∧
    (t.app.sessions j).connectEpoch = (s.app.sessions j).connectEpoch

section FrozenKept

variable {s t r : Screen} {i : SlotIndex}

theorem FrozenKept.refl (s : Screen) : FrozenKept s s := ⟨rfl, rfl, rfl, fun _ => ⟨rfl, rfl⟩⟩

theorem FrozenKept.trans (h : FrozenKept s t) (h' : FrozenKept t r) : FrozenKept s r :=
  ⟨h'.frozen.trans h.frozen, h'.hubReturnRgba.trans h.hubReturnRgba,
    h'.activeIndex.trans h.activeIndex,
    fun j => ⟨(h'.slot j).1.trans (h.slot j).1, (h'.slot j).2.trans (h.slot j).2⟩⟩

theorem RecordsKept.frozenKept (h : RecordsKept s.app t.app) (hfrozen : t.frozen = s.frozen) :
    FrozenKept s t :=
  ⟨hfrozen, h.hubReturnRgba, h.activeIndex, h.slot⟩

theorem frozenKept_modifySlot (s : Screen) (i : SlotIndex) (f : Slot → Slot)
    (hf : ∀ slot, (f slot).rdp = slot.rdp ∧ (f slot).connectEpoch = slot.connectEpoch) :
    FrozenKept s (s.onApp (·.modifySlot i f)) :=
  (recordsKept_modifySlot s.app i f (hf _).1 (hf _).2).frozenKept rfl

theorem frozenKept_closeRgba (s : Screen) : FrozenKept s s.closeRgba :=
  ⟨rfl, rfl, rfl, fun _ => ⟨rfl, rfl⟩⟩

theorem frozenKept_armReplacement (s : Screen) (r : Replacement) :
    FrozenKept s (s.armReplacement r) := by
  unfold Screen.armReplacement
  split
  · exact .refl s
  · exact ⟨rfl, rfl, rfl, fun _ => ⟨rfl, rfl⟩⟩

theorem frozenKept_follow {a : App} (h : RecordsKept s.app a) : FrozenKept s (s.follow a) := by
  unfold Screen.follow
  split
  · exact RecordsKept.frozenKept h rfl
  · exact RecordsKept.frozenKept h rfl

theorem frozenKept_prepareCanvas (allocates : Bool) :
    FrozenKept s (s.prepareCanvas i allocates) := by
  unfold Screen.prepareCanvas
  simp only
  split
  · split
    · exact .refl s
    · exact ⟨rfl, rfl, rfl, fun _ => ⟨rfl, rfl⟩⟩
  · split
    · exact .refl s
    · split
      · exact ⟨rfl, rfl, rfl, fun _ => ⟨rfl, rfl⟩⟩
      · exact frozenKept_closeRgba s

theorem frozenKept_reportTerminal (s : Screen) (i : SlotIndex) (state : RdpState) :
    FrozenKept s (s.onApp (·.reportTerminal i state)) :=
  (recordsKept_reportTerminal s.app i state).frozenKept rfl

theorem frozenKept_draw (u : BitmapRect) : FrozenKept s (s.draw i u).1 := by
  unfold Screen.draw
  cases hcanvas : s.canvas with
  | none => exact frozenKept_reportTerminal s i _
  | some c =>
    simp only
    split
    · rename_i c' heq
      have hpainted : FrozenKept s ({ s with canvas := some c' }.note
          (.painted (s.app.rgbaOwnerOf i) c.width c.height u)) := ⟨rfl, rfl, rfl, fun _ => ⟨rfl, rfl⟩⟩
      exact hpainted.trans (frozenKept_modifySlot _ i _ fun _ => ⟨rfl, rfl⟩)
    · exact frozenKept_reportTerminal s i _

theorem frozenKept_bitmapUpdate (u : BitmapRect) (env : PaintEnv) :
    FrozenKept s (s.bitmapUpdate i u env).1 := by
  unfold Screen.bitmapUpdate
  simp only
  split
  · exact frozenKept_modifySlot s i _ fun _ => ⟨rfl, rfl⟩
  · have hmarked : FrozenKept s
        (s.onApp (·.modifySlot i fun slot => { slot with videoViaBitmap := true })) :=
      frozenKept_modifySlot s i _ fun _ => ⟨rfl, rfl⟩
    refine hmarked.trans ?_
    generalize s.onApp (·.modifySlot i fun slot => { slot with videoViaBitmap := true }) = b
    split
    · exact frozenKept_reportTerminal b i _
    · have hforeign : FrozenKept b (b.dropForeignCanvas i) := by
        unfold Screen.dropForeignCanvas
        split
        · exact frozenKept_closeRgba b
        · exact .refl b
      refine hforeign.trans ?_
      generalize b.dropForeignCanvas i = c
      have hkept := recordsKept_yieldDecoder c.app i env.fedMs
      generalize c.app.yieldDecoder i env.fedMs = yielded at hkept ⊢
      rcases yielded with ⟨a, _ | outcome⟩
      · have hyielded : FrozenKept c { c with app := a } := RecordsKept.frozenKept hkept rfl
        exact hyielded.trans ((frozenKept_prepareCanvas _).trans (frozenKept_draw _))
      · exact RecordsKept.frozenKept hkept rfl

end FrozenKept

/-- What a switch makes of the two surfaces. -/
structure Published (s t : Screen) (target : SlotIndex) : Prop where
  activeIndex : t.app.activeIndex = target
  slot : ∀ j, (t.app.sessions j).rdp = (s.app.sessions j).rdp ∧
    (t.app.sessions j).connectEpoch = (s.app.sessions j).connectEpoch
  frozen : t.frozen = s.frozen ∨ t.frozen = none
  hubReturnRgba : t.app.hubReturnRgba = none ∨ ∃ o, s.app.hubReturnRgba = some o ∧
    o.epoch ≠ (s.app.sessions target).connectEpoch ∧ t.app.hubReturnRgba = some o ∧ t.app.rgba = none

theorem handOver_published (s : Screen) (target : SlotIndex) :
    Published s ((s.handOver target).onApp fun a =>
      { a with activeIndex := target, videoRefreshNeeded := false }) target := by
  unfold Screen.handOver
  simp only
  split
  · rename_i hnone
    exact ⟨rfl, fun _ => ⟨rfl, rfl⟩, .inl rfl, .inl hnone⟩
  · rename_i o ho
    split_ifs with howner hepoch
    · exact ⟨rfl, fun _ => ⟨rfl, rfl⟩, .inr rfl, .inl rfl⟩
    · have harm := frozenKept_armReplacement s.closeRgba
        { slot := target, epoch := (s.app.sessions target).connectEpoch
          baselineFrames := (s.app.sessions target).videoOkFrames }
      have hkept := (frozenKept_closeRgba s).trans harm
      refine ⟨rfl, hkept.slot, .inl hkept.frozen, .inr ⟨o, ho, hepoch, ?_, ?_⟩⟩
      · exact harm.hubReturnRgba.trans ho
      · simp only [Screen.onApp, Screen.armReplacement]
        split <;> rfl
    · exact ⟨rfl, fun _ => ⟨rfl, rfl⟩, .inr rfl, .inl rfl⟩

theorem frozenKept_dropPending (s : Screen) (target : SlotIndex) :
    FrozenKept s (s.dropPending target) := by
  refine RecordsKept.frozenKept ?_ rfl
  simp only [Screen.dropPending, Screen.onApp]
  split
  · refine recordsKept_modifySlot _ _ _ ?_ ?_ <;> rfl
  · exact .refl _

theorem publishOwner_published (s : Screen) (target : SlotIndex) :
    Published s (s.publishOwner target) target := by
  have hpending := frozenKept_dropPending s target
  have hpublished := handOver_published (s.dropPending target) target
  refine ⟨hpublished.activeIndex, fun j => ?_, ?_, ?_⟩
  · exact ⟨(hpublished.slot j).1.trans (hpending.slot j).1,
      (hpublished.slot j).2.trans (hpending.slot j).2⟩
  · rw [← hpending.frozen]
    exact hpublished.frozen
  · rw [← hpending.hubReturnRgba, ← (hpending.slot target).2]
    exact hpublished.hubReturnRgba

/-- What leaving the screen for another slot makes of them: the canvas is gone. -/
structure Vacated (s t : Screen) (target : SlotIndex) : Prop where
  activeIndex : t.app.activeIndex = target
  slot : ∀ j, (t.app.sessions j).rdp = (s.app.sessions j).rdp ∧
    (t.app.sessions j).connectEpoch = (s.app.sessions j).connectEpoch
  rgba : t.app.rgba = none
  frozen : t.frozen = s.frozen ∨ s.frozen = none
  hubReturnRgba : t.app.hubReturnRgba = s.app.hubReturnRgba ∨
    ∃ i, t.app.hubReturnRgba = some (s.app.rgbaOwnerOf i)

theorem captureHubReturn_vacates (s : Screen) (target : SlotIndex) :
    Vacated s (s.captureHubReturn.closeRgba.onApp fun a => { a with activeIndex := target }) target := by
  rcases captureHubReturn_cases s with heq | ⟨i, c, hfrozen, hcanvas, hrgba, -, heq⟩
  · rw [heq]
    exact ⟨rfl, fun _ => ⟨rfl, rfl⟩, rfl, .inl rfl, .inl rfl⟩
  · rw [heq]
    exact ⟨rfl, fun _ => ⟨rfl, rfl⟩, rfl, .inr hfrozen, .inr ⟨i, hrgba⟩⟩

theorem switchToConnect_vacates (s : Screen) (target : SlotIndex) :
    Vacated s (s.switchToConnect target) target := by
  unfold Screen.switchToConnect
  simp only
  have hcapture : ∀ b, b = s.captureHubReturn ∨ b = s → ∀ r : Replacement,
      Vacated s ((b.armReplacement r).closeRgba.onApp fun a =>
        { a with activeIndex := target, videoRefreshNeeded := false }) target := by
    intro b hb r
    have harm := frozenKept_armReplacement b r
    have hb' : b = s ∨ _ := hb.elim (fun h => h ▸ captureHubReturn_cases s) .inl
    rcases hb' with rfl | ⟨i, c, hfrozen, hcanvas, hrgba, -, rfl⟩
    · exact ⟨rfl, harm.slot, rfl, .inl harm.frozen, .inl harm.hubReturnRgba⟩
    · exact ⟨rfl, harm.slot, rfl, .inr hfrozen, .inr ⟨i, harm.hubReturnRgba.trans hrgba⟩⟩
  refine hcapture _ ?_ _
  split
  · exact .inl rfl
  · exact .inr rfl

theorem slotConnect_frozen (s : Screen) (i : SlotIndex) (session : Option Session)
    (armed : Option Bool) :
    (s.slotConnect i session armed).frozen = s.frozen := by
  unfold Screen.slotConnect
  simp only
  split
  · exact (frozenKept_armReplacement s _).frozen
  · rfl

/-- Drawing a frame may retire the frozen surface, and no more. -/
structure Drawn (s t : Screen) : Prop where
  activeIndex : t.app.activeIndex = s.app.activeIndex
  slot : ∀ j, (t.app.sessions j).rdp = (s.app.sessions j).rdp ∧
    (t.app.sessions j).connectEpoch = (s.app.sessions j).connectEpoch
  rgba : t.app.rgba = s.app.rgba
  frozen : t.frozen = s.frozen ∨ t.frozen = none
  hubReturnRgba : t.app.hubReturnRgba = s.app.hubReturnRgba ∨ t.app.hubReturnRgba = none

theorem drawRgbaFrame_drawn (s : Screen) (rendered : RenderResult) :
    Drawn s (s.drawRgbaFrame rendered) := by
  have hsame : Drawn s s := ⟨rfl, fun _ => ⟨rfl, rfl⟩, rfl, .inl rfl, .inl rfl⟩
  have hclosed : Drawn s s.closeHubReturn := ⟨rfl, fun _ => ⟨rfl, rfl⟩, rfl, .inr rfl, .inr rfl⟩
  have hreport : ∀ b, Drawn s b → ∀ i, Drawn s (b.onApp (·.reportTerminal i .decoderError)) := by
    intro b hb i
    have hkept := frozenKept_reportTerminal b i .decoderError
    have hrgba := (App.reportTerminal_kept b.app i .decoderError).2.1
    refine ⟨hkept.activeIndex.trans hb.activeIndex, fun j => ?_, hrgba.trans hb.rgba, hb.frozen, ?_⟩
    · exact ⟨(hkept.slot j).1.trans (hb.slot j).1, (hkept.slot j).2.trans (hb.slot j).2⟩
    · rw [hkept.hubReturnRgba]
      exact hb.hubReturnRgba
  unfold Screen.drawRgbaFrame
  simp only
  split
  · refine hreport _ ?_ _
    split
    · exact hclosed
    · exact hsame
  · split
    · exact hclosed
    · exact hsame

/-- A frozen surface stays as it is, or is frozen no more. -/
theorem frozen_next {s : Screen} {f : Surface} (h : s.frozen = some f) (scan : Scanner)
    (action : ScreenAction) :
    (s.next scan action).frozen = some f ∨ (s.next scan action).frozen = none := by
  cases action with
  | bitmap i u env => exact .inl ((frozenKept_bitmapUpdate u env).frozen.trans h)
  | videoAu i codec au env => exact .inl ((frozenKept_follow (recordsKept_ingestAu ..)).frozen.trans h)
  | replay target now envs =>
    exact .inl ((frozenKept_follow (recordsKept_snapshotReplay ..)).frozen.trans h)
  | publish target =>
    rcases (publishOwner_published s target).frozen with hsame | hnone
    · exact .inl (hsame.trans h)
    · exact .inr hnone
  | configure target =>
    rcases (captureHubReturn_vacates s target).frozen with hsame | hnone
    · exact .inl (hsame.trans h)
    · rw [h] at hnone
      cases hnone
  | connectFromUi target =>
    rcases (switchToConnect_vacates s target).frozen with hsame | hnone
    · exact .inl (hsame.trans h)
    · rw [h] at hnone
      cases hnone
  | connect i session armed => exact .inl ((slotConnect_frozen s i session armed).trans h)
  | hub shown => cases shown <;> exact .inl h
  | stopMedia => exact .inr rfl
  | draw rendered =>
    rcases (drawRgbaFrame_drawn s rendered).frozen with hsame | hnone
    · exact .inl (hsame.trans h)
    · exact .inr hnone
  | unlocked | audioFormat | arm | reset | pending | stop | select => exact .inl h

def ScreenAction.connects (i : SlotIndex) : ScreenAction → Bool
  | .connect j _ _ => j = i
  | _ => false

/-- How often a slot was connected. -/
def connects (i : SlotIndex) (tr : List (ScreenAction × Unit)) : Nat :=
  tr.countP (·.1.connects i)

/-- The frozen surface's connection is not that of a live worker of the active slot,
nor the canvas's. -/
structure Apart (s : Screen) : Prop where
  earlier : ∀ o, s.app.hubReturnRgba = some o →
    o.epoch.toNat ≤ (s.app.sessions o.owner).connectEpoch.toNat
  resting : ∀ o, s.app.hubReturnRgba = some o → s.app.activeIndex = o.owner →
    (s.app.sessions o.owner).rdp ≠ none → (s.app.sessions o.owner).connectEpoch ≠ o.epoch
  other : ∀ o, s.app.rgba = some o → s.app.hubReturnRgba ≠ some o

section Apart

variable {s t : Screen} {i : SlotIndex}

/-- A step that only ever closes surfaces. -/
theorem Apart.closing (h : Apart s) (hactive : t.app.activeIndex = s.app.activeIndex)
    (hslot : ∀ j, (t.app.sessions j).rdp = (s.app.sessions j).rdp ∧
      (t.app.sessions j).connectEpoch = (s.app.sessions j).connectEpoch)
    (hreturn : t.app.hubReturnRgba = s.app.hubReturnRgba ∨ t.app.hubReturnRgba = none)
    (hrgba : t.app.rgba = s.app.rgba ∨ t.app.rgba = none) : Apart t := by
  have hback : ∀ o, t.app.hubReturnRgba = some o → s.app.hubReturnRgba = some o := by
    intro o ho
    rcases hreturn with hsame | hnone
    · exact hsame ▸ ho
    · rw [hnone] at ho
      cases ho
  refine ⟨fun o ho => ?_, fun o ho => ?_, fun o ho hfrozen => ?_⟩
  · rw [(hslot o.owner).2]
    exact h.earlier o (hback o ho)
  · rw [hactive, (hslot o.owner).1, (hslot o.owner).2]
    exact h.resting o (hback o ho)
  · rcases hrgba with hsame | hnone
    · exact h.other o (hsame ▸ ho) (hback o hfrozen)
    · rw [hnone] at ho
      cases ho

theorem Apart.kept (h : Apart s) (hkept : RecordsKept s.app t.app) : Apart t :=
  h.closing hkept.activeIndex hkept.slot (.inl hkept.hubReturnRgba) hkept.rgba

theorem OwnCanvas.draw (h : OwnCanvas s i) (u : BitmapRect) : OwnCanvas (s.draw i u).1 i := by
  have hkept := frozenKept_draw (s := s) (i := i) u
  have hrgba : (s.draw i u).1.app.rgba = s.app.rgba := by
    have hreport := (App.reportTerminal_kept s.app i .decoderError).2.1
    unfold Screen.draw
    cases s.canvas with
    | none => exact hreport
    | some c =>
      simp only
      split
      · rfl
      · exact hreport
  intro o ho
  rw [h o (hrgba ▸ ho)]
  simp only [App.rgbaOwnerOf, (hkept.slot i).2]

/-- A worker that opens a canvas is the active slot's. -/
theorem bitmapUpdate_rgba (u : BitmapRect) (env : PaintEnv) {o : RgbaOwner}
    (ho : (s.bitmapUpdate i u env).1.app.rgba = some o) :
    s.app.rgba = some o ∨ (s.app.activeIndex = i ∧ o = s.app.rgbaOwnerOf i) := by
  have hkept := frozenKept_bitmapUpdate (s := s) (i := i) u env
  have howner : (s.bitmapUpdate i u env).1.app.rgbaOwnerOf i = s.app.rgbaOwnerOf i := by
    simp only [App.rgbaOwnerOf, (hkept.slot i).2]
  rw [← howner]
  clear hkept howner
  unfold Screen.bitmapUpdate at ho ⊢
  simp only at ho ⊢
  by_cases haside : s.app.activeIndex ≠ i ∨
      ((s.app.sessions i).snapshot.armed ∧ s.app.recentVideo i env.seenMs)
  · rw [if_pos haside] at ho
    exact .inl ho
  · rw [if_neg haside] at ho ⊢
    have hactive : s.app.activeIndex = i := by
      rw [not_or, not_not] at haside
      exact haside.1
    by_cases hempty : u.rgba.isEmpty || u.width = 0 || u.height = 0
    · rw [if_pos hempty] at ho
      have hreport := (App.reportTerminal_kept (s.onApp (·.modifySlot i fun slot =>
        { slot with videoViaBitmap := true })).app i .decoderError).2.1
      exact .inl (hreport.symm.trans ho)
    · rw [if_neg hempty] at ho ⊢
      refine .inr ⟨hactive, ?_⟩
      have hown := dropForeignCanvas_own
        (s := s.onApp (·.modifySlot i fun slot => { slot with videoViaBitmap := true })) (i := i)
      generalize (s.onApp (·.modifySlot i fun slot => { slot with videoViaBitmap := true })).dropForeignCanvas
        i = b at hown ho ⊢
      have hkept := recordsKept_yieldDecoder b.app i env.fedMs
      have hrgba := yieldDecoder_rgba b.app i env.fedMs
      generalize b.app.yieldDecoder i env.fedMs = yielded at hkept hrgba ho ⊢
      have hown' : OwnCanvas { b with app := yielded.1 } i := by
        intro o ho
        rw [hown o (hrgba ▸ ho)]
        simp only [App.rgbaOwnerOf, (hkept.slot i).2]
      rcases yielded with ⟨a, _ | outcome⟩
      · exact (prepareCanvas_own hown' env.allocates).draw u o ho
      · exact hown' o ho

theorem Apart.bitmapUpdate (h : Apart s) (hworker : (s.app.sessions i).rdp ≠ none) (u : BitmapRect)
    (env : PaintEnv) : Apart (s.bitmapUpdate i u env).1 := by
  have hkept := frozenKept_bitmapUpdate (s := s) (i := i) u env
  refine ⟨fun o ho => ?_, fun o ho => ?_, fun o ho hfrozen => ?_⟩
  · rw [(hkept.slot o.owner).2]
    exact h.earlier o (hkept.hubReturnRgba ▸ ho)
  · rw [hkept.activeIndex, (hkept.slot o.owner).1, (hkept.slot o.owner).2]
    exact h.resting o (hkept.hubReturnRgba ▸ ho)
  · rw [hkept.hubReturnRgba] at hfrozen
    rcases bitmapUpdate_rgba u env ho with hsame | ⟨hactive, rfl⟩
    · exact h.other o hsame hfrozen
    · exact h.resting _ hfrozen hactive hworker rfl

theorem Apart.published {target : SlotIndex} (h : Apart s) (hpublished : Published s t target) :
    Apart t := by
  rcases hpublished.hubReturnRgba with hnone | ⟨o, ho, hepoch, ho', hrgba⟩
  · refine ⟨?_, ?_, ?_⟩ <;> simp [hnone]
  · refine ⟨fun o' hfrozen => ?_, fun o' hfrozen howner _ => ?_, ?_⟩
    · obtain rfl := Option.some.inj (ho'.symm.trans hfrozen)
      rw [(hpublished.slot o.owner).2]
      exact h.earlier o ho
    · obtain rfl := Option.some.inj (ho'.symm.trans hfrozen)
      rw [(hpublished.slot o.owner).2, ← howner, hpublished.activeIndex]
      exact hepoch.symm
    · simp [hrgba]

/-- The screen goes to a slot without a worker. -/
theorem Apart.vacated {target : SlotIndex} (h : Apart s) (hvacated : Vacated s t target)
    (htarget : (s.app.sessions target).rdp = none) : Apart t := by
  refine ⟨fun o ho => ?_, fun o ho howner hworker => ?_, by simp [hvacated.rgba]⟩
  · rw [(hvacated.slot o.owner).2]
    rcases hvacated.hubReturnRgba with hsame | ⟨i, hnew⟩
    · exact h.earlier o (hsame ▸ ho)
    · obtain rfl := Option.some.inj (hnew.symm.trans ho)
      exact Nat.le_refl _
  · rw [(hvacated.slot o.owner).1, ← howner, hvacated.activeIndex] at hworker
    exact absurd htarget hworker

theorem slotConnect_eq (s : Screen) (i : SlotIndex) (session : Option Session)
    (armed : Option Bool) : (s.slotConnect i session armed).app =
      (s.app.reconnect i 0 armed).modifySlot i fun slot => { slot with rdp := session } := by
  unfold Screen.slotConnect
  simp only
  split
  · unfold Screen.armReplacement
    split <;> rfl
  · rfl

theorem slotConnect_app (s : Screen) (i : SlotIndex) (session : Option Session)
    (armed : Option Bool) :
    (s.slotConnect i session armed).app.activeIndex = s.app.activeIndex ∧
      (s.slotConnect i session armed).app.hubReturnRgba = s.app.hubReturnRgba ∧
      (s.slotConnect i session armed).app.rgba = s.app.rgba ∧
      (∀ j, j ≠ i → (s.slotConnect i session armed).app.sessions j = s.app.sessions j) ∧
      ((s.slotConnect i session armed).app.sessions i).connectEpoch =
        (s.app.sessions i).connectEpoch + 1 := by
  rw [slotConnect_eq]
  cases armed with
  | none =>
    refine ⟨rfl, rfl, rfl, fun j hj => ?_, ?_⟩
    · simp [App.reconnect, App.forgetStream, hj]
    · simp [App.reconnect, App.forgetStream]
  | some allocates =>
    refine ⟨rfl, rfl, rfl, fun j hj => ?_, ?_⟩
    · simp [App.reconnect, App.forgetStream, App.armSnapshot, hj]
    · simp [App.reconnect, App.forgetStream, App.armSnapshot]

theorem Apart.slotConnect (h : Apart s) (session : Option Session) (armed : Option Bool)
    (hround : (s.app.sessions i).connectEpoch.toNat + 1 < 4294967296) :
    Apart (s.slotConnect i session armed) := by
  obtain ⟨hactive, hreturn, hrgba, hothers, hepoch⟩ := slotConnect_app s i session armed
  have hlater : (s.app.sessions i).connectEpoch.toNat <
      ((s.slotConnect i session armed).app.sessions i).connectEpoch.toNat := by
    rw [hepoch, UInt32.toNat_add, UInt32.toNat_one, Nat.mod_eq_of_lt hround]
    exact Nat.lt_succ_self _
  refine ⟨fun o ho => ?_, fun o ho howner hworker => ?_, fun o ho => ?_⟩
  · rw [hreturn] at ho
    by_cases hi : o.owner = i
    · have hearlier := h.earlier o ho
      rw [hi] at hearlier ⊢
      omega
    · rw [hothers o.owner hi]
      exact h.earlier o ho
  · rw [hreturn] at ho
    by_cases hi : o.owner = i
    · have hearlier := h.earlier o ho
      rw [hi] at hearlier ⊢
      intro heq
      rw [heq] at hlater
      omega
    · rw [hothers o.owner hi] at hworker ⊢
      rw [hactive] at howner
      exact h.resting o ho howner hworker
  · rw [hreturn]
    exact h.other o (hrgba ▸ ho)

theorem follow_app (s : Screen) (a : App) : (s.follow a).app = a := by
  unfold Screen.follow
  split <;> rfl

theorem Apart.follow (h : Apart s) {a : App} (hkept : RecordsKept s.app a) : Apart (s.follow a) :=
  h.kept (by rw [follow_app]; exact hkept)

/-- A slot that is stopped has no worker. -/
theorem Apart.disconnect (h : Apart s) (i : SlotIndex) : Apart (s.onApp (·.disconnect i)) := by
  have hslot : ∀ j, ((s.app.disconnect i).sessions j).connectEpoch = (s.app.sessions j).connectEpoch ∧
      (((s.app.disconnect i).sessions j).rdp ≠ none → (s.app.sessions j).rdp ≠ none) := by
    intro j
    by_cases hj : j = i
    · subst hj
      simp [App.disconnect, App.forgetStream]
    · simp [App.disconnect, App.forgetStream, hj]
  refine ⟨fun o ho => ?_, fun o ho howner hworker => ?_, h.other⟩
  · exact (hslot o.owner).1 ▸ h.earlier o ho
  · exact (hslot o.owner).1 ▸ h.resting o ho howner ((hslot o.owner).2 hworker)

theorem Apart.next (h : Apart s) (scan : Scanner) (action : ScreenAction) (henabled : s.enabled action)
    (hround : ∀ i session armed, action = .connect i session armed →
      (s.app.sessions i).connectEpoch.toNat + 1 < 4294967296) :
    Apart (s.next scan action) := by
  cases action with
  | bitmap i u env => exact h.bitmapUpdate (Option.isSome_iff_ne_none.mp henabled) u env
  | videoAu i codec au env => exact h.follow (recordsKept_ingestAu ..)
  | replay target now envs => exact h.follow (recordsKept_snapshotReplay ..)
  | unlocked callback => exact h.kept (recordsKept_unlocked s.app callback)
  | audioFormat mediaOpens audioOpens => exact h.kept (recordsKept_openAudioTrack ..)
  | arm i allocates =>
    exact h.kept (recordsKept_modifySlot s.app i
      (fun slot => { slot with snapshot := slot.snapshot.arm allocates }) rfl rfl)
  | reset i =>
    exact h.kept (recordsKept_modifySlot s.app i
      (fun slot => { slot with snapshot := slot.snapshot.reset }) rfl rfl)
  | pending i filling =>
    exact h.kept (recordsKept_modifySlot s.app i
      (fun slot => { slot with snapshotPending := filling }) rfl rfl)
  | stop i => exact h.disconnect i
  | connect i session armed => exact h.slotConnect session armed (hround i session armed rfl)
  | hub shown => cases shown <;> exact h.kept ⟨rfl, rfl, fun _ => ⟨rfl, rfl⟩, .inl rfl⟩
  | publish target => exact h.published (publishOwner_published s target)
  | configure target =>
    refine h.vacated (captureHubReturn_vacates s target) ?_
    simp only [Screen.enabled, Bool.and_eq_true, Option.isNone_iff_eq_none] at henabled
    exact henabled.2
  | connectFromUi target =>
    refine h.vacated (switchToConnect_vacates s target) ?_
    simpa [Screen.enabled] using henabled
  | stopMedia => exact h.closing rfl (fun _ => ⟨rfl, rfl⟩) (.inr rfl) (.inr rfl)
  | draw rendered =>
    have hdrawn := drawRgbaFrame_drawn s rendered
    exact h.closing hdrawn.activeIndex hdrawn.slot hdrawn.hubReturnRgba (.inl hdrawn.rgba)
  | select target =>
    refine ⟨h.earlier, fun o _ _ hworker => ?_, h.other⟩
    simp only [Screen.enabled, App.anySlotConnected, Bool.not_eq_true', List.any_eq_false] at henabled
    have hnone := henabled o.owner (List.mem_finRange _)
    simp only [Option.isSome_iff_ne_none, not_not] at hnone
    exact absurd hnone hworker

end Apart

section Run

variable {scan : Scanner} {s t : Screen} {tr : List (ScreenAction × Unit)}

/-- Only a connect counts an epoch up. -/
theorem next_epoch (s : Screen) (scan : Scanner) (action : ScreenAction) (i : SlotIndex) :
    ((s.next scan action).app.sessions i).connectEpoch =
      (s.app.sessions i).connectEpoch + (if action.connects i then 1 else 0) := by
  have hkept : ∀ {epoch : UInt32}, epoch = (s.app.sessions i).connectEpoch →
      epoch = (s.app.sessions i).connectEpoch + 0 := fun h => h.trans (by simp)
  cases action with
  | bitmap j u env => exact hkept ((frozenKept_bitmapUpdate u env).slot i).2
  | videoAu j codec au env =>
    exact hkept ((frozenKept_follow (recordsKept_ingestAu scan s.app j codec au env)).slot i).2
  | replay target now envs =>
    exact hkept ((frozenKept_follow (recordsKept_snapshotReplay scan s.app target now envs)).slot i).2
  | unlocked callback => exact hkept ((recordsKept_unlocked s.app callback).slot i).2
  | audioFormat mediaOpens audioOpens =>
    exact hkept ((recordsKept_openAudioTrack s.app mediaOpens audioOpens).slot i).2
  | connect j session armed =>
    obtain ⟨-, -, -, hothers, hepoch⟩ := slotConnect_app s j session armed
    by_cases hj : j = i
    · subst hj
      simp only [Screen.next, ScreenAction.connects, decide_true, if_true]
      exact hepoch
    · simp only [Screen.next, hothers i (Ne.symm hj), ScreenAction.connects, hj, decide_false,
        Bool.false_eq_true, if_false]
      exact hkept rfl
  | publish target => exact hkept ((publishOwner_published s target).slot i).2
  | configure target => exact hkept ((captureHubReturn_vacates s target).slot i).2
  | connectFromUi target => exact hkept ((switchToConnect_vacates s target).slot i).2
  | draw rendered => exact hkept ((drawRgbaFrame_drawn s rendered).slot i).2
  | hub shown => cases shown <;> exact hkept rfl
  | stopMedia | select => exact hkept rfl
  | arm j | reset j | pending j | stop j =>
    refine hkept ?_
    by_cases hj : i = j
    · subst hj
      simp [Screen.next, Screen.onApp, App.armSnapshot, App.resetSnapshot, App.disconnect,
        App.forgetStream]
    · simp [Screen.next, Screen.onApp, App.armSnapshot, App.resetSnapshot, App.disconnect,
        App.forgetStream, hj]

theorem screenMachine_step {action : ScreenAction} {e : Unit}
    (h : (screenMachine scan).step s action = some (t, e)) :
    s.enabled action ∧ t = s.next scan action := by
  simp only [screenMachine] at h
  split at h
  · rename_i henabled
    exact ⟨henabled, (Prod.mk.inj (Option.some.inj h)).1.symm⟩
  · cases h

theorem owned_run (h : (screenMachine scan).Run tr s) : Owned s := by
  refine h.invariant ⟨by simp [screenMachine], by simp [screenMachine], nofun, nofun⟩
    fun s action t e hs hstep => ?_
  obtain ⟨-, rfl⟩ := screenMachine_step hstep
  exact hs.next scan action

theorem apart_run (h : (screenMachine scan).Run tr s) (hround : ∀ i, connects i tr < 4294967296) :
    Apart s := by
  have hinv : (∀ i, connects i tr < 4294967296) →
      (∀ i, (s.app.sessions i).connectEpoch.toNat = connects i tr) ∧ Apart s := by
    refine h.history (I := fun tr s => (∀ i, connects i tr < 4294967296) →
      (∀ i, (s.app.sessions i).connectEpoch.toNat = connects i tr) ∧ Apart s) ?_ ?_
    · exact fun _ => ⟨fun _ => rfl, nofun, nofun, nofun⟩
    · intro tr s action t e hi hstep hround
      obtain ⟨henabled, rfl⟩ := screenMachine_step hstep
      have hcount : ∀ i, connects i (tr ++ [(action, e)]) =
          connects i tr + (if action.connects i then 1 else 0) := by
        intro i
        simp [connects, List.countP_append]
      have hbefore : ∀ i, connects i tr < 4294967296 := fun i =>
        Nat.lt_of_le_of_lt (by rw [hcount]; exact Nat.le_add_right _ _) (hround i)
      obtain ⟨hepoch, hapart⟩ := hi hbefore
      refine ⟨fun i => ?_, hapart.next scan action henabled fun i session armed heq => ?_⟩
      · have hi := hround i
        rw [hcount] at hi ⊢
        rw [next_epoch, UInt32.toNat_add]
        split at hi
        · rw [if_pos ‹_›, if_pos ‹_›, hepoch i]
          exact Nat.mod_eq_of_lt hi
        · rw [if_neg ‹_›, if_neg ‹_›, hepoch i]
          exact Nat.mod_eq_of_lt hi
      · have hi := hround i
        rw [hcount, heq] at hi
        rw [hepoch i]
        simpa [ScreenAction.connects] using hi
  exact (hinv hround).2

/-- The canvas holds what its recorded owner painted since it was zeroed, and nothing
else. A frozen surface is not painted on. As long as no slot is connected 2^32 times,
the two surfaces are never the same connection's. -/
theorem canvas_ownership (h : (screenMachine scan).Run tr s) :
    (∀ c, s.canvas = some c → ∃ o, s.app.rgba = some o ∧ PaintedBy o c (writers s.log).canvas) ∧
      (∀ f action t e, s.frozen = some f → (screenMachine scan).step s action = some (t, e) →
        t.frozen = some f ∨ t.frozen = none) ∧
      ((∀ i, connects i tr < 4294967296) → ∀ c f, s.canvas = some c → s.frozen = some f →
        s.app.rgba ≠ s.app.hubReturnRgba) := by
  have howned := owned_run h
  have hrecord : ∀ c, s.canvas = some c → ∃ o, s.app.rgba = some o := by
    intro c hc
    refine Option.ne_none_iff_exists'.mp (howned.canvas_none.not.mp ?_)
    rw [hc]
    exact nofun
  refine ⟨fun c hc => ?_, fun f action t e hf hstep => ?_, fun hround c f hc _ heq => ?_⟩
  · obtain ⟨o, ho⟩ := hrecord c hc
    exact ⟨o, ho, howned.canvas c o hc ho⟩
  · obtain ⟨-, rfl⟩ := screenMachine_step hstep
    exact frozen_next hf scan action
  · obtain ⟨o, ho⟩ := hrecord c hc
    exact (apart_run h hround).other o ho (heq ▸ ho)

end Run

/-- One opaque pixel. -/
def onePixel : BitmapRect :=
  { left := 0, top := 0, width := 1, height := 1, stride := 4, rgba := [1, 2, 3, 255] }

/-- The green slot paints its canvas, and the HUB opens on it. -/
def paintedGreen : List ScreenAction :=
  [.connect .green (some 1) none, .unlocked (.desktopSize .green 1 1), .bitmap .green onePixel {},
    .hub true]

/-- No unit arrives here. -/
def noScan : Scanner := fun _ _ => { valid := false, canSeedDecoder := false }

/-- The yellow slot's canvas comes beside the frozen one of the green slot. -/
theorem canvas_ownership_sample : ∃ (s : Screen) (c f : Surface),
    s.canvas = some c ∧ s.frozen = some f ∧ c.pixels 0 = 1 ∧ f.pixels 0 = 1 ∧
    (∃ o, s.app.rgba = some o ∧ PaintedBy o c (writers s.log).canvas) ∧
    s.app.rgba ≠ s.app.hubReturnRgba := by
  have hr := Machine.run_of_exec (M := screenMachine noScan) (paintedGreen ++
    [.configure .yellow, .connect .yellow (some 2) none, .unlocked (.desktopSize .yellow 1 1),
      .bitmap .yellow onePixel {}]) (by decide)
  obtain ⟨hcanvas, -, hapart⟩ := canvas_ownership hr
  exact ⟨_, _, _, (Option.some_get (by decide)).symm, (Option.some_get (by decide)).symm,
    by decide, by decide, hcanvas _ (Option.some_get (by decide)).symm,
    hapart (by decide) _ _ (Option.some_get (by decide)).symm (Option.some_get (by decide)).symm⟩

/-- The green slot has no canvas, and a frozen one of its first connection. -/
structure Retrying (s : Screen) (f : Surface) (epoch : UInt32) : Prop where
  canvas : s.canvas = none
  rgba : s.app.rgba = none
  frozen : s.frozen = some f
  hubReturnRgba : s.app.hubReturnRgba = some { owner := .green, epoch := 1 }
  activeIndex : s.app.activeIndex = .green
  video : s.app.video = none
  width : (s.app.sessions .green).desktopWidth = 1
  height : (s.app.sessions .green).desktopHeight = 1
  unarmed : (s.app.sessions .green).snapshot.armed = false
  worker : (s.app.sessions .green).rdp = some 1
  epoch : (s.app.sessions .green).connectEpoch = epoch

section Retrying

variable {s : Screen} {f : Surface} {epoch : UInt32}

theorem Retrying.again (h : Retrying s f epoch) :
    Retrying (s.slotConnect .green (some 1) none) f (epoch + 1) := by
  obtain ⟨hactive, hreturn, hrgba, -, hepoch⟩ := slotConnect_app s .green (some 1) none
  have hcanvas : (s.slotConnect .green (some 1) none).canvas = s.canvas := by
    unfold Screen.slotConnect Screen.armReplacement
    simp only
    split
    · split <;> rfl
    · rfl
  refine ⟨hcanvas.trans h.canvas, hrgba.trans h.rgba, (slotConnect_frozen ..).trans h.frozen,
    hreturn.trans h.hubReturnRgba, hactive.trans h.activeIndex, ?_, ?_, ?_, ?_, ?_,
    h.epoch ▸ hepoch⟩
  · rw [slotConnect_eq]
    exact h.video
  · rw [slotConnect_eq]
    simpa [App.reconnect, App.forgetStream] using h.width
  · rw [slotConnect_eq]
    simpa [App.reconnect, App.forgetStream] using h.height
  · rw [slotConnect_eq]
    simp [App.reconnect, App.forgetStream]
  · rw [slotConnect_eq]
    simp

theorem Retrying.rounds (h : Retrying s f epoch) (n : Nat) : ∃ t,
    (screenMachine noScan).Path s (List.replicate n (.connect .green (some 1) none, ())) t ∧
      Retrying t f (epoch + UInt32.ofNat n) := by
  induction n with
  | zero => exact ⟨s, .refl s, by simpa using h⟩
  | succ n ih =>
    obtain ⟨t, hpath, ht⟩ := ih
    refine ⟨_, by rw [List.replicate_succ']; exact .snoc hpath rfl, ?_⟩
    have hnext := ht.again
    rw [UInt32.add_assoc, ← UInt32.ofNat_one, ← UInt32.ofNat_add] at hnext
    exact hnext

theorem Retrying.painted (h : Retrying s f epoch) : ∃ c,
    (s.bitmapUpdate .green onePixel {}).1.canvas = some c ∧ c.hasFrame ∧
      (s.bitmapUpdate .green onePixel {}).1.app.rgba = some { owner := .green, epoch } := by
  have hopen : Surface.open 1 1 true = some (.zeroed 1 1) := rfl
  have happly : ((Surface.zeroed 1 1).apply onePixel).2 = .ok := rfl
  have hframe : ((Surface.zeroed 1 1).apply onePixel).1.hasFrame = true := rfl
  have hempty : (onePixel.rgba.isEmpty || onePixel.width = 0 || onePixel.height = 0) = false := rfl
  simp only [Screen.bitmapUpdate, Screen.onApp, h.activeIndex, h.unarmed, ne_eq, not_true_eq_false,
    Bool.false_eq_true, false_and, or_self, if_false, hempty, Screen.dropForeignCanvas, App.yieldDecoder,
    App.modifySlot_rgba, h.rgba, Option.isSome_none, Bool.false_and, App.modifySlot_video, h.video,
    Screen.prepareCanvas, h.canvas, App.modifySlot_same, h.width, h.height, hopen, Screen.draw,
    Screen.note]
  generalize (Surface.zeroed 1 1).apply onePixel = applied at happly hframe
  obtain ⟨c, result⟩ := applied
  cases happly
  exact ⟨c, rfl, hframe, by simp [App.rgbaOwnerOf, h.epoch]⟩

end Retrying

/-- After 2^32 connections the green slot's canvas bears the frozen one's owner. -/
theorem canvas_and_frozen_agree : ¬∀ (tr : List (ScreenAction × Unit)) (s : Screen),
    (screenMachine noScan).Run tr s → ∀ c f, s.canvas = some c → s.frozen = some f →
      c.hasFrame → f.hasFrame → s.app.rgba ≠ s.app.hubReturnRgba := by
  intro hall
  obtain ⟨tr, s, f, hrun, hframe, hstart⟩ : ∃ tr s f, (screenMachine noScan).Run tr s ∧
      f.hasFrame ∧ Retrying s f 2 := by
    have hrun := Machine.run_of_exec (M := screenMachine noScan) (paintedGreen ++
      [.stop .green, .connectFromUi .green, .connect .green (some 1) none]) (by decide)
    refine ⟨_, _, _, hrun, ?_, ⟨Option.isNone_iff_eq_none.mp (by decide), by decide,
      (Option.some_get (by decide)).symm, by decide, by decide, by decide, by decide, by decide,
      by decide, by decide, by decide⟩⟩
    decide
  obtain ⟨t, hpath, ht⟩ := hstart.rounds 4294967295
  obtain ⟨c, hcanvas, hpainted, hrgba⟩ := ht.painted
  have hkept := frozenKept_bitmapUpdate (s := t) (i := .green) onePixel {}
  have hstep : (screenMachine noScan).step t (.bitmap .green onePixel {}) =
      some ((t.bitmapUpdate .green onePixel {}).1, ()) := by
    simp [screenMachine, Screen.enabled, Screen.next, ht.worker]
  refine hall _ _ ((hrun.append hpath).snoc hstep) c f hcanvas (hkept.frozen.trans ht.frozen) hpainted
    hframe ?_
  rw [hrgba, hkept.hubReturnRgba, ht.hubReturnRgba]
  rfl

end Lgnome.Native
