import Lgnome.Native.Records
import Lgnome.Native.Screen

/-!
# Who painted the surfaces

The log of a screen says who painted each byte last since its surface was zeroed.
Whatever is done to the screen, that is the surface's recorded owner. The screen
is a finer account of what the application does to its records.
-/
namespace Lgnome.Native

/-- Who painted each byte of the two surfaces last, since they were zeroed. -/
structure Writers where
  canvas : Nat → Option RgbaOwner := fun _ => none
  frozen : Nat → Option RgbaOwner := fun _ => none

def Writers.after (w : Writers) : CanvasNote → Writers
  | .opened => { w with canvas := fun _ => none }
  | .resized => { w with canvas := fun _ => none }
  | .closed => { w with canvas := fun _ => none }
  | .painted owner width height u =>
    { w with canvas := fun n => if Surface.paints width height u n then some owner else w.canvas n }
  | .froze => { canvas := fun _ => none, frozen := w.canvas }
  | .promoted => { canvas := w.frozen }
  | .released => { w with frozen := fun _ => none }

def writers (log : List CanvasNote) : Writers := log.foldl Writers.after {}

theorem writers_snoc (log : List CanvasNote) (x : CanvasNote) :
    writers (log ++ [x]) = (writers log).after x := by
  simp only [writers, List.foldl_append, List.foldl_cons, List.foldl_nil]

/-- The owner has painted the surface, and nobody else has. -/
def PaintedBy (owner : RgbaOwner) (c : Surface) (writer : Nat → Option RgbaOwner) : Prop :=
  ∀ n, writer n = some owner ∨ (writer n = none ∧ c.pixels n = 0)

/-- What the screen keeps in whatever order it is used. -/
structure Owned (s : Screen) : Prop where
  canvas_none : s.canvas = none ↔ s.app.rgba = none
  frozen_none : s.frozen = none ↔ s.app.hubReturnRgba = none
  canvas : ∀ c o, s.canvas = some c → s.app.rgba = some o → PaintedBy o c (writers s.log).canvas
  frozen : ∀ c o, s.frozen = some c → s.app.hubReturnRgba = some o →
    PaintedBy o c (writers s.log).frozen

section Owned

variable {s : Screen}

/-- The application may change as it likes beside the two records. -/
theorem Owned.onApp (h : Owned s) (f : App → App) (hrgba : (f s.app).rgba = s.app.rgba)
    (hreturn : (f s.app).hubReturnRgba = s.app.hubReturnRgba) : Owned (s.onApp f) := by
  refine ⟨?_, ?_, ?_, ?_⟩
  · exact h.canvas_none.trans (by rw [← hrgba]; rfl)
  · exact h.frozen_none.trans (by rw [← hreturn]; rfl)
  · intro c o hc ho
    exact h.canvas c o hc (hrgba ▸ ho)
  · intro c o hc ho
    exact h.frozen c o hc (hreturn ▸ ho)

theorem Owned.closeRgba (h : Owned s) : Owned s.closeRgba := by
  refine ⟨by simp [Screen.closeRgba, Screen.note], h.frozen_none, nofun, ?_⟩
  intro c o hc ho
  have hwriters : (writers s.closeRgba.log).frozen = (writers s.log).frozen := by
    simp only [Screen.closeRgba, Screen.note, writers_snoc]
    rfl
  rw [hwriters]
  exact h.frozen c o hc ho

theorem Owned.closeHubReturn (h : Owned s) : Owned s.closeHubReturn := by
  refine ⟨h.canvas_none, by simp [Screen.closeHubReturn, Screen.note], ?_, nofun⟩
  intro c o hc ho
  have hwriters : (writers s.closeHubReturn.log).canvas = (writers s.log).canvas := by
    simp only [Screen.closeHubReturn, Screen.note, writers_snoc]
    rfl
  rw [hwriters]
  exact h.canvas c o hc ho

/-- The frame is frozen, owner and writers with it, or everything stays as it is. -/
theorem captureHubReturn_cases (s : Screen) :
    s.captureHubReturn = s ∨ ∃ i c, s.frozen = none ∧ s.canvas = some c ∧
      s.app.rgba = some (s.app.rgbaOwnerOf i) ∧ c.hasFrame ∧ s.captureHubReturn =
        { s with
          app := { s.app with rgba := none, hubReturnRgba := s.app.rgba }
          canvas := none
          frozen := some c
          replacement := none }.note .froze := by
  unfold Screen.captureHubReturn
  split
  · exact .inl rfl
  · rename_i hfree
    split
    · rename_i i c hslot hcanvas
      split
      · rename_i hready
        rw [Bool.and_eq_true] at hready
        refine .inr ⟨i, c, ?_, hcanvas, by simpa [App.rgbaOwnerMatches, App.rgbaOwnerOf] using hready.1, hready.2, rfl⟩
        simp only [Bool.or_eq_true, not_or] at hfree
        simpa using hfree.2
      · exact .inl rfl
    · exact .inl rfl

theorem Owned.captureHubReturn (h : Owned s) : Owned s.captureHubReturn := by
  rcases captureHubReturn_cases s with heq | ⟨i, c, hfrozen, hcanvas, hrgba, -, heq⟩
  · rw [heq]
    exact h
  · rw [heq]
    refine ⟨by simp [Screen.note], by simp [Screen.note, hrgba], nofun, ?_⟩
    intro c' o hc ho
    obtain rfl := Option.some.inj hc
    simp only [Screen.note, writers_snoc]
    exact h.canvas c o hcanvas ho

theorem Owned.promoteHubReturn (h : Owned s) : Owned s.promoteHubReturn := by
  refine ⟨h.frozen_none, by simp [Screen.promoteHubReturn, Screen.note], ?_, nofun⟩
  intro c o hc ho
  simp only [Screen.promoteHubReturn, Screen.closeRgba, Screen.note, writers_snoc]
  exact h.frozen c o hc ho

theorem Owned.armReplacement (h : Owned s) (r : Replacement) : Owned (s.armReplacement r) := by
  unfold Screen.armReplacement
  split
  · exact h
  · exact ⟨h.canvas_none, h.frozen_none, h.canvas, h.frozen⟩

end Owned

section Bitmap

variable {s : Screen} {i : SlotIndex}

/-- There is no canvas but the slot's own. -/
def OwnCanvas (s : Screen) (i : SlotIndex) : Prop :=
  ∀ o, s.app.rgba = some o → o = s.app.rgbaOwnerOf i

theorem Owned.dropForeignCanvas (h : Owned s) : Owned (s.dropForeignCanvas i) := by
  unfold Screen.dropForeignCanvas
  split
  · exact h.closeRgba
  · exact h

theorem dropForeignCanvas_own : OwnCanvas (s.dropForeignCanvas i) i := by
  intro o ho
  unfold Screen.dropForeignCanvas at ho ⊢
  split at ho
  · cases ho
  · rename_i hown
    rw [if_neg hown]
    rw [ho] at hown
    simpa [App.rgbaOwnerMatches, ho, App.rgbaOwnerOf] using hown

theorem Owned.prepareCanvas (h : Owned s) (allocates : Bool) :
    Owned (s.prepareCanvas i allocates) := by
  unfold Screen.prepareCanvas
  simp only
  cases hcanvas : s.canvas with
  | none =>
    cases hopen : Surface.open (s.app.sessions i).desktopWidth (s.app.sessions i).desktopHeight
        allocates with
    | none => exact h
    | some c =>
      refine ⟨by simp [Screen.note], h.frozen_none, ?_, ?_⟩
      · intro c' o hc ho n
        obtain rfl := Option.some.inj hc
        simp only [Screen.note, writers_snoc]
        rw [Surface.open_zeroed hopen]
        exact .inr ⟨rfl, rfl⟩
      · intro c' o hc ho
        simp only [Screen.note, writers_snoc]
        exact h.frozen c' o hc ho
  | some c =>
    simp only
    split
    · exact h
    · split
      · rename_i hsize _ c' heq
        refine ⟨?_, h.frozen_none, ?_, ?_⟩
        · have hopen := h.canvas_none.not.mp (by rw [hcanvas]; nofun)
          simp [Screen.note, hopen]
        · intro c'' o hc ho n
          obtain rfl := Option.some.inj hc
          simp only [Screen.note, writers_snoc]
          rw [Surface.resize_zeroed heq hsize]
          exact .inr ⟨rfl, rfl⟩
        · intro c'' o hc ho
          simp only [Screen.note, writers_snoc]
          exact h.frozen c'' o hc ho
      · exact h.closeRgba

theorem prepareCanvas_own (hown : OwnCanvas s i) (allocates : Bool) :
    OwnCanvas (s.prepareCanvas i allocates) i := by
  unfold Screen.prepareCanvas
  simp only
  split
  · split
    · exact hown
    · intro o ho
      exact (Option.some.inj ho).symm
  · split
    · exact hown
    · split
      · exact hown
      · exact nofun

theorem Owned.reportTerminal (h : Owned s) (state : RdpState) :
    Owned (s.onApp (·.reportTerminal i state)) :=
  h.onApp _ (App.reportTerminal_kept ..).2.1 (recordsKept_reportTerminal ..).hubReturnRgba

/-- A worker paints its own canvas. -/
theorem Owned.painted (h : Owned s) (hown : OwnCanvas s i) {c c' : Surface} {u : BitmapRect}
    (hcanvas : s.canvas = some c) (happly : c.apply u = (c', .ok)) :
    Owned ({ s with canvas := some c' }.note
      (.painted (s.app.rgbaOwnerOf i) c.width c.height u)) := by
  refine ⟨?_, h.frozen_none, ?_, ?_⟩
  · have hopen := h.canvas_none.not.mp (by rw [hcanvas]; nofun)
    simp [Screen.note, hopen]
  · intro c'' o hc ho n
    obtain rfl := Option.some.inj hc
    simp only [Screen.note, writers_snoc, Writers.after, ← hown o ho]
    cases hpaints : Surface.paints c.width c.height u n with
    | true => exact .inl rfl
    | false =>
      have hkept := Surface.apply_unpainted c u hpaints
      rw [happly] at hkept
      rw [if_neg Bool.false_ne_true, hkept]
      exact h.canvas c o hcanvas ho n
  · intro c'' o hc ho
    simp only [Screen.note, writers_snoc]
    exact h.frozen c'' o hc ho

theorem Owned.draw (h : Owned s) (hown : OwnCanvas s i) (u : BitmapRect) :
    Owned (s.draw i u).1 := by
  unfold Screen.draw
  cases hcanvas : s.canvas with
  | none => exact h.reportTerminal _
  | some c =>
    simp only
    split
    · rename_i c' heq
      simp only
      exact (h.painted hown hcanvas heq).onApp _ (by rfl) (by rfl)
    · exact h.reportTerminal _

theorem Owned.bitmapUpdate (h : Owned s) (u : BitmapRect) (env : PaintEnv) :
    Owned (s.bitmapUpdate i u env).1 := by
  unfold Screen.bitmapUpdate
  simp only
  split
  · simp only
    exact h.onApp _ (by rfl) (by rfl)
  · have hmarked : Owned (s.onApp (·.modifySlot i fun slot => { slot with videoViaBitmap := true })) := by
      refine h.onApp _ ?_ ?_ <;> rfl
    split
    · exact hmarked.reportTerminal _
    · have hforeign := hmarked.dropForeignCanvas (i := i)
      have hown := dropForeignCanvas_own
        (s := s.onApp (·.modifySlot i fun slot => { slot with videoViaBitmap := true })) (i := i)
      generalize (s.onApp (·.modifySlot i fun slot => { slot with videoViaBitmap := true })).dropForeignCanvas
        i = b at hforeign hown ⊢
      have hkept := recordsKept_yieldDecoder b.app i env.fedMs
      have hrgba := yieldDecoder_rgba b.app i env.fedMs
      generalize b.app.yieldDecoder i env.fedMs = yielded at hkept hrgba ⊢
      have hyielded : Owned { b with app := yielded.1 } :=
        hforeign.onApp (fun _ => yielded.1) hrgba hkept.hubReturnRgba
      have hown' : OwnCanvas { b with app := yielded.1 } i := by
        intro o ho
        rw [hown o (hrgba ▸ ho)]
        simp only [App.rgbaOwnerOf, (hkept.slot i).2]
      rcases yielded with ⟨a, _ | outcome⟩
      · exact (hyielded.prepareCanvas env.allocates).draw (prepareCanvas_own hown' _) u
      · exact hyielded

theorem dropForeignCanvas_app (s : Screen) (i : SlotIndex) :
    (s.dropForeignCanvas i).app = s.app.dropForeignCanvas i := by
  unfold Screen.dropForeignCanvas App.dropForeignCanvas
  split <;> rfl

/-- The application sees no more of a canvas than whether it opens, fits and is painted. -/
theorem Owned.paint_app (h : Owned s) (u : BitmapRect) (allocates : Bool) (seenMs fedMs : UInt32) :
    ∃ env : BitmapEnv, env.seenMs = seenMs ∧ env.fedMs = fedMs ∧
      (((s.prepareCanvas i allocates).draw i u).1.app, ((s.prepareCanvas i allocates).draw i u).2) =
        (s.app.openCanvas i env).drawBitmap i env := by
  have hdraw : ∀ (b : Screen) (c : Surface), b.canvas = some c → b.app.rgba.isSome →
      ∃ applies, ∀ env : BitmapEnv, env.applies = applies →
        ((b.draw i u).1.app, (b.draw i u).2) = b.app.drawBitmap i env := by
    intro b c hcanvas hrgba
    have happly : ∀ applied, c.apply u = applied → ∃ applies, ∀ env : BitmapEnv,
        env.applies = applies → ((b.draw i u).1.app, (b.draw i u).2) = b.app.drawBitmap i env := by
      rintro ⟨c', result⟩ heq
      refine ⟨result = .ok, fun env henv => ?_⟩
      cases result <;>
        simp [Screen.draw, hcanvas, heq, App.drawBitmap, henv, hrgba, Screen.onApp, Screen.note]
    exact happly _ rfl
  cases hcanvas : s.canvas with
  | none =>
    have hrgba := h.canvas_none.mp hcanvas
    cases hopen : Surface.open (s.app.sessions i).desktopWidth (s.app.sessions i).desktopHeight
        allocates with
    | none =>
      refine ⟨{ seenMs, fedMs, opens := false }, rfl, rfl, ?_⟩
      simp [Screen.prepareCanvas, hcanvas, hopen, Screen.draw, App.openCanvas, hrgba,
        App.drawBitmap, Screen.onApp]
    | some c =>
      have hprepared : s.prepareCanvas i allocates =
          { s with app := { s.app with rgba := some (s.app.rgbaOwnerOf i) }, canvas := some c }.note
            .opened := by
        simp [Screen.prepareCanvas, hcanvas, hopen]
      obtain ⟨applies, happlies⟩ := hdraw (s.prepareCanvas i allocates) c
        (by rw [hprepared]; rfl) (by rw [hprepared]; rfl)
      refine ⟨{ seenMs, fedMs, applies }, rfl, rfl, ?_⟩
      rw [happlies { seenMs, fedMs, applies } rfl, hprepared]
      simp [App.openCanvas, hrgba, Screen.note, App.rgbaOwnerOf]
  | some c =>
    have hopen : s.app.rgba ≠ none := by
      rw [ne_eq, ← h.canvas_none, hcanvas]
      exact nofun
    have hrgba : s.app.rgba.isSome := Option.isSome_iff_ne_none.mpr hopen
    have hkeeps : ∀ b c', s.prepareCanvas i allocates = b → b.canvas = some c' → b.app = s.app →
        ∃ env : BitmapEnv, env.seenMs = seenMs ∧ env.fedMs = fedMs ∧
          (((s.prepareCanvas i allocates).draw i u).1.app,
            ((s.prepareCanvas i allocates).draw i u).2) = (s.app.openCanvas i env).drawBitmap i env := by
      rintro b c' rfl hc' happ
      obtain ⟨applies, happlies⟩ := hdraw _ c' hc' (by rw [happ]; exact hrgba)
      refine ⟨{ seenMs, fedMs, applies }, rfl, rfl, ?_⟩
      rw [happlies { seenMs, fedMs, applies } rfl, happ]
      simp [App.openCanvas, hopen]
    by_cases hsize : c.width = (s.app.sessions i).desktopWidth ∧
        c.height = (s.app.sessions i).desktopHeight
    · exact hkeeps s c (by simp [Screen.prepareCanvas, hcanvas, hsize]) hcanvas rfl
    · rcases hresize : c.resize (s.app.sessions i).desktopWidth (s.app.sessions i).desktopHeight
        allocates with ⟨c', result⟩
      cases result with
      | ok =>
        exact hkeeps ({ s with canvas := some c' }.note .resized) c'
          (by simp [Screen.prepareCanvas, hcanvas, hsize, hresize]) rfl rfl
      | invalid | nomem =>
        refine ⟨{ seenMs, fedMs, fits := false }, rfl, rfl, ?_⟩
        simp [Screen.prepareCanvas, hcanvas, hsize, hresize, Screen.draw, App.openCanvas, hopen,
          App.drawBitmap, Screen.onApp, Screen.closeRgba, Screen.note]

/-- The screen refines the application's own account of a bitmap update. -/
theorem Owned.bitmapUpdate_app (h : Owned s) (u : BitmapRect) (env : PaintEnv) :
    ∃ benv, ((s.bitmapUpdate i u env).1.app, (s.bitmapUpdate i u env).2) =
      s.app.bitmapUpdate i (u.rgba.isEmpty || u.width = 0 || u.height = 0) benv := by
  unfold Screen.bitmapUpdate App.bitmapUpdate
  simp only
  by_cases haside : s.app.activeIndex ≠ i ∨
      ((s.app.sessions i).snapshot.armed ∧ s.app.recentVideo i env.seenMs)
  · refine ⟨{ seenMs := env.seenMs }, ?_⟩
    rw [if_pos haside, if_pos haside]
    rfl
  · have hmarked : Owned (s.onApp (·.modifySlot i fun slot => { slot with videoViaBitmap := true })) :=
      h.onApp _ (by rfl) (by rfl)
    have hforeign := hmarked.dropForeignCanvas (i := i)
    have happ := dropForeignCanvas_app
      (s.onApp (·.modifySlot i fun slot => { slot with videoViaBitmap := true })) i
    by_cases hempty : u.rgba.isEmpty || u.width = 0 || u.height = 0
    · refine ⟨{ seenMs := env.seenMs }, ?_⟩
      rw [if_neg haside, if_neg haside, if_pos hempty, if_pos hempty]
      rfl
    · generalize (s.onApp (·.modifySlot i fun slot =>
        { slot with videoViaBitmap := true })).dropForeignCanvas i = b at hforeign happ ⊢
      have hrgba := yieldDecoder_rgba b.app i env.fedMs
      have hkept := recordsKept_yieldDecoder b.app i env.fedMs
      have hyielded : Owned { b with app := (b.app.yieldDecoder i env.fedMs).1 } :=
        hforeign.onApp (fun _ => _) hrgba hkept.hubReturnRgba
      obtain ⟨benv, hseen, hfed, hpaint⟩ :=
        hyielded.paint_app (i := i) u env.allocates env.seenMs env.fedMs
      refine ⟨benv, ?_⟩
      rw [if_neg haside, hseen, if_neg haside, if_neg hempty, if_neg hempty, hfed]
      have happ' : (s.app.modifySlot i fun slot => { slot with videoViaBitmap := true }).dropForeignCanvas
          i = b.app := happ.symm
      rw [happ']
      rcases hyield : b.app.yieldDecoder i env.fedMs with ⟨a, _ | outcome⟩
      · rw [hyield] at hpaint
        exact hpaint
      · rfl

end Bitmap

section Navigation

variable {s : Screen}

theorem Owned.follow (h : Owned s) {a : App} (hkept : RecordsKept s.app a) : Owned (s.follow a) := by
  have hfrozen : s.frozen = none ↔ a.hubReturnRgba = none := by
    rw [hkept.hubReturnRgba]
    exact h.frozen_none
  unfold Screen.follow
  by_cases hclosed : a.rgba.isNone && s.canvas.isSome
  · rw [if_pos hclosed]
    rw [Bool.and_eq_true, Option.isNone_iff_eq_none] at hclosed
    refine ⟨by simp [Screen.note, hclosed.1], hfrozen, nofun, ?_⟩
    intro c o hc ho
    simp only [Screen.note, writers_snoc]
    exact h.frozen c o hc (hkept.hubReturnRgba ▸ ho)
  · rw [if_neg hclosed]
    have hrgba : a.rgba = s.app.rgba := by
      rcases hkept.rgba with hsame | hnone
      · exact hsame
      · rw [hnone]
        refine (h.canvas_none.mp ?_).symm
        simpa [hnone] using hclosed
    exact h.onApp (fun _ => a) hrgba hkept.hubReturnRgba

theorem Owned.handOver (h : Owned s) (target : SlotIndex) : Owned (s.handOver target) := by
  unfold Screen.handOver
  simp only
  split
  · exact h.closeRgba
  · split_ifs
    · exact h.promoteHubReturn
    · exact h.closeRgba.armReplacement _
    · exact h.closeRgba.closeHubReturn

theorem Owned.publishOwner (h : Owned s) (target : SlotIndex) : Owned (s.publishOwner target) := by
  have hpending : Owned (s.dropPending target) := by
    refine h.onApp _ ?_ ?_ <;> (split <;> rfl)
  exact (hpending.handOver target).onApp _ (by rfl) (by rfl)

theorem Owned.switchToConnect (h : Owned s) (target : SlotIndex) : Owned (s.switchToConnect target) := by
  unfold Screen.switchToConnect
  simp only
  refine Owned.onApp (Owned.closeRgba (Owned.armReplacement ?_ _)) _ (by rfl) (by rfl)
  split
  · exact h.captureHubReturn
  · exact h

theorem Owned.slotConnect (h : Owned s) (i : SlotIndex) (session : Option Session)
    (armed : Option Bool) : Owned (s.slotConnect i session armed) := by
  unfold Screen.slotConnect
  simp only
  refine Owned.onApp ?_ _ (by cases armed <;> rfl) (by cases armed <;> rfl)
  split
  · exact h.armReplacement _
  · exact h

theorem Owned.stopMedia (s : Screen) : Owned s.stopMedia := by
  refine ⟨?_, ?_, nofun, nofun⟩ <;> simp [Screen.stopMedia, Screen.note, App.stopMedia]

theorem Owned.drawRgbaFrame (h : Owned s) (rendered : RenderResult) :
    Owned (s.drawRgbaFrame rendered) := by
  unfold Screen.drawRgbaFrame
  simp only
  split
  · refine Owned.reportTerminal ?_ _
    split
    · exact h.closeHubReturn
    · exact h
  · split
    · exact h.closeHubReturn
    · exact h

theorem Owned.next (h : Owned s) (scan : Scanner) (action : ScreenAction) :
    Owned (s.next scan action) := by
  cases action with
  | bitmap i u env => exact h.bitmapUpdate u env
  | videoAu i codec au env => exact h.follow (recordsKept_ingestAu ..)
  | replay target now envs => exact h.follow (recordsKept_snapshotReplay ..)
  | unlocked callback =>
    exact h.onApp (·.unlocked callback) (unlocked_undisturbed s.app callback).rgba
      (recordsKept_unlocked s.app callback).hubReturnRgba
  | audioFormat mediaOpens audioOpens =>
    refine h.onApp (·.openAudioTrack mediaOpens audioOpens) ?_
      (recordsKept_openAudioTrack ..).hubReturnRgba
    unfold App.openAudioTrack
    simp only
    split_ifs <;> rfl
  | publish target => exact h.publishOwner target
  | configure target =>
    exact Owned.onApp h.captureHubReturn.closeRgba (fun a => { a with activeIndex := target }) rfl rfl
  | connectFromUi target => exact h.switchToConnect target
  | connect i session armed => exact h.slotConnect i session armed
  | hub shown =>
    cases shown
    all_goals
      simp only [Screen.next]
      exact h.onApp _ (by rfl) (by rfl)
  | stopMedia => exact .stopMedia s
  | draw rendered => exact h.drawRgbaFrame rendered
  | arm | reset | pending | stop | select =>
    simp only [Screen.next]
    exact h.onApp _ (by rfl) (by rfl)

theorem handOver_app (s : Screen) (target : SlotIndex) :
    (s.handOver target).app = s.app.promoteHubReturn target := by
  have harm : ∀ (b : Screen) (r : Replacement), (b.armReplacement r).app = b.app := by
    intro b r
    unfold Screen.armReplacement
    split <;> rfl
  unfold Screen.handOver App.promoteHubReturn
  cases hreturn : s.app.hubReturnRgba with
  | none => simp [hreturn, Screen.closeRgba, Screen.note]
  | some o =>
    by_cases howner : o.owner = target
    · by_cases hepoch : o.epoch = (s.app.sessions target).connectEpoch
      · simp [howner, hepoch, hreturn, Screen.promoteHubReturn, Screen.closeRgba, Screen.note]
      · simp [howner, hepoch, hreturn, harm, Screen.closeRgba, Screen.note]
    · simp [howner, hreturn, Screen.closeRgba, Screen.closeHubReturn, Screen.note]

/-- The screen refines the application's own account of a switch. -/
theorem publishOwner_app (s : Screen) (target : SlotIndex) :
    (s.publishOwner target).app = s.app.publishOwner target := by
  simp only [Screen.publishOwner, Screen.onApp, handOver_app, Screen.dropPending, App.publishOwner]

end Navigation

end Lgnome.Native
