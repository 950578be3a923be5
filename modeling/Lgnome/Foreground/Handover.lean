import Lgnome.Foreground.Routing

/-!
# Moving the screen

The new slot is published before the old one is silenced, and its own output is
resumed last: in between the old slot is leaving and the new one entering. The
replay of a cache is one step, in which workers that take no lock may call back.
-/
namespace Lgnome.Foreground

open Lgnome.Native Lgnome.Native.App
open Lgnome.Transition (Prog)

variable {scan : Scanner} {m c : Prop}

/-! ## The replay -/

section Replay

variable {a b : App} {w : LoopState} {i : SlotIndex}

/-- A replay hears only of workers that exist. -/
def Heard (w : LoopState) (envs : List ReplayEnv) : Prop :=
  ∀ env ∈ envs, ∀ callback ∈ env.meanwhile, hasWorker w callback

theorem heard_meanwhile (w : LoopState) (envs : List ReplayEnv) : Heard w (w.meanwhile envs) := by
  intro env henv callback hcallback
  obtain ⟨env, -, rfl⟩ := List.mem_map.mp henv
  exact (List.mem_filter.mp hcallback).2

theorem moved_unlocked (hrdp : ∀ j, (a.sessions j).rdp = (w.slot j).rdp)
    {callback : UnlockedCallback} (h : hasWorker w callback) : Moved a (a.unlocked callback) := by
  cases callback with
  | state j reported =>
    refine .of_served (served_recordState a j reported) ?_
    rw [hrdp j]
    exact h
  | desktopSize j width height =>
    refine .of_served (served_desktopSize a j width height) ?_
    rw [hrdp j]
    exact h
  | stop => exact ⟨⟨rfl⟩, fun _ => .refl _, .inl⟩

theorem moved_unlocked_foldl (hrdp : ∀ j, (a.sessions j).rdp = (w.slot j).rdp)
    {callbacks : List UnlockedCallback} (h : ∀ callback ∈ callbacks, hasWorker w callback) :
    Moved a (callbacks.foldl unlocked a) := by
  induction callbacks generalizing a with
  | nil => exact .refl a
  | cons callback rest ih =>
    have hmoved := moved_unlocked hrdp (h callback (List.mem_cons_self ..))
    refine hmoved.trans (ih (fun j => ?_) fun next hnext => h next (List.mem_cons_of_mem _ hnext))
    exact (hmoved.slots j).rdp.trans (hrdp j)

theorem moved_replayUnits (units : List AccessUnit) (envs : List ReplayEnv)
    (hrdp : ∀ j, (a.sessions j).rdp = (w.slot j).rdp) (hi : (w.slot i).rdp.isSome)
    (henvs : Heard w envs) : Moved a (a.replayUnits scan i units envs).1 := by
  induction units generalizing a envs with
  | nil => exact .refl a
  | cons au rest ih =>
    have hhead : ∀ callback ∈ (envs.headD {}).meanwhile, hasWorker w callback := by
      cases envs with
      | nil => exact fun _ hnone => nomatch hnone
      | cons env more => exact henvs env (List.mem_cons_self ..)
    have htail : Heard w envs.tail := fun env henv => henvs env (List.mem_of_mem_tail henv)
    have hfed : Moved a (a.ingestAuLocked scan i au (envs.headD {}).feed).1 := by
      refine .of_served (served_ingestAuLocked a i scan au _) ?_
      rw [hrdp i]
      exact hi
    have hheard := hfed.trans
      (moved_unlocked_foldl (fun j => (hfed.slots j).rdp.trans (hrdp j)) hhead)
    unfold replayUnits
    simp only
    split
    · exact hheard
    · exact hheard.trans (ih envs.tail (fun j => (hheard.slots j).rdp.trans (hrdp j)) htail)

/-- The cache is taken from the slot, and what follows is what workers may do. -/
theorem moved_snapshotReplay (now : UInt32) (envs : List ReplayEnv) (hi : (w.slot i).rdp.isSome) :
    Moved (w.app.modifySlot i fun s => { s with snapshot := {}, snapshotIdrReady := false })
      (w.app.snapshotReplay scan i now (w.meanwhile envs)).1 := by
  unfold App.snapshotReplay
  simp only
  split
  · exact .refl _
  · split
    · exact .refl _
    · refine moved_replayUnits _ _ (fun j => ?_) hi (heard_meanwhile w envs)
      by_cases hj : j = i
      · subst hj
        rw [modifySlot_same]
        rfl
      · rw [modifySlot_other _ _ _ hj]
        rfl

end Replay

/-! ## The slot that enters -/

/-- A published slot whose output may still have to be resumed. -/
structure Entering (s : Slot) : Prop where
  rdp : s.rdp.isSome
  pending : s.snapshotPending = false
  armed : s.snapshot.armed → s.suppressed ∨ s.sessionFailed

/-- A slot whose cache was taken away. Its server may still have to be told. -/
structure Cleared (s : Slot) : Prop where
  rdp : s.rdp.isSome
  pending : s.snapshotPending = false
  suppressed : s.suppressed = false
  unarmed : s.snapshot.armed = false
  ready : s.snapshotIdrReady → s.snapshot.ready

section Slots

variable {s t : Slot} {sent wiped : Bool}

theorem Entering.moved (h : Entering s) (hm : SlotMoved s t) : Entering t where
  rdp := by rw [hm.rdp]; exact h.rdp
  pending := hm.snapshotPending.trans h.pending
  armed ha := by
    rw [hm.suppressed]
    exact (h.armed (hm.armed ha)).imp_right hm.failed

theorem Entering.onScreen (h : Entering s) (hs : s.suppressed = false) : OnScreen s where
  suppressed := hs
  pending := h.pending
  armed ha := (h.armed ha).resolve_left (by rw [hs]; exact Bool.false_ne_true)

theorem Cleared.moved (h : Cleared s) (hm : SlotMoved s t) : Cleared t where
  rdp := by rw [hm.rdp]; exact h.rdp
  pending := hm.snapshotPending.trans h.pending
  suppressed := hm.suppressed.trans h.suppressed
  unarmed := Bool.eq_false_iff.mpr fun ha => Bool.eq_false_iff.mp h.unarmed (hm.armed ha)
  ready := hm.ready h.ready

theorem Cleared.tidy (h : Cleared s) (hsent : s.sessionFailed ∨ sent = false) :
    Tidy s sent wiped where
  pending _ := h.suppressed
  armed ha := by
    rw [h.unarmed] at ha
    cases ha
  ready hr := .inr (h.ready hr)
  commanded _ := hsent.imp_right fun hfalse => h.suppressed.trans hfalse.symm
  offline _ := ⟨h.suppressed, h.pending⟩

theorem Cleared.onScreen (h : Cleared s) : OnScreen s where
  suppressed := h.suppressed
  pending := h.pending
  armed ha := by
    rw [h.unarmed] at ha
    cases ha

/-- A slot without a session is fit to be seen. -/
theorem Tidy.onScreen (h : Tidy s sent wiped) (hr : s.rdp = none) : OnScreen s where
  suppressed := (h.offline hr).1
  pending := (h.offline hr).2
  armed ha := by
    rcases h.armed ha with hpending | hsuppressed | hfailed
    · rw [(h.offline hr).2] at hpending
      cases hpending
    · rw [(h.offline hr).1] at hsuppressed
      cases hsuppressed
    · exact hfailed

end Slots

/-! ## Resumed output -/

/-- The screen belongs to a slot whose own flags are spoken of apart. -/
structure Shows (m c : Prop) (target : SlotIndex) (w : LoopState) : Prop extends Routed m c w where
  active : w.app.activeIndex = target
  others : ∀ j, j ≠ target → TidySlot w j

section Shows

variable {s t : LoopState} {target : SlotIndex}

theorem Shows.meanwhile (h : Shows m c target s) (hm : Meanwhile s t) : Shows m c target t where
  toRouted := h.toRouted.meanwhile hm
  active := hm.app.ui.activeIndex.trans h.active
  others j hj := tidySlot_beside (h.others j hj) (.of_meanwhile target hm) hj

theorem Shows.beside (h : Shows m c target s) (hb : Beside target s t)
    (hrdp : (t.slot target).rdp = (s.slot target).rdp)
    (hfailed : (s.slot target).sessionFailed → (t.slot target).sessionFailed) :
    Shows m c target t where
  toRouted := h.toRouted.beside hb fun _ => ⟨hrdp, hfailed⟩
  active := hb.ui.activeIndex.trans h.active
  others j hj := tidySlot_beside (h.others j hj) hb hj

theorem Shows.steady (h : Shows m c target s) (htidy : TidySlot s target)
    (hseen : OnScreen (s.slot target)) : Steady m c s where
  toRouted := h.toRouted
  good j := by
    by_cases hj : j = target
    · subst hj
      exact ⟨htidy, fun _ => hseen⟩
    · exact ⟨h.others j hj, fun ha => absurd (ha.symm.trans h.active) hj⟩

/-- A reconnect of the slot on screen. -/
theorem Shows.reconnected {ok : Bool} (h : Shows m c target s)
    (hc : Connected target false ok s t) : Steady m c t where
  toRouted := .reconnected h.toAimed hc h.active
  good j := by
    by_cases hj : j = target
    · subst hj
      exact hc.good
    · exact ⟨tidySlot_onlySlot (h.others j hj) hc.toOnlySlot hj, fun ha =>
        absurd (ha.symm.trans (hc.activeIndex.trans h.active)) hj⟩

end Shows

/-- The screen stays, and every slot but one is left to its workers. -/
structure Apart (i : SlotIndex) (s t : LoopState) : Prop where
  active : t.app.activeIndex = s.app.activeIndex
  slots : ∀ j, j ≠ i → SlotMoved (s.slot j) (t.slot j)

section Apart

variable {s t u : LoopState} {i target : SlotIndex}

theorem Apart.trans (h : Apart i s t) (h' : Apart i t u) : Apart i s u where
  active := h'.active.trans h.active
  slots j hj := (h.slots j hj).trans (h'.slots j hj)

theorem Beside.apart (h : Beside i s t) : Apart i s t := ⟨h.ui.activeIndex, h.slots⟩

theorem OnlySlot.apart (h : OnlySlot i s t) : Apart i s t :=
  ⟨h.activeIndex, fun j hj => by rw [h.slots j hj]; exact .refl _⟩

end Apart

section Resume

variable {s : LoopState} {target : SlotIndex}

/-- A replay is the loss of the cache, and then what workers may do. -/
theorem meanwhile_replay (scan : Scanner) (w : LoopState) (target : SlotIndex) (answer : Answer)
    (h : (w.slot target).rdp.isSome) :
    Meanwhile
      (w.modifySlot target fun s => { s with snapshot := {}, snapshotIdrReady := false })
      (w.onApp fun _ =>
        (w.app.snapshotReplay scan target answer.now (w.meanwhile answer.replay)).1) :=
  ⟨moved_snapshotReplay answer.now answer.replay h, rfl⟩

theorem snapshotReplay_ends (scan : Scanner) (h : Shows m c target s)
    (hrdp : (s.slot target).rdp.isSome)
    (hpending : (s.slot target).snapshotPending = false)
    (hsuppressed : (s.slot target).suppressed = false) :
    Ends (snapshotReplay scan target)
      (fun _ t => Shows m c target t ∧ Cleared (t.slot target) ∧ Apart target s t) s := by
  refine Ends.actThen fun t ht answer => ?_
  have hmoved := ht.slot target
  have hrdp' : (t.slot target).rdp.isSome := by rw [hmoved.rdp]; exact hrdp
  have hbeside : Beside target t (t.modifySlot target fun s =>
      { s with snapshot := {}, snapshotIdrReady := false }) := .modifySlot t target rfl rfl
  have hshows := (h.meanwhile ht).beside hbeside (by rw [LoopState.modifySlot_same])
    (by rw [LoopState.modifySlot_same]; exact id)
  have hcleared : Cleared ((t.modifySlot target fun s =>
      { s with snapshot := {}, snapshotIdrReady := false }).slot target) := by
    rw [LoopState.modifySlot_same]
    exact ⟨hrdp', hmoved.snapshotPending.trans hpending, hmoved.suppressed.trans hsuppressed, rfl,
      fun hr => nomatch hr⟩
  refine Ends.load fun u hu => ?_
  have hreplayed := (meanwhile_replay scan t target answer hrdp').trans hu
  exact ⟨hshows.meanwhile hreplayed, hcleared.moved (hreplayed.slot target),
    ((Beside.of_meanwhile target ht).trans
      (hbeside.trans (.of_meanwhile target hreplayed))).apart⟩

/-- The server is told to display again. -/
theorem allow_steady {t : LoopState} (h : Shows m c target t) (hc : Cleared (t.slot target)) :
    Steady m c (t.setSuppressOutput target true) ∧
      Apart target t (t.setSuppressOutput target true) := by
  have hbeside := Beside.setSuppressOutput t target true
  refine ⟨(h.beside hbeside rfl id).steady (hc.tidy (.inr ?_)) hc.onScreen, hbeside.apart⟩
  exact Function.update_self ..

theorem resumeOutput_ends (h : Shows m c target s) (he : Entering (s.slot target)) :
    Ends (resumeOutput scan target) (fun _ t => Steady m c t ∧ Apart target s t) s := by
  refine Ends.storeThen fun t ht => ?_
  have hentering := he.moved (ht.slot target)
  have hbeside : Beside target t (t.modifySlot target fun s => { s with suppressed := false }) :=
    .modifySlot t target rfl rfl
  have hshows := (h.meanwhile ht).beside hbeside (by rw [LoopState.modifySlot_same])
    (by rw [LoopState.modifySlot_same]; exact id)
  have hrdp : ((t.modifySlot target fun s => { s with suppressed := false }).slot
      target).rdp.isSome := by
    rw [LoopState.modifySlot_same]
    exact hentering.rdp
  have hreplay := snapshotReplay_ends scan hshows hrdp
    (by rw [LoopState.modifySlot_same]; exact hentering.pending) (by rw [LoopState.modifySlot_same])
  refine Ends.andThen hreplay fun replayed u hu => ?_
  obtain ⟨hshows, hcleared, hapart⟩ := hu
  replace hapart := ((Beside.of_meanwhile target ht).trans hbeside).apart.trans hapart
  have hafter : ∀ v, Meanwhile u v →
      Shows m c target v ∧ Cleared (v.slot target) ∧ Apart target s v := fun v hv =>
    ⟨hshows.meanwhile hv, hcleared.moved (hv.slot target),
      hapart.trans (Beside.of_meanwhile target hv).apart⟩
  have hallow : ∀ v, Meanwhile u v → Ends (Prog.store fun w => w.setSuppressOutput target true)
      (fun _ t => Steady m c t ∧ Apart target s t) v := by
    intro v hv
    refine Ends.store fun w hw => ?_
    obtain ⟨hshows, hcleared, hapart⟩ := hafter w (hv.trans hw)
    obtain ⟨hsteady, hallowed⟩ := allow_steady hshows hcleared
    exact ⟨hsteady, hapart.trans hallowed⟩
  split
  · exact hallow u (.refl u)
  refine Ends.loadThen fun v hv => ?_
  split
  · -- The replay has failed the slot; its drain takes over.
    rename_i hfailed
    obtain ⟨hshows, hcleared, hapart⟩ := hafter v hv
    exact ⟨hshows.steady (hcleared.tidy (.inl hfailed)) hcleared.onScreen, hapart⟩
  refine Ends.loadThen fun w hw => ?_
  split
  · refine Ends.actThen fun x hx answer => ?_
    obtain ⟨hshows, -, hapart⟩ := hafter x ((hv.trans hw).trans hx)
    have hconnected := reconnectSlot_connected x target false answer hshows.interactive
    exact ⟨hshows.reconnected hconnected, hapart.trans hconnected.apart⟩
  · exact hallow w (hv.trans hw)

end Resume

/-! ## The hand-over -/

/-- Another slot is published as the one on screen. -/
structure Published (target : SlotIndex) (a b : App) : Prop where
  eq : b =
    { a with
      sessions := b.sessions
      captureForeground := b.captureForeground
      activeIndex := target
      pendingSwitchTarget := b.pendingSwitchTarget
      switchDeadlineTicks := b.switchDeadlineTicks
      videoRefreshNeeded := b.videoRefreshNeeded
      rgba := b.rgba
      hubReturnRgba := b.hubReturnRgba }

section Published

variable {a b : App} {s : LoopState} {target : SlotIndex}

theorem Published.activeIndex (h : Published target a b) : b.activeIndex = target := by
  have hfield := congrArg App.activeIndex h.eq
  exact hfield

theorem Published.media (h : Published target a b) : b.media = a.media := by
  have hfield := congrArg App.media h.eq
  exact hfield

/-- Ducking and the capture are retargeted behind the publication. -/
theorem Aimed.published {f : App → App} (h : Aimed m c s)
    (hf : Published target s.app (f s.pauseCapture.app))
    (hdeferred : (f s.pauseCapture.app).pendingSwitchTarget = none)
    (hheld : ∀ j, ((f s.pauseCapture.app).sessions j).rdp = (s.slot j).rdp ∧
      ((f s.pauseCapture.app).sessions j).sessionFailed = (s.slot j).sessionFailed) :
    Aimed m c (s.pauseCapture.onApp f).duckRetarget := by
  have happ : (s.pauseCapture.onApp f).duckRetarget =
      { s with app :=
        { f s.pauseCapture.app with
          duckForeground := (f s.pauseCapture.app).activeIndex
          captureForeground := (f s.pauseCapture.app).captureForeground.map fun _ =>
            some (f s.pauseCapture.app).activeIndex } } := rfl
  rw [happ]
  generalize f s.pauseCapture.app = b at hf hdeferred hheld
  constructor
  · have hfield := congrArg App.interactiveUi hf.eq
    exact hfield.trans h.interactive
  · rfl
  · show b.pendingSwitchTarget ≠ some b.activeIndex
    rw [hdeferred]
    exact fun hnone => nomatch hnone
  · intro hv
    have hvisible := congrArg App.streamingVisible hf.eq
    have hhub := congrArg App.hubVisible hf.eq
    exact hhub.trans (h.screens (hvisible.symm.trans hv))
  · exact h.supervised
  · exact h.handles.kept rfl fun j => (hheld j).1
  · intro hm hopen
    obtain ⟨j, hj⟩ := h.media hm (hf.media.symm.trans hopen)
    refine ⟨j, ?_⟩
    show (b.sessions j).rdp.isSome ∨ (b.sessions j).sessionFailed
    rw [(hheld j).1, (hheld j).2]
    exact hj
  · intro _ foreground hmanaged
    obtain ⟨_, -, rfl⟩ := Option.map_eq_some_iff.mp hmanaged
    rfl

theorem Aimed.wired (h : Aimed m c s) (session : Option Session) :
    Aimed m c (s.onApp fun a => { a with inputSession := session }) :=
  ⟨h.interactive, h.duck, h.deferred, h.screens, h.supervised, h.handles.kept rfl fun _ => rfl,
    h.media, h.capture⟩

theorem promoteHubReturn_eq (a : App) (target : SlotIndex) :
    a.promoteHubReturn target =
      { a with
        rgba := (a.promoteHubReturn target).rgba
        hubReturnRgba := (a.promoteHubReturn target).hubReturnRgba } := by
  unfold promoteHubReturn
  split
  · rfl
  · split
    · rfl
    · split <;> rfl

theorem published_publishOwner (a : App) (target : SlotIndex) :
    Published target a (a.publishOwner target) := by
  constructor
  unfold App.publishOwner
  simp only
  split
  · rw [promoteHubReturn_eq]
    rfl
  · rw [promoteHubReturn_eq]

theorem publishOwner_sessions (a : App) (target : SlotIndex) :
    (a.publishOwner target).sessions =
      if (a.sessions target).snapshotPending then
        (a.modifySlot target fun s =>
          { s with
            snapshotPending := false
            snapshot := s.snapshot.reset
            snapshotIdrReady := false }).sessions
      else a.sessions := by
  unfold App.publishOwner
  simp only
  rw [promoteHubReturn_eq]
  split <;> rfl

theorem publishOwner_deferred (a : App) (target : SlotIndex) :
    (a.publishOwner target).pendingSwitchTarget = a.pendingSwitchTarget := by
  unfold App.publishOwner
  simp only
  rw [promoteHubReturn_eq]
  split <;> rfl

/-- A cache that was still awaited is given up by the slot that takes the screen. -/
def unawaited (s : Slot) : Slot :=
  if s.snapshotPending then
    { s with snapshotPending := false, snapshot := {}, snapshotIdrReady := false }
  else s

theorem publishOwner_other (a : App) {j : SlotIndex} (hj : j ≠ target) :
    (a.publishOwner target).sessions j = a.sessions j := by
  rw [publishOwner_sessions]
  split
  · exact modifySlot_other _ _ _ hj
  · rfl

theorem publishOwner_target (a : App) (target : SlotIndex) :
    (a.publishOwner target).sessions target = unawaited (a.sessions target) := by
  rw [publishOwner_sessions]
  unfold unawaited
  split
  · exact modifySlot_same ..
  · rfl

theorem unawaited_kept (s : Slot) : (unawaited s).rdp = s.rdp ∧
    (unawaited s).sessionFailed = s.sessionFailed ∧ (unawaited s).suppressed = s.suppressed := by
  unfold unawaited
  split <;> exact ⟨rfl, rfl, rfl⟩

theorem Tidy.unawaited {s : Slot} {sent wiped : Bool} (h : Tidy s sent wiped) :
    Tidy (unawaited s) sent wiped := by
  unfold Foreground.unawaited
  split
  · exact ⟨(fun hp => nomatch hp), (fun ha => nomatch ha), (fun hr => nomatch hr), h.commanded,
      fun hr => ⟨(h.offline hr).1, rfl⟩⟩
  · exact h

theorem Tidy.entering {s : Slot} {sent wiped : Bool} (h : Tidy s sent wiped)
    (hrdp : s.rdp.isSome) : Entering (Foreground.unawaited s) := by
  unfold Foreground.unawaited
  split
  · exact ⟨hrdp, rfl, fun ha => nomatch ha⟩
  · rename_i hpending
    exact ⟨hrdp, Bool.eq_false_iff.mpr hpending, fun ha => (h.armed ha).resolve_left hpending⟩

end Published

/-- The screen has gone from one slot to another, and the old one is not yet silenced. -/
structure Handing (m c : Prop) (old target : SlotIndex) (w : LoopState) : Prop
    extends Routed m c w where
  active : w.app.activeIndex = target
  others : ∀ j, j ≠ old → TidySlot w j
  leaving : Leaving (w.slot old) (w.sentSuppress old) w.wipedReady
  entering : Entering (w.slot target)

section Switch

variable {s : LoopState} {target : SlotIndex}

theorem handOver_handing (target : SlotIndex) (h : Steady m c s) (hne : s.app.activeIndex ≠ target)
    (hdeferred : s.app.pendingSwitchTarget = none) (hrdp : (s.slot target).rdp.isSome) :
    Handing m c s.app.activeIndex target (s.handOver target).2 := by
  have hother : ∀ j, j ≠ target → (s.handOver target).2.slot j = s.slot j := fun j hj =>
    publishOwner_other s.pauseCapture.app hj
  have htarget : (s.handOver target).2.slot target = unawaited (s.slot target) :=
    publishOwner_target s.pauseCapture.app target
  have hkept := unawaited_kept (s.slot target)
  have hpublished := published_publishOwner s.pauseCapture.app target
  have hentering := (h.good target).tidy.entering hrdp
  have hactive : (s.handOver target).2.app.activeIndex = target := hpublished.activeIndex
  have hslot : (s.handOver target).2.app.activeSlot = unawaited (s.slot target) := by
    unfold activeSlot
    rw [hactive]
    exact htarget
  have haimed : Aimed m c (s.handOver target).2 := by
    refine (Aimed.published h.toAimed ⟨hpublished.eq⟩ ?_ fun j => ?_).wired _
    · exact (publishOwner_deferred s.pauseCapture.app target).trans hdeferred
    · by_cases hj : j = target
      · subst hj
        rw [publishOwner_target]
        exact ⟨hkept.1, hkept.2.1⟩
      · rw [publishOwner_other _ hj]
        exact ⟨rfl, rfl⟩
  constructor
  · refine ⟨haimed, ?_, fun _ => .inr (.inl ?_)⟩
    · rw [hslot, ← htarget]
      rfl
    · rw [hslot]
      exact hentering.rdp
  · exact hactive
  · intro j hj
    by_cases hjt : j = target
    · subst hjt
      rw [TidySlot, htarget]
      exact (h.good j).tidy.unawaited
    · rw [TidySlot, hother j hjt]
      exact (h.good j).tidy
  · rw [hother _ hne]
    exact (h.good _).tidy.leaving ((h.good _).onScreen rfl)
  · rw [htarget]
    exact hentering

/-- The old slot is in the background. -/
theorem Handing.settled {old : SlotIndex} {t : LoopState} (h : Handing m c old target s)
    (hne : old ≠ target) (hb : Beside old s t) (hold : TidySlot t old) :
    Shows m c target t ∧ TidySlot t target ∧ Entering (t.slot target) := by
  have htidy : ∀ j, TidySlot t j := by
    intro j
    by_cases hj : j = old
    · subst hj
      exact hold
    · exact tidySlot_beside (h.others j hj) hb hj
  refine ⟨⟨h.toRouted.beside hb fun ha => ?_, hb.ui.activeIndex.trans h.active, fun j _ => htidy j⟩,
    htidy target, h.entering.moved (hb.slots target hne.symm)⟩
  exact absurd (ha.symm.trans h.active) hne

theorem startWatchdog_ends (h : Steady m c s) (baseline timeoutMs : UInt32) :
    Ends (startWatchdog baseline timeoutMs) (fun _ t => Steady m c t ∧
      t.app.activeIndex = s.app.activeIndex ∧ ∀ j, SlotMoved (s.slot j) (t.slot j)) s := by
  refine Ends.act fun t ht answer => ?_
  have hsteady := h.meanwhile ht
  exact ⟨hsteady.display ⟨rfl⟩ hsteady.deferred hsteady.screens hsteady.watched,
    ht.app.ui.activeIndex, ht.slot⟩

/-- What is not part of a hand-over is left to its workers. -/
structure HandedOn (target : SlotIndex) (s t : LoopState) : Prop where
  active : t.app.activeIndex = target
  slots : ∀ j, j ≠ s.app.activeIndex → j ≠ target → SlotMoved (s.slot j) (t.slot j)

theorem completeSessionSwitch_ends (h : Steady m c s) :
    Ends (completeSessionSwitch scan target) (fun switched t => Steady m c t ∧
      if switched then HandedOn target s t else Meanwhile s t) s := by
  refine Ends.loadThen fun t ht => ?_
  split
  · exact ⟨h.meanwhile ht, ht⟩
  rename_i hlive
  have hrdp : (t.slot target).rdp.isSome := by
    cases hr : (t.slot target).rdp with
    | none => simp [hr] at hlive
    | some session => rfl
  refine Ends.loadThen fun u hu => ?_
  have hsu := ht.trans hu
  split
  · rename_i hsame
    exact ⟨h.meanwhile hsu, hsame, fun j _ _ => hsu.slot j⟩
  rename_i hne
  refine Ends.actThen fun v hv answer => ?_
  have hsv := hsu.trans hv
  have hhidden : Steady m c ((v.hideMixerOverlay answer).onApp fun a =>
      { a with pendingSwitchTarget := none }) := by
    have hsteady := h.meanwhile hsv
    exact hsteady.display ⟨rfl⟩ (fun hnone => nomatch hnone) hsteady.screens hsteady.watched
  refine Ends.loadThen fun w hw => Ends.actThen fun x hx _ => ?_
  have hmoved := hw.trans hx
  have hold : x.app.activeIndex = u.app.activeIndex :=
    hmoved.app.ui.activeIndex.trans hv.app.ui.activeIndex
  have hsteady := hhidden.meanwhile hmoved
  have hsx : ∀ j, SlotMoved (s.slot j) (x.slot j) := fun j => (hsv.slot j).trans (hmoved.slot j)
  have hhanding := handOver_handing target hsteady (by rw [hold]; exact hne)
    hmoved.app.ui.pendingSwitchTarget (by
      rw [((hu.trans hv).slot target |>.trans (hmoved.slot target)).rdp]
      exact hrdp)
  have hawaited : (x.handOver target).1 = true →
      ((x.handOver target).2.slot target).suppressed = false := fun hp => by
    have htarget : (x.handOver target).2.slot target = unawaited (x.slot target) :=
      publishOwner_target x.pauseCapture.app target
    rw [htarget, (unawaited_kept _).2.2]
    exact (hsteady.good target).tidy.pending hp
  have hothers : ∀ j, j ≠ target → (x.handOver target).2.slot j = x.slot j := fun j hj =>
    publishOwner_other x.pauseCapture.app hj
  rw [hold] at hhanding
  generalize x.handOver target = r at hhanding hawaited hothers ⊢
  obtain ⟨snapshotPending, y⟩ := r
  simp only at hhanding hawaited hothers ⊢
  refine Ends.andThen (backgroundSlot_ends hhanding.leaving
    (by rw [hhanding.active]; exact Ne.symm hne) hhanding.interactive) fun _ z hz => ?_
  obtain ⟨hbeside, htidy⟩ := hz
  refine Ends.loadThen fun z' hz' => ?_
  replace hbeside := hbeside.trans (.of_meanwhile _ hz')
  obtain ⟨hshows, htarget, hentering⟩ :=
    hhanding.settled hne hbeside (tidySlot_meanwhile htidy hz')
  have hapart : HandedOn target s z' := by
    refine ⟨hshows.active, fun j hj hjt => (hsx j).trans ?_⟩
    rw [← hothers j hjt]
    exact hbeside.slots j fun heq => hj (heq.trans hsu.app.ui.activeIndex)
  have hfinish : ∀ t', Steady m c t' → HandedOn target s t' →
      Ends (do startWatchdog (w.slot target).videoOkFrames keyframeTimeoutMs; pure true)
        (fun switched t => Steady m c t ∧
          if switched then HandedOn target s t else Meanwhile s t) t' := fun t' ht' hon =>
    Ends.andThen (startWatchdog_ends ht' _ _) fun _ t'' hlast =>
      ⟨hlast.1, hlast.2.1.trans hon.active, fun j hj hjt =>
        (hon.slots j hj hjt).trans (hlast.2.2 j)⟩
  split
  · refine Ends.andThen (resumeOutput_ends hshows hentering) fun _ t' ht' => ?_
    exact hfinish t' ht'.1 ⟨ht'.2.active.trans hapart.active, fun j hj hjt =>
      (hapart.slots j hj hjt).trans (ht'.2.slots j hjt)⟩
  · rename_i hplain
    have hshown : (z'.slot target).suppressed = false := by
      cases hp : snapshotPending with
      | true => exact (hbeside.slots target (Ne.symm hne)).suppressed.trans (hawaited hp)
      | false =>
        rw [hp] at hplain
        simpa using hplain
    exact hfinish z' (hshows.steady htarget (hentering.onScreen hshown)) hapart

theorem switchAtOnce_ends (h : Steady m c s) :
    Ends (switchAtOnce scan target) (fun _ t => Steady m c t) s := by
  refine Ends.storeThen fun t ht => ?_
  have hsteady := h.meanwhile ht
  have hanswered : Steady m c (t.onApp fun a => { a with pendingSwitchTarget := none }) :=
    hsteady.display ⟨rfl⟩ (fun hnone => nomatch hnone) hsteady.screens hsteady.watched
  exact Ends.andThen (completeSessionSwitch_ends hanswered) fun _ u hu => hu.1

end Switch

end Lgnome.Foreground
