import Lgnome.Foreground.Handover

/-!
# Deferred switches and the tick

A switch whose target has no cache waits for one. The tick silences the slots
whose cache has come, gives up those whose cache has not, completes the switch
that waits, and reconnects the slot on screen once if no frame of it decodes.
-/
namespace Lgnome.Foreground

open Lgnome.Native Lgnome.Native.App
open Lgnome.Transition (Prog)

variable {scan : Scanner} {m c : Prop}

/-! ## A switch that waits for its cache -/

section Prepare

variable {s : LoopState} {target : SlotIndex}

theorem awaitSeed_ends {reconnected : Bool} (h : Behind m c target s)
    (hrdp : (s.slot target).rdp.isSome)
    (hready : (s.slot target).snapshotIdrReady → s.wipedReady ∨ (s.slot target).snapshot.ready)
    (hsent : reconnected → s.sentSuppress target = false) :
    Ends (awaitSeed target reconnected) (fun _ t => Steady m c t) s := by
  refine Ends.store fun t ht => ?_
  have hmoved := ht.slot target
  have hawaited : Beside target t (t.modifySlot target fun s =>
      { s with snapshotPending := true, snapshotDeadlineTicks := 0, suppressed := false }) :=
    .modifySlot t target rfl rfl
  have htidy : ∀ sent, sent = false → Tidy
      { t.slot target with
        snapshotPending := true, snapshotDeadlineTicks := 0, suppressed := false }
      sent t.wipedReady := by
    rintro sent rfl
    refine ⟨fun _ => rfl, fun _ => .inl rfl, ?_, fun _ => .inr rfl, fun hnone => ?_⟩
    · rw [ht.wipedReady]
      exact hmoved.stillReady hready
    · rw [← hmoved.rdp, show (t.slot target).rdp = none from hnone] at hrdp
      cases hrdp
  have hbehind := (h.meanwhile ht).beside hawaited
  split
  · rename_i hfresh
    refine hbehind.steady ?_
    rw [TidySlot, LoopState.modifySlot_same]
    exact htidy _ ((congrFun ht.sentSuppress target).trans (hsent hfresh))
  · refine (hbehind.beside (.setSuppressOutput _ target true)).steady ?_
    rw [TidySlot, LoopState.setSuppressOutput_slot, LoopState.modifySlot_same]
    exact htidy _ (LoopState.setSuppressOutput_same ..)

/-- A hidden reconnect for a switch that waits. -/
theorem hiddenReconnect_ends {f : LoopState → LoopState} (h : Behind m c target s)
    (hf : ∀ t, Beside target t (f t)) :
    Ends (do
        let started ← Prog.act fun answer w => (f w).reconnectSlot target true answer
        if started then
          let armed ← Prog.load fun w => (w.slot target).snapshot.armed
          if armed then awaitSeed target true else switchAtOnce scan target
        else pure ()) (fun _ t => Steady m c t) s := by
  refine Ends.actThen fun t ht answer => ?_
  have hbehind := (h.meanwhile ht).beside (hf t)
  have hconnected := reconnectSlot_connected (f t) target true answer hbehind.interactive
  have hreconnected := hbehind.beside (.of_connected hconnected hbehind.away)
  generalize (f t).reconnectSlot target true answer = r at hconnected hreconnected ⊢
  obtain ⟨_ | _, u⟩ := r
  · exact hreconnected.steady hconnected.ended.tidy
  · refine Ends.loadThen fun v hv => ?_
    have hfresh : Fresh (v.slot target) (v.sentSuppress target) := by
      rw [hv.sentSuppress]
      exact (hconnected.fresh rfl).moved (hv.slot target)
    have hlater := hreconnected.meanwhile hv
    split
    · exact awaitSeed_ends hlater hfresh.rdp (fun hr => .inr (hfresh.ready hr)) fun _ => hfresh.sent
    · rename_i hunarmed
      exact switchAtOnce_ends (hlater.steady (hfresh.tidy (Bool.eq_false_iff.mpr hunarmed)))

theorem Tidy.unready {s : Slot} {sent wiped : Bool} (h : Tidy s sent wiped) :
    Tidy { s with snapshotIdrReady := false } sent wiped :=
  ⟨h.pending, h.armed, (fun hr => nomatch hr), h.commanded, h.offline⟩

/-- The cache is emptied, in public if it was ready. -/
theorem Tidy.wiped {s : Slot} {sent wiped : Bool} (h : Tidy s sent wiped) :
    Tidy { s with snapshot := {} } sent (wiped || s.snapshotIdrReady) :=
  ⟨h.pending, (fun ha => nomatch ha), fun hr => .inl (by simp [show s.snapshotIdrReady from hr]),
    h.commanded, h.offline⟩

/-- An emptied cache, put on record if it was public. -/
theorem behind_emptied {w t : LoopState} {f : Slot → Slot} (h : Behind m c target w)
    (ht : t = LoopState.modifySlot
      { w with wipedReady := w.wipedReady || (w.slot target).snapshotIdrReady } target f)
    (hrdp : (f (w.slot target)).rdp = (w.slot target).rdp)
    (hfailed : (f (w.slot target)).sessionFailed = (w.slot target).sessionFailed) :
    Behind m c target t := by
  rw [ht]
  have hwiped := h.wipe (b := w.wipedReady || (w.slot target).snapshotIdrReady) fun hw => by
    rw [hw, Bool.true_or]
  exact hwiped.beside (.modifySlot _ target hrdp hfailed)

theorem armCache_eq (w : LoopState) (i : SlotIndex) (answer : Answer) :
    (w.armCache i answer).2 =
      LoopState.modifySlot { w with wipedReady := w.wipedReady || (w.slot i).snapshotIdrReady } i
        fun s => { s with snapshot := { armed := answer.allocates } } := rfl

theorem preparePendingSwitch_ends (h : Behind m c target s) (hrdp : (s.slot target).rdp.isSome)
    (hslot : TidySlot s target ∨
      (s.slot target).snapshotPending = false ∧ (s.slot target).refreshIneffective) :
    Ends (preparePendingSwitch scan target) (fun _ t => Steady m c t) s := by
  refine Ends.loadThen fun t ht => ?_
  have hmoved := ht.slot target
  split
  · rename_i hfilling
    refine (h.meanwhile ht).steady ?_
    rcases hslot with htidy | ⟨hpending, -⟩
    · exact tidySlot_meanwhile htidy ht
    · rw [hmoved.snapshotPending, hpending] at hfilling
      cases hfilling
  refine Ends.loadThen fun u hu => ?_
  split
  · exact hiddenReconnect_ends ((h.meanwhile ht).meanwhile hu) fun v =>
      .modifySlot v target rfl rfl
  rename_i hplain
  have htidy : TidySlot u target := by
    rcases hslot with htidy | ⟨-, hrefresh⟩
    · exact tidySlot_meanwhile htidy (ht.trans hu)
    · rw [(hu.slot target).refreshIneffective, hmoved.refreshIneffective, hrefresh] at hplain
      exact absurd rfl hplain
  have hpublic : Behind m c target u := h.meanwhile (ht.trans hu)
  refine Ends.storeThen fun v hv => ?_
  have hwithdrawn : Beside target v (v.modifySlot target fun s =>
      { s with snapshotIdrReady := false }) := .modifySlot v target rfl rfl
  have htidy : TidySlot (v.modifySlot target fun s => { s with snapshotIdrReady := false })
      target := tidySlot_modifySlot (tidySlot_meanwhile htidy hv).unready
  have hbehind := (hpublic.meanwhile hv).beside hwithdrawn
  have hrdp' : ((v.modifySlot target fun s => { s with snapshotIdrReady := false }).slot
      target).rdp.isSome := by
    rw [LoopState.modifySlot_same]
    show (v.slot target).rdp.isSome
    rw [((ht.trans (hu.trans hv)).slot target).rdp]
    exact hrdp
  refine Ends.actThen fun w hw answer => ?_
  -- A worker may have published the cache in between.
  have htidy : TidySlot w target := tidySlot_meanwhile htidy hw
  have hwiped := behind_emptied (hbehind.meanwhile hw) (armCache_eq w target answer) rfl rfl
  have hslot : (w.armCache target answer).2.slot target =
      { w.slot target with snapshot := { armed := answer.allocates } } := by
    rw [armCache_eq, LoopState.modifySlot_same]
    rfl
  have hrecord : (w.armCache target answer).2.wipedReady =
      (w.wipedReady || (w.slot target).snapshotIdrReady) := rfl
  split
  · refine awaitSeed_ends hwiped ?_ (fun hr => .inl ?_) (fun h => nomatch h)
    · rw [hslot]
      show (w.slot target).rdp.isSome
      rw [(hw.slot target).rdp]
      exact hrdp'
    · rw [hslot] at hr
      rw [hrecord, show (w.slot target).snapshotIdrReady = true from hr, Bool.or_true]
  · rename_i hunarmed
    refine switchAtOnce_ends (hwiped.steady ?_)
    rw [TidySlot, hslot, hrecord, show answer.allocates = false from Bool.eq_false_iff.mpr hunarmed]
    exact htidy.wiped

end Prepare

/-! ## The snapshot loop -/

section Tick

variable {s : LoopState} {i : SlotIndex}

/-- The server is silenced, and no cache awaited any more. -/
theorem Behind.silenced {w : LoopState} (h : Behind m c i w) (hrdp : (w.slot i).rdp.isSome)
    (htidy : TidySlot w i) :
    Steady m c ((w.suppress i).modifySlot i fun s => { s with snapshotPending := false }) := by
  refine ((h.beside (.suppress w i)).beside (.modifySlot _ i rfl rfl)).steady ?_
  refine tidySlot_modifySlot ?_
  have hslot : (w.suppress i).slot i = { w.slot i with suppressed := true } :=
    LoopState.modifySlot_same ..
  have hsent : (w.suppress i).sentSuppress i = true := LoopState.setSuppressOutput_same ..
  rw [hslot, hsent]
  exact tidy_suppressed (s := { w.slot i with snapshotPending := false }) hrdp rfl htidy.ready

/-- The press is answered by the switch of old. -/
theorem answered_ends {waits : LoopState → Bool} (h : Steady m c s) :
    Ends (do
        let pending ← Prog.load waits
        if pending then switchAtOnce scan i else pure ()) (fun _ t => Steady m c t) s := by
  refine Ends.loadThen fun t ht => ?_
  split
  · exact switchAtOnce_ends (h.meanwhile ht)
  · exact h.meanwhile ht

theorem silenceFilled_ends (idrReady : Bool) (h : Behind m c i s) (hrdp : (s.slot i).rdp.isSome)
    (htidy : TidySlot s i) : Ends (silenceFilled scan i idrReady) (fun _ t => Steady m c t) s := by
  refine Ends.storeThen fun t ht => ?_
  have hrdp' : (t.slot i).rdp.isSome := by rw [(ht.slot i).rdp]; exact hrdp
  exact answered_ends ((h.meanwhile ht).silenced hrdp' (tidySlot_meanwhile htidy ht))

theorem wipeCache_eq (w : LoopState) (i : SlotIndex) :
    w.wipeCache i =
      LoopState.modifySlot { w with wipedReady := w.wipedReady || (w.slot i).snapshotIdrReady } i
        fun s => { s with snapshot := {} } := rfl

theorem snapshotOverdue_ends (h : Behind m c i s) (hrdp : (s.slot i).rdp.isSome)
    (htidy : TidySlot s i) : Ends (snapshotOverdue scan i) (fun _ t => Steady m c t) s := by
  refine Ends.loadThen fun t ht => ?_
  split
  · refine Ends.storeThen fun u hu => ?_
    have hbeside : Beside i u (u.modifySlot i fun s =>
        { s with refreshIneffective := true, snapshotPending := false }) :=
      .modifySlot u i rfl rfl
    refine preparePendingSwitch_ends ((h.meanwhile (ht.trans hu)).beside hbeside) ?_ (.inr ?_)
    · rw [LoopState.modifySlot_same]
      show (u.slot i).rdp.isSome
      rw [((ht.trans hu).slot i).rdp]
      exact hrdp
    · rw [LoopState.modifySlot_same]
      exact ⟨rfl, rfl⟩
  · refine Ends.storeThen fun u hu => ?_
    have hemptied := behind_emptied (h.meanwhile (ht.trans hu)) (wipeCache_eq u i) rfl rfl
    have hslot : (u.wipeCache i).slot i = { u.slot i with snapshot := {} } := by
      rw [wipeCache_eq, LoopState.modifySlot_same]
      rfl
    have htidy : TidySlot (u.wipeCache i) i := by
      rw [TidySlot, hslot]
      exact (tidySlot_meanwhile htidy (ht.trans hu)).wiped
    refine Ends.storeThen fun v hv => ?_
    refine answered_ends ((hemptied.meanwhile hv).silenced ?_ (tidySlot_meanwhile htidy hv))
    rw [(hv.slot i).rdp, hslot]
    show (u.slot i).rdp.isSome
    rw [((ht.trans hu).slot i).rdp]
    exact hrdp

theorem tickSnapshot_ends (h : Steady m c s) :
    Ends (tickSnapshot scan i) (fun _ t => Steady m c t) s := by
  refine Ends.loadThen fun t ht => ?_
  split
  swap
  · exact h.meanwhile ht
  rename_i hawaited
  simp only [LoopState.isActive, Bool.and_eq_true, Bool.not_eq_true', decide_eq_false_iff_not,
    decide_eq_true_eq] at hawaited
  obtain ⟨⟨⟨-, haway⟩, hrdp⟩, -⟩ := hawaited
  have hlater : ∀ u, Meanwhile t u →
      Behind m c i u ∧ (u.slot i).rdp.isSome ∧ TidySlot u i := by
    intro u hu
    have hsteady := h.meanwhile (ht.trans hu)
    refine ⟨hsteady.behind (by rw [hu.app.ui.activeIndex]; exact haway), ?_, (hsteady.good i).tidy⟩
    rw [(hu.slot i).rdp]
    exact hrdp
  refine Ends.loadThen fun u hu => Ends.loadThen fun v hv => ?_
  have htv := hu.trans hv
  obtain ⟨hbehind, hrdp, htidy⟩ := hlater v htv
  split
  · exact silenceFilled_ends _ hbehind hrdp htidy
  refine Ends.loadThen fun w hw => ?_
  have htw := htv.trans hw
  split
  · refine Ends.act fun x hx answer => ?_
    obtain ⟨hbehind, -, htidy⟩ := hlater x (htw.trans hx)
    exact (hbehind.steady htidy).noted fun _ => ⟨_, _, _, rfl⟩
  refine Ends.actThen fun x hx answer => ?_
  obtain ⟨hbehind, hrdp, htidy⟩ := hlater x (htw.trans hx)
  split
  · exact snapshotOverdue_ends hbehind hrdp htidy
  · exact hbehind.steady htidy

/-! ## The deferred switch and the watchdog -/

theorem readyToComplete_ends {target : SlotIndex} (h : Steady m c s) :
    Ends (readyToComplete target) (fun _ t => Steady m c t) s := by
  refine Ends.loadThen fun t ht => ?_
  split
  · exact Ends.act fun u hu _ => h.meanwhile (ht.trans hu)
  · exact h.meanwhile ht

theorem tickDeferred_ends (h : Steady m c s) :
    Ends (tickDeferred scan) (fun _ t => Steady m c t) s := by
  refine Ends.loadThen fun t ht => ?_
  split
  · exact h.meanwhile ht
  rename_i target _
  refine Ends.loadThen fun u hu => ?_
  have hsteady := h.meanwhile (ht.trans hu)
  split
  · refine Ends.store fun v hv => ?_
    have hlater := hsteady.meanwhile hv
    exact hlater.display ⟨rfl⟩ (fun hnone => nomatch hnone) hlater.screens hlater.watched
  refine Ends.andThen (readyToComplete_ends hsteady) fun ready v hv => ?_
  split
  · exact switchAtOnce_ends hv
  refine Ends.actThen fun w hw answer => ?_
  split
  · exact switchAtOnce_ends (hv.meanwhile hw)
  · exact hv.meanwhile hw

theorem tickRefresh_ends (h : Steady m c s) : Ends tickRefresh (fun _ t => Steady m c t) s := by
  refine Ends.actThen fun t ht _ => ?_
  have hsteady := h.meanwhile ht
  have hcleared : Steady m c (t.onApp fun a => { a with videoRefreshNeeded := false }) :=
    hsteady.display ⟨rfl⟩ hsteady.deferred hsteady.screens hsteady.watched
  refine Ends.loadThen fun u hu => ?_
  split
  · refine Ends.loadThen fun v hv => ?_
    exact (startWatchdog_ends (hcleared.meanwhile (hu.trans hv)) _ _).mono fun _ _ hlast => hlast.1
  · exact hcleared.meanwhile hu

theorem watchdogOverdue_ends (h : Steady m c s) :
    Ends watchdogOverdue (fun _ t => Steady m c t) s := by
  refine Ends.loadThen fun t ht => ?_
  have hsteady := h.meanwhile ht
  split
  · refine Ends.loadThen fun u hu => Ends.storeThen fun v hv => Ends.loadThen fun w hw => ?_
    have hnoted : Steady m c (v.modifySlot u.app.activeIndex fun s =>
        { s with refreshIneffective := true }) :=
      (hsteady.meanwhile (hu.trans hv)).noted fun _ => ⟨_, _, _, rfl⟩
    refine Ends.andThen (startWatchdog_ends (hnoted.meanwhile hw) _ _) fun _ x hx => ?_
    refine Ends.actThen fun y hy answer => ?_
    have hwatching := hx.1.meanwhile hy
    have hused : Steady m c (y.onApp fun a => { a with switchReconnectUsed := true }) :=
      hwatching.display ⟨rfl⟩ hwatching.deferred hwatching.screens hwatching.watched
    refine hused.reconnected (reconnectSlot_connected _ _ false answer hused.interactive) ?_
    calc y.app.activeIndex = x.app.activeIndex := hy.app.ui.activeIndex
      _ = w.app.activeIndex := hx.2.1
      _ = v.app.activeIndex := hw.app.ui.activeIndex
      _ = u.app.activeIndex := hv.app.ui.activeIndex
  · refine Ends.store fun u hu => ?_
    have hlater := hsteady.meanwhile hu
    exact hlater.display ⟨rfl⟩ hlater.deferred hlater.screens hlater.watched

theorem tickWatchdog_ends (h : Steady m c s) : Ends tickWatchdog (fun _ t => Steady m c t) s := by
  refine Ends.loadThen fun t ht => ?_
  split
  swap
  · exact h.meanwhile ht
  refine Ends.loadThen fun u hu => ?_
  have hsteady := h.meanwhile (ht.trans hu)
  split
  · refine Ends.store fun v hv => ?_
    have hlater := hsteady.meanwhile hv
    exact hlater.display ⟨rfl⟩ hlater.deferred hlater.screens hlater.watched
  refine Ends.loadThen fun v hv => ?_
  have hsteady := hsteady.meanwhile hv
  split
  · refine Ends.act fun w hw answer => ?_
    have hlater := hsteady.meanwhile hw
    exact hlater.display ⟨rfl⟩ hlater.deferred hlater.screens hlater.watched
  refine Ends.actThen fun w hw answer => ?_
  split
  · exact watchdogOverdue_ends (hsteady.meanwhile hw)
  · exact hsteady.meanwhile hw

theorem switchTick_ends (h : Steady m c s) :
    Ends (switchTick scan) (fun _ t => Steady m c t) s :=
  Ends.andThen (Ends.forSlots (fun _ _ ht => tickSnapshot_ends ht) h slots) fun _ _ ht =>
    Ends.andThen (tickDeferred_ends ht) fun _ _ hu =>
      Ends.andThen (tickRefresh_ends hu) fun _ _ hv => tickWatchdog_ends hv

end Tick

end Lgnome.Foreground
