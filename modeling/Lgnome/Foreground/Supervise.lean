import Lgnome.Foreground.Navigate

/-!
# The supervisor

Its tick drains the slots in order. A slot that had failed when the tick began
keeps its flag until its turn, and is without session and flag from then on: the
survivor that takes the screen is never one of them. Media is closed behind every
drained slot if no session is left.
-/
namespace Lgnome.Foreground

open Lgnome.Native Lgnome.Native.App
open Lgnome.Transition (Prog)

variable {scan : Scanner} {s t : LoopState} {i : SlotIndex} {failed : SlotIndex → Bool}
  {waiting done : List SlotIndex}

/-! ## Slots that wait and slots that are done -/

/-- Of the slots that had failed, some wait for their turn and some had it. -/
structure Drained (failed : SlotIndex → Bool) (waiting done : List SlotIndex) (w : LoopState) :
    Prop where
  flagged : ∀ j ∈ waiting, failed j → (w.slot j).sessionFailed
  gone : ∀ j ∈ done, failed j → (w.slot j).rdp = none ∧ (w.slot j).sessionFailed = false

theorem Drained.moved (h : Drained failed waiting done s)
    (hmoved : ∀ j, j ∈ waiting ∨ j ∈ done → failed j → SlotMoved (s.slot j) (t.slot j)) :
    Drained failed waiting done t where
  flagged j hj hf := (hmoved j (.inl hj) hf).failed (h.flagged j hj hf)
  gone j hj hf := by
    obtain ⟨hrdp, hflag⟩ := h.gone j hj hf
    rw [(hmoved j (.inr hj) hf).offline hrdp]
    exact ⟨hrdp, hflag⟩

theorem Drained.meanwhile (h : Drained failed waiting done s) (hm : Meanwhile s t) :
    Drained failed waiting done t :=
  h.moved fun j _ _ => hm.slot j

/-- A slot that has its turn is out of both lists while the rest goes on. -/
theorem Drained.turn (h : Drained failed (i :: waiting) done s) : Drained failed waiting done s :=
  ⟨fun j hj => h.flagged j (List.mem_cons_of_mem _ hj), h.gone⟩

/-- The stop of the slot whose turn it is. -/
theorem Drained.stopped (h : Drained failed waiting done s) (hs : Stopped i s t)
    (hi : i ∉ waiting) : Drained failed waiting (i :: done) t where
  flagged j hj hf := by
    have hne : j ≠ i := fun heq => hi (heq ▸ hj)
    rw [hs.slots j hne]
    exact h.flagged j hj hf
  gone j hj hf := by
    by_cases hji : j = i
    · subst hji
      exact ⟨hs.ended.rdp, hs.unflagged⟩
    · rw [hs.slots j hji]
      exact h.gone j ((List.mem_cons.mp hj).resolve_left hji) hf

/-- A slot that had not failed has nothing to drain. -/
theorem Drained.skipped (h : Drained failed (i :: waiting) done s)
    (hi : (s.slot i).sessionFailed = false) : Drained failed waiting (i :: done) s where
  flagged := h.turn.flagged
  gone j hj hf := by
    rcases List.mem_cons.mp hj with rfl | hj
    · have hflag := h.flagged j (List.mem_cons_self ..) hf
      rw [hi] at hflag
      cases hflag
    · exact h.gone j hj hf

/-- A live stream is none of the slots that had failed. -/
theorem Drained.live {j : SlotIndex} (h : Drained failed waiting done s)
    (hj : j ∈ waiting ∨ j ∈ done) (hlive : (s.slot j).isLiveStreamTarget) : failed j = false := by
  refine Bool.eq_false_iff.mpr fun hf => ?_
  simp only [Slot.isLiveStreamTarget, Bool.and_eq_true, Bool.not_eq_true'] at hlive
  rcases hj with hj | hj
  · have hflag := h.flagged j hj hf
    rw [hlive.1.2] at hflag
    cases hflag
  · have hrdp := hlive.1.1
    rw [(h.gone j hj hf).1] at hrdp
    cases hrdp

/-! ## The slot on screen -/

theorem findSurvivor_ends {A : LoopState → Prop} {P : SlotIndex → Prop} (list : List SlotIndex)
    (survivor : Option SlotIndex) (hstable : ∀ t u, Meanwhile t u → A t → A u)
    (hlive : ∀ t j, A t → j ≠ i → (t.slot j).isLiveStreamTarget → P j)
    (hs : A s) (hsurvivor : ∀ j, survivor = some j → j ≠ i ∧ P j) :
    Ends (findSurvivor i list survivor)
      (fun found t => A t ∧ ∀ j, found = some j → j ≠ i ∧ P j) s := by
  induction list generalizing s survivor with
  | nil => exact ⟨hs, hsurvivor⟩
  | cons j rest ih =>
    refine Ends.loadThen fun t ht => ih _ (hstable s t ht hs) ?_
    intro k hk
    split at hk
    · rename_i hfound
      obtain rfl := Option.some.inj hk
      simp only [Bool.and_eq_true, decide_eq_true_eq] at hfound
      exact ⟨hfound.1.1, hlive t j (hstable s t ht hs) hfound.1.1 hfound.1.2⟩
    · exact hsurvivor k hk

section Turn

variable {m c : Prop} (hwaiting : i ∉ waiting)
include hwaiting

theorem stopSlot_turn (h : Steady m c s) (hd : Drained failed waiting done s)
    (hunwatched : s.app.activeIndex = i → s.app.streamingVisible = false) :
    Steady False c (s.stopSlot i) ∧ Drained failed waiting (i :: done) (s.stopSlot i) := by
  have hstopped := stopSlot_stopped s i
  refine ⟨h.stopped hstopped fun ha hv => ?_, hd.stopped hstopped hwaiting⟩
  rw [hunwatched ha] at hv
  cases hv

theorem leaveScreen_ends (h : Steady m c s) (hd : Drained failed waiting done s) :
    Ends (leaveScreen i)
      (fun _ t => Steady False c t ∧ Drained failed waiting (i :: done) t) s := by
  refine Ends.store fun t ht => ?_
  have hsteady := h.meanwhile ht
  have hleft : Steady m c (t.onApp fun a =>
      { a with switchDeadlineTicks := 0, streamingVisible := false
               mixerOverlayVisible := false }) :=
    hsteady.display ⟨rfl⟩ hsteady.deferred (fun hv => nomatch hv) fun hv => nomatch hv
  exact stopSlot_turn hwaiting hleft ⟨(hd.meanwhile ht).flagged, (hd.meanwhile ht).gone⟩
    fun _ => rfl

theorem drainActive_ends (h : Steady m c s) (hd : Drained failed waiting done s)
    (hactive : s.app.activeIndex = i) (hdone : i ∉ done)
    (hcover : ∀ j, j ≠ i → j ∈ waiting ∨ j ∈ done) :
    Ends (drainActive scan i)
      (fun _ t => Steady False c t ∧ Drained failed waiting (i :: done) t) s := by
  have hfound := findSurvivor_ends (i := i) (s := s)
    (A := fun t => Steady m c t ∧ Drained failed waiting done t ∧ t.app.activeIndex = i)
    (P := fun j => failed j = false) slots none
    (fun t u hu ht =>
      ⟨ht.1.meanwhile hu, ht.2.1.meanwhile hu, hu.app.ui.activeIndex.trans ht.2.2⟩)
    (fun t j ht hj hlive => ht.2.1.live (hcover j hj) hlive) ⟨h, hd, hactive⟩
    (fun j hnone => nomatch hnone)
  refine Ends.andThen hfound fun survivor t ht => ?_
  obtain ⟨⟨hsteady, hd, hactive⟩, hsurvivor⟩ := ht
  refine Ends.loadThen fun u hu => ?_
  replace hsteady := hsteady.meanwhile hu
  replace hd := hd.meanwhile hu
  cases survivor with
  | none => exact leaveScreen_ends hwaiting hsteady hd
  | some j =>
    obtain ⟨hne, hj⟩ := hsurvivor j rfl
    simp only
    split
    · refine Ends.andThen (completeSessionSwitch_ends hsteady) fun switched v hv => ?_
      obtain ⟨hswitched, hrest⟩ := hv
      split
      · rename_i hon
        rw [if_pos hon] at hrest
        refine Ends.store fun w hw => ?_
        have hturned : Drained failed waiting done v := hd.moved fun k hk hf => by
          refine hrest.slots k ?_ fun hkj => ?_
          · rw [hu.app.ui.activeIndex, hactive]
            rintro rfl
            exact hk.elim hwaiting hdone
          · rw [hkj, hj] at hf
            cases hf
        refine stopSlot_turn hwaiting (hswitched.meanwhile hw) (hturned.meanwhile hw) fun ha => ?_
        exact absurd ((hw.app.ui.activeIndex.trans hrest.active).symm.trans ha) hne
      · rename_i hoff
        rw [if_neg hoff] at hrest
        exact leaveScreen_ends hwaiting hswitched (hd.meanwhile hrest)
    · rename_i hunwatched
      refine Ends.store fun v hv => stopSlot_turn hwaiting (hsteady.meanwhile hv)
        (hd.meanwhile hv) fun _ => ?_
      rw [hv.app.ui.streamingVisible]
      exact Bool.eq_false_iff.mpr hunwatched

end Turn

/-! ## The tick -/

/-- Media is open beside a session, or one that still waits to be drained. -/
structure Draining (failed : SlotIndex → Bool) (waiting done : List SlotIndex) (w : LoopState) :
    Prop extends Drained failed waiting done w where
  media : w.app.media → ∃ j, (w.slot j).rdp.isSome ∨ j ∈ waiting ∧ (w.slot j).sessionFailed

theorem Draining.meanwhile (h : Draining failed waiting done s) (hm : Meanwhile s t) :
    Draining failed waiting done t where
  toDrained := h.toDrained.meanwhile hm
  media hmedia := by
    have hkept : ∀ j, (s.slot j).rdp.isSome → (t.slot j).rdp.isSome := fun j hj => by
      rw [(hm.slot j).rdp]
      exact hj
    rcases hm.app.media hmedia with hopen | ⟨j, hj⟩
    · obtain ⟨j, hj⟩ := h.media hopen
      exact ⟨j, hj.imp (hkept j) (.imp_right (hm.slot j).failed)⟩
    · exact ⟨j, .inl (hkept j hj)⟩

theorem stopMediaUnlessConnected_slot (w : LoopState) (j : SlotIndex) :
    w.stopMediaUnlessConnected.slot j = w.slot j := by
  unfold LoopState.stopMediaUnlessConnected
  split <;> rfl

theorem stopMedia_ends {c : Prop} (h : Steady False c s) (hd : Drained failed waiting done s) :
    Ends (Prog.store LoopState.stopMediaUnlessConnected)
      (fun _ t => Steady True c t ∧ Draining failed waiting done t) s := by
  refine Ends.store fun t ht => ⟨(h.meanwhile ht).stopMediaUnlessConnected, ?_, fun hmedia => ?_⟩
  · have hd := hd.meanwhile ht
    refine ⟨fun j hj hf => ?_, fun j hj hf => ?_⟩
    · rw [stopMediaUnlessConnected_slot]
      exact hd.flagged j hj hf
    · rw [stopMediaUnlessConnected_slot]
      exact hd.gone j hj hf
  · exact (mediaBeside_stopMedia t hmedia).imp fun _ => .inl

theorem drainSlot_ends {c : Prop} (h : Steady True c s)
    (hd : Draining failed (i :: waiting) done s) (hnodup : (i :: waiting ++ done).Nodup)
    (hcover : ∀ j, j ∈ i :: waiting ++ done) :
    Ends (drainSlot scan i)
      (fun _ t => Steady True c t ∧ Draining failed waiting (i :: done) t) s := by
  have hout : i ∉ waiting ∧ i ∉ done := by
    rw [List.cons_append, List.nodup_cons, List.mem_append, not_or] at hnodup
    exact hnodup.1
  refine Ends.loadThen fun t ht => ?_
  split
  swap
  · rename_i hflag
    replace hd := hd.meanwhile ht
    refine ⟨h.meanwhile ht, hd.skipped (Bool.eq_false_iff.mpr hflag), fun hmedia => ?_⟩
    obtain ⟨j, hj⟩ := hd.media hmedia
    refine ⟨j, hj.imp_right fun hwaits => ⟨?_, hwaits.2⟩⟩
    refine (List.mem_cons.mp hwaits.1).resolve_left ?_
    rintro rfl
    exact hflag hwaits.2
  refine Ends.storeThen fun u hu => ?_
  have hsteady := h.meanwhile (ht.trans hu)
  have hanswered : Steady True c (u.onApp fun a => { a with
      hubConnectTarget := if a.hubConnectTarget = some i then none else a.hubConnectTarget }) :=
    hsteady.display ⟨rfl⟩ hsteady.deferred hsteady.screens hsteady.watched
  have hdrained : Drained failed waiting done (u.onApp fun a => { a with
      hubConnectTarget := if a.hubConnectTarget = some i then none else a.hubConnectTarget }) :=
    ⟨(hd.meanwhile (ht.trans hu)).turn.flagged, (hd.meanwhile (ht.trans hu)).turn.gone⟩
  refine Ends.loadThen fun v hv => ?_
  split
  · rename_i hactive
    refine Ends.andThen (drainActive_ends hout.1 (hanswered.meanwhile hv) (hdrained.meanwhile hv)
      (by simpa [LoopState.isActive] using hactive) hout.2 fun j hj => ?_) fun _ w hw =>
        stopMedia_ends hw.1 hw.2
    simpa [hj] using hcover j
  · rename_i haway
    refine Ends.storeThen fun w hw => ?_
    have hvw := hv.trans hw
    have hturned := stopSlot_turn hout.1 (hanswered.meanwhile hvw) (hdrained.meanwhile hvw)
      fun ha => absurd (hw.app.ui.activeIndex.symm.trans ha) (by
        simpa [LoopState.isActive] using haway)
    exact stopMedia_ends hturned.1 hturned.2

theorem drainSlots_ends {c : Prop} (list : List SlotIndex) (h : Steady True c s)
    (hd : Draining failed list done s) (hnodup : (list ++ done).Nodup)
    (hcover : ∀ j, j ∈ list ++ done) :
    Ends (forSlots (drainSlot scan) list) (fun _ t => Steady True c t ∧
      ∃ done, (∀ j, j ∈ done) ∧ Draining failed [] done t) s := by
  induction list generalizing s done with
  | nil => exact ⟨h, done, hcover, hd⟩
  | cons i rest ih =>
    refine Ends.andThen (drainSlot_ends h hd hnodup hcover) fun _ t ht => ?_
    refine ih ht.1 ht.2 (List.perm_middle.nodup_iff.mpr hnodup) fun j => ?_
    have hj := hcover j
    simp only [List.cons_append, List.mem_cons, List.mem_append] at hj ⊢
    exact hj.elim (fun hi => .inr (.inl hi)) (Or.imp_right .inr)

theorem mem_slots : ∀ j, j ∈ slots := by decide

/-- The slots that had failed when the tick began are drained when it ends. -/
theorem superviseSessions_ends {c : Prop} (h : Steady True c s) :
    Ends (superviseSessions scan) (fun _ t => Steady True c t ∧
      ∃ done, (∀ j, j ∈ done) ∧ Draining (fun i => (s.slot i).sessionFailed) [] done t) s := by
  have hbegun : Draining (fun i => (s.slot i).sessionFailed) slots [] s :=
    ⟨⟨fun _ _ hf => hf, fun _ hnone => nomatch hnone⟩, fun hmedia => by
      obtain ⟨j, hj⟩ := h.media trivial hmedia
      exact ⟨j, hj.imp_right fun hf => ⟨mem_slots j, hf⟩⟩⟩
  exact drainSlots_ends slots h hbegun (by decide) fun j => List.mem_append_left _ (mem_slots j)

/-- So every record of a tick is as it should be. -/
theorem observedTick_ends {c : Prop} (h : Steady True c s) :
    Ends (observed (superviseSessions scan)) (fun _ t => Steady True c t) s := by
  refine Ends.loadThen fun t ht => ?_
  refine Ends.andThen (superviseSessions_ends (h.meanwhile ht)) fun _ u hu => ?_
  obtain ⟨hsteady, done, hall, hdone⟩ := hu
  refine Ends.store fun v hv => ?_
  replace hsteady := hsteady.meanwhile hv
  replace hdone := hdone.meanwhile hv
  have hok : Supervised.Ok { failedBefore := fun i => (t.slot i).sessionFailed, after := v.app }
      v.stranded := by
    refine ⟨fun j hf => hdone.gone j (hall j) hf, hsteady.watched, fun hnone => ?_⟩
    refine Bool.eq_false_iff.mpr fun hmedia => ?_
    obtain ⟨j, hrdp | hwaits⟩ := hdone.media hmedia
    · rw [show (v.slot j).rdp = none from hnone j] at hrdp
      cases hrdp
    · exact nomatch hwaits.1
  refine { hsteady with handles := hsteady.handles.kept rfl fun _ => rfl,
                        good := fun j => ⟨(hsteady.good j).tidy, (hsteady.good j).onScreen⟩,
                        supervised := fun tick htick => ?_ }
  rcases List.mem_append.mp htick with hbefore | hlast
  · exact hsteady.supervised tick hbefore
  · rw [List.mem_singleton.mp hlast]
    exact hok

end Lgnome.Foreground
