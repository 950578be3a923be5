import Lgnome.Foreground.Steady

/-!
# Stopping, starting and backgrounding a slot

Work on one slot leaves the others to their workers. What a reconnect and the
slot that leaves the screen end with is said once, for all their callers.
-/
namespace Lgnome.Foreground

open Lgnome.Native Lgnome.Native.App
open Lgnome.Transition (Prog)

/-! ## Work on one slot -/

/-- Everything but one slot is as it was. -/
structure OnlySlot (i : SlotIndex) (s t : LoopState) : Prop where
  ui : SameUi { s.app with inputSession := t.app.inputSession } t.app
  slots : ∀ j, j ≠ i → t.slot j = s.slot j
  sent : ∀ j, j ≠ i → t.sentSuppress j = s.sentSuppress j
  wipedReady : t.wipedReady = s.wipedReady
  stranded : t.stranded = s.stranded
  supervised : t.supervised = s.supervised
  media : t.app.media = s.app.media

/-- What `native_stop_slot` leaves. -/
structure Stopped (i : SlotIndex) (s t : LoopState) : Prop extends OnlySlot i s t where
  input : t.app.inputSession = if s.app.activeIndex = i then none else s.app.inputSession
  ended : Ended (t.slot i)
  unflagged : (t.slot i).sessionFailed = false
  unarmed : (t.slot i).snapshot.armed = false
  nextSession : t.nextSession = s.nextSession

/-- What a connect leaves, with its result. A session that does not start is flagged. -/
structure Connected (i : SlotIndex) (armSnapshot ok : Bool) (s t : LoopState) : Prop
    extends OnlySlot i s t where
  input : t.app.inputSession = if s.app.activeIndex = i then (t.slot i).rdp else s.app.inputSession
  started : ok → (t.slot i).rdp = some s.nextSession ∧ t.nextSession = s.nextSession + 1
  failed : ok = false → t.nextSession = s.nextSession
  fresh : ok → Fresh (t.slot i) (t.sentSuppress i)
  unarmed : armSnapshot = false → (t.slot i).snapshot.armed = false
  offline : ok = false → (t.slot i).rdp = none ∧ (t.slot i).snapshotPending = false ∧
    (t.slot i).suppressed = false ∧ (t.slot i).snapshotIdrReady = false ∧
      (t.slot i).sessionFailed = true

variable (s : LoopState) (i : SlotIndex)

theorem stopSlot_stopped : Stopped i s (s.stopSlot i) := by
  have hslot : ((s.stopSlot i).slot i) = ((s.app.disconnect i).sessions i) := rfl
  constructor
  · exact ⟨⟨rfl⟩, fun j hj => by simp [LoopState.stopSlot, LoopState.slot, LoopState.onApp,
      App.disconnect, forgetStream, hj], fun _ _ => rfl, rfl, rfl, rfl, rfl⟩
  · rfl
  · rw [hslot]
    constructor <;> simp [App.disconnect, forgetStream, AuSnapshot.reset]
  · rw [hslot]
    simp [App.disconnect]
  · rw [hslot]
    simp [App.disconnect, forgetStream]
  · rfl

theorem reconnect_slot (a : App) (i : SlotIndex) (session : Session) (armed : Option Bool) :
    let slot := (a.reconnect i session armed).sessions i
    slot.rdp = some session ∧ slot.snapshotPending = false ∧ slot.suppressed = false ∧
      slot.snapshotIdrReady = false ∧ slot.sessionFailed = false ∧ slot.terminalState = .idle ∧
        (armed = none → slot.snapshot.armed = false) := by
  cases armed <;> simp [App.reconnect, forgetStream, armSnapshot]

theorem reconnect_others (a : App) {i j : SlotIndex} (hj : j ≠ i) (session : Session)
    (armed : Option Bool) : (a.reconnect i session armed).sessions j = a.sessions j := by
  cases armed <;> simp [App.reconnect, forgetStream, armSnapshot, hj]

theorem sameUi_reconnect (a : App) (i : SlotIndex) (session : Session) (armed : Option Bool) :
    SameUi a (a.reconnect i session armed) := by
  cases armed <;> exact ⟨rfl⟩

/-- A slot that is set up for a session and has no worker yet. -/
structure Renewed (i : SlotIndex) (armSnapshot : Bool) (s t : LoopState) : Prop
    extends OnlySlot i s t where
  input : t.app.inputSession = if s.app.activeIndex = i then none else s.app.inputSession
  sentSuppress : t.sentSuppress = s.sentSuppress
  rdp : (t.slot i).rdp = some s.nextSession
  nextSession : t.nextSession = s.nextSession
  pending : (t.slot i).snapshotPending = false
  suppressed : (t.slot i).suppressed = false
  idrReady : (t.slot i).snapshotIdrReady = false
  unflagged : (t.slot i).sessionFailed = false
  terminal : (t.slot i).terminalState = .idle
  unarmed : armSnapshot = false → (t.slot i).snapshot.armed = false

theorem renewSlot_renewed (armSnapshot : Bool) (answer : Answer) :
    Renewed i armSnapshot s (s.renewSlot i armSnapshot answer) := by
  have hstopped := stopSlot_stopped s i
  have hsent : (s.stopSlot i).sentSuppress = s.sentSuppress := rfl
  have hnext : (s.stopSlot i).nextSession = s.nextSession := rfl
  unfold LoopState.renewSlot
  generalize s.stopSlot i = t at hstopped hsent hnext ⊢
  obtain ⟨hrdp, hpending, hsuppressed, hidr, hfailed, hterminal, hunarmed⟩ := reconnect_slot t.app i
    s.nextSession (if armSnapshot then some answer.allocates else none)
  have hui := sameUi_reconnect t.app i s.nextSession
    (if armSnapshot then some answer.allocates else none)
  have hothers := fun j hj => reconnect_others t.app (i := i) (j := j) hj s.nextSession
    (if armSnapshot then some answer.allocates else none)
  have hmedia : (t.app.reconnect i s.nextSession
      (if armSnapshot then some answer.allocates else none)).media = t.app.media := by
    cases armSnapshot <;> rfl
  have hinput := hui.inputSession
  refine ⟨⟨?_, fun j hj => (hothers j hj).trans (hstopped.slots j hj), hstopped.sent,
    hstopped.wipedReady, hstopped.stranded, hstopped.supervised, hmedia.trans hstopped.media⟩,
    hinput.trans hstopped.input, hsent, hrdp, hnext, hpending, hsuppressed, hidr, hfailed,
    hterminal, ?_⟩
  · show SameUi { s.app with inputSession := (t.app.reconnect i s.nextSession _).inputSession } _
    rw [hinput]
    exact (hstopped.ui.trans hui).trans ⟨rfl⟩
  · intro hplain
    exact hunarmed (by rw [hplain]; rfl)

/-- In the interactive application a session that does not start raises the flag itself. -/
theorem recordState_failure {a : App} {i : SlotIndex} {starts : StartResult} {state : RdpState}
    (hstate : starts.failure = some state) (hfailed : (a.sessions i).sessionFailed = false)
    (hidle : (a.sessions i).terminalState = .idle) (hui : a.interactiveUi) :
    a.recordState i state = a.modifySlot i fun slot =>
      { slot with currentState := state, terminalState := state, sessionFailed := true } := by
  have hends : state.isTerminalError = true ∧ state.isNativeRuntimeFailure = false := by
    cases starts with
    | started => cases hstate
    | invalidConfig => cases hstate; decide
    | noThread => cases hstate; decide
  simp only [recordState, reportTerminal, hfailed, hidle, hends, hui, modifySlot_modifySlot,
    modifySlot_same, modifySlot_activeIndex, modifySlot_interactiveUi]
  simp only [Bool.false_eq_true, not_true_eq_false, ne_eq, or_self, and_false, or_true, true_or,
    if_false, if_true]
  rfl

theorem slotConnect_failure {armSnapshot : Bool} {answer : Answer} {state : RdpState}
    (hstate : answer.starts.failure = some state) (hinteractive : s.app.interactiveUi) :
    s.slotConnect i armSnapshot answer =
      (false, (s.renewSlot i armSnapshot answer).modifySlot i fun slot =>
        { slot with
          rdp := none
          currentState := state
          terminalState := state
          sessionFailed := true }) := by
  have hrenewed := renewSlot_renewed s i armSnapshot answer
  unfold LoopState.slotConnect
  generalize s.renewSlot i armSnapshot answer = t at hrenewed ⊢
  have hui : t.app.interactiveUi = true := hrenewed.ui.interactiveUi.trans hinteractive
  have hidle : ((t.app.modifySlot i fun slot => { slot with rdp := none }).sessions
      i).terminalState = .idle := by
    rw [modifySlot_same]
    exact hrenewed.terminal
  have hunflagged : ((t.app.modifySlot i fun slot => { slot with rdp := none }).sessions
      i).sessionFailed = false := by
    rw [modifySlot_same]
    exact hrenewed.unflagged
  have hrecord := recordState_failure hstate hunflagged hidle hui
  rw [modifySlot_modifySlot] at hrecord
  simp only [hstate]
  exact congrArg (fun app => (false, { t with app })) hrecord

theorem slotConnect_connected (armSnapshot : Bool) (answer : Answer)
    (hinteractive : s.app.interactiveUi) :
    Connected i armSnapshot (s.slotConnect i armSnapshot answer).1 s
      (s.slotConnect i armSnapshot answer).2 := by
  have hrenewed := renewSlot_renewed s i armSnapshot answer
  cases hstarts : answer.starts.failure with
  | none =>
    unfold LoopState.slotConnect
    simp only [hstarts]
    generalize s.renewSlot i armSnapshot answer = t at hrenewed ⊢
    have hactive : t.app.activeIndex = s.app.activeIndex := by
      have hui := hrenewed.ui.activeIndex
      exact hui
    refine ⟨⟨hrenewed.ui.withInput _, hrenewed.slots, fun j hj => ?_, hrenewed.wipedReady,
      hrenewed.stranded, hrenewed.supervised, hrenewed.media⟩, ?_, fun _ => ⟨hrenewed.rdp, ?_⟩,
      (fun h => nomatch h), fun _ => ?_, hrenewed.unarmed, fun h => nomatch h⟩
    · exact (Function.update_of_ne hj _ _).trans (hrenewed.sent j hj)
    · show (if t.app.activeIndex = i then _ else t.app.inputSession) = _
      rw [hactive, hrenewed.input]
      split <;> rfl
    · show t.nextSession + 1 = _
      rw [hrenewed.nextSession]
    · refine ⟨Option.isSome_iff_exists.mpr ⟨_, hrenewed.rdp⟩, hrenewed.pending,
        hrenewed.suppressed, fun hidr => ?_, Function.update_self ..⟩
      have hnot : (t.slot i).snapshotIdrReady = true := hidr
      rw [hrenewed.idrReady] at hnot
      cases hnot
  | some state =>
    rw [slotConnect_failure s i hstarts hinteractive]
    generalize s.renewSlot i armSnapshot answer = t at hrenewed ⊢
    refine ⟨⟨hrenewed.ui.trans ⟨rfl⟩, fun j hj => ?_, hrenewed.sent, hrenewed.wipedReady,
      hrenewed.stranded, hrenewed.supervised, hrenewed.media⟩, ?_, (fun h => nomatch h),
      fun _ => hrenewed.nextSession, (fun h => nomatch h), ?_, ?_⟩
    all_goals simp only [LoopState.modifySlot_same]
    · exact (LoopState.modifySlot_other _ _ hj).trans (hrenewed.slots j hj)
    · exact hrenewed.input
    · exact hrenewed.unarmed
    · exact fun _ => ⟨trivial, hrenewed.pending, hrenewed.suppressed, hrenewed.idrReady, trivial⟩

/-- The report of the caller comes behind the session's own. -/
theorem reconnectSlot_eq (armSnapshot : Bool) (answer : Answer)
    (hinteractive : s.app.interactiveUi) :
    s.reconnectSlot i armSnapshot answer = s.slotConnect i armSnapshot answer := by
  unfold LoopState.reconnectSlot
  cases hstarts : answer.starts.failure with
  | none => simp [LoopState.slotConnect, hstarts]
  | some state =>
    rw [slotConnect_failure s i hstarts hinteractive]
    generalize s.renewSlot i armSnapshot answer = t
    have hreported : ∀ a : App, (a.sessions i).terminalState ≠ .idle →
        a.reportTerminal i .networkError = a := fun a h => if_pos h
    have hstate : state ≠ .idle := by
      rintro rfl
      cases hs : answer.starts <;> rw [hs] at hstarts <;> cases hstarts
    simp only [Bool.false_eq_true, if_false]
    refine congrArg (fun app => (false, { t with app })) (hreported _ ?_)
    rw [show (t.modifySlot i _).app.sessions i = _ from modifySlot_same ..]
    exact hstate

theorem reportTerminal_media (a : App) (i : SlotIndex) (state : RdpState) :
    (a.reportTerminal i state).media = a.media := by
  unfold reportTerminal
  split
  · rfl
  · simp only
    split
    · rfl
    · split <;> rfl

theorem reconnectSlot_connected (armSnapshot : Bool) (answer : Answer)
    (hinteractive : s.app.interactiveUi) :
    Connected i armSnapshot (s.reconnectSlot i armSnapshot answer).1 s
      (s.reconnectSlot i armSnapshot answer).2 := by
  rw [reconnectSlot_eq s i armSnapshot answer hinteractive]
  exact slotConnect_connected s i armSnapshot answer hinteractive

theorem Handles.stopped {s t : LoopState} {i : SlotIndex} (h : Handles s) (hs : Stopped i s t) :
    Handles t := by
  have hkept : ∀ j session, (t.slot j).rdp = some session → (s.slot j).rdp = some session := by
    intro j session hj
    have hne : j ≠ i := by
      rintro rfl
      exact nomatch hs.ended.rdp.symm.trans hj
    rw [← hs.slots j hne]
    exact hj
  refine ⟨fun j session hj => ?_, fun j k session hj hk =>
    h.distinct j k session (hkept j session hj) (hkept k session hk)⟩
  rw [hs.nextSession]
  exact h.known j session (hkept j session hj)

theorem Handles.connected {s t : LoopState} {i : SlotIndex} {armSnapshot ok : Bool}
    (h : Handles s) (hc : Connected i armSnapshot ok s t) : Handles t := by
  have hkept : ∀ j session, j ≠ i → (t.slot j).rdp = some session →
      (s.slot j).rdp = some session := fun j session hne hj => by
    rw [← hc.slots j hne]
    exact hj
  cases ok with
  | false =>
    obtain ⟨hrdp, -⟩ := hc.offline rfl
    have hne : ∀ j session, (t.slot j).rdp = some session → j ≠ i := by
      rintro j session hj rfl
      exact nomatch hrdp.symm.trans hj
    refine ⟨fun j session hj => ?_, fun j k session hj hk => h.distinct j k session
      (hkept j session (hne j session hj) hj) (hkept k session (hne k session hk) hk)⟩
    rw [hc.failed rfl]
    exact h.known j session (hkept j session (hne j session hj) hj)
  | true =>
    obtain ⟨hrdp, hnext⟩ := hc.started rfl
    have hnew : ∀ session, (t.slot i).rdp = some session → session = s.nextSession :=
      fun session hi => (Option.some.inj (hrdp.symm.trans hi)).symm
    have hold : ∀ j session, j ≠ i → (t.slot j).rdp = some session → session < s.nextSession :=
      fun j session hne hj => h.known j session (hkept j session hne hj)
    refine ⟨fun j session hj => ?_, fun j k session hj hk => ?_⟩
    · rw [hnext]
      by_cases hji : j = i
      · subst hji
        rw [hnew session hj]
        exact Nat.lt_succ_self _
      · exact Nat.lt_succ_of_lt (hold j session hji hj)
    · by_cases hji : j = i
      · by_cases hki : k = i
        · exact hji.trans hki.symm
        · subst hji
          exact absurd (hnew session hj) (hold k session hki hk).ne
      · by_cases hki : k = i
        · subst hki
          exact absurd (hnew session hk) (hold j session hji hj).ne
        · exact h.distinct j k session (hkept j session hji hj) (hkept k session hki hk)

/-! ## Beside the other slots -/

/-- What a program leaves that works on one slot beside the workers of the others. -/
structure Beside (i : SlotIndex) (s t : LoopState) : Prop where
  ui : SameUi s.app t.app
  slots : ∀ j, j ≠ i → SlotMoved (s.slot j) (t.slot j)
  sent : ∀ j, j ≠ i → t.sentSuppress j = s.sentSuppress j
  wipedReady : t.wipedReady = s.wipedReady
  stranded : t.stranded = s.stranded
  supervised : t.supervised = s.supervised
  handles : Handles s → Handles t
  media : MediaHeld s → MediaHeld t

namespace Beside

variable {s t u : LoopState} {i : SlotIndex}

theorem of_meanwhile (i : SlotIndex) (h : Meanwhile s t) : Beside i s t where
  ui := h.app.ui
  slots j _ := h.slot j
  sent j _ := by rw [h.sentSuppress]
  wipedReady := h.wipedReady
  stranded := h.stranded
  supervised := h.supervised
  handles hs := hs.meanwhile h
  media hs := hs.meanwhile h

theorem trans (h : Beside i s t) (h' : Beside i t u) : Beside i s u where
  ui := h.ui.trans h'.ui
  slots j hj := (h.slots j hj).trans (h'.slots j hj)
  sent j hj := (h'.sent j hj).trans (h.sent j hj)
  wipedReady := h'.wipedReady.trans h.wipedReady
  stranded := h'.stranded.trans h.stranded
  supervised := h'.supervised.trans h.supervised
  handles hs := h'.handles (h.handles hs)
  media hs := h'.media (h.media hs)

theorem meanwhile (h : Beside i s t) (hm : Meanwhile t u) : Beside i s u :=
  h.trans (of_meanwhile i hm)

/-- A change of the slot's own flags. -/
theorem modifySlot (s : LoopState) (i : SlotIndex) {f : Slot → Slot}
    (hrdp : (f (s.slot i)).rdp = (s.slot i).rdp)
    (hfailed : (f (s.slot i)).sessionFailed = (s.slot i).sessionFailed) :
    Beside i s (s.modifySlot i f) where
  ui := ⟨rfl⟩
  slots j hj := by
    rw [LoopState.modifySlot_other _ _ hj]
    exact .refl _
  sent _ _ := rfl
  wipedReady := rfl
  stranded := rfl
  supervised := rfl
  handles hs := hs.kept rfl fun j => by
    by_cases hji : j = i
    · subst hji
      rw [LoopState.modifySlot_same, hrdp]
    · rw [LoopState.modifySlot_other _ _ hji]
  media hs hmedia := by
    obtain ⟨j, hj⟩ := hs hmedia
    refine ⟨j, ?_⟩
    by_cases hji : j = i
    · subst hji
      rw [LoopState.modifySlot_same, hrdp, hfailed]
      exact hj
    · rw [LoopState.modifySlot_other _ _ hji]
      exact hj

theorem setSuppressOutput (s : LoopState) (i : SlotIndex) (allow : Bool) :
    Beside i s (s.setSuppressOutput i allow) where
  ui := .refl _
  slots _ _ := .refl _
  sent _ hj := Function.update_of_ne hj _ _
  wipedReady := rfl
  stranded := rfl
  supervised := rfl
  handles hs := hs.kept rfl fun _ => rfl
  media := id

theorem suppress (s : LoopState) (i : SlotIndex) : Beside i s (s.suppress i) :=
  (setSuppressOutput s i false).trans (modifySlot _ i rfl rfl)

/-- A reconnect in the background. -/
theorem of_connected {armSnapshot ok : Bool} (h : Connected i armSnapshot ok s t)
    (hactive : s.app.activeIndex ≠ i) : Beside i s t where
  ui := by
    have hui := h.ui
    have hinput := h.input
    rw [if_neg hactive] at hinput
    rw [hinput] at hui
    exact hui
  slots j hj := by
    rw [h.slots j hj]
    exact .refl _
  sent := h.sent
  wipedReady := h.wipedReady
  stranded := h.stranded
  supervised := h.supervised
  handles hs := hs.connected h
  media _ _ := by
    cases ok with
    | true => exact ⟨i, .inl (h.fresh rfl).rdp⟩
    | false =>
      obtain ⟨-, -, -, -, hflag⟩ := h.offline rfl
      exact ⟨i, .inr hflag⟩

end Beside

theorem Connected.ended {s t : LoopState} {i : SlotIndex} {armSnapshot : Bool}
    (h : Connected i armSnapshot false s t) : Ended (t.slot i) := by
  obtain ⟨hrdp, hpending, hsuppressed, hidr, hflag⟩ := h.offline rfl
  exact ⟨hrdp, hpending, hsuppressed, hidr, fun _ => hflag⟩

/-! ## The slot that leaves the screen -/

section Leaving

variable {s : Slot} {sent wiped : Bool}

theorem Fresh.awaits (h : Fresh s sent) (deadline : UInt32) :
    Tidy { s with snapshotPending := true, snapshotDeadlineTicks := deadline } sent wiped where
  pending _ := h.suppressed
  armed _ := .inl rfl
  ready hr := .inr (h.ready hr)
  commanded _ := .inr (h.suppressed.trans h.sent.symm)
  offline hr := by
    have hrdp := h.rdp
    rw [show s.rdp = none from hr] at hrdp
    cases hrdp

/-- The server is silenced, and the cache no longer awaited. -/
theorem tidy_suppressed (hrdp : s.rdp.isSome) (hpending : s.snapshotPending = false)
    (hready : s.snapshotIdrReady → wiped ∨ s.snapshot.ready) :
    Tidy { s with suppressed := true } true wiped where
  pending hp := by
    rw [show s.snapshotPending = true from hp] at hpending
    cases hpending
  armed _ := .inr (.inl rfl)
  ready := hready
  commanded _ := .inr rfl
  offline hr := by
    rw [show s.rdp = none from hr] at hrdp
    cases hrdp

theorem Leaving.tidy (h : Leaving s sent wiped) (haway : s.rdp.isNone || s.suppressed) :
    Tidy s sent wiped where
  pending hp := by
    rw [h.pending] at hp
    cases hp
  armed ha := .inr (h.armed ha)
  ready := h.ready
  commanded hr := by
    have hsuppressed : s.suppressed = true := by
      rcases Bool.or_eq_true_iff.mp haway with hnone | hsuppressed
      · rw [Option.isNone_iff_eq_none.mp hnone] at hr
        cases hr
      · exact hsuppressed
    exact (h.commanded hr hsuppressed).imp_right fun hsent => hsuppressed.trans hsent.symm
  offline hr := ⟨h.offline hr, h.pending⟩

end Leaving

section Background

variable {s : LoopState} {i : SlotIndex}

/-- The slot is tidy, whatever is on screen. -/
abbrev TidySlot (w : LoopState) (i : SlotIndex) : Prop :=
  Tidy (w.slot i) (w.sentSuppress i) w.wipedReady

theorem suppress_tidy {w : LoopState} (hrdp : (w.slot i).rdp.isSome)
    (hpending : (w.slot i).snapshotPending = false)
    (hready : (w.slot i).snapshotIdrReady → w.wipedReady ∨ (w.slot i).snapshot.ready) :
    TidySlot (w.suppress i) i := by
  have hslot : (w.suppress i).slot i = { w.slot i with suppressed := true } :=
    LoopState.modifySlot_same ..
  have hsent : (w.suppress i).sentSuppress i = true := Function.update_self ..
  rw [TidySlot, hslot, hsent]
  exact tidy_suppressed hrdp hpending hready

theorem awaitSnapshot_ends (h : Fresh (s.slot i) (s.sentSuppress i)) :
    Ends (awaitSnapshot i) (fun _ t => Beside i s t ∧ TidySlot t i) s := by
  refine Ends.loadThen fun t ht => ?_
  have hfresh : Fresh (t.slot i) (t.sentSuppress i) := by
    rw [ht.sentSuppress]
    exact h.moved (ht.slot i)
  split
  · refine Ends.store fun u hu => ?_
    have hfresh : Fresh (u.slot i) (u.sentSuppress i) := by
      rw [hu.sentSuppress]
      exact hfresh.moved (hu.slot i)
    refine ⟨((Beside.of_meanwhile i ht).meanwhile hu).trans (.modifySlot u i rfl rfl), ?_⟩
    rw [TidySlot, LoopState.modifySlot_same]
    exact hfresh.awaits 0
  · refine Ends.store fun u hu => ?_
    have hfresh : Fresh (u.slot i) (u.sentSuppress i) := by
      rw [hu.sentSuppress]
      exact hfresh.moved (hu.slot i)
    exact ⟨((Beside.of_meanwhile i ht).meanwhile hu).trans (.suppress u i),
      suppress_tidy hfresh.rdp hfresh.pending fun hr => .inr (hfresh.ready hr)⟩

theorem backgroundSlot_ends (h : Leaving (s.slot i) (s.sentSuppress i) s.wipedReady)
    (hactive : s.app.activeIndex ≠ i) (hui : s.app.interactiveUi) :
    Ends (backgroundSlot i) (fun _ t => Beside i s t ∧ TidySlot t i) s := by
  have hleaving : ∀ t, Meanwhile s t → Leaving (t.slot i) (t.sentSuppress i) t.wipedReady := by
    intro t ht
    rw [ht.sentSuppress, ht.wipedReady]
    exact h.moved (ht.slot i)
  refine Ends.loadThen fun t ht => ?_
  split
  · rename_i haway
    exact ⟨.of_meanwhile i ht, (hleaving t ht).tidy haway⟩
  rename_i hstays
  have hrdp : (t.slot i).rdp.isSome := by
    cases hr : (t.slot i).rdp with
    | none =>
      rw [hr] at hstays
      exact absurd rfl hstays
    | some session => rfl
  refine Ends.loadThen fun u hu => ?_
  split
  · refine Ends.actThen fun v hv answer => ?_
    have hsv := (ht.trans hu).trans hv
    have hconnected := reconnectSlot_connected v i true answer
      (hsv.app.ui.interactiveUi.trans hui)
    have hbeside := (Beside.of_meanwhile i hsv).trans (.of_connected hconnected
      (by rw [hsv.app.ui.activeIndex]; exact hactive))
    generalize v.reconnectSlot i true answer = r at hconnected hbeside ⊢
    obtain ⟨_ | _, w⟩ := r
    · exact ⟨hbeside, hconnected.ended.tidy⟩
    · exact (awaitSnapshot_ends (hconnected.fresh rfl)).mono
        fun _ x hx => ⟨hbeside.trans hx.1, hx.2⟩
  · refine Ends.store fun v hv => ?_
    have hsv := (ht.trans hu).trans hv
    have hlast := hleaving v hsv
    refine ⟨(Beside.of_meanwhile i hsv).trans (.suppress v i),
      suppress_tidy ?_ hlast.pending hlast.ready⟩
    rw [(hv.slot i).rdp, (hu.slot i).rdp]
    exact hrdp

end Background

end Lgnome.Foreground
