import Lgnome.Input.Held
import Lgnome.Transition.Machine

/-!
# Releases owed to a session

Every press that a session was sent is owed a release. The record of what is held is
where the client remembers it, through switches, connects, focus losses and the HUB.
-/
namespace Lgnome.Input

open Lgnome.Native Lgnome.Transition

/-- Everything that reaches the input side. Buttons come from the grabbed mouse or from
the compositor's pointer, keys from the grabbed keyboard; motion and the wheel press
nothing. -/
inductive InputAction
  | button (button : NativeInputButton) (down : Bool)
  | key (scancode : UInt8) (extended down : Bool)
  | pointer
  | evdevReset
  | stopStreamingInput
  | showHub
  | showSlotConfigurator (target : SlotIndex) (background : Option Bool)
  | completeSessionSwitch (target : SlotIndex) (background fresh : Option Bool)
  | streamingTransitionTick (wanted enters : Bool)
  | stopSlot (index : SlotIndex)
  | slotConnect (index : SlotIndex) (started : Bool)
  | failActiveSlot
  | hubConnect (requested : SlotIndex) (background : Option Bool) (started : Bool)
  deriving DecidableEq, Repr

namespace InputApp

/-- One routine of the SDL thread, where its callers can call it: the configurator is
shown for a slot without a session, and the HUB's requests are taken while it is on
screen or in the turn that leaves it. -/
def step (app : InputApp) : InputAction → Option (InputApp × List InputStroke)
  | .button b down => some (app.pointerButton b down)
  | .key scancode extended down => some (app.key scancode extended down)
  | .pointer => some (app, [])
  | .evdevReset => some app.flushHeldInputs
  | .stopStreamingInput => some app.stopStreamingInput
  | .showHub => if app.streamingVisible then some app.showHub else none
  | .showSlotConfigurator target background =>
    if app.rdp target = none then some (app.showSlotConfigurator target background) else none
  | .completeSessionSwitch target background fresh =>
    if app.rdp target = none then none
    else some (app.completeSessionSwitch target background fresh)
  | .streamingTransitionTick wanted enters => some (app.streamingTransitionTick wanted enters, [])
  | .stopSlot index => some (app.stopSlot index, [])
  | .slotConnect index started => some (app.slotConnect index started, [])
  | .failActiveSlot => some app.failActiveSlot
  | .hubConnect requested background started =>
    if ¬app.streamingVisible ∨ app.entered then
      some (app.hubConnect requested background started, [])
    else none

/-- The attached session was sent a press of it and no release since. -/
def downAttached (app : InputApp) (log : List InputStroke) (i : HeldInput) : Bool :=
  app.input.session.any fun session => Stroke.stillDown log session i

end InputApp

def streamingInput : Machine (InputApp × List InputStroke) InputAction (List InputStroke) :=
  (Machine.mk InputApp.new InputApp.step).withGhost [] fun log _ _ _ sent => log ++ sent

/-- A flush finds the input ready, or nothing down at the attached session. -/
def FlushReaches (s : InputApp × List InputStroke) : Prop :=
  s.1.ready.isSome ∨ (allInputs.all fun i => !s.1.downAttached s.2 i)

instance (s : InputApp × List InputStroke) : Decidable (FlushReaches s) :=
  inferInstanceAs (Decidable (_ ∨ _))

/-- A button event finds the input ready, unless the record and the attached session
agree on the button already. A flush reaches what is down. -/
def Reaches (s : InputApp × List InputStroke) : InputAction → Prop
  | .button b true => s.1.ready.isSome ∨ s.1.heldMouse b = true
  | .button b false => s.1.ready.isSome ∨ s.1.downAttached s.2 (.button b) = false
  | .evdevReset | .stopStreamingInput | .showHub | .failActiveSlot => FlushReaches s
  | .showSlotConfigurator target _ | .completeSessionSwitch target _ _ =>
    s.1.activeIndex = target ∨ FlushReaches s
  | _ => True

instance (s : InputApp × List InputStroke) : ∀ action, Decidable (Reaches s action)
  | .button _ true => inferInstanceAs (Decidable (_ ∨ _))
  | .button _ false => inferInstanceAs (Decidable (_ ∨ _))
  | .evdevReset | .stopStreamingInput | .showHub | .failActiveSlot =>
    inferInstanceAs (Decidable (FlushReaches s))
  | .showSlotConfigurator _ _ | .completeSessionSwitch _ _ _ =>
    inferInstanceAs (Decidable (_ ∨ FlushReaches s))
  | .key _ _ _ | .pointer | .streamingTransitionTick _ _ | .stopSlot _ | .slotConnect _ _
  | .hubConnect _ _ _ => inferInstanceAs (Decidable True)

def reachingInput : Machine (InputApp × List InputStroke) InputAction (List InputStroke) :=
  streamingInput.restrict Reaches

/-- Nothing is down at any session that lives. -/
def AllUp (app : InputApp) (log : List InputStroke) : Prop :=
  ∀ j session i, app.rdp j = some session → Stroke.stillDown log session i = false

/-- Handles are given out once. -/
structure Handles (app : InputApp) (log : List InputStroke) : Prop where
  distinct : ∀ j k session, app.rdp j = some session → app.rdp k = some session → j = k
  given : ∀ j session, app.rdp j = some session → session < app.nextSession
  logged : ∀ session i, Stroke.stillDown log session i = true → session < app.nextSession

/-- The input is attached to the active slot's session or to none. -/
def Wired (app : InputApp) : Prop :=
  ∀ session, app.input.session = some session → app.rdp app.activeIndex = some session

/-- Off the screen the input is not ready, nor in the turn that enters streaming. -/
def Idle (app : InputApp) : Prop :=
  ¬app.streamingVisible ∨ app.entered → app.ready = none

/-- What is owed: only the attached session has anything down, all of it is recorded, and
all that is recorded was pressed. Off the screen nothing is down. -/
structure Owed (app : InputApp) (log : List InputStroke) : Prop where
  single : ∀ j session i, app.rdp j = some session → Stroke.stillDown log session i = true →
    app.input.session = some session
  recorded : ∀ j session i, app.rdp j = some session → Stroke.stillDown log session i = true →
    app.held i = true
  pressed : ∀ i, app.held i = true → ∃ session, Stroke.stillDown log session i = true
  quiet : ¬app.streamingVisible ∨ app.entered → AllUp app log

section Slots

variable {app : InputApp} {log : List InputStroke} {index j : SlotIndex} {session : Session}
  {started : Bool}

theorem stopSlot_rdp (h : (app.stopSlot index).rdp j = some session) :
    j ≠ index ∧ app.rdp j = some session := by
  unfold InputApp.stopSlot at h
  dsimp only at h
  split at h
  · cases h
  · exact ⟨‹_›, h⟩

theorem slotConnect_rdp (h : (app.slotConnect index started).rdp j = some session) :
    (j = index ∧ session = app.nextSession ∧ started = true) ∨ (j ≠ index ∧ app.rdp j = some session) := by
  unfold InputApp.slotConnect at h
  dsimp only at h
  split at h
  · dsimp only at h
    split at h
    · exact .inl ⟨‹_›, (Option.some.inj h).symm, ‹_›⟩
    · exact .inr (stopSlot_rdp h)
  · exact .inr (stopSlot_rdp h)

theorem slotConnect_next : app.nextSession ≤ (app.slotConnect index started).nextSession := by
  unfold InputApp.slotConnect
  dsimp only
  split
  · exact Nat.le_succ _
  · exact Nat.le_refl _

theorem Handles.stopSlot (h : Handles app log) (index : SlotIndex) :
    Handles (app.stopSlot index) log where
  distinct j k session hj hk := h.distinct j k session (stopSlot_rdp hj).2 (stopSlot_rdp hk).2
  given j session hj := h.given j session (stopSlot_rdp hj).2
  logged := h.logged

theorem Handles.slotConnect (h : Handles app log) (index : SlotIndex) (started : Bool) :
    Handles (app.slotConnect index started) log where
  distinct j k session hj hk := by
    rcases slotConnect_rdp hj with ⟨rfl, hnew, -⟩ | ⟨-, hold⟩
    · rcases slotConnect_rdp hk with ⟨rfl, -⟩ | ⟨-, hold⟩
      · rfl
      · exact absurd hnew (Nat.ne_of_lt (h.given k session hold))
    · rcases slotConnect_rdp hk with ⟨rfl, hnew, -⟩ | ⟨-, hold'⟩
      · exact absurd hnew (Nat.ne_of_lt (h.given j session hold))
      · exact h.distinct j k session hold hold'
  given j session hj := by
    rcases slotConnect_rdp hj with ⟨rfl, rfl, rfl⟩ | ⟨-, hold⟩
    · exact Nat.lt_succ_self _
    · exact Nat.lt_of_lt_of_le (h.given j session hold) slotConnect_next
  logged session i hdown := Nat.lt_of_lt_of_le (h.logged session i hdown) slotConnect_next

theorem Handles.backgroundSlot (h : Handles app log) (index : SlotIndex)
    (background : Option Bool) : Handles (app.backgroundSlot index background) log := by
  unfold InputApp.backgroundSlot
  split
  · exact h.slotConnect _ _
  · exact h

/-- A handle not given out yet was sent nothing. -/
theorem Handles.fresh (h : Handles app log) (i : HeldInput) :
    Stroke.stillDown log app.nextSession i = false := by
  cases hdown : Stroke.stillDown log app.nextSession i with
  | false => rfl
  | true => exact absurd (h.logged _ _ hdown) (Nat.lt_irrefl _)

theorem AllUp.stopSlot (h : AllUp app log) (index : SlotIndex) :
    AllUp (app.stopSlot index) log :=
  fun j session i hj => h j session i (stopSlot_rdp hj).2

theorem AllUp.slotConnect (h : AllUp app log) (hhandles : Handles app log) (index : SlotIndex)
    (started : Bool) : AllUp (app.slotConnect index started) log := by
  intro j session i hj
  rcases slotConnect_rdp hj with ⟨-, rfl, -⟩ | ⟨-, hold⟩
  · exact hhandles.fresh i
  · exact h j session i hold

theorem AllUp.backgroundSlot (h : AllUp app log) (hhandles : Handles app log) (index : SlotIndex)
    (background : Option Bool) : AllUp (app.backgroundSlot index background) log := by
  unfold InputApp.backgroundSlot
  split
  · exact h.slotConnect hhandles _ _
  · exact h

/-- Connecting the active slot attaches the input to its session. -/
theorem wired_slotConnect_active : Wired (app.slotConnect app.activeIndex started) ∧
    (app.slotConnect app.activeIndex started).input.active = false := by
  unfold InputApp.slotConnect Wired
  dsimp only
  split
  · refine ⟨fun session hsession => ?_, by rw [if_pos rfl]⟩
    rw [if_pos rfl] at hsession
    exact (if_pos rfl).trans hsession
  · refine ⟨fun session hsession => ?_, by simp [InputApp.stopSlot]⟩
    simp [InputApp.stopSlot] at hsession

theorem slotConnect_other (h : index ≠ app.activeIndex) :
    (app.slotConnect index started).input = app.input := by
  unfold InputApp.slotConnect
  dsimp only
  split
  · simp [InputApp.stopSlot, h]
  · simp [InputApp.stopSlot, h]

theorem slotConnect_activeIndex :
    (app.slotConnect index started).activeIndex = app.activeIndex := by
  unfold InputApp.slotConnect
  dsimp only
  split <;> rfl

theorem slotConnect_rdp_other (h : j ≠ index) :
    (app.slotConnect index started).rdp j = app.rdp j := by
  unfold InputApp.slotConnect InputApp.stopSlot
  dsimp only
  split <;> simp [h]

theorem Wired.stopSlot (h : Wired app) (index : SlotIndex) : Wired (app.stopSlot index) := by
  intro session hsession
  unfold InputApp.stopSlot at hsession ⊢
  dsimp only at hsession ⊢
  split at hsession
  · cases hsession
  · rename_i hactive
    rw [if_neg (Ne.symm hactive)]
    exact h session hsession

theorem Wired.slotConnect (h : Wired app) (index : SlotIndex) (started : Bool) :
    Wired (app.slotConnect index started) := by
  by_cases hactive : index = app.activeIndex
  · rw [hactive]
    exact wired_slotConnect_active.1
  · intro session hsession
    rw [slotConnect_other hactive] at hsession
    rw [slotConnect_activeIndex, slotConnect_rdp_other (Ne.symm hactive)]
    exact h session hsession

theorem Wired.backgroundSlot (h : Wired app) (index : SlotIndex) (background : Option Bool) :
    Wired (app.backgroundSlot index background) := by
  unfold InputApp.backgroundSlot
  split
  · exact h.slotConnect _ _
  · exact h

theorem stopSlot_held (i : HeldInput) : (app.stopSlot index).held i = app.held i := by
  cases i <;> rfl

theorem slotConnect_held (i : HeldInput) :
    (app.slotConnect index started).held i = app.held i := by
  unfold InputApp.slotConnect
  dsimp only
  split <;> cases i <;> rfl

theorem backgroundSlot_held (background : Option Bool) (i : HeldInput) :
    (app.backgroundSlot index background).held i = app.held i := by
  unfold InputApp.backgroundSlot
  split
  · exact slotConnect_held i
  · rfl

theorem ready_of_inactive (h : app.input.active = false) : app.ready = none := by
  simp [InputApp.ready, h]

theorem ready_session (h : app.ready = some session) : app.input.session = some session := by
  unfold InputApp.ready at h
  split at h
  · exact h
  · cases h

end Slots

/-- The invariant: what is owed, and the attachment it rests on. -/
structure Kept (app : InputApp) (log : List InputStroke) : Prop where
  handles : Handles app log
  wired : Wired app
  idle : Idle app
  owed : Owed app log

section Steps

variable {app : InputApp} {log : List InputStroke}

/-- With every session's input up nothing is owed. -/
theorem AllUp.owed (hup : AllUp app log)
    (hpressed : ∀ i, app.held i = true → ∃ session, Stroke.stillDown log session i = true) :
    Owed app log where
  single j session i hj hdown := by rw [hup j session i hj] at hdown; cases hdown
  recorded j session i hj hdown := by rw [hup j session i hj] at hdown; cases hdown
  pressed := hpressed
  quiet _ := hup

/-- A live session with something down is the active slot's. -/
theorem Kept.down_active (h : Kept app log) {j : SlotIndex} {session : Session} {i : HeldInput}
    (hj : app.rdp j = some session) (hdown : Stroke.stillDown log session i = true) :
    j = app.activeIndex :=
  h.handles.distinct j _ session hj (h.wired session (h.owed.single j session i hj hdown))

theorem Kept.stopSlot (h : Kept app log) (index : SlotIndex) : Kept (app.stopSlot index) log where
  handles := h.handles.stopSlot index
  wired := h.wired.stopSlot index
  idle hoff := by
    have hbefore := h.idle hoff
    unfold InputApp.ready InputApp.stopSlot at *
    dsimp only
    split
    · rfl
    · exact hbefore
  owed :=
    { single := fun j session i hj hdown => by
        obtain ⟨hne, hold⟩ := stopSlot_rdp hj
        have hactive := h.down_active hold hdown
        have hinput : (app.stopSlot index).input = app.input :=
          if_neg (fun hindex => hne (hactive.trans hindex.symm))
        rw [hinput]
        exact h.owed.single j session i hold hdown
      recorded := fun j session i hj hdown => by
        rw [stopSlot_held]
        exact h.owed.recorded j session i (stopSlot_rdp hj).2 hdown
      pressed := fun i hheld => h.owed.pressed i (by rwa [stopSlot_held] at hheld)
      quiet := fun hoff => (h.owed.quiet hoff).stopSlot index }

theorem slotConnect_screen (index : SlotIndex) (started : Bool) :
    (app.slotConnect index started).streamingVisible = app.streamingVisible ∧
      (app.slotConnect index started).entered = app.entered := by
  unfold InputApp.slotConnect
  dsimp only
  split <;> exact ⟨rfl, rfl⟩

theorem Kept.slotConnect (h : Kept app log) (index : SlotIndex) (started : Bool) :
    Kept (app.slotConnect index started) log where
  handles := h.handles.slotConnect index started
  wired := h.wired.slotConnect index started
  idle hoff := by
    rw [(slotConnect_screen index started).1, (slotConnect_screen index started).2] at hoff
    by_cases hactive : index = app.activeIndex
    · rw [hactive]
      exact ready_of_inactive wired_slotConnect_active.2
    · unfold InputApp.ready
      rw [slotConnect_other hactive]
      exact h.idle hoff
  owed :=
    { single := fun j session i hj hdown => by
        rcases slotConnect_rdp hj with ⟨-, rfl, -⟩ | ⟨hne, hold⟩
        · rw [h.handles.fresh i] at hdown
          cases hdown
        · have hactive := h.down_active hold hdown
          rw [slotConnect_other fun hindex => hne (hactive.trans hindex.symm)]
          exact h.owed.single j session i hold hdown
      recorded := fun j session i hj hdown => by
        rw [slotConnect_held]
        rcases slotConnect_rdp hj with ⟨-, rfl, -⟩ | ⟨-, hold⟩
        · rw [h.handles.fresh i] at hdown
          cases hdown
        · exact h.owed.recorded j session i hold hdown
      pressed := fun i hheld => h.owed.pressed i (by rwa [slotConnect_held] at hheld)
      quiet := fun hoff => by
        rw [(slotConnect_screen index started).1, (slotConnect_screen index started).2] at hoff
        exact (h.owed.quiet hoff).slotConnect h.handles index started }

/-- Nothing is recorded, and every live session's input is up. -/
structure Cleared (app : InputApp) (log : List InputStroke) : Prop where
  handles : Handles app log
  up : AllUp app log
  held : ∀ i, app.held i = false

/-- The slots and the record are all that matters to it. -/
theorem Cleared.congr {app' : InputApp} (h : Cleared app log) (hrdp : app'.rdp = app.rdp)
    (hnext : app'.nextSession = app.nextSession) (hheld : ∀ i, app'.held i = app.held i) :
    Cleared app' log where
  handles :=
    { distinct := by rw [hrdp]; exact h.handles.distinct
      given := by rw [hrdp, hnext]; exact h.handles.given
      logged := by rw [hnext]; exact h.handles.logged }
  up := by unfold AllUp; rw [hrdp]; exact h.up
  held i := (hheld i).trans (h.held i)

theorem Cleared.stopSlot (h : Cleared app log) (index : SlotIndex) :
    Cleared (app.stopSlot index) log :=
  ⟨h.handles.stopSlot index, h.up.stopSlot index, fun i => (stopSlot_held i).trans (h.held i)⟩

theorem Cleared.slotConnect (h : Cleared app log) (index : SlotIndex) (started : Bool) :
    Cleared (app.slotConnect index started) log :=
  ⟨h.handles.slotConnect index started, h.up.slotConnect h.handles index started,
    fun i => (slotConnect_held i).trans (h.held i)⟩

theorem Cleared.backgroundSlot (h : Cleared app log) (index : SlotIndex)
    (background : Option Bool) : Cleared (app.backgroundSlot index background) log :=
  ⟨h.handles.backgroundSlot index background, h.up.backgroundSlot h.handles index background,
    fun i => (backgroundSlot_held background i).trans (h.held i)⟩

theorem Cleared.owed (h : Cleared app log) : Owed app log :=
  h.up.owed fun i hheld => by
    rw [h.held i] at hheld
    cases hheld

theorem Cleared.kept (h : Cleared app log) (hwired : Wired app) (hready : app.ready = none) :
    Kept app log :=
  ⟨h.handles, hwired, fun _ => hready, h.owed⟩

theorem flush_down : ∀ s ∈ app.flushHeldInputs.2, s.down = false := by
  intro s hs
  obtain ⟨i, -, hs⟩ := List.mem_flatMap.mp hs
  obtain ⟨session, -, rfl⟩ := List.mem_map.mp hs
  rfl

theorem mem_flush {session : Session} {i : HeldInput} (hready : app.ready = some session)
    (hheld : app.held i = true) :
    ⟨session, i, false⟩ ∈ app.flushHeldInputs.2 := by
  refine List.mem_flatMap.mpr ⟨i, List.mem_filter.mpr ⟨mem_allInputs i, hheld⟩, ?_⟩
  simp [InputApp.send, hready]

/-- A flush that reaches what is down leaves nothing down. -/
theorem Kept.flush (h : Kept app log) (hreach : FlushReaches (app, log)) :
    Cleared app.flushHeldInputs.1 (log ++ app.flushHeldInputs.2) where
  handles :=
    { distinct := h.handles.distinct
      given := h.handles.given
      logged := fun session i hdown =>
        h.handles.logged session i (Stroke.stillDown_released flush_down hdown).1 }
  up j session i hj := by
    cases hdown : Stroke.stillDown (log ++ app.flushHeldInputs.2) session i with
    | false => rfl
    | true =>
      obtain ⟨hbefore, hnone⟩ := Stroke.stillDown_released flush_down hdown
      have hsession := h.owed.single j session i hj hbefore
      rcases hreach with hready | hup
      · obtain ⟨reached, hreached⟩ := Option.isSome_iff_exists.mp hready
        have hsame : reached = session :=
          Option.some.inj ((ready_session hreached).symm.trans hsession)
        rw [hsame] at hreached
        exact absurd ⟨rfl, rfl⟩ (hnone _ (mem_flush hreached (h.owed.recorded j session i hj hbefore)))
      · have hattached := List.all_eq_true.mp hup i (mem_allInputs i)
        simp only [InputApp.downAttached, hsession, Option.any_some, hbefore, Bool.not_true] at hattached
        cases hattached
  held i := by cases i <;> rfl

theorem Kept.stopStreamingInput (h : Kept app log) (hreach : FlushReaches (app, log)) :
    Cleared app.stopStreamingInput.1 (log ++ app.stopStreamingInput.2) :=
  (h.flush hreach).congr rfl rfl fun i => by cases i <;> rfl

/-- One edge sent to the attached session, with the record following it. -/
theorem Kept.strike {app' : InputApp} {session : Session} {i : HeldInput} {down : Bool}
    (h : Kept app log) (hready : app.ready = some session) (hrdp : app'.rdp = app.rdp)
    (hactive : app'.activeIndex = app.activeIndex)
    (hvisible : app'.streamingVisible = app.streamingVisible) (hentered : app'.entered = app.entered)
    (hinput : app'.input = app.input) (hnext : app'.nextSession = app.nextSession)
    (hheld : ∀ k, app'.held k = if k = i then down else app.held k) :
    Kept app' (log ++ [⟨session, i, down⟩]) := by
  have hattached := ready_session hready
  have hlive := h.wired session hattached
  have hon : ¬(¬app.streamingVisible ∨ app.entered) := by
    intro hoff
    rw [h.idle hoff] at hready
    cases hready
  refine ⟨?_, ?_, ?_, ?_⟩
  · refine ⟨by rw [hrdp]; exact h.handles.distinct, by rw [hrdp, hnext]; exact h.handles.given, ?_⟩
    intro other k hdown
    rw [Stroke.stillDown_snoc] at hdown
    rw [hnext]
    split at hdown
    · rename_i hsame
      rw [← hsame.1]
      exact h.handles.given _ _ hlive
    · exact h.handles.logged other k hdown
  · intro other hother
    rw [hinput] at hother
    rw [hrdp, hactive]
    exact h.wired other hother
  · intro hoff
    rw [hvisible, hentered] at hoff
    exact absurd hoff hon
  · refine ⟨?_, ?_, ?_, fun hoff => ?_⟩
    · intro j other k hj hdown
      rw [hrdp] at hj
      rw [hinput]
      rw [Stroke.stillDown_snoc] at hdown
      split at hdown
      · rename_i hsame
        rw [← hsame.1]
        exact hattached
      · exact h.owed.single j other k hj hdown
    · intro j other k hj hdown
      rw [hrdp] at hj
      rw [Stroke.stillDown_snoc] at hdown
      rw [hheld]
      split at hdown
      · rename_i hsame
        rw [if_pos hsame.2.symm]
        exact hdown
      · rename_i hnot
        by_cases hk : k = i
        · -- A live session with the item down is the attached one.
          have hsession := h.owed.single j other k hj hdown
          rw [hattached] at hsession
          exact absurd ⟨Option.some.inj hsession, hk.symm⟩ hnot
        · rw [if_neg hk]
          exact h.owed.recorded j other k hj hdown
    · intro k hk
      rw [hheld] at hk
      split at hk
      · rename_i hsame
        exact ⟨session, by rw [Stroke.stillDown_snoc, if_pos ⟨rfl, hsame.symm⟩]; exact hk⟩
      · rename_i hne
        obtain ⟨other, hdown⟩ := h.owed.pressed k hk
        exact ⟨other, by rw [Stroke.stillDown_snoc, if_neg fun hsame => hne hsame.2.symm]; exact hdown⟩
    · rw [hvisible, hentered] at hoff
      exact absurd hoff hon

theorem send_ready {session : Session} (hready : app.ready = some session) (i : HeldInput)
    (down : Bool) : app.send i down = [⟨session, i, down⟩] := by
  simp [InputApp.send, hready]

theorem send_not_ready (hready : app.ready = none) (i : HeldInput) (down : Bool) :
    app.send i down = [] := by
  simp [InputApp.send, hready]

theorem trackButton_held (b : NativeInputButton) (down : Bool) (k : HeldInput) :
    (app.trackButton b down).held k = if k = .button b then down else app.held k := by
  cases k with
  | button c => simp [InputApp.held, InputApp.trackButton]
  | key scancode extended => simp [InputApp.held, InputApp.trackButton]

theorem trackKey_held (scancode : UInt8) (extended down : Bool) (k : HeldInput) :
    (app.trackKey scancode extended down).held k
      = if k = .key scancode extended then down else app.held k := by
  cases k with
  | button c => simp [InputApp.held, InputApp.trackKey]
  | key s e => simp [InputApp.held, InputApp.trackKey]

/-- A button event that is not sent changes nothing that is owed. -/
theorem Kept.unsent (h : Kept app log) {b : NativeInputButton} {down : Bool}
    (hreach : if down then app.heldMouse b = true
      else app.downAttached log (.button b) = false) :
    Kept (app.trackButton b down) log := by
  refine ⟨⟨h.handles.distinct, h.handles.given, h.handles.logged⟩, h.wired, h.idle, ?_⟩
  refine ⟨h.owed.single, ?_, ?_, h.owed.quiet⟩
  · intro j session i hj hdown
    have hrecorded := h.owed.recorded j session i hj hdown
    rw [trackButton_held]
    split
    · rename_i hi
      subst hi
      cases down with
      | true => rfl
      | false =>
        have hsession := h.owed.single j session _ hj hdown
        simp [InputApp.downAttached, hsession, hdown] at hreach
    · exact hrecorded
  · intro i hheld
    rw [trackButton_held] at hheld
    split at hheld
    · rename_i hi
      subst hi
      subst hheld
      exact h.owed.pressed _ hreach
    · exact h.owed.pressed i hheld

theorem Kept.pointerButton (h : Kept app log) {b : NativeInputButton} {down : Bool}
    (hreach : Reaches (app, log) (.button b down)) :
    Kept (app.pointerButton b down).1 (log ++ (app.pointerButton b down).2) := by
  unfold InputApp.pointerButton
  dsimp only
  cases hready : app.ready with
  | some session =>
    rw [send_ready hready]
    exact h.strike hready rfl rfl rfl rfl rfl rfl (trackButton_held b down)
  | none =>
    rw [send_not_ready hready, List.append_nil]
    cases down with
    | true => exact h.unsent (hreach.resolve_left (by simp [hready]))
    | false => exact h.unsent (hreach.resolve_left (by simp [hready]))

theorem Kept.key (h : Kept app log) (scancode : UInt8) (extended down : Bool) :
    Kept (app.key scancode extended down).1 (log ++ (app.key scancode extended down).2) := by
  unfold InputApp.key
  dsimp only
  cases hready : app.ready with
  | some session =>
    rw [send_ready hready]
    exact h.strike hready rfl rfl rfl rfl rfl rfl (trackKey_held scancode extended down)
  | none =>
    rw [send_not_ready hready, List.append_nil]
    exact h

theorem Kept.tick (h : Kept app log) (wanted enters : Bool) :
    Kept (app.streamingTransitionTick wanted enters) log := by
  have hquiet : app.streamingVisible = false → AllUp app log := fun hoff =>
    h.owed.quiet (.inl (by simp [hoff]))
  unfold InputApp.streamingTransitionTick
  dsimp only
  split
  · rename_i henters
    have hoff : app.streamingVisible = false := by
      cases hvisible : app.streamingVisible with
      | false => rfl
      | true => simp [hvisible] at henters
    refine ⟨⟨h.handles.distinct, h.handles.given, h.handles.logged⟩, h.wired, fun _ => ?_,
      h.owed.single, h.owed.recorded, h.owed.pressed, fun _ => hquiet hoff⟩
    exact ready_of_inactive (by simp [InputApp.setActive, hoff])
  · refine ⟨⟨h.handles.distinct, h.handles.given, h.handles.logged⟩, h.wired, fun hidle => ?_,
      h.owed.single, h.owed.recorded, h.owed.pressed, fun hidle => hquiet ?_⟩
    · have hoff : app.streamingVisible = false := by simpa [InputApp.setActive] using hidle
      exact ready_of_inactive (by simp [InputApp.setActive, hoff])
    · simpa [InputApp.setActive] using hidle

theorem Wired.congr {app' : InputApp} (h : Wired app) (hrdp : app'.rdp = app.rdp)
    (hactive : app'.activeIndex = app.activeIndex)
    (hsession : app'.input.session = app.input.session) : Wired app' := by
  unfold Wired
  rw [hrdp, hactive, hsession]
  exact h

theorem Cleared.hideStreaming (h : Cleared app log) : Cleared app.hideStreaming log :=
  h.congr rfl rfl fun i => by cases i <;> rfl

theorem Cleared.select (h : Cleared app log) (index : SlotIndex) :
    Cleared (app.select index) log :=
  h.congr rfl rfl fun i => by cases i <;> rfl

theorem Kept.showHub (h : Kept app log) (hreach : FlushReaches (app, log)) :
    Kept app.showHub.1 (log ++ app.showHub.2) :=
  (h.stopStreamingInput hreach).hideStreaming.kept h.wired (ready_of_inactive rfl)

theorem Kept.failActiveSlot (h : Kept app log) (hreach : FlushReaches (app, log)) :
    Kept app.failActiveSlot.1 (log ++ app.failActiveSlot.2) := by
  have hcleared := ((h.stopStreamingInput hreach).stopSlot app.activeIndex).hideStreaming
  have hinput : app.failActiveSlot.1.input = { active := false, session := none } := if_pos rfl
  refine hcleared.kept (fun session hsession => ?_) (ready_of_inactive ?_)
  · have hnone := congrArg NativeInput.session hinput
    rw [show app.failActiveSlot.1.input.session = some session from hsession] at hnone
    cases hnone
  · exact congrArg NativeInput.active hinput

theorem wired_retarget (target : SlotIndex) : Wired (app.retarget target) := fun _ h => h

theorem Cleared.retarget (h : Cleared app log) (target : SlotIndex) :
    Cleared (app.retarget target) log :=
  h.congr rfl rfl fun i => by cases i <;> rfl

theorem slotConnect_inactive {index : SlotIndex} {started : Bool}
    (hinactive : app.input.active = false) :
    (app.slotConnect index started).input.active = false := by
  by_cases hactive : index = app.activeIndex
  · rw [hactive]
    exact wired_slotConnect_active.2
  · rw [slotConnect_other hactive]
    exact hinactive

theorem backgroundSlot_inactive {index : SlotIndex} (hinactive : app.input.active = false)
    (background : Option Bool) :
    (app.backgroundSlot index background).input.active = false := by
  unfold InputApp.backgroundSlot
  split
  · exact slotConnect_inactive hinactive
  · exact hinactive

theorem Kept.completeSessionSwitch (h : Kept app log) {target : SlotIndex}
    {background fresh : Option Bool}
    (hreach : Reaches (app, log) (.completeSessionSwitch target background fresh)) :
    Kept (app.completeSessionSwitch target background fresh).1
      (log ++ (app.completeSessionSwitch target background fresh).2) := by
  unfold InputApp.completeSessionSwitch
  split
  · rw [List.append_nil]
    exact h
  · rename_i hother
    have hcleared := ((h.flush (hreach.resolve_left hother)).retarget target).backgroundSlot
      app.activeIndex background
    have hwired : Wired ((app.flushHeldInputs.1.retarget target).backgroundSlot app.activeIndex
        background) := (wired_retarget target).backgroundSlot _ _
    have hinactive : ((app.flushHeldInputs.1.retarget target).backgroundSlot app.activeIndex
        background).input.active = false := backgroundSlot_inactive rfl background
    cases fresh with
    | none => exact hcleared.kept hwired (ready_of_inactive hinactive)
    | some started =>
      exact (hcleared.slotConnect target started).kept (hwired.slotConnect target started)
        (ready_of_inactive (slotConnect_inactive hinactive))

theorem Kept.showSlotConfigurator (h : Kept app log) {target : SlotIndex}
    {background : Option Bool} (hnone : app.rdp target = none)
    (hreach : Reaches (app, log) (.showSlotConfigurator target background)) :
    Kept (app.showSlotConfigurator target background).1
      (log ++ (app.showSlotConfigurator target background).2) := by
  unfold InputApp.showSlotConfigurator
  split
  · rename_i hsame
    -- The active slot has no session, so none is attached and none has anything down.
    have hdetached : app.input.session = none := by
      cases hsession : app.input.session with
      | none => rfl
      | some session =>
        have hlive := h.wired session hsession
        rw [hsame, hnone] at hlive
        cases hlive
    have hready : app.ready = none := by simp [InputApp.ready, hdetached]
    have hup : AllUp app log := fun j session i hj => by
      cases hdown : Stroke.stillDown log session i with
      | false => rfl
      | true =>
        have hsingle := h.owed.single j session i hj hdown
        rw [hdetached] at hsingle
        cases hsingle
    rw [List.append_nil]
    exact ⟨⟨h.handles.distinct, h.handles.given, h.handles.logged⟩, h.wired, fun _ => hready,
      AllUp.owed hup h.owed.pressed⟩
  · rename_i hother
    have hselected := (h.stopStreamingInput (hreach.resolve_left hother)).select target
    have hcleared := (hselected.backgroundSlot app.activeIndex background).retarget target
    exact hcleared.hideStreaming.kept (wired_retarget target) (ready_of_inactive rfl)

theorem Handles.select (h : Handles app log) (index : SlotIndex) : Handles (app.select index) log :=
  ⟨h.distinct, h.given, h.logged⟩

theorem backgroundSlot_activeIndex (index : SlotIndex) (background : Option Bool) :
    (app.backgroundSlot index background).activeIndex = app.activeIndex := by
  unfold InputApp.backgroundSlot
  split
  · exact slotConnect_activeIndex
  · rfl

/-- The HUB's connects come while nothing is down, and attach the new session. -/
theorem Kept.hubConnect (h : Kept app log) (hoff : ¬app.streamingVisible ∨ app.entered)
    (requested : SlotIndex) (background : Option Bool) (started : Bool) :
    Kept (app.hubConnect requested background started) log := by
  have hup := h.owed.quiet hoff
  have hhandles := (h.handles.stopSlot requested).select requested
  have hheld (i : HeldInput) : ((app.stopSlot requested).select requested).held i = app.held i := by
    cases i <;> rfl
  obtain ⟨demoted, hdemoted, hactive, hup', hhandles', hheld'⟩ : ∃ demoted,
      app.hubConnect requested background started = demoted.slotConnect requested started ∧
      demoted.activeIndex = requested ∧ AllUp demoted log ∧ Handles demoted log ∧
      ∀ i, demoted.held i = app.held i := by
    have hselected : AllUp ((app.stopSlot requested).select requested) log :=
      hup.stopSlot requested
    by_cases hsame : app.activeIndex = requested
    · exact ⟨(app.stopSlot requested).select requested,
        by rw [InputApp.hubConnect, if_pos hsame], rfl, hselected, hhandles, hheld⟩
    · exact ⟨((app.stopSlot requested).select requested).backgroundSlot app.activeIndex background,
        by rw [InputApp.hubConnect, if_neg hsame], backgroundSlot_activeIndex _ _,
        hselected.backgroundSlot hhandles _ _, hhandles.backgroundSlot _ _,
        fun i => (backgroundSlot_held _ i).trans (hheld i)⟩
  rw [hdemoted, ← hactive]
  refine ⟨hhandles'.slotConnect _ _, wired_slotConnect_active.1,
    fun _ => ready_of_inactive wired_slotConnect_active.2,
    (hup'.slotConnect hhandles' _ _).owed fun i hi => ?_⟩
  rw [slotConnect_held, hheld'] at hi
  exact h.owed.pressed i hi

/-- What one routine keeps. -/
theorem Kept.next (h : Kept app log) {action : InputAction} {app' : InputApp}
    {sent : List InputStroke} (hreach : Reaches (app, log) action)
    (hstep : app.step action = some (app', sent)) : Kept app' (log ++ sent) := by
  cases action with
  | button b down =>
    obtain ⟨rfl, rfl⟩ := Prod.mk.inj (Option.some.inj hstep)
    exact h.pointerButton hreach
  | key scancode extended down =>
    obtain ⟨rfl, rfl⟩ := Prod.mk.inj (Option.some.inj hstep)
    exact h.key scancode extended down
  | pointer =>
    obtain ⟨rfl, rfl⟩ := Prod.mk.inj (Option.some.inj hstep)
    rw [List.append_nil]
    exact h
  | evdevReset =>
    obtain ⟨rfl, rfl⟩ := Prod.mk.inj (Option.some.inj hstep)
    exact ⟨(h.flush hreach).handles, h.wired, h.idle, (h.flush hreach).owed⟩
  | stopStreamingInput =>
    obtain ⟨rfl, rfl⟩ := Prod.mk.inj (Option.some.inj hstep)
    exact (h.stopStreamingInput hreach).kept h.wired (ready_of_inactive rfl)
  | showHub =>
    obtain ⟨-, hresult⟩ := Option.ite_some_none_eq_some.mp hstep
    obtain ⟨rfl, rfl⟩ := Prod.mk.inj hresult
    exact h.showHub hreach
  | showSlotConfigurator target background =>
    obtain ⟨hnone, hresult⟩ := Option.ite_some_none_eq_some.mp hstep
    obtain ⟨rfl, rfl⟩ := Prod.mk.inj hresult
    exact h.showSlotConfigurator hnone hreach
  | completeSessionSwitch target background fresh =>
    unfold InputApp.step at hstep
    dsimp only at hstep
    split at hstep
    · cases hstep
    · obtain ⟨rfl, rfl⟩ := Prod.mk.inj (Option.some.inj hstep)
      exact h.completeSessionSwitch hreach
  | streamingTransitionTick wanted enters =>
    obtain ⟨rfl, rfl⟩ := Prod.mk.inj (Option.some.inj hstep)
    rw [List.append_nil]
    exact h.tick wanted enters
  | stopSlot index =>
    obtain ⟨rfl, rfl⟩ := Prod.mk.inj (Option.some.inj hstep)
    rw [List.append_nil]
    exact h.stopSlot index
  | slotConnect index started =>
    obtain ⟨rfl, rfl⟩ := Prod.mk.inj (Option.some.inj hstep)
    rw [List.append_nil]
    exact h.slotConnect index started
  | failActiveSlot =>
    obtain ⟨rfl, rfl⟩ := Prod.mk.inj (Option.some.inj hstep)
    exact h.failActiveSlot hreach
  | hubConnect requested background started =>
    obtain ⟨hoff, hresult⟩ := Option.ite_some_none_eq_some.mp hstep
    obtain ⟨rfl, rfl⟩ := Prod.mk.inj hresult
    rw [List.append_nil]
    exact h.hubConnect hoff requested background started

end Steps

variable {rec : List (InputAction × List InputStroke)} {app : InputApp} {log : List InputStroke}

theorem streamingInput_step {s t : InputApp × List InputStroke} {action : InputAction}
    {sent : List InputStroke} :
    streamingInput.step s action = some (t, sent) ↔
      s.1.step action = some (t.1, sent) ∧ t.2 = s.2 ++ sent := by
  rw [streamingInput, Machine.withGhost_step]

theorem kept_new : Kept InputApp.new [] where
  handles := ⟨fun _ _ _ h => (by cases h), fun _ _ h => (by cases h), fun _ _ h => (by cases h)⟩
  wired _ h := by cases h
  idle _ := rfl
  owed := AllUp.owed (fun _ _ _ h => (by cases h)) fun i h => by cases i <;> cases h

theorem kept_run (hrun : reachingInput.Run rec (app, log)) : Kept app log := by
  refine hrun.invariant (I := fun s => Kept s.1 s.2) kept_new ?_
  intro s action t sent hi hstep
  obtain ⟨hreach, hinput⟩ := Machine.restrict_step.mp hstep
  obtain ⟨hnext, hlog⟩ := streamingInput_step.mp hinput
  rw [hlog]
  exact hi.next hreach hnext

/-- **Held input.** In a run that meets the condition: what a living session was sent a
press of is released to it behind that or still recorded, and what is recorded was
sent to a session as a press and not released. -/
theorem held_input_release (hrun : reachingInput.Run rec (app, log)) :
    (∀ j session i pre post, app.rdp j = some session → log = pre ++ ⟨session, i, true⟩ :: post →
      ⟨session, i, false⟩ ∈ post ∨ app.held i = true) ∧
    ∀ i, app.held i = true → ∃ session pre post,
      log = pre ++ ⟨session, i, true⟩ :: post ∧ ⟨session, i, false⟩ ∉ post := by
  have hkept := kept_run hrun
  refine ⟨?_, fun i hheld => ?_⟩
  · intro j session i pre post hj hlog
    by_cases hpost : ⟨session, i, false⟩ ∈ post
    · exact .inl hpost
    · exact .inr (hkept.owed.recorded j session i hj
        (Stroke.stillDown_iff.mpr ⟨pre, post, hlog, hpost⟩))
  · obtain ⟨session, hdown⟩ := hkept.owed.pressed i hheld
    obtain ⟨pre, post, hlog, hpost⟩ := Stroke.stillDown_iff.mp hdown
    exact ⟨session, pre, post, hlog, hpost⟩

/-- Two sessions, and a switch between them with a button and a key down. -/
def switched : List InputAction :=
  [.slotConnect .red true, .slotConnect .green true, .streamingTransitionTick true true,
    .streamingTransitionTick true false, .button .left true, .key 30 false true,
    .completeSessionSwitch .red none none, .streamingTransitionTick true false,
    .button .right true]

theorem switched_accepted :
    (reachingInput.exec reachingInput.init switched).isSome := by
  decide +kernel

theorem held_input_release_switched : ∃ rec app log, reachingInput.Run rec (app, log) ∧
    app.rdp .red = some 0 ∧ app.held (.button .left) = false ∧
    ∃ session pre post, log = pre ++ ⟨session, .button .right, true⟩ :: post ∧
      ⟨session, .button .right, false⟩ ∉ post := by
  have hrun := Machine.run_of_exec switched switched_accepted
  exact ⟨_, _, _, hrun, by decide +kernel, by decide +kernel,
    (held_input_release hrun).2 (.button .right) (by decide +kernel)⟩

/-- A button goes down, the focus is lost before the loss is reported, and the report
makes the client flush. -/
def unfocused : List InputAction :=
  [.slotConnect .green true, .streamingTransitionTick true true, .streamingTransitionTick true false,
    .button .left true, .streamingTransitionTick false false, .stopStreamingInput]

theorem unfocused_accepted : (streamingInput.exec streamingInput.init unfocused).isSome := by
  decide +kernel

/-- The button goes down in the turn behind the one that enters streaming. -/
def early : List InputAction :=
  [.slotConnect .green true, .streamingTransitionTick true true, .button .left true]

theorem early_accepted : (streamingInput.exec streamingInput.init early).isSome := by
  decide +kernel

/-- The first session still has the button down, and the client forgot it. The second
was sent nothing, and the button is recorded. -/
theorem release_forgotten :
    (∃ rec app log, streamingInput.Run rec (app, log) ∧ app.rdp .green = some 0 ∧
      log = [⟨0, .button .left, true⟩] ∧ app.held (.button .left) = false) ∧
    ∃ rec app log, streamingInput.Run rec (app, log) ∧ log = [] ∧
      app.held (.button .left) = true :=
  ⟨⟨_, _, _, Machine.run_of_exec unfocused unfocused_accepted, by decide +kernel, by decide +kernel,
      by decide +kernel⟩,
    ⟨_, _, _, Machine.run_of_exec early early_accepted, by decide +kernel, by decide +kernel⟩⟩

end Lgnome.Input
