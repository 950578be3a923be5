import Lgnome.Native.App
import Mathlib.Logic.Function.Basic

/-!
# The slots, as every model of the application has them

Stopping, connecting and switching sessions comes up wherever a model follows the
application through its slots: on the screen, in the mixer, beside a single connection.
`Board` is what all of them keep, and the operations here are what each of them does to
it, whatever else it does.
-/
namespace Lgnome.Sessions

open Lgnome.Native (SlotIndex RdpState StartResult)

/-- A slot; a session is there or not. -/
structure Seat where
  rdp : Bool
  currentState : RdpState
  terminalState : RdpState
  sessionFailed : Bool
  suppressed : Bool
  refreshIneffective : Bool
  snapshotPending : Bool
  deriving DecidableEq, Repr

structure Board where
  seats : SlotIndex → Seat
  activeIndex : SlotIndex
  running : Bool
  interactiveUi : Bool
  snapshotForce : Bool

/-- How a connect ends, and whether the cache could be armed. -/
structure Reconnected where
  starts : StartResult := .started
  armed : Bool := true
  deriving DecidableEq, Repr

/-- What the surroundings answer during a switch: `shown` and `failed` are about the replay of a
cache, which the decoder may fail at behind what it has shown. -/
structure SwitchAnswers where
  background : Reconnected := {}
  shown : Bool := true
  failed : Bool := false
  starts : StartResult := .started
  deriving DecidableEq, Repr

namespace Seat

def stopped (s : Seat) : Seat :=
  { s with
    rdp := false
    currentState := .idle
    sessionFailed := false
    suppressed := false
    snapshotPending := false }

def isLiveStreamTarget (s : Seat) : Bool :=
  s.rdp && !s.sessionFailed && (s.currentState = .active || s.snapshotPending)

end Seat

namespace Board

variable (b : Board) (i : SlotIndex)

def modify (f : Seat → Seat) : Board :=
  { b with seats := Function.update b.seats i (f (b.seats i)) }

/-- The first report of a connection counts. -/
def report (state : RdpState) : Board :=
  if (b.seats i).terminalState ≠ .idle then b
  else
    let b := b.modify i fun s => { s with terminalState := state }
    if b.activeIndex = i ∧ state.isNativeRuntimeFailure then { b with running := false }
    else if ¬b.activeIndex = i ∨ b.interactiveUi then
      b.modify i fun s => { s with sessionFailed := true }
    else { b with running := false }

def record (state : RdpState) : Board :=
  if (b.seats i).sessionFailed ∨ (b.seats i).terminalState ≠ .idle then b
  else
    let b := b.modify i fun s => { s with currentState := state }
    if state.isTerminalError ∨ state = .disconnected ∨ state = .stopped then b.report i state else b

def stop : Board := b.modify i Seat.stopped

def connect (starts : StartResult) : Bool × Board :=
  let b := (b.stop i).modify i fun s => { s with terminalState := .idle }
  match starts.failure with
  | none => (true, b.modify i fun s => { s with rdp := true })
  | some state => (false, b.record i state)

/-- A connect whose failure goes to the supervisor. -/
def reconnect (starts : StartResult) : Bool × Board :=
  match b.connect i starts with
  | (true, b) => (true, b)
  | (false, b) => (false, b.report i .networkError)

/-- The slot that leaves the screen is silenced, or connected again to be cached. -/
def background (answer : Reconnected) : Board :=
  let s := b.seats i
  if !s.rdp || s.suppressed then b
  else if (s.refreshIneffective || b.snapshotForce) && s.currentState = .active then
    match b.reconnect i answer.starts with
    | (true, b) =>
      if answer.armed then b.modify i fun s => { s with snapshotPending := true }
      else b.modify i fun s => { s with suppressed := true }
    | (false, b) => b
  else b.modify i fun s => { s with suppressed := true }

/-- A slot that was silenced comes to the screen. -/
def resume (shown failed : Bool) (starts : StartResult) : Board :=
  let b := b.modify i fun s => { s with suppressed := false }
  let b := if failed then b.report i .decoderError else b
  if shown || (b.seats i).sessionFailed then b
  else if (b.seats i).refreshIneffective then (b.reconnect i starts).2
  else b

/-- The screen goes to a slot that has a session. -/
def switch (target : SlotIndex) (answers : SwitchAnswers) : Bool × Board :=
  let s := b.seats target
  if !(s.rdp && !s.sessionFailed) then (false, b)
  else if b.activeIndex = target then (true, b)
  else
    let old := b.activeIndex
    let b := b.modify target fun s => { s with snapshotPending := false }
    let b := { b with activeIndex := target }.background old answers.background
    if !s.snapshotPending && (b.seats target).suppressed then
      (true, b.resume target answers.shown answers.failed answers.starts)
    else (true, b)

/-- The last other slot that can take the screen. -/
def survivor : Option SlotIndex :=
  (List.finRange 4).foldl (fun found j =>
    if j ≠ i ∧ (b.seats j).isLiveStreamTarget ∧ (b.seats j).currentState = .active then some j
    else found) none

/-- A slot that has failed is stopped, behind a switch if it is on a screen that is shown. -/
def supervise (shown : Bool) (answers : SwitchAnswers) : Board :=
  if !(b.seats i).sessionFailed then b
  else if b.activeIndex = i ∧ shown then
    match b.survivor i with
    | none => b.stop i
    | some j => (b.switch j answers).2.stop i
  else b.stop i

/-- A tick of the supervisor, slot by slot. -/
inductive Supervised : List SlotIndex → Board → Board → Prop
  | nil {b : Board} : Supervised [] b b
  | cons {i : SlotIndex} {rest : List SlotIndex} {b c : Board} {shown : Bool}
      {answers : SwitchAnswers} : Supervised rest (b.supervise i shown answers) c →
      Supervised (i :: rest) b c

/-! ## What the operations leave -/

variable {b i} {f : Seat → Seat} {state : RdpState}

@[simp] theorem modify_same : (b.modify i f).seats i = f (b.seats i) := Function.update_self ..

@[simp] theorem modify_other {j : SlotIndex} (h : j ≠ i) : (b.modify i f).seats j = b.seats j :=
  Function.update_of_ne h ..

theorem modify_modify (g : Seat → Seat) : (b.modify i f).modify i g = b.modify i (g ∘ f) := by
  simp only [modify, Function.update_self, Function.update_idem, Function.comp]

theorem modify_id (h : f (b.seats i) = b.seats i) : b.modify i f = b := by
  rw [modify, h, Function.update_eq_self]

theorem connect_started {starts : StartResult} (h : starts.failure = none) :
    b.connect i starts =
      (true, b.modify i fun s => { s.stopped with rdp := true, terminalState := .idle }) := by
  simp only [connect, stop, modify_modify, h]
  rfl

theorem connect_failed {starts : StartResult} (h : starts.failure = some state) :
    b.connect i starts =
      (false, (b.modify i fun s => { s.stopped with terminalState := .idle }).record i state) := by
  simp only [connect, stop, modify_modify, h]
  rfl

/-- A second report changes nothing. -/
theorem report_again (hstate : state ≠ .idle) (again : RdpState) :
    (b.report i state).report i again = b.report i state := by
  have hreported : ((b.report i state).seats i).terminalState ≠ .idle := by
    unfold report
    split
    · assumption
    · dsimp only
      split_ifs <;> simpa using hstate
  rw [report, if_pos hreported]

theorem survivor_live {j : SlotIndex} (hj : b.survivor i = some j) :
    j ≠ i ∧ (b.seats j).isLiveStreamTarget := by
  have hfold : ∀ (js : List SlotIndex) (found : Option SlotIndex),
      (∀ k, found = some k → k ≠ i ∧ (b.seats k).isLiveStreamTarget) →
      ∀ k, js.foldl (fun found j =>
        if j ≠ i ∧ (b.seats j).isLiveStreamTarget ∧ (b.seats j).currentState = .active then some j
        else found) found = some k → k ≠ i ∧ (b.seats k).isLiveStreamTarget := by
    intro js
    induction js with
    | nil => exact fun found hfound => hfound
    | cons j rest ih =>
      intro found hfound
      refine ih _ fun k hk => ?_
      dsimp only at hk
      split at hk
      · rename_i hlive
        obtain rfl := Option.some.inj hk
        exact ⟨hlive.1, hlive.2.1⟩
      · exact hfound k hk
  exact hfold _ none nofun j hj

/-- Whatever the switch before it does, a slot that had failed is left without a session, and
another is left alone. -/
theorem supervise_seat (shown : Bool) (answers : SwitchAnswers) :
    if (b.seats i).sessionFailed then
      ∃ s, (b.supervise i shown answers).seats i = Seat.stopped s
    else b.supervise i shown answers = b := by
  have hstop : ∀ c : Board, ∃ s, (c.stop i).seats i = Seat.stopped s :=
    fun c => ⟨c.seats i, modify_same⟩
  cases hfailed : (b.seats i).sessionFailed with
  | false =>
    rw [if_neg nofun, supervise, hfailed]
    rfl
  | true =>
    rw [if_pos rfl, supervise, hfailed]
    rw [if_neg (by decide)]
    split
    · cases b.survivor i with
      | none => exact hstop _
      | some j => exact hstop _
    · exact hstop _

end Board

end Lgnome.Sessions
