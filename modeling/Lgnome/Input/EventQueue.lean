import Mathlib.Data.Fin.Basic
import Mathlib.Data.Nat.ModEq
import Lgnome.Transition.Machine
import Lgnome.Transition.Stable

/-!
# The evdev event queue

All evdev devices push into one bounded ring, which insertion keeps in kernel
time order across its wrap point. Only events older than the published watermark
are visible. An overflow drops the whole content, and nothing is accepted before
the consumer has taken the pending reset.
-/
namespace Lgnome.Input

open Lgnome.Transition

inductive NativeMouseEvKind
  | motion
  | button
  | wheel
  deriving DecidableEq, Repr

structure NativeMouseEv where
  kind : NativeMouseEvKind
  dx : Int32 := 0
  dy : Int32 := 0
  sdlButton : UInt8 := 0
  down : Bool := false
  wheelX : Int32 := 0
  wheelY : Int32 := 0
  deriving DecidableEq, Repr

structure NativeKeyboardEv where
  code : UInt16
  down : Bool
  fromRemote : Bool
  deriving DecidableEq, Repr

inductive NativeEventKind
  | none
  | mouse
  | keyboard
  | reset
  deriving DecidableEq, Repr

/-- The union of the two payloads. -/
inductive NativeEventData
  | mouse (event : NativeMouseEv)
  | keyboard (event : NativeKeyboardEv)
  deriving DecidableEq, Repr

structure NativeEvent where
  timeUs : UInt64
  kind : NativeEventKind
  data : NativeEventData
  deriving DecidableEq, Repr

namespace NativeEventQueue

def capacity : Nat := 1024

end NativeEventQueue

open NativeEventQueue in
structure NativeEventQueue where
  events : Vector NativeEvent capacity
  head : Nat
  count : Nat
  resetPending : Bool
  publicationBounded : Bool
  publishedBeforeUs : UInt64
  head_lt : head < capacity
  count_le : count ≤ capacity

namespace NativeEventQueue

theorem slot_lt (position : Nat) : position % capacity < capacity :=
  Nat.mod_lt _ (by decide)

/-- `events[(head + pos) % NATIVE_EVENT_QUEUE_CAPACITY]`. -/
def cell (events : Vector NativeEvent capacity) (head pos : Nat) : NativeEvent :=
  getElem events ((head + pos) % capacity) (slot_lt _)

def setCell (events : Vector NativeEvent capacity) (head pos : Nat) (event : NativeEvent) :
    Vector NativeEvent capacity :=
  events.set ((head + pos) % capacity) event (slot_lt _)

def publishBefore (queue : NativeEventQueue) (timeUs : UInt64) : NativeEventQueue :=
  { queue with
    publicationBounded := true
    publishedBeforeUs := timeUs }

def reset (queue : NativeEventQueue) : NativeEventQueue :=
  { queue with
    head := 0
    count := 0
    resetPending := true
    head_lt := by decide
    count_le := by decide }

/-- The loop of `native_event_queue_push`: later events move one cell back until
the place of the new one is free. -/
def insertFrom (head : Nat) (event : NativeEvent) :
    Nat → Vector NativeEvent capacity → Vector NativeEvent capacity
  | 0, events => setCell events head 0 event
  | pos + 1, events =>
    let prev := cell events head pos
    if prev.timeUs ≤ event.timeUs then setCell events head (pos + 1) event
    else insertFrom head event pos (setCell events head (pos + 1) prev)

def push (queue : NativeEventQueue) (event : NativeEvent) : NativeEventQueue :=
  if queue.resetPending then queue
  else if h : queue.count = capacity then queue.reset
  else
    { queue with
      events := insertFrom queue.head event queue.count queue.events
      count := queue.count + 1
      count_le := Nat.lt_of_le_of_ne queue.count_le h }

def nextKind (queue : NativeEventQueue) : NativeEventKind :=
  if queue.resetPending then .reset
  else if queue.count = 0 ∨ queue.publicationBounded ∧
      queue.publishedBeforeUs ≤ (cell queue.events queue.head 0).timeUs then .none
  else (cell queue.events queue.head 0).kind

def pop (queue : NativeEventQueue) (kind : NativeEventKind) :
    NativeEventQueue × Option NativeEvent :=
  if kind = .none ∨ kind = .reset ∨ queue.nextKind ≠ kind then (queue, none)
  else
    ({ queue with
        head := (queue.head + 1) % capacity
        count := queue.count - 1
        head_lt := slot_lt _
        count_le := Nat.le_trans (Nat.sub_le _ _) queue.count_le },
      some (cell queue.events queue.head 0))

def takeReset (queue : NativeEventQueue) : NativeEventQueue × Bool :=
  ({ queue with resetPending := false }, queue.resetPending)

/-- The zeroed queue of `native_evdev_input_start`, published before time 0. -/
def start : NativeEventQueue where
  events := Vector.replicate capacity ⟨0, .none, .mouse { kind := .motion }⟩
  head := 0
  count := 0
  resetPending := false
  publicationBounded := true
  publishedBeforeUs := 0
  head_lt := by decide
  count_le := by decide

end NativeEventQueue

/-- The calls on the queue. `reset` is the one of a disconnect or a dead reader. -/
inductive QueueOp
  | push (event : NativeEvent)
  | publishBefore (timeUs : UInt64)
  | pop (kind : NativeEventKind)
  | takeReset
  | reset
  deriving DecidableEq, Repr

/-- What a call came to. -/
inductive QueueSeen
  | accepted (event : NativeEvent)
  | refused
  | overflowed
  | published
  | popped (event : Option NativeEvent)
  | taken (pending : Bool)
  | dropped
  deriving DecidableEq, Repr

namespace NativeEventQueue

def pushSeen (queue : NativeEventQueue) (event : NativeEvent) : QueueSeen :=
  if queue.resetPending then .refused
  else if queue.count = capacity then .overflowed
  else .accepted event

def apply (queue : NativeEventQueue) : QueueOp → NativeEventQueue × QueueSeen
  | .push event => (queue.push event, queue.pushSeen event)
  | .publishBefore timeUs => (queue.publishBefore timeUs, .published)
  | .pop kind => ((queue.pop kind).1, .popped (queue.pop kind).2)
  | .takeReset => (queue.takeReset.1, .taken queue.takeReset.2)
  | .reset => (queue.reset, .dropped)

/-- The events in the ring, oldest first. -/
def window (events : Vector NativeEvent capacity) (head count : Nat) : List NativeEvent :=
  (List.range count).map (cell events head)

def contents (queue : NativeEventQueue) : List NativeEvent :=
  window queue.events queue.head queue.count

end NativeEventQueue

/-- The queue as every call leaves it, whatever the arguments. -/
def eventQueue : Machine NativeEventQueue QueueOp QueueSeen where
  init := .start
  step queue op := some (queue.apply op)

/-- Kernel time, as a number. -/
def NativeEvent.time (event : NativeEvent) : Nat := event.timeUs.toNat

/-- What the ring stands for: a list in time order behind a watermark. -/
structure Backlog where
  contents : List NativeEvent
  resetPending : Bool
  publicationBounded : Bool
  publishedBefore : Nat

namespace Backlog

def visible (backlog : Backlog) (event : NativeEvent) : Prop :=
  backlog.publicationBounded → event.time < backlog.publishedBefore

instance (backlog : Backlog) (event : NativeEvent) : Decidable (backlog.visible event) :=
  inferInstanceAs (Decidable (_ → _))

def discard (backlog : Backlog) : Backlog :=
  { backlog with
    contents := []
    resetPending := true }

def apply (backlog : Backlog) : QueueOp → Backlog × QueueSeen
  | .push event =>
    if backlog.resetPending then (backlog, .refused)
    else if backlog.contents.length = NativeEventQueue.capacity then (backlog.discard, .overflowed)
    else
      ({ backlog with contents := Stable.insert NativeEvent.time event backlog.contents },
        .accepted event)
  | .publishBefore timeUs =>
    ({ backlog with
        publicationBounded := true
        publishedBefore := timeUs.toNat }, .published)
  | .pop kind =>
    match backlog.contents with
    | [] => (backlog, .popped none)
    | event :: rest =>
      if backlog.resetPending = false ∧ backlog.visible event ∧ event.kind = kind ∧
          kind ≠ .none ∧ kind ≠ .reset then
        ({ backlog with contents := rest }, .popped (some event))
      else (backlog, .popped none)
  | .takeReset => ({ backlog with resetPending := false }, .taken backlog.resetPending)
  | .reset => (backlog.discard, .dropped)

end Backlog

namespace NativeEventQueue

def view (queue : NativeEventQueue) : Backlog where
  contents := queue.contents
  resetPending := queue.resetPending
  publicationBounded := queue.publicationBounded
  publishedBefore := queue.publishedBeforeUs.toNat

section Window

variable {events : Vector NativeEvent capacity} {head i j : Nat}

theorem cell_setCell_self (event : NativeEvent) :
    cell (setCell events head i event) head i = event := by
  simp [cell, setCell]

/-- Two offsets below the capacity are two cells, also across the wrap point. -/
theorem cell_setCell_ne (event : NativeEvent) (hi : i < capacity) (hj : j < capacity)
    (hne : i ≠ j) : cell (setCell events head i event) head j = cell events head j := by
  have hslots : (head + i) % capacity ≠ (head + j) % capacity := by
    unfold capacity at hi hj ⊢
    omega
  simp only [cell, setCell]
  exact Vector.getElem_set_ne _ _ hslots

theorem window_succ (count : Nat) :
    window events head (count + 1) = window events head count ++ [cell events head count] := by
  simp [window, List.range_succ]

@[simp] theorem window_length (count : Nat) : (window events head count).length = count := by
  simp [window]

theorem window_congr {events' : Vector NativeEvent capacity} {count : Nat}
    (h : ∀ i < count, cell events' head i = cell events head i) :
    window events' head count = window events head count := by
  unfold window
  refine List.map_congr_left fun i hi => h i (List.mem_range.mp hi)

/-- The window without its first cell starts one cell further on. -/
theorem window_cons (count : Nat) :
    window events head (count + 1)
      = cell events head 0 :: window events ((head + 1) % capacity) count := by
  unfold window
  rw [List.range_succ_eq_map, List.map_cons, List.map_map]
  congr 1
  refine List.map_congr_left fun i _ => ?_
  have hslot : (head + (i + 1)) % capacity = ((head + 1) % capacity + i) % capacity := by
    unfold capacity
    omega
  show cell events head (i + 1) = cell events ((head + 1) % capacity) i
  simp only [cell, hslot]

/-- The loop inserts into the window below it and leaves the cells behind alone. -/
theorem insertFrom_spec (event : NativeEvent) :
    ∀ (pos : Nat) (events : Vector NativeEvent capacity), pos < capacity →
      window (insertFrom head event pos events) head (pos + 1)
          = Stable.insert NativeEvent.time event (window events head pos) ∧
        ∀ i, pos < i → i < capacity →
          cell (insertFrom head event pos events) head i = cell events head i := by
  intro pos
  induction pos with
  | zero =>
    intro events h0
    constructor
    · rw [window_succ]
      simp [insertFrom, cell_setCell_self, window, Stable.insert_nil]
    · intro i hi hcap
      exact cell_setCell_ne event h0 hcap (by omega)
  | succ pos ih =>
    intro events hpos
    have hlow : pos < capacity := by omega
    by_cases hle : (cell events head pos).timeUs ≤ event.timeUs
    · have hloop : insertFrom head event (pos + 1) events = setCell events head (pos + 1) event := by
        simp [insertFrom, hle]
      have hkeys : (cell events head pos).time ≤ event.time := UInt64.le_iff_toNat_le.mp hle
      rw [hloop]
      constructor
      · have hbelow : window (setCell events head (pos + 1) event) head (pos + 1)
            = window events head (pos + 1) :=
          window_congr fun i hi => cell_setCell_ne event hpos (by omega) (by omega)
        rw [window_succ (pos + 1), cell_setCell_self, hbelow, window_succ pos,
          Stable.insert_concat_of_le hkeys]
      · intro i hi hcap
        exact cell_setCell_ne event hpos hcap (by omega)
    · have hlt : event.time < (cell events head pos).time := by
        have h := UInt64.not_le.mp hle
        exact UInt64.lt_iff_toNat_lt.mp h
      generalize hmoved : setCell events head (pos + 1) (cell events head pos) = moved
      have hloop : insertFrom head event (pos + 1) events = insertFrom head event pos moved := by
        simp [insertFrom, hle, hmoved]
      obtain ⟨hwindow, hrest⟩ := ih moved hlow
      have hbelow : window moved head pos = window events head pos := by
        rw [← hmoved]
        exact window_congr fun i hi => cell_setCell_ne _ hpos (by omega) (by omega)
      have hself : cell moved head (pos + 1) = cell events head pos := by
        rw [← hmoved, cell_setCell_self]
      rw [hloop]
      constructor
      · rw [window_succ (pos + 1), hwindow, hrest (pos + 1) (by omega) hpos, hself, hbelow,
          window_succ pos, Stable.insert_concat_of_lt hlt]
      · intro i hi hcap
        rw [hrest i (by omega) hcap, ← hmoved]
        exact cell_setCell_ne _ hpos hcap (by omega)

end Window

variable (queue : NativeEventQueue)

@[simp] theorem contents_length : queue.contents.length = queue.count := window_length _

theorem view_reset : queue.reset.view = queue.view.discard := rfl

theorem push_apply (event : NativeEvent) :
    ((queue.apply (.push event)).1.view, (queue.apply (.push event)).2)
      = queue.view.apply (.push event) := by
  show ((queue.push event).view, queue.pushSeen event) = _
  by_cases hpending : queue.resetPending
  · simp [push, pushSeen, Backlog.apply, view, hpending]
  by_cases hfull : queue.count = capacity
  · have hpush : queue.push event = queue.reset := by simp [push, hpending, hfull]
    rw [hpush, view_reset]
    simp [pushSeen, Backlog.apply, view, hpending, hfull]
  · have hroom : queue.count < capacity := Nat.lt_of_le_of_ne queue.count_le hfull
    have hinsert : window (insertFrom queue.head event queue.count queue.events) queue.head
        (queue.count + 1) = Stable.insert NativeEvent.time event
          (window queue.events queue.head queue.count) :=
      (insertFrom_spec event queue.count queue.events hroom).1
    simp [push, pushSeen, Backlog.apply, view, hpending, hfull, contents, hinsert]

theorem nextKind_eq_iff {kind : NativeEventKind} (hcount : queue.count ≠ 0)
    (hnone : kind ≠ .none) (hreset : kind ≠ .reset) :
    queue.nextKind = kind ↔
      queue.resetPending = false ∧ queue.view.visible (cell queue.events queue.head 0) ∧
        (cell queue.events queue.head 0).kind = kind := by
  have hvisible : queue.view.visible (cell queue.events queue.head 0) ↔
      ¬ (queue.publicationBounded ∧
        queue.publishedBeforeUs ≤ (cell queue.events queue.head 0).timeUs) := by
    show (queue.publicationBounded = true → (cell queue.events queue.head 0).timeUs.toNat
      < queue.publishedBeforeUs.toNat) ↔ _
    rw [← UInt64.lt_iff_toNat_lt, not_and, UInt64.not_le]
  unfold nextKind
  by_cases hpending : queue.resetPending
  · simp [hpending, Ne.symm hreset]
  · rw [hvisible]
    by_cases hold : queue.publicationBounded ∧
        queue.publishedBeforeUs ≤ (cell queue.events queue.head 0).timeUs
    · simp only [hpending, hold, or_true, Bool.false_eq_true, if_false, if_true, and_self,
        not_true_eq_false, false_and, and_false, iff_false]
      exact Ne.symm hnone
    · simp only [hpending, hcount, hold, or_self, Bool.false_eq_true, if_false,
        not_false_eq_true, true_and]

theorem pop_apply (kind : NativeEventKind) :
    ((queue.apply (.pop kind)).1.view, (queue.apply (.pop kind)).2)
      = queue.view.apply (.pop kind) := by
  show ((queue.pop kind).1.view, QueueSeen.popped (queue.pop kind).2) = _
  cases hcount : queue.count with
  | zero =>
    have hempty : queue.contents = [] := by simp [contents, hcount, window]
    by_cases hpending : queue.resetPending
    · cases kind <;> simp [pop, nextKind, Backlog.apply, view, hempty, hpending]
    · cases kind <;> simp [pop, nextKind, Backlog.apply, view, hempty, hpending, hcount]
  | succ count =>
    have hcons : queue.contents = cell queue.events queue.head 0
        :: window queue.events ((queue.head + 1) % capacity) count := by
      rw [contents, hcount, window_cons]
    have hview : queue.view.contents = queue.contents := rfl
    have hsome : queue.count ≠ 0 := by omega
    by_cases hkind : kind = .none ∨ kind = .reset
    · have hpop : queue.pop kind = (queue, none) := by
        rcases hkind with h | h <;> simp [pop, h]
      rw [hpop]
      simp only [Backlog.apply, hview, hcons]
      rcases hkind with h | h <;> simp [h]
    · obtain ⟨hnone, hreset⟩ := not_or.mp hkind
      by_cases hnext : queue.nextKind = kind
      · have hok := (nextKind_eq_iff queue hsome hnone hreset).mp hnext
        have hpop : (queue.pop kind).2 = some (cell queue.events queue.head 0) := by
          simp [pop, hnone, hreset, hnext]
        have hrest : (queue.pop kind).1.view = { queue.view with
            contents := window queue.events ((queue.head + 1) % capacity) count } := by
          simp [pop, hnone, hreset, hnext, view, contents, hcount]
        rw [hpop, hrest]
        simp only [Backlog.apply, hview, hcons]
        rw [if_pos ⟨hok.1, hok.2.1, hok.2.2, hnone, hreset⟩]
      · have hpop : queue.pop kind = (queue, none) := by simp [pop, hnext]
        have hno := mt (nextKind_eq_iff queue hsome hnone hreset).mpr hnext
        rw [hpop]
        simp only [Backlog.apply, hview, hcons]
        rw [if_neg fun h => hno ⟨h.1, h.2.1, h.2.2.1⟩]

/-- The ring and the list in time order answer every call alike. -/
theorem apply_view (op : QueueOp) :
    ((queue.apply op).1.view, (queue.apply op).2) = queue.view.apply op := by
  cases op with
  | push event => exact push_apply queue event
  | publishBefore timeUs => rfl
  | pop kind => exact pop_apply queue kind
  | takeReset => rfl
  | reset => rfl

end NativeEventQueue

end Lgnome.Input
