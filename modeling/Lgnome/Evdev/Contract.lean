import Lgnome.Evdev.Reader

/-!
# What the reader, the kernel and the SDL thread promise each other

The kernel only adds to open files, with times that do not go back. While its thread runs, the
devices are the reader's, and the SDL thread touches the queue only between two sweeps. While
there is no thread, they are the SDL thread's.
-/
namespace Lgnome.Evdev

open Lgnome.Input (NativeEvent NativeEventQueue QueueOp QueueSeen QueueRecord eventQueue
  Disciplined)
open Lgnome.Transition (Prog Contract Machine)

/-! ## The invariant -/

/-- The events that were pushed, whatever became of them. -/
def pushes (calls : QueueRecord) : List NativeEvent :=
  calls.filterMap fun x => match x.1 with
    | .push event => some event
    | _ => none

namespace State

variable (s : State) (file : Nat)

/-- What waits in a file, event by event. -/
def waiting : List RawEvent := (s.buffered file ++ s.kernel file).flatMap Item.raws

/-- What was read from a file. -/
def handedOf : List RawEvent := (s.handed.filter fun x => x.1.file = file).map Prod.snd

end State

/-- The events of a file wait in the order of their times, none is older than what is published,
and together with those read they are what the kernel put there. -/
structure Timely (s : State) (file : Nat) : Prop where
  sorted : (s.waiting file).Pairwise fun a b => a.timeUs ≤ b.timeUs
  since : ∀ raw ∈ s.waiting file, s.queue.publishedBeforeUs ≤ raw.timeUs
  past : ∀ raw ∈ s.waiting file, raw.timeUs ≤ s.clock
  complete : s.handedOf file ++ s.waiting file = s.emitted file

/-- A file that was not opened yet. -/
structure Unopened (s : State) (file : Nat) : Prop where
  buffered : s.buffered file = []
  kernel : s.kernel file = []
  emitted : s.emitted file = []
  handed : ∀ x ∈ s.handed, x.1.file ≠ file

/-- The kernel knows a file under a descriptor or a node exactly for the devices of a list. -/
def Holds (files : Nat → Option Nat) (key : Device → Nat) (devices : List Device) : Prop :=
  ∀ k file, files k = some file ↔ ∃ d ∈ devices, key d = k ∧ d.file = file

/-- Exactly the devices of the table are open and grabbed, each as a file of its own. -/
structure Table (files grabs : Nat → Option Nat) (opened : Nat) (devices : List Device) : Prop where
  files : Holds files Device.fd devices
  grabs : Holds grabs Device.node devices
  distinct : (devices.map Device.file).Nodup
  known : ∀ d ∈ devices, d.file < opened

/-- Nothing was pushed or fetched that is still to be read. -/
def Empty (s : State) : Prop := s.queue.count = 0 ∧ ∀ d ∈ s.devices, s.buffered d.file = []

structure Sound (s : State) : Prop where
  queue : (eventQueue.restrict Disciplined).Run s.calls s.queue
  pushed : pushes s.calls = s.handed.filterMap fun x => evdevDispatch x.1 x.2
  watermark : s.queue.publishedBeforeUs ≤ s.clock
  room : s.devices.length ≤ maxDevices
  table : Table s.files s.grabs s.opened s.devices
  fresh : ∀ file, s.opened ≤ file → Unopened s file
  timely : ∀ d ∈ s.devices, Timely s d.file
  mouse : s.mouseActive = s.devices.any Device.isMouse
  keyboard : s.keyboardActive = s.devices.any Device.isKeyboard
  parked : s.waits ≠ none → s.thread = .running
  begun : s.thread = .spawned → Empty s
  idle : s.waits = some false → Empty s

/-- The reader is at work. -/
structure Awake (s : State) : Prop where
  thread : s.thread = .running
  waits : s.waits = none

/-! ## What each party may do -/

/-- Time passes, and what arrives bears a time from then on. -/
structure Arrivals (s t : State) : Prop where
  clock : s.clock ≤ t.clock
  arrived : ∀ file, ∃ more, t.kernel file = s.kernel file ++ more ∧
    ∀ raw ∈ more.flatMap Item.raws, s.clock ≤ raw.timeUs

/-- What the others leave to a reader that runs. -/
structure Left (s t : State) : Prop extends Arrivals s t where
  thread : t.thread = s.thread
  devices : t.devices = s.devices
  buffered : t.buffered = s.buffered
  watermark : t.queue.publishedBeforeUs = s.queue.publishedBeforeUs
  locked : t.locked = s.locked
  waits : t.waits = s.waits
  emptied : s.queue.count = 0 → t.queue.count = 0
  queue : s.locked = true → t.queue = s.queue

/-- What the others leave to the SDL thread. -/
structure Beside (s t : State) : Prop where
  started : t.started = s.started
  alive : s.thread ≠ .none → t.thread ≠ .none
  resting : s.thread = .none ∨ s.thread = .ended →
    t.thread = s.thread ∧ t.devices = s.devices ∧ t.queue = s.queue ∧ t.buffered = s.buffered

/-- What the kernel leaves to both. -/
structure Delivered (s t : State) : Prop extends Arrivals s t where
  rest : t = { s with clock := t.clock, kernel := t.kernel, emitted := t.emitted }

section Moves

variable {s t u : State}

theorem Arrivals.refl (s : State) : Arrivals s s :=
  ⟨UInt64.le_refl _, fun _ => ⟨[], (List.append_nil _).symm, fun _ h => nomatch h⟩⟩

theorem Arrivals.trans (h : Arrivals s t) (h' : Arrivals t u) : Arrivals s u where
  clock := UInt64.le_trans h.clock h'.clock
  arrived file := by
    obtain ⟨more, hmore, hsince⟩ := h.arrived file
    obtain ⟨more', hmore', hsince'⟩ := h'.arrived file
    refine ⟨more ++ more', ?_, ?_⟩
    · rw [hmore', hmore, List.append_assoc]
    · intro raw hraw
      rw [List.flatMap_append] at hraw
      rcases List.mem_append.mp hraw with hraw | hraw
      · exact hsince raw hraw
      · exact UInt64.le_trans h.clock (hsince' raw hraw)

theorem Left.refl (s : State) : Left s s :=
  ⟨.refl s, rfl, rfl, rfl, rfl, rfl, rfl, id, fun _ => rfl⟩

theorem Left.trans (h : Left s t) (h' : Left t u) : Left s u where
  toArrivals := h.toArrivals.trans h'.toArrivals
  thread := h'.thread.trans h.thread
  devices := h'.devices.trans h.devices
  buffered := h'.buffered.trans h.buffered
  watermark := h'.watermark.trans h.watermark
  locked := h'.locked.trans h.locked
  waits := h'.waits.trans h.waits
  emptied := h'.emptied ∘ h.emptied
  queue hs := (h'.queue (h.locked.trans hs)).trans (h.queue hs)

theorem Beside.refl (s : State) : Beside s s := ⟨rfl, id, fun _ => ⟨rfl, rfl, rfl, rfl⟩⟩

theorem Beside.trans (h : Beside s t) (h' : Beside t u) : Beside s u where
  started := h'.started.trans h.started
  alive := h'.alive ∘ h.alive
  resting hs := by
    obtain ⟨hthread, hdevices, hqueue, hbuffered⟩ := h.resting hs
    obtain ⟨hthread', hdevices', hqueue', hbuffered'⟩ := h'.resting (by rw [hthread]; exact hs)
    exact ⟨hthread'.trans hthread, hdevices'.trans hdevices, hqueue'.trans hqueue,
      hbuffered'.trans hbuffered⟩

theorem Delivered.refl (s : State) : Delivered s s := ⟨.refl s, rfl⟩

theorem Delivered.left (h : Delivered s t) : Left s t := by
  obtain ⟨harrivals, hrest⟩ := h
  refine ⟨harrivals, ?_, ?_, ?_, ?_, ?_, ?_, ?_, ?_⟩
  all_goals rw [hrest]
  · exact id
  · exact fun _ => rfl

theorem Delivered.beside (h : Delivered s t) : Beside s t := by
  rw [h.rest]
  exact ⟨rfl, id, fun _ => ⟨rfl, rfl, rfl, rfl⟩⟩

/-- A running reader leaves the SDL thread alone. -/
theorem Beside.of_running (hs : s.thread = .running) (ht : t.thread = .running ∨ t.thread = .ended)
    (hstarted : t.started = s.started) : Beside s t where
  started := hstarted
  alive _ := by rcases ht with ht | ht <;> rw [ht] <;> exact nofun
  resting h := by rw [hs] at h; exact absurd h (by decide)

end Moves

def contract : Contract Party State where
  inv := Sound
  rely
    | .reader, s, t => s.thread = .running → Left s t
    | .kernel, _, _ => True
    | .sdl, s, t => Beside s t
  guar
    | .reader, s, t => Beside s t
    | .kernel, s, t => Delivered s t
    | .sdl, s, t => s.thread = .running → Left s t
  rest
    | .sdl, s => (s.started = false → s.thread = .none ∧ s.devices = []) ∧
      (s.started = true → s.thread ≠ .none)
    | _, _ => True
  rely_refl p s := by
    cases p with
    | reader => exact fun _ => .refl s
    | kernel => trivial
    | sdl => exact .refl s
  guar_refl p s := by
    cases p with
    | reader => exact .refl s
    | kernel => exact .refl s
    | sdl => exact fun _ => .refl s
  rely_trans p s t u h h' := by
    cases p with
    | reader => exact fun hs => (h hs).trans (h' ((h hs).thread.trans hs))
    | kernel => trivial
    | sdl => exact Beside.trans h h'
  guar_rely p q s t hne h := by
    cases q with
    | kernel => trivial
    | reader =>
      cases p with
      | reader => exact absurd rfl hne
      | kernel => exact fun _ => Delivered.left h
      | sdl => exact h
    | sdl =>
      cases p with
      | reader => exact h
      | kernel => exact Delivered.beside h
      | sdl => exact absurd rfl hne
  rest_stable p s t hrely h := by
    cases p with
    | reader => trivial
    | kernel => trivial
    | sdl =>
      have hbeside : Beside s t := hrely
      refine ⟨fun hstarted => ?_, fun hstarted => ?_⟩
      · obtain ⟨hthread, hdevices⟩ := h.1 (hbeside.started.symm.trans hstarted)
        obtain ⟨hthread', hdevices', -⟩ := hbeside.resting (.inl hthread)
        exact ⟨hthread'.trans hthread, hdevices'.trans hdevices⟩
      · exact hbeside.alive (h.2 (hbeside.started.symm.trans hstarted))

end Lgnome.Evdev
