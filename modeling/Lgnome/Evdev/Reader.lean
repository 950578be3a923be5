import Lgnome.Transition.Parties
import Lgnome.Input.EventOrder
import Lgnome.Evdev.Device

/-!
# The evdev reader

A thread of its own reads the grabbed devices into the event queue, sweep after sweep, while the
kernel goes on delivering and the SDL thread takes events out. A sweep looks at the clock, reads
every device until it has nothing more or something newer, and publishes what is older. Devices
that fail are removed in a sweep, and new ones are looked for between two sweeps. What the SDL
thread does under the lock is one step; a sweep holds the lock over many.
-/
namespace Lgnome.Evdev

open Lgnome.Input (NativeEvent NativeEventKind NativeEventQueue QueueOp QueueSeen QueueRecord)
open Lgnome.Transition (Prog)

/-- `NATIVE_EVDEV_MAX_DEVICES`. -/
def maxDevices : Nat := 16

/-- `NATIVE_EVDEV_MAX_POLL_FAILURES`. -/
def maxPollFailures : Nat := 100

/-- What waits in an open file: an event, or the word that the kernel had no room, with the events
in which libevdev says what has changed since. -/
inductive Item
  | event (raw : RawEvent)
  | dropped (changes : List RawEvent)
  deriving Repr

def Item.raws : Item → List RawEvent
  | .event raw => [raw]
  | .dropped changes => changes

inductive Thread
  | none
  | spawned
  | running
  | ended
  deriving DecidableEq, Repr

/-- The kernel's side, `NativeEvdevInput` and `NativeEvdevBackend`. Files are told apart by the
order in which they were opened; `kernel` is what waits in the kernel, `buffered` what libevdev
has fetched already. -/
structure State where
  clock : UInt64 := 0
  files : Nat → Option Nat := fun _ => none
  grabs : Nat → Option Nat := fun _ => none
  opened : Nat := 0
  kernel : Nat → List Item := fun _ => []
  buffered : Nat → List Item := fun _ => []
  queue : NativeEventQueue := .start
  locked : Bool := false
  running : Bool := false
  mouseActive : Bool := false
  keyboardActive : Bool := false
  started : Bool := false
  wake : Bool := false
  stop : Bool := false
  thread : Thread := .none
  devices : List Device := []
  inotify : Bool := false
  -- for the observer: whether the reader is in `poll`, and if so with a time limit; the calls on
  -- the queue; what the kernel has put into each file and what was read from the devices
  waits : Option Bool := none
  calls : QueueRecord := []
  emitted : Nat → List RawEvent := fun _ => []
  handed : List (Device × RawEvent) := []

/-- What a node answers to being opened, looked at and grabbed. -/
structure Found where
  path : Bytes
  fd : Option Nat
  clockSet : Bool := true
  recognized : Bool := true
  has : UInt16 → UInt16 → Bool
  name : Option (List Char) := none
  node : Nat
  grabs : Bool := true

inductive Poll
  | interrupted
  | failed
  | ready (hotplug : Bool) (errors : Nat → Bool)

/-- The entry of a node that was grabbed. -/
def Found.device (found : Found) (fd file : Nat) : Device where
  fd
  isMouse := evdevIsMouse found.has
  isKeyboard := evdevIsKeyboard found.has
  isRemote := isRemoteName found.name
  path := found.path.take 63
  file
  node := found.node

structure Answer where
  eventfds : Bool := true
  inotify : Bool := true
  listing : List Found := []
  spawns : Bool := true
  poll : Poll := .ready false fun _ => false
  fetched : Nat := 1
  gone : Bool := false

abbrev Action := Prog Answer State

namespace State

/-- A call on the queue. -/
def call (op : QueueOp) (s : State) : State :=
  { s with queue := (s.queue.apply op).1, calls := s.calls ++ [(op, (s.queue.apply op).2)] }

/-! ## Devices -/

def openFile (fd : Nat) (s : State) : State :=
  { s with files := Function.update s.files fd (some s.opened), opened := s.opened + 1 }

def closeFile (fd : Nat) (s : State) : State :=
  { s with files := Function.update s.files fd none }

/-- `libevdev_grab` with `LIBEVDEV_UNGRAB`. -/
def ungrab (device : Device) (s : State) : State :=
  if s.grabs device.node = some device.file then
    { s with grabs := Function.update s.grabs device.node none }
  else s

/-- `evdev_close_device`. -/
def closeDevice (s : State) (device : Device) : State := (s.ungrab device).closeFile device.fd

/-- `evdev_update_active_flags`. -/
def updateActiveFlags (s : State) : State :=
  { s with
    mouseActive := s.devices.any Device.isMouse
    keyboardActive := s.devices.any Device.isKeyboard }

/-- `evdev_backend_has_path`. -/
def hasPath (s : State) (path : Bytes) : Bool := s.devices.any fun device => device.path == path

/-- The end of `evdev_add_device`. -/
def admitDevice (device : Device) (s : State) : State :=
  { s with
    grabs := Function.update s.grabs device.node (some device.file)
    devices := s.devices ++ [device]
    mouseActive := s.mouseActive || device.isMouse
    keyboardActive := s.keyboardActive || device.isKeyboard }

/-- `evdev_add_device` with the node open. -/
def adopt (found : Found) (fd file : Nat) (s : State) : State :=
  if !found.clockSet then s.closeFile fd
  else if !found.recognized then s.closeFile fd
  else if !evdevIsKeyboard found.has && !evdevIsMouse found.has then s.closeFile fd
  else if !found.grabs || (s.grabs found.node).isSome then s.closeFile fd
  else s.admitDevice (found.device fd file)

/-- `evdev_add_device`. The kernel hands out no descriptor that is in use. -/
def addDevice (found : Found) (s : State) : State :=
  if maxDevices ≤ s.devices.length ∨ s.hasPath found.path then s
  else
    match found.fd.filter fun fd => (s.files fd).isNone with
    | none => s
    | some fd => (s.openFile fd).adopt found fd s.opened

/-- `evdev_remove_device`. -/
def removeDevice (i : Nat) (s : State) : State :=
  match s.devices[i]? with
  | none => s
  | some device =>
    updateActiveFlags
      { (s.call .reset).closeDevice device with devices := s.devices.eraseIdx i }

/-- The devices are given back, `evdev_release_devices`. -/
def releaseDevices (s : State) : State :=
  updateActiveFlags { s.devices.foldl closeDevice s with devices := [] }

/-! ## Reading -/

/-- Libevdev takes what the kernel gives, at least one item if there is any. -/
def fetch (file n : Nat) (s : State) : State :=
  { s with
    buffered := Function.update s.buffered file
      (s.buffered file ++ (s.kernel file).take (max 1 n))
    kernel := Function.update s.kernel file ((s.kernel file).drop (max 1 n)) }

/-- An event of a device that was read is dispatched. -/
def hand (device : Device) (raw : RawEvent) (s : State) : Bool × State :=
  match evdevDispatch device raw with
  | none => (false, { s with handed := s.handed ++ [(device, raw)] })
  | some event => (true, { s.call (.push event) with handed := s.handed ++ [(device, raw)] })

def setBuffered (file : Nat) (items : List Item) (s : State) : State :=
  { s with buffered := Function.update s.buffered file items }

end State

/-- What a call of `libevdev_next_event` came to. -/
inductive Read
  | success (pushed : Bool) (timeUs : UInt64)
  | sync
  | again
  | failed

namespace State

/-- `libevdev_next_event` in the normal mode, and the dispatch of what it gives. -/
def nextEvent (i : Nat) (a : Answer) (s : State) : Read × State :=
  match s.devices[i]? with
  | none => (.failed, s)
  | some device =>
    if a.gone then (.failed, s)
    else
      let s := s.fetch device.file a.fetched
      match s.buffered device.file with
      | [] => (.again, s)
      | .dropped _ :: _ => (.sync, s)
      | .event raw :: rest =>
        let read := (s.setBuffered device.file rest).hand device raw
        (.success read.1 raw.timeUs, read.2)

/-- `libevdev_next_event` in the sync mode, and the dispatch of what it gives. -/
def nextSync (i : Nat) (a : Answer) (s : State) : Read × State :=
  match s.devices[i]? with
  | none => (.failed, s)
  | some device =>
    if a.gone then (.failed, s)
    else
      match s.buffered device.file with
      | .dropped (raw :: changes) :: rest =>
        let read := (s.setBuffered device.file (.dropped changes :: rest)).hand device raw
        (.success read.1 raw.timeUs, read.2)
      | .dropped [] :: rest => (.again, s.setBuffered device.file rest)
      | _ => (.again, s)

end State

/-- `NativeEvdevDrainResult`. -/
structure Drain where
  pushed : Bool := false
  remove : Bool := false
  pending : Bool := false

/-- A round of `evdev_drain_sync`. -/
def syncRound (i : Nat) (r : Drain) : Action (Drain ⊕ Drain) :=
  (Prog.act (State.nextSync i)).bind fun
    | .success pushed _ => pure (.inl { r with pushed := pushed || r.pushed })
    | .failed => pure (.inr { r with remove := true })
    | _ => pure (.inr r)

/-- `evdev_drain_sync`. -/
def evdevDrainSync (i : Nat) (r : Drain) : Action Drain := Prog.iterate (syncRound i) r

/-- A round of `evdev_drain_device`. -/
def drainRound (i : Nat) (before : UInt64) (r : Drain) : Action (Drain ⊕ Drain) :=
  (Prog.act (State.nextEvent i)).bind fun
    | .success pushed timeUs =>
      if before ≤ timeUs then pure (.inr { r with pushed := pushed || r.pushed, pending := true })
      else pure (.inl { r with pushed := pushed || r.pushed })
    | .sync => (evdevDrainSync i r).bind fun r => pure (if r.remove then .inr r else .inl r)
    | .again => pure (.inr r)
    | .failed => pure (.inr { r with remove := true })

/-- `evdev_drain_device`. -/
def evdevDrainDevice (i : Nat) (before : UInt64) : Action Drain :=
  Prog.iterate (drainRound i before) {}

/-! ## Sweeps -/

/-- What a sweep has found so far. -/
structure Swept where
  pushed : Bool := false
  changed : Bool := false
  pending : Bool := false

/-- The devices below an index are read, from the last one down; what fails is removed. -/
def sweepDevices (before : UInt64) (errors : Nat → Bool) : Nat → Swept → Action Swept
  | 0, r => pure r
  | i + 1, r =>
    (evdevDrainDevice i before).bind fun drain =>
      let r := { r with pushed := drain.pushed || r.pushed, pending := drain.pending || r.pending }
      if drain.remove || errors i then
        (Prog.store (State.removeDevice i)).bind fun _ =>
          sweepDevices before errors i { r with changed := true }
      else sweepDevices before errors i r

/-- The watermark is published and the lock given back; whether there is more to be read, or an
event for the SDL thread. -/
def State.publish (before : UInt64) (pending : Bool) (s : State) : (Bool × Bool) × State :=
  let s := s.call (.publishBefore before)
  ((pending || s.queue.count ≠ 0, s.queue.nextKind ≠ .none), { s with locked := false })

/-- `evdev_notify_main`. -/
def evdevNotifyMain : Action Unit := Prog.store fun s => { s with wake := true }

/-- `evdev_for_each_input_node` with `evdev_open_visit`. -/
def visitNodes : List Found → Action Unit
  | [] => pure ()
  | found :: listing =>
    (Prog.act fun _ s => (decide (maxDevices ≤ (s.addDevice found).devices.length),
      s.addDevice found)).bind fun full =>
        if full then pure () else visitNodes listing

/-- `evdev_handle_hotplug`: whether there are more devices now. -/
def evdevHandleHotplug : Action Bool :=
  (Prog.load fun s : State => (s.inotify, s.devices.length)).bind fun (inotify, before) =>
    if inotify then
      (Prog.ask Answer.listing).bind fun listing =>
        (visitNodes listing).bind fun _ => Prog.load fun s => decide (s.devices.length ≠ before)
    else pure false

/-- The end of a sweep, behind the lock. -/
def endSweep (hotplug : Bool) (r : Swept) (ready : Bool) : Action Unit :=
  (if hotplug then evdevHandleHotplug else pure false).bind fun added =>
    if r.pushed || (r.changed || added) || ready then evdevNotifyMain else pure ()

/-- The lock is taken for the devices there are. -/
def State.lockDevices (s : State) : Nat × State := (s.devices.length, { s with locked := true })

/-- A sweep: whether the next `poll` has a time limit. -/
def sweep (hotplug : Bool) (errors : Nat → Bool) : Action Bool :=
  (Prog.load State.clock).bind fun before =>
    (Prog.act fun _ s => s.lockDevices).bind fun n =>
      (sweepDevices before errors n {}).bind fun r =>
        (Prog.act fun _ s => s.publish before r.pending).bind fun (queued, ready) =>
          (endSweep hotplug r ready).bind fun _ => pure queued

/-- Too many failures of `poll`: the compositor gets the devices back. -/
def giveUp : Action Unit :=
  (Prog.store fun s => (s.call .reset).releaseDevices).bind fun _ =>
    evdevNotifyMain.bind fun _ => Prog.store fun s => { s with running := false }

/-- `poll`, which sees the stop event when it returns. -/
def State.poll (a : Answer) (s : State) : (Poll × Bool) × State :=
  ((a.poll, s.stop), { s with waits := none })

/-- A round of `evdev_thread`, with the failures in a row and whether there is more to read. -/
def evdevRound (c : Nat × Bool) : Action (Nat × Bool ⊕ Unit) :=
  (Prog.load State.running).bind fun running =>
    if running then
      (Prog.store fun s => { s with waits := some c.2 }).bind fun _ =>
        (Prog.act State.poll).bind fun
          | (.interrupted, _) => pure (.inl c)
          | (.failed, _) =>
            if maxPollFailures ≤ c.1 + 1 then giveUp.bind fun _ => pure (.inr ())
            else pure (.inl (c.1 + 1, c.2))
          | (.ready hotplug errors, stop) =>
            if stop then (Prog.store fun s => { s with stop := false }).bind fun _ =>
              pure (.inr ())
            else (sweep hotplug errors).bind fun queued => pure (.inl (0, queued))
    else pure (.inr ())

/-- The thread begins if it was spawned. -/
def State.beginThread (s : State) : Bool × State :=
  if s.thread = .spawned then (true, { s with thread := .running }) else (false, s)

/-- `evdev_thread`, on the thread that was spawned for it. -/
def evdevThread : Action Unit :=
  (Prog.act fun _ s => s.beginThread).bind fun spawned =>
    if spawned then
      (Prog.iterate evdevRound (0, false)).bind fun _ =>
        Prog.store fun s => { s with thread := .ended }
    else pure ()

/-! ## The SDL thread -/

/-- What `native_evdev_input_start` begins with. -/
def State.zeroed (s : State) : State :=
  { s with
    queue := .start
    running := false
    mouseActive := false
    keyboardActive := false
    wake := false
    stop := false
    waits := none
    calls := []
    kernel := fun _ => []
    buffered := fun _ => []
    emitted := fun _ => []
    handed := [] }

/-- The end of the thread is waited for. -/
def join : Action Unit :=
  Prog.iterate (fun _ : Unit => Prog.act fun _ s =>
    if s.thread = .ended then (.inr (), { s with thread := .none }) else (.inl (), s)) ()

/-- The rest of `native_evdev_input_stop`. -/
def State.closeBackend (s : State) : State :=
  { s.releaseDevices with inotify := false, wake := false, stop := false, started := false }

/-- `native_evdev_input_stop`. -/
def nativeEvdevInputStop : Action Unit :=
  (Prog.load State.started).bind fun started =>
    (if started then
      (Prog.store fun s => { s with running := false, stop := true }).bind fun _ => join
    else pure ()).bind fun _ => Prog.store State.closeBackend

/-- The end of `native_evdev_input_start`. -/
def startThread : Action Unit :=
  (Prog.ask Answer.spawns).bind fun spawns =>
    if spawns then
      Prog.store fun s => { s with running := true, thread := .spawned, started := true }
    else nativeEvdevInputStop

/-- `evdev_open_backend`, and what follows it. -/
def openBackend : Action Unit :=
  (Prog.act fun a s => (a.listing, { s with inotify := a.inotify })).bind fun listing =>
    (visitNodes listing).bind fun _ =>
      (Prog.load fun s : State => s.devices.isEmpty && !s.inotify).bind fun nothing =>
        if nothing then nativeEvdevInputStop else startThread

/-- `native_evdev_input_start`. -/
def nativeEvdevInputStart : Action Unit :=
  (Prog.load State.started).bind fun started =>
    if started then pure ()
    else
      (Prog.store State.zeroed).bind fun _ =>
        (Prog.ask Answer.eventfds).bind fun ok =>
          if ok then openBackend else nativeEvdevInputStop

/-- What the SDL thread does under the lock. -/
def underLock (f : State → State) : Action Unit :=
  (Prog.load State.started).bind fun started =>
    if started then
      Prog.iterate (fun _ : Unit => Prog.act fun _ s =>
        if s.locked then (.inl (), s) else (.inr (), f s)) ()
    else pure ()

/-- `native_evdev_input_pop_mouse_batch` and `native_evdev_input_pop_keyboard_batch`. -/
def State.popBatch (kind : NativeEventKind) : Nat → State → State
  | 0, s => s
  | cap + 1, s =>
    match (s.queue.apply (.pop kind)).2 with
    | .popped (some _) => (s.call (.pop kind)).popBatch kind cap
    | _ => s.call (.pop kind)

/-! ## The parties -/

inductive Party
  | reader
  | kernel
  | sdl
  deriving DecidableEq, Repr

/-- What the kernel does: time passes, an event arrives at an open file, or there was no room. -/
inductive Delivery
  | time (now : UInt64)
  | event (file : Nat) (type code : UInt16) (value : Int32)
  | dropped (file : Nat) (changes : List (UInt16 × UInt16 × Int32))

inductive SdlCall
  | start
  | stop
  | popBatch (kind : NativeEventKind) (cap : Nat)
  | takeReset
  | clearWake

def Call : Party → Type
  | .reader => Unit
  | .kernel => Delivery
  | .sdl => SdlCall

namespace State

def arrive (file : Nat) (item : Item) (s : State) : State :=
  if file < s.opened then
    { s with
      kernel := Function.update s.kernel file (s.kernel file ++ [item])
      emitted := Function.update s.emitted file (s.emitted file ++ item.raws) }
  else s

/-- Events bear the time at which they arrive. -/
def deliver (s : State) : Delivery → State
  | .time now => if s.clock ≤ now then { s with clock := now } else s
  | .event file type code value => s.arrive file (.event ⟨s.clock, type, code, value⟩)
  | .dropped file changes =>
    s.arrive file (.dropped (changes.map fun (type, code, value) => ⟨s.clock, type, code, value⟩))

end State

def sdlCall : SdlCall → Action Unit
  | .start => nativeEvdevInputStart
  | .stop => nativeEvdevInputStop
  | .popBatch kind cap => underLock (State.popBatch kind cap)
  | .takeReset => underLock (State.call .takeReset)
  | .clearWake => Prog.store fun s => { s with wake := false }

def program : (p : Party) → Call p → Action Unit
  | .reader, _ => evdevThread
  | .kernel, c => Prog.store fun s => s.deliver c
  | .sdl, c => sdlCall c

end Lgnome.Evdev
