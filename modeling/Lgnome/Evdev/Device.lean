import Lgnome.Bytes.Fixed
import Lgnome.Input.EventQueue

/-!
# What a device says

What a node of `/dev/input` can tell decides whether it is a mouse, a keyboard or both, and
which of its events go into the queue, as what.
-/
namespace Lgnome.Evdev

open Lgnome.Input (NativeEvent NativeMouseEv)

/-- An `input_event`, with its `evdev_event_time`. -/
structure RawEvent where
  timeUs : UInt64
  type : UInt16
  code : UInt16
  value : Int32
  deriving DecidableEq, Repr

def evKey : UInt16 := 0x01
def evRel : UInt16 := 0x02

def relX : UInt16 := 0x00
def relY : UInt16 := 0x01
def relHwheel : UInt16 := 0x06
def relWheel : UInt16 := 0x08

def keyEnter : UInt16 := 28
def keyA : UInt16 := 30
def keyZ : UInt16 := 44
def keySpace : UInt16 := 57
def keyKpenter : UInt16 := 96
def keyOk : UInt16 := 0x160
def keyRed : UInt16 := 0x18e
def keyChanneldown : UInt16 := 0x193

def btnMouse : UInt16 := 0x110
def btnLeft : UInt16 := 0x110
def btnRight : UInt16 := 0x111
def btnMiddle : UInt16 := 0x112
def btnSide : UInt16 := 0x113
def btnExtra : UInt16 := 0x114
def btnForward : UInt16 := 0x115
def btnBack : UInt16 := 0x116
def btnTask : UInt16 := 0x117

/-! ## Capabilities -/

section Capabilities

-- what `libevdev_has_event_code` answers
variable (has : UInt16 → UInt16 → Bool)

/-- `evdev_is_mouse`. -/
def evdevIsMouse : Bool := has evKey btnMouse && has evRel relX && has evRel relY

/-- `evdev_is_keyboard`: a remote with the keys of a keyboard and the buttons of a mouse is none. -/
def evdevIsKeyboard : Bool :=
  (has evKey keyA && has evKey keyZ && has evKey keySpace) &&
    (!(has evKey btnLeft || has evKey btnMouse) || evdevIsMouse has)

end Capabilities

/-- The names of the remote's nodes hold one of these. -/
def remoteNames : List (List Char) := ["RCU".toList, "LGE Network".toList]

def isRemoteName (name : Option (List Char)) : Bool :=
  match name with
  | none => false
  | some name => remoteNames.any fun part => name.tails.any fun rest => part.isPrefixOf rest

/-- `NativeEvdevDevice`. The open file and the node behind its descriptor are kept for the
observer. -/
structure Device where
  fd : Nat
  isMouse : Bool
  isKeyboard : Bool
  isRemote : Bool
  path : Bytes
  file : Nat
  node : Nat
  deriving DecidableEq, Repr

/-! ## Events -/

/-- `evdev_mouse_button`. -/
def evdevMouseButton (code : UInt16) : UInt8 :=
  if code = btnLeft then 1
  else if code = btnRight then 3
  else if code = btnMiddle then 2
  else if code = btnSide then 4
  else if code = btnExtra then 5
  else if code = btnForward then 6
  else if code = btnBack then 7
  else if code = btnTask then 8
  else 0

/-- The part of `evdev_dispatch_mouse` that reads the event. -/
def mouseEvent (raw : RawEvent) : Option NativeMouseEv :=
  if raw.type = evRel then
    if raw.code = relX then some { kind := .motion, dx := raw.value }
    else if raw.code = relY then some { kind := .motion, dy := raw.value }
    else if raw.code = relHwheel then some { kind := .wheel, wheelX := raw.value }
    else if raw.code = relWheel then some { kind := .wheel, wheelY := raw.value }
    else none
  else if raw.type = evKey then
    if raw.code < btnLeft ∨ btnTask < raw.code then none
    else if evdevMouseButton raw.code = 0 then none
    else some { kind := .button, sdlButton := evdevMouseButton raw.code, down := raw.value ≠ 0 }
  else none

/-- `evdev_dispatch_mouse`. -/
def evdevDispatchMouse (raw : RawEvent) : Option NativeEvent :=
  (mouseEvent raw).map fun ev => ⟨raw.timeUs, .mouse, .mouse ev⟩

/-- `evdev_dispatch_keyboard`. -/
def evdevDispatchKeyboard (device : Device) (raw : RawEvent) : Option NativeEvent :=
  if raw.type ≠ evKey then none
  else some ⟨raw.timeUs, .keyboard, .keyboard ⟨raw.code, raw.value ≠ 0, device.isRemote⟩⟩

/-- `evdev_dispatch`: what is pushed for an event of a device. -/
def evdevDispatch (device : Device) (raw : RawEvent) : Option NativeEvent :=
  if raw.type = evRel then if device.isMouse then evdevDispatchMouse raw else none
  else if raw.type = evKey then
    if btnLeft ≤ raw.code ∧ raw.code ≤ btnTask then
      if device.isMouse then evdevDispatchMouse raw else none
    else if (keyRed ≤ raw.code ∧ raw.code ≤ keyChanneldown) ∨ (device.isRemote ∧
        (raw.code = keyEnter ∨ raw.code = keyKpenter ∨ raw.code = keyOk)) then
      evdevDispatchKeyboard device raw
    else if device.isKeyboard then evdevDispatchKeyboard device raw
    else none
  else none

variable {device : Device} {raw : RawEvent} {event : NativeEvent}

theorem evdevDispatchMouse_some (h : evdevDispatchMouse raw = some event) :
    event.timeUs = raw.timeUs ∧ event.kind = .mouse := by
  obtain ⟨ev, -, rfl⟩ := Option.map_eq_some_iff.mp h
  exact ⟨rfl, rfl⟩

theorem evdevDispatchKeyboard_some (h : evdevDispatchKeyboard device raw = some event) :
    event.timeUs = raw.timeUs ∧ event.kind = .keyboard := by
  by_cases htype : raw.type = evKey
  · obtain rfl : _ = event := Option.some.inj ((if_neg (not_not.mpr htype)).symm.trans h)
    exact ⟨rfl, rfl⟩
  · cases (if_pos htype).symm.trans h

/-- An event keeps its time, and a consumer of one of the two kinds takes it. -/
theorem evdevDispatch_some (h : evdevDispatch device raw = some event) :
    event.timeUs = raw.timeUs ∧ (event.kind = .mouse ∨ event.kind = .keyboard) := by
  have hmouse : evdevDispatchMouse raw = some event →
      event.timeUs = raw.timeUs ∧ (event.kind = .mouse ∨ event.kind = .keyboard) :=
    fun h => ⟨(evdevDispatchMouse_some h).1, .inl (evdevDispatchMouse_some h).2⟩
  have hkeyboard : evdevDispatchKeyboard device raw = some event →
      event.timeUs = raw.timeUs ∧ (event.kind = .mouse ∨ event.kind = .keyboard) :=
    fun h => ⟨(evdevDispatchKeyboard_some h).1, .inr (evdevDispatchKeyboard_some h).2⟩
  simp only [evdevDispatch] at h
  split at h
  · split at h
    · exact hmouse h
    · cases h
  split at h
  · split at h
    · split at h
      · exact hmouse h
      · cases h
    split at h
    · exact hkeyboard h
    split at h
    · exact hkeyboard h
    · cases h
  · cases h

end Lgnome.Evdev
