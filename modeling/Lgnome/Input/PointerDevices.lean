import Lgnome.Input.Held

/-!
# Pointer devices

A button that SDL reports can be down on several devices. The compositor's pointer takes them
together: a button goes down there with the first device and up with the last. What the evdev
reader has grabbed is not on that pointer.
-/
namespace Lgnome.Input

/-- The buttons SDL reports. -/
inductive SdlButton
  | left
  | middle
  | right
  | x1
  | x2
  deriving DecidableEq, Repr

/-- A button mask. -/
abbrev Buttons := SdlButton → Bool

namespace Buttons

def empty : Buttons := fun _ => false

def insert (m : Buttons) (b : SdlButton) : Buttons := fun c => if c = b then true else m c

def erase (m : Buttons) (b : SdlButton) : Buttons := fun c => if c = b then false else m c

/-- `m & ~n`. -/
def diff (m n : Buttons) : Buttons := fun c => m c && !n c

def isEmpty (m : Buttons) : Bool := !(m .left || m .middle || m .right || m .x1 || m .x2)

def subset (m n : Buttons) : Bool := (m.diff n).isEmpty

def inter (m n : Buttons) : Buttons := fun c => m c && n c

@[simp] theorem insert_apply (m : Buttons) (b c : SdlButton) :
    m.insert b c = if c = b then true else m c := rfl

@[simp] theorem erase_apply (m : Buttons) (b c : SdlButton) :
    m.erase b c = if c = b then false else m c := rfl

@[simp] theorem diff_apply (m n : Buttons) (c : SdlButton) : m.diff n c = (m c && !n c) := rfl

@[simp] theorem inter_apply (m n : Buttons) (c : SdlButton) : m.inter n c = (m c && n c) := rfl

theorem isEmpty_iff {m : Buttons} : m.isEmpty = true ↔ ∀ b, m b = false := by
  constructor
  · intro h b
    simp only [isEmpty, Bool.not_eq_true', Bool.or_eq_false_iff] at h
    cases b <;> simp [h]
  · intro h
    simp [isEmpty, h]

theorem not_isEmpty {m : Buttons} (h : m.isEmpty = false) : ∃ b, m b = true := by
  by_contra hno
  push Not at hno
  have hempty : m.isEmpty = true := isEmpty_iff.2 fun b => Bool.eq_false_iff.2 (hno b)
  rw [h] at hempty
  cases hempty

theorem subset_iff {m n : Buttons} : m.subset n = true ↔ ∀ b, m b = true → n b = true := by
  rw [subset, isEmpty_iff]
  refine forall_congr' fun b => ?_
  rw [diff_apply]
  cases m b <;> cases n b <;> decide

end Buttons

/-- `native_button_from_sdl`. -/
def nativeButtonFromSdl : SdlButton → Option NativeInputButton
  | .left => some .left
  | .right => some .right
  | .middle => some .middle
  | _ => none

def NativeInputButton.sdl : NativeInputButton → SdlButton
  | .left => .left
  | .right => .right
  | .middle => .middle

theorem nativeButtonFromSdl_iff {b : SdlButton} {n : NativeInputButton} :
    nativeButtonFromSdl b = some n ↔ b = n.sdl := by
  cases b <;> cases n <;> decide

/-! ## One device -/

/-- A finger on a button. The press says whether the overlay was up. -/
inductive Finger
  | up
  | down (overOverlay : Bool)
  deriving DecidableEq, Repr

/-- A device with buttons, and the user's hand on it. -/
structure PointerDevice where
  /-- `evdev_is_mouse`. -/
  isMouse : Bool
  /-- Another program holds it, or the reader's table has no place for it. -/
  busy : Bool
  present : Bool
  grabbed : Bool
  hand : SdlButton → Finger

namespace PointerDevice

/-- A device that was just plugged in. -/
def new (isMouse : Bool) : PointerDevice where
  isMouse := isMouse
  busy := false
  present := true
  grabbed := false
  hand _ := .up

def down (d : PointerDevice) : Buttons := fun b => d.hand b ≠ .up

/-- What is down and was pressed while the overlay was up. -/
def pressedOpen (d : PointerDevice) : Buttons := fun b => d.hand b = .down true

def press (d : PointerDevice) (b : SdlButton) (overOverlay : Bool) : PointerDevice :=
  { d with hand := fun c => if c = b then .down overOverlay else d.hand c }

def release (d : PointerDevice) (b : SdlButton) : PointerDevice :=
  { d with hand := fun c => if c = b then .up else d.hand c }

/-- Pulled out, with whatever the hand held on it. -/
def pullOut (d : PointerDevice) : PointerDevice := { d with present := false, hand := fun _ => .up }

/-- `evdev_add_device`, where the reader does not have the device. -/
def grab (d : PointerDevice) : PointerDevice :=
  { d with grabbed := d.grabbed || (d.isMouse && d.present && !d.busy) }

/-- `evdev_close_device`. -/
def ungrab (d : PointerDevice) : PointerDevice := { d with grabbed := false }

variable (d : PointerDevice) (b c : SdlButton) (shown : Bool)

@[simp] theorem press_down : (d.press b shown).down c = if c = b then true else d.down c := by
  by_cases h : c = b <;> simp [press, down, h]

@[simp] theorem release_down : (d.release b).down c = if c = b then false else d.down c := by
  by_cases h : c = b <;> simp [release, down, h]

@[simp] theorem grab_down : d.grab.down = d.down := rfl

@[simp] theorem ungrab_down : d.ungrab.down = d.down := rfl

@[simp] theorem pullOut_down : d.pullOut.down c = false := by
  simp [pullOut, down]

theorem press_pressedOpen :
    (d.press b shown).pressedOpen c = if c = b then shown else d.pressedOpen c := by
  by_cases h : c = b <;> simp [press, pressedOpen, h]

theorem release_pressedOpen (h : d.pressedOpen c = false) :
    (d.release b).pressedOpen c = false := by
  by_cases hc : c = b
  · simp [release, pressedOpen, hc]
  · simpa [release, pressedOpen, hc] using h

theorem pressedOpen_down (h : d.down b = false) : d.pressedOpen b = false := by
  unfold down at h
  unfold pressedOpen
  cases hb : d.hand b with
  | up => rfl
  | down shown => simp [hb] at h

end PointerDevice

/-! ## All devices -/

abbrev PointerDevices := List PointerDevice

namespace PointerDevices

/-- What is physically down. -/
def down (devices : PointerDevices) : Buttons := fun b => devices.any fun d => d.down b

/-- What the compositor's pointer has down. -/
def onPointer (devices : PointerDevices) : Buttons := fun b =>
  devices.any fun d => !d.grabbed && d.down b

def pressedOpen (devices : PointerDevices) : Buttons := fun b =>
  devices.any fun d => d.pressedOpen b

/-- `mouse_active`, by `evdev_update_active_flags`. -/
def grabbed (devices : PointerDevices) : Bool := devices.any fun d => d.grabbed

/-- What the kernel says is down on the grabbed mice. One that `EVIOCGKEY` fails for is skipped. -/
def kernelButtons (devices : PointerDevices) (reads : Nat → Bool) : Buttons := fun b =>
  devices.zipIdx.any fun (d, i) => d.grabbed && reads i && d.down b

variable {devices : PointerDevices} {d d' : PointerDevice} {i : Nat} {b : SdlButton}

theorem down_iff : down devices b = true ↔ ∃ d ∈ devices, d.down b = true := List.any_eq_true

theorem mem_down (hd : d ∈ devices) (h : down devices b = false) : d.down b = false :=
  Bool.eq_false_iff.2 fun hdown => absurd (down_iff.2 ⟨d, hd, hdown⟩) (by simp [h])

/-! ### One device changes -/

section Change

variable {p : PointerDevice → Bool}

theorem any_set (h : (devices.set i d').any p = true) : p d' = true ∨ devices.any p = true := by
  obtain ⟨e, he, hp⟩ := List.any_eq_true.1 h
  rcases List.mem_or_eq_of_mem_set he with hold | rfl
  · exact .inr (List.any_eq_true.2 ⟨e, hold, hp⟩)
  · exact .inl hp

theorem set_any (hi : devices[i]? = some d) (h : p d' = true) :
    (devices.set i d').any p = true := by
  obtain ⟨hlt, -⟩ := List.getElem?_eq_some_iff.1 hi
  exact List.any_eq_true.2 ⟨d', List.mem_set hlt d', h⟩

/-- A device that goes on counting keeps the count of all. -/
theorem set_keeps (hi : devices[i]? = some d) (hkeep : p d = true → p d' = true)
    (h : devices.any p = true) : (devices.set i d').any p = true := by
  obtain ⟨e, he, hp⟩ := List.any_eq_true.1 h
  obtain ⟨j, hj⟩ := List.mem_iff_getElem?.1 he
  by_cases hij : i = j
  · subst hij
    obtain rfl := Option.some.inj (hi.symm.trans hj)
    exact set_any hi (hkeep hp)
  · have hget : (devices.set i d')[j]? = some e := by
      rw [List.getElem?_set_ne hij, hj]
    exact List.any_eq_true.2 ⟨e, List.mem_of_getElem? hget, hp⟩

theorem set_same (hi : devices[i]? = some d) (hsame : p d' = p d) :
    (devices.set i d').any p = devices.any p := by
  refine Bool.eq_iff_iff.2 ⟨fun h => ?_, set_keeps hi (by rw [hsame]; exact id)⟩
  rcases any_set h with hp | hall
  · rw [hsame] at hp
    exact List.any_eq_true.2 ⟨d, List.mem_of_getElem? hi, hp⟩
  · exact hall

theorem grabbed_set (hi : devices[i]? = some d) (hsame : d'.grabbed = d.grabbed) :
    grabbed (devices.set i d') = grabbed devices := set_same hi hsame

end Change

theorem map_down {f : PointerDevice → PointerDevice} (hf : ∀ d, (f d).down = d.down) :
    down (devices.map f) = down devices := by
  funext b
  simp [down, List.any_map, Function.comp_def, hf]

/-- Without the reader everything is on the pointer. -/
theorem onPointer_down (h : grabbed devices = false) : onPointer devices = down devices := by
  funext b
  refine Bool.eq_iff_iff.2 ?_
  rw [onPointer, down, List.any_eq_true, List.any_eq_true]
  refine exists_congr fun d => and_congr_right fun hd => ?_
  rw [List.any_eq_false.1 h d hd |> Bool.eq_false_iff.2]
  rfl

theorem ungrab_grabbed : grabbed (devices.map PointerDevice.ungrab) = false := by
  simp [grabbed, PointerDevice.ungrab]

theorem kernelButtons_down {reads : Nat → Bool} (h : kernelButtons devices reads b = true) :
    down devices b = true := by
  obtain ⟨⟨d, j⟩, hd, hdown⟩ := List.any_eq_true.1 h
  simp only [Bool.and_eq_true] at hdown
  exact down_iff.2 ⟨d, List.fst_mem_of_mem_zipIdx hd, hdown.2⟩

end PointerDevices

end Lgnome.Input
