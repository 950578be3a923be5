import Lgnome.Transition.Machine
import Mathlib.Data.UInt
import Mathlib.Logic.Function.Basic

/-!
# Server-driven pointers

Every slot has a cursor that its worker submits to and the SDL thread applies; all of
them share the one pointer of the platform. A submission is a lock section and then a
bump of the generation. An operation of the SDL thread is cut where it takes or leaves
the lock, so that submissions can come in between.
-/
namespace Lgnome.Cursor

open Lgnome.Transition

/-- `NATIVE_CURSOR_HIDDEN` and the like. -/
inductive CursorState
  | hidden
  | default
  | shape
  deriving DecidableEq, Repr

/-- A server bitmap with its hotspot. -/
structure CursorBitmap where
  width : UInt16
  height : UInt16
  hotspotX : UInt16
  hotspotY : UInt16
  rgba : List UInt8
  deriving DecidableEq, Repr

/-- The sizes that a shape is scaled between. -/
structure Geometry where
  desktopW : UInt16
  desktopH : UInt16
  windowW : UInt16
  windowH : UInt16
  deriving DecidableEq, Repr

/-- What an SDL color cursor is made of. -/
structure CursorImage where
  width : UInt16
  height : UInt16
  hotX : UInt16
  hotY : UInt16
  pixels : List UInt8
  deriving DecidableEq, Repr

/-- The platform's pointer: a color cursor or the system default, shown or not. -/
structure Platform where
  image : Option CursorImage
  visible : Bool
  deriving DecidableEq, Repr

/-- The check at the start of `native_cursor_submit_bitmap`. -/
def validBitmap (b : CursorBitmap) : Bool :=
  b.width ≠ 0 && b.height ≠ 0 && b.width ≤ 384 && b.height ≤ 384 &&
    b.rgba.length = b.width.toNat * b.height.toNat * 4

/-! ## Shapes -/

/-- `cursor_scale_dim`. -/
def cursorScaleDim (value num den min : UInt16) : UInt16 :=
  let scaled := value.toUInt32 * num.toUInt32 / den.toUInt32
  let scaled := if scaled < min.toUInt32 then min.toUInt32 else scaled
  let scaled := if 65535 < scaled then 65535 else scaled
  scaled.toUInt16

/-- `native_cursor_scaled_geometry`: width, height and hotspot. -/
def scaledGeometry (b : CursorBitmap) (g : Geometry) : UInt16 × UInt16 × UInt16 × UInt16 :=
  let mapped := g.desktopW ≠ 0 ∧ g.desktopH ≠ 0 ∧ g.windowW ≠ 0 ∧ g.windowH ≠ 0 ∧
    (g.desktopW ≠ g.windowW ∨ g.desktopH ≠ g.windowH)
  let w := if mapped then cursorScaleDim b.width g.windowW g.desktopW 1 else b.width
  let h := if mapped then cursorScaleDim b.height g.windowH g.desktopH 1 else b.height
  let hx := if mapped then cursorScaleDim b.hotspotX g.windowW g.desktopW 0 else b.hotspotX
  let hy := if mapped then cursorScaleDim b.hotspotY g.windowH g.desktopH 0 else b.hotspotY
  let (w, hx) :=
    if 1024 < w then
      (1024, (b.hotspotX.toUInt32 * 1024 / if b.width ≠ 0 then b.width.toUInt32 else 1).toUInt16)
    else (w, hx)
  let (h, hy) :=
    if 1024 < h then
      (1024, (b.hotspotY.toUInt32 * 1024 / if b.height ≠ 0 then b.height.toUInt32 else 1).toUInt16)
    else (h, hy)
  (w, h, if w ≤ hx then w - 1 else hx, if h ≤ hy then h - 1 else hy)

/-- `native_cursor_scale_rgba`, which resamples in floating point: the pixels, their size and
the size they are to have. -/
abbrev ScaleRgba := List UInt8 → UInt16 → UInt16 → UInt16 → UInt16 → List UInt8

/-- The cursor that `native_cursor_apply_shape` creates. -/
def buildCursor (scaleRgba : ScaleRgba) (b : CursorBitmap) (g : Geometry) : CursorImage :=
  let (w, h, hx, hy) := scaledGeometry b g
  { width := w
    height := h
    hotX := hx
    hotY := hy
    pixels :=
      if w ≠ b.width ∨ h ≠ b.height then scaleRgba b.rgba b.width b.height w h else b.rgba }

/-! ## One cursor -/

/-- What code sees of a counter that is kept here without its 32 bits' limit. -/
def seen (n : Nat) : UInt32 := UInt32.ofNat n

/-- `NativeCursor` with the state of its worker, which may be within a submission, past the
lock section. -/
structure NativeCursor where
  desired : CursorState
  shape : Option CursorBitmap
  shapeSerial : Nat
  generation : Nat
  appliedGeneration : Nat
  cursor : Option CursorImage
  builtSerial : Nat
  applied : Geometry
  running : Bool
  submitting : Bool
  deriving DecidableEq, Repr

/-- `native_cursor_init`. -/
def NativeCursor.initial : NativeCursor where
  desired := .default
  shape := none
  shapeSerial := 0
  generation := 0
  appliedGeneration := 0
  cursor := none
  builtSerial := 0
  applied := ⟨0, 0, 0, 0⟩
  running := false
  submitting := false

inductive WorkerAction
  | submitBitmap (b : CursorBitmap)
  | submitState (state : UInt32)
  | bump
  deriving DecidableEq, Repr

/-- A worker within `native_cursor_submit_bitmap` or `native_cursor_submit_state`. -/
def NativeCursor.worker (c : NativeCursor) : WorkerAction → Option NativeCursor
  | .submitBitmap b =>
    if c.running = true ∧ c.submitting = false then
      if validBitmap b then
        some { c with
          shape := some b
          desired := .shape
          shapeSerial := c.shapeSerial + 1
          submitting := true }
      else some c
    else none
  | .submitState state =>
    if c.running = true ∧ c.submitting = false then
      if state = 0 then some { c with desired := .hidden, submitting := true }
      else if state = 1 then some { c with desired := .default, submitting := true }
      else some c
    else none
  | .bump =>
    if c.submitting then some { c with generation := c.generation + 1, submitting := false }
    else none

/-- What `native_cursor_apply` takes out of its lock section. -/
structure Snapshot where
  desired : CursorState
  shapeSerial : Nat
  rgba : Option CursorBitmap
  deriving DecidableEq, Repr

inductive CursorOp
  | apply (g : Geometry)
  | reassert
  | reset
  deriving DecidableEq, Repr

/-- How far the SDL thread is: before the lock section of an apply, and after the lock
section of each operation. -/
inductive CursorPc
  | apply (generation : Nat) (changed : Bool) (g : Geometry)
  | present (generation : Nat) (changed : Bool) (g : Geometry) (taken : Snapshot)
  | reassert (desired : CursorState)
  | reset
  deriving DecidableEq, Repr

/-- An operation up to its first cut. -/
def NativeCursor.begin (c : NativeCursor) : CursorOp → Option (NativeCursor × Option CursorPc)
  | .apply g =>
    let changed := g ≠ c.applied
    if seen c.generation = seen c.appliedGeneration ∧ ¬ changed then some (c, none)
    else some (c, some (.apply c.generation changed g))
  | .reassert => some (c, some (.reassert c.desired))
  | .reset =>
    -- the worker was joined before
    if c.running then none
    else some ({ c with shape := none, desired := .default }, some .reset)

/-- The lock section of `native_cursor_apply`. -/
def NativeCursor.take (c : NativeCursor) (changed : Bool) : Snapshot where
  desired := c.desired
  shapeSerial := c.shapeSerial
  rgba :=
    if c.desired = .shape ∧
        (seen c.shapeSerial ≠ seen c.builtSerial ∨ changed = true ∨ c.cursor = none) then c.shape
    else none

/-- The rest of `native_cursor_apply`. -/
def NativeCursor.present (scaleRgba : ScaleRgba) (c : NativeCursor) (p : Platform)
    (generation : Nat) (g : Geometry) (taken : Snapshot) : NativeCursor × Platform :=
  let c := { c with appliedGeneration := generation, applied := g }
  match taken.desired with
  | .shape =>
    match taken.rgba with
    | some b =>
      let image := buildCursor scaleRgba b g
      ({ c with cursor := some image, builtSerial := taken.shapeSerial }, ⟨some image, true⟩)
    | none =>
      match c.cursor with
      | some image => (c, ⟨some image, true⟩)
      | none => (c, { p with visible := true })
  | .hidden => (c, { p with visible := false })
  | .default => ({ c with cursor := none }, ⟨none, true⟩)

/-- An operation from one cut to the next, or to its end. -/
def NativeCursor.resume (scaleRgba : ScaleRgba) (c : NativeCursor) (p : Platform) :
    CursorPc → NativeCursor × Platform × Option CursorPc
  | .apply generation changed g => (c, p, some (.present generation changed g (c.take changed)))
  | .present generation _ g taken =>
    let (c, p) := c.present scaleRgba p generation g taken
    (c, p, none)
  | .reassert desired =>
    if desired = .hidden then (c, { p with visible := false }, none)
    else (c, ⟨c.cursor, true⟩, none)
  | .reset =>
    ({ c with appliedGeneration := c.generation, cursor := none }, ⟨none, true⟩, none)

/-! ## All cursors -/

section System

variable {ι : Type} [DecidableEq ι] (scaleRgba : ScaleRgba)

/-- The cursors, the pointer they share, and what the SDL thread is at. -/
structure CursorSystem (ι : Type) where
  slots : ι → NativeCursor
  platform : Platform
  sdl : Option (ι × CursorPc)

/-- Workers submit; the SDL thread starts and joins them, runs the operations, and shows the
default for a screen of its own. -/
inductive CursorAction (ι : Type)
  | worker (s : ι) (a : WorkerAction)
  | start (s : ι)
  | join (s : ι)
  | begin (s : ι) (op : CursorOp)
  | showDefault
  | resume
  deriving DecidableEq, Repr

def CursorSystem.set (st : CursorSystem ι) (s : ι) (c : NativeCursor) : CursorSystem ι :=
  { st with slots := Function.update st.slots s c }

def CursorSystem.step (st : CursorSystem ι) : CursorAction ι → Option (CursorSystem ι)
  | .worker s a => ((st.slots s).worker a).map (st.set s)
  | .start s =>
    if st.sdl = none ∧ (st.slots s).running = false then
      some (st.set s { st.slots s with running := true })
    else none
  | .join s =>
    if st.sdl = none ∧ (st.slots s).running = true ∧ (st.slots s).submitting = false then
      some (st.set s { st.slots s with running := false })
    else none
  | .begin s op =>
    if st.sdl = none then
      ((st.slots s).begin op).map fun (c, pc) => { st.set s c with sdl := pc.map (s, ·) }
    else none
  | .showDefault => if st.sdl = none then some { st with platform := ⟨none, true⟩ } else none
  | .resume =>
    st.sdl.map fun (s, pc) =>
      let (c, p, pc) := (st.slots s).resume scaleRgba st.platform pc
      { st.set s c with platform := p, sdl := pc.map (s, ·) }

/-- The platform starts out with its default pointer. -/
def CursorSystem.initial : CursorSystem ι where
  slots := fun _ => .initial
  platform := ⟨none, true⟩
  sdl := none

/-- All cursors with their workers and the SDL thread. -/
def cursorMachine (ι : Type) [DecidableEq ι] :
    Machine (CursorSystem ι) (CursorAction ι) Unit where
  init := .initial
  step st a := (st.step scaleRgba a).map fun st => (st, ())

end System

end Lgnome.Cursor
