import Lgnome.Bytes.Fixed

/-!
# The software canvas

`video_rgba_sdl.c` without the texture: a buffer of RGBA bytes, zeroed when it is
allocated, into which dirty rectangles are copied row by row. `size_t` is that of
the target, 32 bits wide, and a byte outside the buffer reads as zero.
-/
namespace Lgnome.Native

def sizeMax : Nat := 4294967295

inductive RgbaResult where
  | ok
  | invalid
  | nomem
  deriving DecidableEq, Repr

/-- `NativeRgbaSurface`. -/
structure Surface where
  width : UInt16
  height : UInt16
  pixels : Nat → UInt8
  hasFrame : Bool

/-- A dirty rectangle as the worker brings it. -/
structure BitmapRect where
  left : UInt32
  top : UInt32
  width : UInt32
  height : UInt32
  stride : UInt32
  rgba : Bytes
  deriving DecidableEq, Repr

/-- `native_rgba_size`, as far as it refuses. -/
def rgbaSizeFits (width height : UInt16) : Bool :=
  width ≠ 0 && height ≠ 0 && width.toNat * height.toNat ≤ sizeMax / 4

namespace Surface

def zeroed (width height : UInt16) : Surface :=
  { width, height, pixels := fun _ => 0, hasFrame := false }

/-- `native_rgba_surface_open`. -/
def «open» (width height : UInt16) (allocates : Bool) : Option Surface :=
  if rgbaSizeFits width height && allocates then some (zeroed width height) else none

/-- `native_rgba_surface_resize` of an open surface. -/
def resize (s : Surface) (width height : UInt16) (allocates : Bool) : Surface × RgbaResult :=
  if !rgbaSizeFits width height then (s, .invalid)
  else if s.width = width ∧ s.height = height then (s, .ok)
  else if !allocates then (s, .nomem)
  else (zeroed width height, .ok)

/-- What of `length` bytes or rows from `start` on lies on a surface of the size. -/
def clip (start length size : Nat) : Nat := if size < start + length then size - start else length

/-- Where one row of the rectangle goes, and how much of it. -/
def rowStart (width : UInt16) (u : BitmapRect) (row : Nat) : Nat :=
  ((u.top.toNat + row) * width.toNat + u.left.toNat) * 4

def rowBytes (width : UInt16) (u : BitmapRect) : Nat :=
  clip u.left.toNat u.width.toNat width.toNat * 4

/-- One `memcpy`. -/
def copyRow (width : UInt16) (u : BitmapRect) (pixels : Nat → UInt8) (row : Nat) : Nat → UInt8 :=
  fun n =>
    if rowStart width u row ≤ n ∧ n < rowStart width u row + rowBytes width u then
      u.rgba.getD (row * u.stride.toNat + (n - rowStart width u row)) 0
    else pixels n

/-- What keeps a rectangle off any surface. -/
def rejects (u : BitmapRect) : Bool :=
  u.width = 0 || u.height = 0 || sizeMax / 4 < u.width.toNat || u.stride.toNat < u.width.toNat * 4

/-- The rectangle begins on a surface of the size. -/
def hits (width height : UInt16) (u : BitmapRect) : Bool :=
  u.left.toNat < width.toNat && u.top.toNat < height.toNat

/-- The data is too short for the rectangle, or the rectangle too large for any data. -/
def starves (u : BitmapRect) : Bool :=
  (1 < u.height && (sizeMax - u.width.toNat * 4) / (u.height.toNat - 1) < u.stride.toNat) ||
    u.rgba.length < u.stride.toNat * (u.height.toNat - 1) + u.width.toNat * 4

def rows (height : UInt16) (u : BitmapRect) : List Nat :=
  List.range (clip u.top.toNat u.height.toNat height.toNat)

/-- `native_rgba_surface_apply`. A rectangle off the surface is accepted and ignored. -/
def apply (s : Surface) (u : BitmapRect) : Surface × RgbaResult :=
  if rejects u then (s, .invalid)
  else if !hits s.width s.height u then (s, .ok)
  else if starves u then (s, .invalid)
  else
    ({ s with
        pixels := (rows s.height u).foldl (copyRow s.width u) s.pixels
        hasFrame := true }, .ok)

/-- The bytes of a surface that a rectangle paints over. -/
def paints (width height : UInt16) (u : BitmapRect) (n : Nat) : Bool :=
  !rejects u && hits width height u && !starves u &&
    (rows height u).any fun row =>
      rowStart width u row ≤ n && n < rowStart width u row + rowBytes width u

theorem open_zeroed {width height : UInt16} {allocates : Bool} {c : Surface}
    (h : Surface.open width height allocates = some c) : c = zeroed width height := by
  unfold Surface.open at h
  split at h
  · exact (Option.some.inj h).symm
  · cases h

/-- A change of size leaves nothing of the old pixels. -/
theorem resize_zeroed {s c : Surface} {width height : UInt16} {allocates : Bool}
    (h : s.resize width height allocates = (c, .ok)) (hsize : ¬(s.width = width ∧ s.height = height)) :
    c = zeroed width height := by
  unfold resize at h
  split_ifs at h with hfits hallocates
  · cases h
  · cases h
  · exact (Prod.mk.inj h).1.symm

theorem foldl_copyRow (width : UInt16) (u : BitmapRect) (rows : List Nat) (pixels : Nat → UInt8)
    (n : Nat) (h : ∀ row ∈ rows, ¬(rowStart width u row ≤ n ∧ n < rowStart width u row + rowBytes width u)) :
    rows.foldl (copyRow width u) pixels n = pixels n := by
  induction rows generalizing pixels with
  | nil => rfl
  | cons row rest ih =>
    rw [List.foldl_cons, ih _ fun r hr => h r (List.mem_cons_of_mem _ hr)]
    exact if_neg (h row List.mem_cons_self)

/-- A byte that the rectangle does not paint over stays. -/
theorem apply_unpainted (s : Surface) (u : BitmapRect) {n : Nat}
    (h : paints s.width s.height u n = false) : (s.apply u).1.pixels n = s.pixels n := by
  unfold apply
  split_ifs with hrejects hhits hstarves
  · rfl
  · rfl
  · rfl
  · apply foldl_copyRow
    intro row hrow hin
    have hhits' : hits s.width s.height u = true := by simpa using hhits
    have hpaints : paints s.width s.height u n = true := by
      simp only [paints, hrejects, hhits', hstarves, Bool.not_false, Bool.true_and, List.any_eq_true]
      exact ⟨row, hrow, by simpa using hin⟩
    rw [hpaints] at h
    cases h

theorem apply_size (s : Surface) (u : BitmapRect) :
    (s.apply u).1.width = s.width ∧ (s.apply u).1.height = s.height := by
  unfold apply
  split_ifs <;> exact ⟨rfl, rfl⟩

end Surface

end Lgnome.Native
