import Mathlib.Algebra.Group.Nat.Defs
import Lgnome.Native.Surface

/-!
# Dirty rectangles in machine words

`native_rgba_surface_apply` once more, with every sum and product in the type it
is made in and every `memcpy` within its buffers. `size_t` has 32 bits or more.
Nothing wraps and nothing is out of bounds, so the canvas gets the reference
copy, clipped.
-/
namespace Lgnome.Native

open Surface

variable {w : Nat} {s : Surface} {u : BitmapRect}

/-- A sum or product in a type of so many bits; one that would wrap is `none`. -/
def checked (bits n : Nat) : Option Nat := if n < 2 ^ bits then some n else none

/-- `SIZE_MAX`. -/
def sizeMaxOf (w : Nat) : Nat := 2 ^ w - 1

/-- `native_rgba_size`, as far as it refuses. -/
def sizeFits (w : Nat) (width height : UInt16) : Bool :=
  width ≠ 0 && height ≠ 0 && width.toNat ≤ sizeMaxOf w / height.toNat &&
    width.toNat * height.toNat ≤ sizeMaxOf w / 4

/-- The bytes of a canvas. -/
def pixelsLen (s : Surface) : Nat := s.width.toNat * s.height.toNat * 4

/-- One `memcpy`; one that leaves a buffer is `none`. -/
def memcpyChecked (s : Surface) (u : BitmapRect) (pixels : Nat → UInt8) (dst src n : Nat) :
    Option (Nat → UInt8) :=
  if src + n ≤ u.rgba.length ∧ dst + n ≤ pixelsLen s then
    some fun k => if dst ≤ k ∧ k < dst + n then u.rgba.getD (src + (k - dst)) 0 else pixels k
  else none

/-- The loop's body. -/
def rowChecked (w : Nat) (s : Surface) (u : BitmapRect) (rowBytes : Nat) (pixels : Nat → UInt8)
    (row : Nat) : Option (Nat → UInt8) := do
  let src ← checked w (row * u.stride.toNat)
  let y ← checked w (u.top.toNat + row)
  let line ← checked w (y * s.width.toNat)
  let pixel ← checked w (line + u.left.toNat)
  let dst ← checked w (pixel * 4)
  memcpyChecked s u pixels dst src rowBytes

/-- `native_rgba_surface_apply`. -/
def applyChecked (w : Nat) (s : Surface) (u : BitmapRect) : Option (Surface × RgbaResult) :=
  if u.width = 0 ∨ u.height = 0 ∨ sizeMaxOf w / 4 < u.width.toNat then some (s, .invalid)
  else do
    let rowSize ← checked w (u.width.toNat * 4)
    if u.stride.toNat < rowSize then some (s, .invalid)
    else if s.width.toNat ≤ u.left.toNat ∨ s.height.toNat ≤ u.top.toNat then some (s, .ok)
    else if 1 < u.height ∧ (sizeMaxOf w - rowSize) / (u.height.toNat - 1) < u.stride.toNat then
      some (s, .invalid)
    else
      let body ← checked w (u.stride.toNat * (u.height.toNat - 1))
      let required ← checked w (body + rowSize)
      if u.rgba.length < required then some (s, .invalid)
      else
        let right ← checked 32 (u.left.toNat + u.width.toNat)
        let bottom ← checked 32 (u.top.toNat + u.height.toNat)
        let copyWidth :=
          if s.width.toNat < right then s.width.toNat - u.left.toNat else u.width.toNat
        let copyHeight :=
          if s.height.toNat < bottom then s.height.toNat - u.top.toNat else u.height.toNat
        let rowBytes ← checked w (copyWidth * 4)
        let pixels ← (List.range copyHeight).foldlM (rowChecked w s u rowBytes) s.pixels
        some ({ s with pixels, hasFrame := true }, .ok)

/-! ## Nothing wraps -/

theorem checked_some {bits n : Nat} (h : n < 2 ^ bits) : checked bits n = some n := if_pos h

theorem two_pow_le (hw : 32 ≤ w) : 2 ^ 32 ≤ 2 ^ w := Nat.pow_le_pow_right (by decide) hw

/-- The rectangle lies on the canvas, and its data is there. -/
structure Ready (s : Surface) (u : BitmapRect) : Prop where
  width : 0 < u.width.toNat
  height : 0 < u.height.toNat
  stride : u.width.toNat * 4 ≤ u.stride.toNat
  left : u.left.toNat < s.width.toNat
  top : u.top.toNat < s.height.toNat
  data : u.stride.toNat * (u.height.toNat - 1) + u.width.toNat * 4 ≤ u.rgba.length

theorem clip_le {first n size : Nat} (h : first < size) :
    first + clip first n size ≤ size ∧ clip first n size ≤ n := by
  unfold clip
  split <;> omega

/-- A row that is copied lies on the canvas. -/
theorem row_fits (h : Ready s u) {row : Nat}
    (hrow : row < clip u.top.toNat u.height.toNat s.height.toNat) :
    rowStart s.width u row + rowBytes s.width u ≤ pixelsLen s ∧
      row * u.stride.toNat + rowBytes s.width u ≤ u.rgba.length := by
  obtain ⟨hbottom, hrows⟩ := clip_le (n := u.height.toNat) h.top
  obtain ⟨hright, hcolumns⟩ := clip_le (n := u.width.toNat) h.left
  have hline : (u.top.toNat + row + 1) * s.width.toNat ≤ s.height.toNat * s.width.toNat :=
    Nat.mul_le_mul_right _ (by omega)
  have hsource : row * u.stride.toNat ≤ (u.height.toNat - 1) * u.stride.toNat :=
    Nat.mul_le_mul_right _ (by omega)
  rw [Nat.succ_mul] at hline
  rw [Nat.mul_comm (u.height.toNat - 1)] at hsource
  have hdata := h.data
  unfold rowStart rowBytes pixelsLen
  rw [Nat.mul_comm s.width.toNat]
  constructor
  · rw [← Nat.add_mul]
    exact Nat.mul_le_mul_right 4 (by omega)
  · omega

theorem rowChecked_eq (hw : 32 ≤ w) (hs : pixelsLen s < 2 ^ w) (h : Ready s u)
    (hlen : u.rgba.length < 2 ^ 32) (pixels : Nat → UInt8) {row : Nat}
    (hrow : row < clip u.top.toNat u.height.toNat s.height.toNat) :
    rowChecked w s u (rowBytes s.width u) pixels row = some (copyRow s.width u pixels row) := by
  have hwide := two_pow_le hw
  obtain ⟨hdst, hsrc⟩ := row_fits h hrow
  have hlast : rowStart s.width u row < 2 ^ w := by omega
  have hstart : rowStart s.width u row =
      ((u.top.toNat + row) * s.width.toNat + u.left.toNat) * 4 := rfl
  have hy : u.top.toNat + row ≤ (u.top.toNat + row) * s.width.toNat :=
    Nat.le_mul_of_pos_right _ (by have hleft := h.left; omega)
  unfold rowChecked
  rw [checked_some (show row * u.stride.toNat < 2 ^ w by omega),
    checked_some (show u.top.toNat + row < 2 ^ w by omega)]
  simp only [Option.bind_eq_bind, Option.bind_some]
  rw [checked_some (show (u.top.toNat + row) * s.width.toNat < 2 ^ w by omega)]
  simp only [Option.bind_some]
  rw [checked_some
    (show (u.top.toNat + row) * s.width.toNat + u.left.toNat < 2 ^ w by omega)]
  simp only [Option.bind_some]
  rw [checked_some (show ((u.top.toNat + row) * s.width.toNat + u.left.toNat) * 4 < 2 ^ w by omega)]
  simp only [Option.bind_some]
  rw [← hstart, memcpyChecked, if_pos ⟨hsrc, hdst⟩]
  rfl

/-- All rows one after the other. -/
theorem rowsChecked_eq (hw : 32 ≤ w) (hs : pixelsLen s < 2 ^ w) (h : Ready s u)
    (hlen : u.rgba.length < 2 ^ 32) (rows : List Nat) (pixels : Nat → UInt8)
    (hrows : ∀ row ∈ rows, row < clip u.top.toNat u.height.toNat s.height.toNat) :
    rows.foldlM (rowChecked w s u (rowBytes s.width u)) pixels =
      some (rows.foldl (copyRow s.width u) pixels) := by
  induction rows generalizing pixels with
  | nil => rfl
  | cons row rows ih =>
    rw [List.foldlM_cons, rowChecked_eq hw hs h hlen pixels (hrows row List.mem_cons_self)]
    exact ih _ fun r hr => hrows r (List.mem_cons_of_mem _ hr)

theorem pixelsLen_lt (h : sizeFits w s.width s.height = true) : pixelsLen s < 2 ^ w := by
  simp only [sizeFits, Bool.and_eq_true, decide_eq_true_eq] at h
  have harea := h.2
  have hpos := Nat.two_pow_pos w
  unfold sizeMaxOf at harea
  unfold pixelsLen
  omega

/-- The checks of a 32-bit `size_t` refuse what those of a wider one refuse. -/
theorem rejects_iff (hw : 32 ≤ w) (u : BitmapRect) :
    rejects u = true ↔ (u.width = 0 ∨ u.height = 0 ∨ sizeMaxOf w / 4 < u.width.toNat) ∨
      u.stride.toNat < u.width.toNat * 4 := by
  have hwide := two_pow_le hw
  have hstride := u.stride.toNat_lt
  simp only [rejects, Bool.or_eq_true, decide_eq_true_eq, sizeMax, sizeMaxOf]
  constructor
  · rintro (((hwidth | hheight) | hlarge) | hshort)
    · exact .inl (.inl hwidth)
    · exact .inl (.inr (.inl hheight))
    · have hwider := of_decide_eq_true hlarge
      exact .inr (by omega)
    · exact .inr hshort
  · rintro ((hwidth | hheight | hlarge) | hshort)
    · exact .inl (.inl (.inl hwidth))
    · exact .inl (.inl (.inr hheight))
    · exact .inl (.inr (decide_eq_true (by omega)))
    · exact .inr hshort

/-- A rectangle that has its data in a buffer of 32 bits passes the overflow check. -/
theorem overflow_free (hw : 32 ≤ w)
    (hdata : u.stride.toNat * (u.height.toNat - 1) + u.width.toNat * 4 < 2 ^ 32)
    (hheight : 1 < u.height.toNat) :
    u.stride.toNat ≤ (sizeMaxOf w - u.width.toNat * 4) / (u.height.toNat - 1) := by
  have hwide := two_pow_le hw
  rw [Nat.le_div_iff_mul_le (by omega)]
  unfold sizeMaxOf
  omega

theorem starves_iff (hlen : u.rgba.length < 2 ^ 32) :
    starves u = true ↔
      u.rgba.length < u.stride.toNat * (u.height.toNat - 1) + u.width.toNat * 4 := by
  have hone : 1 < u.height ↔ 1 < u.height.toNat := UInt32.lt_iff_toNat_lt
  have h32 : sizeMax = sizeMaxOf 32 := rfl
  simp only [starves, Bool.or_eq_true, Bool.and_eq_true, decide_eq_true_eq, hone, h32]
  constructor
  · rintro (⟨hheight, hlarge⟩ | hshort)
    · by_contra hlong
      have hfree := overflow_free (Nat.le_refl 32) (by omega) hheight
      omega
    · exact hshort
  · exact .inr

/-- Nothing wraps and nothing is out of bounds: the machine's result is the plain one. -/
theorem applyChecked_eq (hw : 32 ≤ w) (hs : pixelsLen s < 2 ^ w) (hlen : u.rgba.length < 2 ^ 32) :
    applyChecked w s u = some (s.apply u) := by
  have hwide := two_pow_le hw
  have hstride := u.stride.toNat_lt
  unfold applyChecked Surface.apply
  by_cases hzero : u.width = 0 ∨ u.height = 0 ∨ sizeMaxOf w / 4 < u.width.toNat
  · rw [if_pos hzero, if_pos ((rejects_iff hw u).2 (.inl hzero))]
  rw [if_neg hzero]
  simp only [not_or, Nat.not_lt] at hzero
  obtain ⟨hwidth, hheight, hrow⟩ := hzero
  have hrowSize : u.width.toNat * 4 < 2 ^ w := by
    unfold sizeMaxOf at hrow
    omega
  rw [checked_some hrowSize]
  simp only [Option.bind_eq_bind, Option.bind_some]
  by_cases hshort : u.stride.toNat < u.width.toNat * 4
  · rw [if_pos hshort, if_pos ((rejects_iff hw u).2 (.inr hshort))]
  have hrejects : ¬ rejects u = true := by
    rw [rejects_iff hw]
    simp only [not_or, Nat.not_lt]
    exact ⟨⟨hwidth, hheight, hrow⟩, Nat.not_lt.1 hshort⟩
  rw [if_neg hshort, if_neg hrejects]
  by_cases hoff : s.width.toNat ≤ u.left.toNat ∨ s.height.toNat ≤ u.top.toNat
  · have hmiss : (!hits s.width s.height u) = true := by
      simp only [hits, Bool.not_eq_true', Bool.and_eq_false_iff, decide_eq_false_iff_not, Nat.not_lt]
      exact hoff
    rw [if_pos hoff, if_pos hmiss]
  have hhit : ¬ (!hits s.width s.height u) = true := by
    simp only [hits, Bool.not_eq_true', Bool.and_eq_false_iff, decide_eq_false_iff_not, Nat.not_lt]
    exact hoff
  rw [if_neg hoff, if_neg hhit]
  simp only [not_or, Nat.not_le, Nat.not_lt] at hoff hshort
  have hone : 1 < u.height ↔ 1 < u.height.toNat := UInt32.lt_iff_toNat_lt
  have hstarves := starves_iff hlen
  by_cases hover : 1 < u.height ∧
      (sizeMaxOf w - u.width.toNat * 4) / (u.height.toNat - 1) < u.stride.toNat
  · have hstarved : starves u = true := by
      rw [hstarves]
      by_contra hlong
      have hfree := overflow_free hw (by omega) (hone.1 hover.1)
      omega
    rw [if_pos hover, if_pos hstarved]
  rw [if_neg hover]
  have hfits : u.stride.toNat * (u.height.toNat - 1) + u.width.toNat * 4 < 2 ^ w := by
    by_cases hheight : 1 < u.height.toNat
    · have hstrides : u.stride.toNat ≤
          (sizeMaxOf w - u.width.toNat * 4) / (u.height.toNat - 1) :=
        Nat.not_lt.1 fun hlarge => hover ⟨hone.2 hheight, hlarge⟩
      rw [Nat.le_div_iff_mul_le (by omega)] at hstrides
      unfold sizeMaxOf at hstrides
      omega
    · have hrows : u.height.toNat - 1 = 0 := by omega
      rw [hrows, Nat.mul_zero, Nat.zero_add]
      exact hrowSize
  rw [checked_some (show u.stride.toNat * (u.height.toNat - 1) < 2 ^ w by omega)]
  simp only [Option.bind_some]
  rw [checked_some hfits]
  simp only [Option.bind_some]
  by_cases hdata : u.rgba.length < u.stride.toNat * (u.height.toNat - 1) + u.width.toNat * 4
  · rw [if_pos hdata, if_pos (hstarves.2 hdata)]
  rw [if_neg hdata, if_neg fun hstarved => hdata (hstarves.1 hstarved)]
  have hready : Ready s u := by
    refine ⟨?_, ?_, hshort, hoff.1, hoff.2, Nat.not_lt.1 hdata⟩
    · exact Nat.pos_of_ne_zero fun hzero => hwidth (UInt32.toNat_inj.1 hzero)
    · exact Nat.pos_of_ne_zero fun hzero => hheight (UInt32.toNat_inj.1 hzero)
  have hleft := s.width.toNat_lt
  have htop := s.height.toNat_lt
  have hrows : 4 * (u.height.toNat - 1) ≤ u.stride.toNat * (u.height.toNat - 1) := by
    have hpos := hready.width
    exact Nat.mul_le_mul_right _ (by omega)
  rw [checked_some (show u.left.toNat + u.width.toNat < 2 ^ 32 by omega)]
  simp only [Option.bind_some]
  rw [checked_some (show u.top.toNat + u.height.toNat < 2 ^ 32 by omega)]
  simp only [Option.bind_some]
  have hcolumns := (clip_le (n := u.width.toNat) hready.left).2
  have hbytes : checked w (clip u.left.toNat u.width.toNat s.width.toNat * 4) =
      some (rowBytes s.width u) := checked_some (by omega)
  have hall := rowsChecked_eq hw hs hready hlen (rows s.height u) s.pixels
    fun row hrow => List.mem_range.1 hrow
  unfold clip at hbytes
  rw [hbytes]
  simp only [Option.bind_some]
  unfold rows clip at hall
  rw [hall]
  rfl

/-! ## The reference copy -/

/-- Where a colour byte of a pixel lies on the canvas. -/
def pixelAt (s : Surface) (x y c : Nat) : Nat := (y * s.width.toNat + x) * 4 + c

/-- The rectangle covers the pixel. -/
def Covers (u : BitmapRect) (x y : Nat) : Prop :=
  (u.left.toNat ≤ x ∧ x < u.left.toNat + u.width.toNat) ∧
    u.top.toNat ≤ y ∧ y < u.top.toNat + u.height.toNat

/-- Where the same byte lies in the rectangle's data. -/
def sourceAt (u : BitmapRect) (x y c : Nat) : Nat :=
  (y - u.top.toNat) * u.stride.toNat + (x - u.left.toNat) * 4 + c

theorem lt_clip_iff {first n size k : Nat} (h : first < size) :
    k < clip first n size ↔ k < n ∧ first + k < size := by
  unfold clip
  split <;> omega

/-- Columns of another line are never columns of this one. -/
theorem line_eq {width x y left l columns : Nat} (hx : x < width) (hfits : left + columns ≤ width)
    (hlow : l * width + left ≤ y * width + x) (hhigh : y * width + x < l * width + left + columns) :
    l = y := by
  rcases Nat.lt_trichotomy l y with hless | heq | hmore
  · have hnext : (l + 1) * width ≤ y * width := Nat.mul_le_mul_right _ hless
    rw [Nat.succ_mul] at hnext
    omega
  · exact heq
  · have hnext : (y + 1) * width ≤ l * width := Nat.mul_le_mul_right _ hmore
    rw [Nat.succ_mul] at hnext
    omega

/-- The row that writes a byte of a pixel. -/
theorem row_writes_iff (h : Ready s u) {x y c : Nat} (hx : x < s.width.toNat) (hc : c < 4)
    (row : Nat) :
    rowStart s.width u row ≤ pixelAt s x y c ∧
        pixelAt s x y c < rowStart s.width u row + rowBytes s.width u ↔
      (u.left.toNat ≤ x ∧ x < u.left.toNat + u.width.toNat) ∧ u.top.toNat + row = y := by
  obtain ⟨hright, -⟩ := clip_le (n := u.width.toNat) h.left
  have hcolumn := lt_clip_iff (n := u.width.toNat) (k := x - u.left.toNat) h.left
  unfold rowStart rowBytes pixelAt
  constructor
  · rintro ⟨hlow, hhigh⟩
    have hline := line_eq (l := u.top.toNat + row) (y := y) hx hright (by omega) (by omega)
    subst hline
    exact ⟨by omega, rfl⟩
  · rintro ⟨⟨hlow, hhigh⟩, rfl⟩
    have hinside := hcolumn.2 ⟨by omega, by omega⟩
    constructor <;> omega

/-- What a row writes there. -/
theorem copyRow_pixel (h : Ready s u) {x y c row : Nat} (hx : x < s.width.toNat) (hc : c < 4)
    (pixels : Nat → UInt8) :
    copyRow s.width u pixels row (pixelAt s x y c) =
      if (u.left.toNat ≤ x ∧ x < u.left.toNat + u.width.toNat) ∧ u.top.toNat + row = y then
        u.rgba.getD (sourceAt u x y c) 0
      else pixels (pixelAt s x y c) := by
  have hwrites := row_writes_iff h (y := y) hx hc row
  unfold copyRow
  by_cases hhere : (u.left.toNat ≤ x ∧ x < u.left.toNat + u.width.toNat) ∧ u.top.toNat + row = y
  · rw [if_pos hhere, if_pos (hwrites.2 hhere)]
    obtain ⟨⟨hlow, -⟩, rfl⟩ := hhere
    have hrow : u.top.toNat + row - u.top.toNat = row := Nat.add_sub_cancel_left _ _
    have hbyte : pixelAt s x (u.top.toNat + row) c - rowStart s.width u row =
        (x - u.left.toNat) * 4 + c := by
      unfold pixelAt rowStart
      omega
    rw [hbyte, sourceAt, hrow, Nat.add_assoc]
  · rw [if_neg hhere, if_neg fun hin => hhere (hwrites.1 hin)]

/-- The first rows write the pixels of their lines, and no others. -/
theorem rows_pixel (h : Ready s u) {x y c : Nat} (hx : x < s.width.toNat) (hc : c < 4) (count : Nat)
    (pixels : Nat → UInt8) :
    (List.range count).foldl (copyRow s.width u) pixels (pixelAt s x y c) =
      if (u.left.toNat ≤ x ∧ x < u.left.toNat + u.width.toNat) ∧
          u.top.toNat ≤ y ∧ y < u.top.toNat + count then
        u.rgba.getD (sourceAt u x y c) 0
      else pixels (pixelAt s x y c) := by
  induction count with
  | zero =>
    rw [if_neg (by omega)]
    rfl
  | succ count ih =>
    rw [List.range_succ, List.foldl_append, List.foldl_cons, List.foldl_nil, copyRow_pixel h hx hc, ih]
    by_cases hcolumn : u.left.toNat ≤ x ∧ x < u.left.toNat + u.width.toNat
    · by_cases hlast : u.top.toNat + count = y
      · rw [if_pos ⟨hcolumn, hlast⟩, if_pos ⟨hcolumn, by omega⟩]
      · rw [if_neg fun hin => hlast hin.2]
        by_cases hbefore : u.top.toNat ≤ y ∧ y < u.top.toNat + count
        · rw [if_pos ⟨hcolumn, hbefore⟩, if_pos ⟨hcolumn, by omega⟩]
        · rw [if_neg fun hin => hbefore hin.2, if_neg fun hin => hbefore (by omega)]
    · rw [if_neg fun hin => hcolumn hin.1, if_neg fun hin => hcolumn hin.1,
        if_neg fun hin => hcolumn hin.1]

/-- A pixel of the canvas after the update is the source's where the rectangle covers it. -/
def IsReference (s t : Surface) (u : BitmapRect) : Prop :=
  ∀ x y c, x < s.width.toNat → y < s.height.toNat → c < 4 →
    (Covers u x y → u.rgba[sourceAt u x y c]? = some (t.pixels (pixelAt s x y c))) ∧
      (¬ Covers u x y → t.pixels (pixelAt s x y c) = s.pixels (pixelAt s x y c))

/-- A byte that the rectangle covers is in its data. -/
theorem sourceAt_lt (h : Ready s u) {x y c : Nat} (hcovers : Covers u x y) (hc : c < 4) :
    sourceAt u x y c < u.rgba.length := by
  obtain ⟨⟨hleft, hright⟩, htop, hbottom⟩ := hcovers
  have hrows : (y - u.top.toNat) * u.stride.toNat ≤ (u.height.toNat - 1) * u.stride.toNat :=
    Nat.mul_le_mul_right _ (by omega)
  rw [Nat.mul_comm (u.height.toNat - 1)] at hrows
  have hdata := h.data
  unfold sourceAt
  omega

theorem ready_of (hrejects : ¬ rejects u = true) (hhits : hits s.width s.height u = true)
    (hstarves : ¬ starves u = true) (hlen : u.rgba.length < 2 ^ 32) : Ready s u := by
  rw [rejects_iff (Nat.le_refl 32)] at hrejects
  rw [starves_iff hlen] at hstarves
  simp only [not_or, Nat.not_lt] at hrejects hstarves
  simp only [hits, Bool.and_eq_true, decide_eq_true_eq] at hhits
  obtain ⟨⟨hwidth, hheight, -⟩, hstride⟩ := hrejects
  refine ⟨?_, ?_, hstride, hhits.1, hhits.2, hstarves⟩
  · exact Nat.pos_of_ne_zero fun hzero => hwidth (UInt32.toNat_inj.1 hzero)
  · exact Nat.pos_of_ne_zero fun hzero => hheight (UInt32.toNat_inj.1 hzero)

/-- What is painted is the reference copy. -/
theorem painted_reference (h : Ready s u) :
    IsReference s { s with
      pixels := (rows s.height u).foldl (copyRow s.width u) s.pixels
      hasFrame := true } u := by
  intro x y c hx hy hc
  have hpixel := rows_pixel (y := y) h hx hc (clip u.top.toNat u.height.toNat s.height.toNat) s.pixels
  have hlast := lt_clip_iff (n := u.height.toNat) (k := y - u.top.toNat) h.top
  have hcovers : Covers u x y ↔ (u.left.toNat ≤ x ∧ x < u.left.toNat + u.width.toNat) ∧
      u.top.toNat ≤ y ∧ y < u.top.toNat + clip u.top.toNat u.height.toNat s.height.toNat := by
    unfold Covers
    omega
  constructor
  · intro hin
    show _ = some ((rows s.height u).foldl (copyRow s.width u) s.pixels (pixelAt s x y c))
    have hget := sourceAt_lt h hin hc
    rw [rows, hpixel, if_pos (hcovers.1 hin), List.getElem?_eq_getElem hget,
      List.getD_eq_getElem?_getD, List.getElem?_eq_getElem hget]
    rfl
  · intro hout
    show (rows s.height u).foldl (copyRow s.width u) s.pixels (pixelAt s x y c) = _
    rw [rows, hpixel, if_neg fun hin => hout (hcovers.2 hin)]

/-- For every canvas, rectangle, stride and buffer of 32-bit length nothing wraps and
nothing is out of bounds; an accepted update is the reference copy clipped to the
canvas, and one that is rejected or off the canvas changes no pixel. -/
theorem apply_reference (hw : 32 ≤ w) (hs : sizeFits w s.width s.height = true)
    (hlen : u.rgba.length < 2 ^ 32) :
    ∃ t result, applyChecked w s u = some (t, result) ∧
      (t.width = s.width ∧ t.height = s.height) ∧ (result = .ok → IsReference s t u) ∧
        (result ≠ .ok → t.pixels = s.pixels) ∧
          (s.width.toNat ≤ u.left.toNat ∨ s.height.toNat ≤ u.top.toNat → t.pixels = s.pixels) := by
  refine ⟨(s.apply u).1, (s.apply u).2, applyChecked_eq hw (pixelsLen_lt hs) hlen, apply_size s u,
    ?_, ?_, ?_⟩
  · unfold Surface.apply
    split_ifs with hrejects hmisses hstarves
    · exact nofun
    · intro _ x y c hx hy _
      refine ⟨fun hcovers => ?_, fun _ => rfl⟩
      obtain ⟨⟨hleft, -⟩, htop, -⟩ := hcovers
      simp only [hits, Bool.not_eq_true', Bool.and_eq_false_iff, decide_eq_false_iff_not,
        Nat.not_lt] at hmisses
      omega
    · exact nofun
    · intro _
      exact painted_reference (ready_of hrejects (by simpa using hmisses) hstarves hlen)
  · unfold Surface.apply
    split_ifs
    · exact fun _ => rfl
    · exact fun _ => rfl
    · exact fun _ => rfl
    · exact fun hok => absurd rfl hok
  · intro hoff
    have hmisses : (!hits s.width s.height u) = true := by
      simp only [hits, Bool.not_eq_true', Bool.and_eq_false_iff, decide_eq_false_iff_not, Nat.not_lt]
      exact hoff
    unfold Surface.apply
    rw [if_pos hmisses]
    split_ifs <;> rfl

/-- A 3 by 2 canvas with a rectangle that sticks out to the right. -/
theorem apply_reference_clipped :
    sizeFits 32 3 2 = true ∧
      ∃ t result, applyChecked 32 (zeroed 3 2)
          { left := 2, top := 1, width := 2, height := 1, stride := 8,
            rgba := [1, 2, 3, 4, 5, 6, 7, 8] } = some (t, result) ∧
        (t.width = 3 ∧ t.height = 2) ∧ (result = .ok → IsReference (zeroed 3 2) t
          { left := 2, top := 1, width := 2, height := 1, stride := 8,
            rgba := [1, 2, 3, 4, 5, 6, 7, 8] }) := by
  refine ⟨by decide, ?_⟩
  obtain ⟨t, result, happly, hsize, hreference, -⟩ :=
    apply_reference (w := 32) (s := zeroed 3 2) (u := {
      left := 2, top := 1, width := 2, height := 1, stride := 8, rgba := [1, 2, 3, 4, 5, 6, 7, 8] })
      (by decide) (by decide) (by decide)
  exact ⟨t, result, happly, hsize, hreference⟩

end Lgnome.Native
